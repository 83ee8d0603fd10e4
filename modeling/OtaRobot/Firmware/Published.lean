import OtaRobot.Firmware.Release

/-!
# What a published version points at

The uniqueness check, the upload, the insert and the compensating delete of a release are four
steps, and two releases of one version under one file name share a storage key.  The row of a
version points at its own bytes as long as no upload goes to a key that is in use: the key of a
recorded row, or of another release that has uploaded and not finished.

Main results:

- Theorem {lit}`uploads_step`: what a step keeps.
- Theorem {lit}`release_published`: every recorded version points at its own bytes in every
  state, if every upload goes to a fresh key.
- Theorem {lit}`release_not_published`: two overlapping releases of one version leave a version
  without its object.
-/

namespace OtaRobot.Firmware

open Agent (Bytes)
open Prog Transition Releases

/-! ## The property and the condition -/

/-- The object stored under the key has the checksum. -/
def Matches (svc : ReleaseService) (s : ReleaseStore) (key sha256Checksum : String) : Prop :=
  ∃ data, s.objects key = some data ∧ checksum svc data = sha256Checksum

/-- Every recorded version points at its own bytes. -/
def Published (svc : ReleaseService) (s : ReleaseStore) : Prop :=
  ∀ row ∈ s.versions.rows, Matches svc s row.storageKey row.sha256Checksum

/-- The step leaves the objects of the recorded versions alone. -/
def KeepsRecorded (svc : ReleaseService) (c : Config) (l : Label) : Prop :=
  ∀ c', step svc c l = some c' → ∀ row ∈ c.store.versions.rows,
    c'.store.objects row.storageKey = c.store.objects row.storageKey

/-- The storage key a release is about to record, or to remove. -/
def ReleaseOp.heldKey : ReleaseOp → Option String
  | .createFirmwareVersion p => some p.storageKey
  | .removeObject key => some key
  | _ => none

/-- The key a release has uploaded to and is not done with. -/
def heldKey : Releasing Unit → Option String
  | .call op _ => op.heldKey
  | .done _ => none

/-- An upload that takes effect goes to a key that no recorded row has and that no other release
has uploaded to and not finished. -/
def FreshUpload (c : Config) (l : Label) : Prop :=
  ∀ i x tag key data k, l = .step i x → x.fault = false →
    c.thread i = some (tag, .call (.putObject key data) k) →
      (∀ row ∈ c.store.versions.rows, row.storageKey ≠ key) ∧
        ∀ j tag' p, j ≠ i → c.thread j = some (tag', p) → heldKey p ≠ some key

/-! ## The invariant -/

/-- A key that is held belongs to one release and to no row, and what is about to be recorded is
stored. -/
structure Uploads (svc : ReleaseService) (c : Config) : Prop where
  disciplined : Machine.Disciplined (fun _ => uploadDiscipline svc) (fun _ _ => True)
    (fun _ => .idle) c
  published : Published svc c.store
  unrecorded : ∀ j tag p key, c.thread j = some (tag, p) → heldKey p = some key →
    ∀ row ∈ c.store.versions.rows, row.storageKey ≠ key
  exclusive : ∀ i j tag tag' p p' key, i ≠ j → c.thread i = some (tag, p) →
    c.thread j = some (tag', p') → heldKey p = some key → heldKey p' ≠ some key
  stored : ∀ j tag p k, c.thread j = some (tag, .call (.createFirmwareVersion p) k) →
    Matches svc c.store p.storageKey p.sha256Checksum

/-- Nothing is uploaded at the start. -/
theorem uploads_start (svc : ReleaseService) : Uploads svc start where
  disciplined := Machine.disciplined_initial _ _ _ _
  published := by
    intro row hrow
    simp [start, Machine.initial, ReleaseStore.empty, Table.empty] at hrow
  unrecorded := by
    intro j tag p key hj
    simp [start, Machine.initial, Machine.Config.thread] at hj
  exclusive := by
    intro i j tag tag' p p' key _ hi
    simp [start, Machine.initial, Machine.Config.thread] at hi
  stored := by
    intro j tag p k hj
    simp [start, Machine.initial, Machine.Config.thread] at hj

section

variable {svc : ReleaseService}

/-- A key is recorded right after it was uploaded to. -/
theorem recorded_after {op : ReleaseOp} {r : op.Ret} {g : Upload} {q : CreateFirmwareVersionParams}
    (h : Upload.Allows svc (Upload.next g op r) (.createFirmwareVersion q)) :
    ∃ data, op = .putObject q.storageKey data ∧
      Upload.next g op r = .stored q.storageKey data ∧ q.sha256Checksum = checksum svc data := by
  cases op with
  | putObject key data =>
      change Bool at r
      cases r with
      | true =>
          obtain ⟨hkey, hsum⟩ := h
          exact ⟨data, by rw [hkey], by rw [hkey]; rfl, hsum⟩
      | false => exact absurd h id
  | createFirmwareVersion p =>
      change Option FirmwareRow at r
      cases r <;> exact absurd h id
  | _ => exact absurd h id

/-- A key is removed right after it could not be recorded. -/
theorem removed_after {op : ReleaseOp} {r : op.Ret} {g : Upload} {key : String}
    (h : Upload.Allows svc (Upload.next g op r) (.removeObject key)) :
    ∃ q, op = .createFirmwareVersion q ∧ q.storageKey = key ∧
      Upload.next g op r = .orphaned key := by
  cases op with
  | putObject key' data =>
      change Bool at r
      cases r <;> exact absurd h id
  | createFirmwareVersion p =>
      change Option FirmwareRow at r
      cases r with
      | some row => exact absurd h id
      | none =>
          have hkey : key = p.storageKey := h
          exact ⟨p, rfl, hkey.symm, by rw [hkey]; rfl⟩
  | _ => exact absurd h id

/-- A release holds a key after it has uploaded to it, or after it could not record it. -/
theorem held_after {op : ReleaseOp} {r : op.Ret} {g : Upload} {p : Releasing Unit} {key : String}
    (h : Obeys (uploadDiscipline svc) (fun _ _ => True) (Upload.next g op r) p)
    (hheld : heldKey p = some key) :
    (∃ data, op = .putObject key data ∧ Upload.next g op r = .stored key data) ∨
      ∃ q, op = .createFirmwareVersion q ∧ q.storageKey = key ∧
        Upload.next g op r = .orphaned key := by
  cases p with
  | done a => cases hheld
  | call op' k =>
      cases op' with
      | createFirmwareVersion q =>
          have hkey : q.storageKey = key := Option.some.inj hheld
          obtain ⟨data, hop, hnext, -⟩ := recorded_after h.1
          exact Or.inl ⟨data, hkey ▸ hop, hkey ▸ hnext⟩
      | removeObject key' =>
          have hkey : key' = key := Option.some.inj hheld
          exact Or.inr (hkey ▸ removed_after h.1)
      | _ => cases hheld

/-- What an operation does to the store, and how far it brings the upload. -/
inductive Effect (s s' : ReleaseStore) : ReleaseOp → Bool → Upload → Prop where
  | uploaded (key : String) (data : Bytes) (hs : s' = s.setObject key (some data)) :
      Effect s s' (.putObject key data) false (.stored key data)
  | removed (key : String) (hs : s' = s.setObject key none) (fault : Bool) :
      Effect s s' (.removeObject key) fault .idle
  | recorded (p : CreateFirmwareVersionParams) (uuid : FirmwareID)
      (hobjects : s'.objects = s.objects)
      (hrows : s'.versions.rows = s.versions.rows ++ [p.row uuid]) (fault : Bool) :
      Effect s s' (.createFirmwareVersion p) fault .idle
  | unrecorded (p : CreateFirmwareVersionParams) (hs : s' = s) (fault : Bool) :
      Effect s s' (.createFirmwareVersion p) fault (.orphaned p.storageKey)
  | other (op : ReleaseOp) (hs : s' = s) (fault : Bool) : Effect s s' op fault .idle

/-- A row is inserted at the end. -/
theorem insert_rows {t t' : Table FirmwareRow.key} {row : FirmwareRow}
    (h : t.insert row = some t') : t'.rows = t.rows ++ [row] := by
  unfold Table.insert at h
  split at h
  · cases h
  · exact (congrArg Table.rows (Option.some.inj h)).symm

/-- The statement inserts the row or refuses a version that is there. -/
theorem createFirmwareVersion_cases (s : ReleaseStore) (uuid : FirmwareID)
    (p : CreateFirmwareVersionParams) :
    s.createFirmwareVersion uuid p = (none, s) ∨
      ∃ versions, s.versions.insert (p.row uuid) = some versions ∧
        s.createFirmwareVersion uuid p = (some (p.row uuid), { s with versions }) := by
  unfold ReleaseStore.createFirmwareVersion
  split
  · exact Or.inl rfl
  · cases hinsert : s.versions.insert (p.row uuid) with
    | none => exact Or.inl rfl
    | some versions => exact Or.inr ⟨versions, rfl, rfl⟩

/-- What an operation does to the table and the objects. -/
theorem exec_effect (s : ReleaseStore) (op : ReleaseOp) (x : ReleaseChoice) (g : Upload) :
    Effect s (s.exec op x).2 op x.fault (Upload.next g op (s.exec op x).1) := by
  cases op with
  | putObject key data =>
      rw [ReleaseStore.exec]
      cases x.fault with
      | true => exact .other _ rfl _
      | false => exact .uploaded key data rfl
  | removeObject key =>
      rw [ReleaseStore.exec]
      cases x.fault with
      | true => exact .other _ rfl _
      | false => exact .removed key rfl _
  | createFirmwareVersion p =>
      rw [ReleaseStore.exec]
      cases x.fault with
      | true => exact .unrecorded p rfl _
      | false =>
          show Effect s (s.createFirmwareVersion x.uuid p).2 (.createFirmwareVersion p) false
            (Upload.next g (.createFirmwareVersion p) (s.createFirmwareVersion x.uuid p).1)
          rcases createFirmwareVersion_cases s x.uuid p with hnone | ⟨versions, hinsert, hsome⟩
          · rw [hnone]
            exact .unrecorded p rfl _
          · have hrows : ({ s with versions } : ReleaseStore).versions.rows =
                s.versions.rows ++ [p.row x.uuid] := insert_rows hinsert
            rw [hsome]
            have hobjects : ({ s with versions } : ReleaseStore).objects = s.objects := rfl
            exact .recorded p x.uuid hobjects hrows _
  | _ => exact .other _ rfl _

/-- A row after an operation was there or was inserted. -/
theorem Effect.row {s s' : ReleaseStore} {op : ReleaseOp} {fault : Bool} {g : Upload}
    (h : Effect s s' op fault g) {row : FirmwareRow} (hrow : row ∈ s'.versions.rows) :
    row ∈ s.versions.rows ∨
      ∃ q uuid, op = .createFirmwareVersion q ∧ row = q.row uuid ∧ g = .idle := by
  cases h with
  | recorded p uuid hobjects hrows =>
      rw [hrows, List.mem_append, List.mem_singleton] at hrow
      rcases hrow with hold | hnew
      · exact Or.inl hold
      · exact Or.inr ⟨p, uuid, rfl, hnew, rfl⟩
  | uploaded key data hs =>
      rw [hs] at hrow
      exact Or.inl hrow
  | removed key hs =>
      rw [hs] at hrow
      exact Or.inl hrow
  | unrecorded p hs => exact Or.inl (hs ▸ hrow)
  | other op hs => exact Or.inl (hs ▸ hrow)

/-- An object after an operation was there or was stored. -/
theorem Effect.object {s s' : ReleaseStore} {op : ReleaseOp} {fault : Bool} {g : Upload}
    (h : Effect s s' op fault g) (key : String) :
    s'.objects key = s.objects key ∨ (∃ data, op = .putObject key data ∧ fault = false) ∨
      op = .removeObject key := by
  have hset : ∀ key' object, s' = s.setObject key' object → key ≠ key' →
      s'.objects key = s.objects key := by
    intro key' object hs hne
    rw [hs]
    exact if_neg hne
  cases h with
  | uploaded key' data hs =>
      by_cases hkey : key = key'
      · exact Or.inr (Or.inl ⟨data, hkey ▸ rfl, rfl⟩)
      · exact Or.inl (hset key' _ hs hkey)
  | removed key' hs =>
      by_cases hkey : key = key'
      · exact Or.inr (Or.inr (hkey ▸ rfl))
      · exact Or.inl (hset key' _ hs hkey)
  | recorded p uuid hobjects hrows => exact Or.inl (congrFun hobjects key)
  | unrecorded p hs => exact Or.inl (hs ▸ rfl)
  | other op hs => exact Or.inl (hs ▸ rfl)

/-- A stored object stays until its own release removes it. -/
theorem Effect.stored {s s' : ReleaseStore} {op : ReleaseOp} {fault : Bool} {key : String}
    {data : Bytes} (h : Effect s s' op fault (.stored key data)) :
    s'.objects key = some data ∧ fault = false := by
  cases h with
  | uploaded key data hs =>
      rw [hs]
      exact ⟨if_pos rfl, rfl⟩

/-! ## Steps -/

variable {c c' : Config} {l : Label}

/-- An operation changes no object that is recorded or held by another release. -/
theorem Uploads.object_executed (hc : Uploads svc c) (hl : FreshUpload c l) {i : Nat}
    {x : ReleaseChoice} {tag : ReleaseParams} {op : ReleaseOp} {k : op.Ret → Releasing Unit}
    {g : Upload} (hlabel : l = .step i x) (hi : c.thread i = some (tag, .call op k))
    (heffect : Effect c.store c'.store op x.fault g) {key : String}
    (hkey : (∃ row ∈ c.store.versions.rows, row.storageKey = key) ∨
      ∃ j tag' p, j ≠ i ∧ c.thread j = some (tag', p) ∧ heldKey p = some key) :
    c'.store.objects key = c.store.objects key := by
  rcases heffect.object key with hsame | ⟨data, rfl, hfault⟩ | rfl
  · exact hsame
  · obtain ⟨hrows, hothers⟩ := hl i x tag key data k hlabel hfault hi
    rcases hkey with ⟨row, hrow, hkey⟩ | ⟨j, tag', p, hne, hj, hheld⟩
    · exact absurd hkey (hrows row hrow)
    · exact absurd hheld (hothers j tag' p hne hj)
  · rcases hkey with ⟨row, hrow, hkey⟩ | ⟨j, tag', p, hne, hj, hheld⟩
    · exact absurd hkey (hc.unrecorded i tag _ key hi rfl row hrow)
    · exact absurd rfl (hc.exclusive j i tag' tag p _ key hne hj hi hheld)

/-- A release that starts holds no key. -/
theorem held_idle {p : Releasing Unit}
    (h : Obeys (uploadDiscipline svc) (fun _ _ => True) .idle p) : heldKey p = none := by
  cases p with
  | done a => rfl
  | call op k =>
      cases op with
      | createFirmwareVersion q => exact absurd h.1 id
      | removeObject key => exact absurd h.1 id
      | _ => rfl

/-- A release starts with a fresh upload. -/
theorem uploads_spawned (hc : Uploads svc c) {i : Nat} {params : ReleaseParams}
    (hdisciplined : Machine.Disciplined (fun _ => uploadDiscipline svc) (fun _ _ => True)
      (fun _ => .idle) c')
    (hs : (releaseMachine svc).Spawned c c' i params) : Uploads svc c' := by
  have hstore : c.store = c'.store := Option.some.inj hs.accepted
  have hbody : heldKey (release svc params) = none := held_idle (@release_obeys svc params)
  -- A thread that holds a key is an old one.
  have hold : ∀ j tag p key, c'.thread j = some (tag, p) → heldKey p = some key →
      c.thread j = some (tag, p) := by
    intro j tag p key hj hheld
    rw [hs.threads] at hj
    split at hj
    · obtain ⟨-, hp⟩ := Prod.mk.inj (Option.some.inj hj)
      rw [← hp, releaseMachine_body, hbody] at hheld
      cases hheld
    · exact hj
  refine ⟨hdisciplined, ?_, ?_, ?_, ?_⟩
  · rw [← hstore]
    exact hc.published
  · intro j tag p key hj hheld
    rw [← hstore]
    exact hc.unrecorded j tag p key (hold j tag p key hj hheld) hheld
  · intro a b tag tag' p p' key hne ha hb hheld hheld'
    exact hc.exclusive a b tag tag' p p' key hne (hold a tag p key ha hheld)
      (hold b tag' p' key hb hheld') hheld hheld'
  · intro j tag p k hj
    rw [← hstore]
    exact hc.stored j tag p k (hold j tag _ _ hj rfl)

/-- The key an operation leaves held, seen from the thread that executes it. -/
theorem Uploads.held_executed (hc : Uploads svc c) (hl : FreshUpload c l) {i : Nat}
    {x : ReleaseChoice} {tag : ReleaseParams} {op : ReleaseOp} {k : op.Ret → Releasing Unit}
    {r : op.Ret} {g : Upload} (hlabel : l = .step i x)
    (hi : c.thread i = some (tag, .call op k))
    (heffect : Effect c.store c'.store op x.fault (Upload.next g op r))
    (hobeys : Obeys (uploadDiscipline svc) (fun _ _ => True) (Upload.next g op r) (k r))
    {key : String} (hheld : heldKey (k r) = some key) :
    (∀ row ∈ c'.store.versions.rows, row.storageKey ≠ key) ∧
      ∀ j tag' p, j ≠ i → c.thread j = some (tag', p) → heldKey p ≠ some key := by
  rcases held_after hobeys hheld with ⟨data, rfl, hnext⟩ | ⟨q, rfl, hkey, hnext⟩
  · rw [hnext] at heffect
    obtain ⟨hrows, hothers⟩ := hl i x tag key data k hlabel heffect.stored.2 hi
    refine ⟨fun row hrow => ?_, hothers⟩
    rcases heffect.row hrow with hold | ⟨q, uuid, hop, -, -⟩
    · exact hrows row hold
    · cases hop
  · have hheld' : heldKey (.call (.createFirmwareVersion q) k) = some key := congrArg some hkey
    constructor
    · intro row hrow
      rw [hnext] at heffect
      rcases heffect.row hrow with hold | ⟨q', uuid, -, -, hidle⟩
      · exact hc.unrecorded i tag _ key hi hheld' row hold
      · cases hidle
    · intro j tag' p hne hj
      exact hc.exclusive i j tag tag' _ p key (Ne.symm hne) hi hj hheld'

/-- An operation keeps every row with its object. -/
theorem uploads_executed (hc : Uploads svc c) (hl : FreshUpload c l) {i : Nat}
    {x : ReleaseChoice} {tag : ReleaseParams} {op : ReleaseOp} {k : op.Ret → Releasing Unit}
    {r : op.Ret} (hlabel : l = .step i x)
    (hdisciplined : Machine.Disciplined (fun _ => uploadDiscipline svc) (fun _ _ => True)
      (fun _ => .idle) c')
    (hs : (releaseMachine svc).Executed c c' i x tag op k r) : Uploads svc c' := by
  let g := Machine.ghost (uploadDiscipline svc) .idle i c.trace
  have hexec : c.store.exec op x = (r, c'.store) := hs.effect
  have heffect : Effect c.store c'.store op x.fault (Upload.next g op r) := by
    have h := exec_effect c.store op x g
    rw [hexec] at h
    exact h
  have hi : c'.thread i = some (tag, k r) := by rw [hs.threads, if_pos rfl]
  have hobeys : Obeys (uploadDiscipline svc) (fun _ _ => True) (Upload.next g op r) (k r) := by
    have h := hdisciplined.obeys i tag (k r) hi
    rw [hs.trace, Machine.ghost_append_self] at h
    exact h
  have hother : ∀ j, j ≠ i → c'.thread j = c.thread j := by
    intro j hne
    rw [hs.threads, if_neg hne]
  have hheld : ∀ tag' p, c'.thread i = some (tag', p) → p = k r := by
    intro tag' p hp
    rw [hi] at hp
    exact (congrArg Prod.snd (Option.some.inj hp)).symm
  refine ⟨hdisciplined, ?_, ?_, ?_, ?_⟩
  · intro row hrow
    rcases heffect.row hrow with hold | ⟨q, uuid, rfl, rfl, -⟩
    · obtain ⟨data, hdata, hsum⟩ := hc.published row hold
      refine ⟨data, ?_, hsum⟩
      rw [hc.object_executed hl hlabel hs.before heffect (Or.inl ⟨row, hold, rfl⟩)]
      exact hdata
    · obtain ⟨data, hdata, hsum⟩ := hc.stored i tag q k hs.before
      refine ⟨data, ?_, hsum⟩
      rcases heffect.object q.storageKey with hsame | ⟨data', hop, -⟩ | hop
      · exact hsame.trans hdata
      · cases hop
      · cases hop
  · intro j tag' p key hj hkey row hrow
    by_cases hji : j = i
    · subst hji
      rw [hheld tag' p hj] at hkey
      exact (hc.held_executed hl hlabel hs.before heffect hobeys hkey).1 row hrow
    · rw [hother j hji] at hj
      rcases heffect.row hrow with hold | ⟨q, uuid, rfl, rfl, -⟩
      · exact hc.unrecorded j tag' p key hj hkey row hold
      · intro heq
        have hq : heldKey (.call (.createFirmwareVersion q) k) = some key := congrArg some heq
        exact hc.exclusive j i tag' tag p _ key hji hj hs.before hkey hq
  · intro a b ta tb pa pb key hne ha hb hka hkb
    by_cases hai : a = i
    · subst hai
      rw [hheld ta pa ha] at hka
      rw [hother b (Ne.symm hne)] at hb
      exact (hc.held_executed hl hlabel hs.before heffect hobeys hka).2 b tb pb (Ne.symm hne) hb hkb
    · by_cases hbi : b = i
      · subst hbi
        rw [hheld tb pb hb] at hkb
        rw [hother a hne] at ha
        exact (hc.held_executed hl hlabel hs.before heffect hobeys hkb).2 a ta pa hne ha hka
      · rw [hother a hai] at ha
        rw [hother b hbi] at hb
        exact hc.exclusive a b ta tb pa pb key hne ha hb hka hkb
  · intro j tag' q k' hj
    by_cases hji : j = i
    · subst hji
      have hp := hheld tag' _ hj
      rw [← hp] at hobeys
      obtain ⟨data, -, hnext, hsum⟩ := recorded_after hobeys.1
      rw [hnext] at heffect
      exact ⟨data, heffect.stored.1, hsum.symm⟩
    · rw [hother j hji] at hj
      obtain ⟨data, hdata, hsum⟩ := hc.stored j tag' q k' hj
      refine ⟨data, ?_, hsum⟩
      rw [hc.object_executed hl hlabel hs.before heffect (Or.inr ⟨j, tag', _, hji, hj, rfl⟩)]
      exact hdata

/-- What a step keeps. -/
theorem uploads_step (hc : Uploads svc c) (hl : FreshUpload c l)
    (h : step svc c l = some c') : Uploads svc c' := by
  have hbody : ∀ params, Obeys (uploadDiscipline svc) (fun _ _ => True) .idle
      ((releaseMachine svc).body params) := by
    rw [releaseMachine_body]
    exact @release_obeys svc
  have hdisciplined := Machine.step_disciplined h hc.disciplined hbody
    fun _ _ _ _ _ _ _ => trivial
  obtain ⟨i, params, -, hs⟩ | ⟨i, x, tag, op, k, r, hlabel, hs⟩ := Machine.step_cases h
  · exact uploads_spawned hc hdisciplined hs
  · exact uploads_executed hc hl hlabel hdisciplined hs

/-- A step on a fresh key leaves the objects of the recorded versions alone. -/
theorem Uploads.keepsRecorded (hc : Uploads svc c) (hl : FreshUpload c l) :
    KeepsRecorded svc c l := by
  intro c' h row hrow
  obtain ⟨i, params, -, hs⟩ | ⟨i, x, tag, op, k, r, hlabel, hs⟩ := Machine.step_cases h
  · have hstore : c.store = c'.store := Option.some.inj hs.accepted
    rw [hstore]
  · have hexec : c.store.exec op x = (r, c'.store) := hs.effect
    have heffect := exec_effect c.store op x .idle
    rw [hexec] at heffect
    exact hc.object_executed hl hlabel hs.before heffect (Or.inl ⟨row, hrow, rfl⟩)

end

/-! ## Runs -/

/-- If every upload goes to a fresh key, every recorded version points at its own bytes in every
state, and no step overwrites or removes the object of a recorded version. -/
theorem release_published (svc : ReleaseService) (ls : List Label)
    (hfresh : EachStep (step svc) FreshUpload start ls) :
    EveryState (step svc) (fun c => Published svc c.store) start ls ∧
      EachStep (step svc) (KeepsRecorded svc) start ls := by
  have hstep : ∀ c l c', Uploads svc c → FreshUpload c l → step svc c l = some c' →
      Uploads svc c' := fun _ _ _ hc hl h => uploads_step hc hl h
  constructor
  · exact EveryState.of_eachStep hstep (fun _ hc => hc.published) (uploads_start svc) hfresh
  · exact EachStep.of_invariant hstep (fun _ _ hc hl => hc.keepsRecorded hl) (uploads_start svc)
      hfresh

/-! ## Concrete runs -/

/-- The executable form of {lit}`FreshUpload`. -/
def freshUpload (c : Config) : Label → Bool
  | .spawn _ _ => true
  | .step i x =>
      x.fault ||
        match c.thread i with
        | some (_, .call (.putObject key _) _) =>
            (c.store.versions.rows.all fun row => row.storageKey ≠ key) &&
              c.threads.rows.all fun t => t.id = i || heldKey t.prog ≠ some key
        | _ => true

theorem freshUpload_spec {c : Config} {l : Label} (h : freshUpload c l = true) :
    FreshUpload c l := by
  intro i x tag key data k hlabel hfault hi
  subst hlabel
  simp only [freshUpload, hfault, hi, Bool.false_or, Bool.and_eq_true, List.all_eq_true,
    decide_eq_true_eq] at h
  refine ⟨h.1, fun j tag' p hne hj => ?_⟩
  obtain ⟨t, ht, heq⟩ := Option.map_eq_some_iff.mp hj
  have hid : t.id = j := Table.find?_key ht
  have hprog : t.prog = p := congrArg Prod.snd heq
  have hother := h.2 t (Table.mem_of_find? ht)
  rw [hid, hprog] at hother
  simpa [hne] using hother

/-- The digests of the images below, and a short signature with its encoding. -/
def imageService : ReleaseService where
  crypto :=
    { sum256 := fun data =>
        if data = [1, 2, 3, 4] then
          [159, 100, 167, 71, 225, 185, 127, 19, 31, 171, 182, 180, 71, 41, 108, 155, 111, 2, 1,
            231, 159, 179, 197, 53, 110, 108, 119, 232, 155, 106, 128, 106]
        else
          [85, 229, 80, 159, 128, 82, 153, 130, 148, 38, 110, 229, 181, 12, 181, 146, 147, 129,
            145, 251, 93, 103, 247, 60, 172, 46, 96, 176, 39, 107, 27, 221]
      decodeBase64 := fun text => if text = "MAA=" then some [48, 0] else none
      verifyASN1 := fun _ _ _ => true }
  encodeBase64 := fun _ => "MAA="

/-- An upload of the first image. -/
def uploadOf (version : String) (data : Bytes) : ReleaseParams where
  version := version
  filename := "robot.bin"
  data := data

/-- Thread {lit}`i` executes its next operation. -/
def advance (i : Nat) : Label :=
  .step i { uuid := i, signature := [48, 0] }

/-- Two releases whose operations alternate. -/
def alternating (first second : ReleaseParams) : List Label :=
  [.spawn 0 first, .spawn 1 second, advance 0, advance 1, advance 0, advance 1, advance 0,
    advance 1, advance 0, advance 1]

/-- Two versions may be released at the same time. -/
theorem release_published_two_versions :
    (run (step imageService) start
        (alternating (uploadOf "1.0.0" [1, 2, 3, 4]) (uploadOf "2.0.0" [5, 6, 7, 8]))).isSome =
          true ∧
      EveryState (step imageService) (fun c => Published imageService c.store) start
        (alternating (uploadOf "1.0.0" [1, 2, 3, 4]) (uploadOf "2.0.0" [5, 6, 7, 8])) ∧
        EachStep (step imageService) (KeepsRecorded imageService) start
          (alternating (uploadOf "1.0.0" [1, 2, 3, 4]) (uploadOf "2.0.0" [5, 6, 7, 8])) :=
  ⟨by decide +kernel, release_published imageService _
    (EachStep.of_eachStep (fun _ _ => freshUpload_spec) (by decide +kernel))⟩

/-- Two uploads of one version and file name: both pass the uniqueness check, the second one
cannot be recorded, and its compensating delete removes the object of the first. -/
theorem release_not_published :
    ¬ ∀ (svc : ReleaseService) (ls : List Label),
      EveryState (step svc) (fun c => Published svc c.store) start ls := by
  intro h
  have hend : endsWith (step imageService) start
      (alternating (uploadOf "1.0.0" [1, 2, 3, 4]) (uploadOf "1.0.0" [5, 6, 7, 8]) ++ [advance 1])
      (fun c => c.store.versions.rows.any fun row => (c.store.objects row.storageKey).isNone) =
        true := by
    decide +kernel
  obtain ⟨c, hrun, hlast⟩ := endsWith_eq_true hend
  obtain ⟨row, hrow, hmissing⟩ := List.any_eq_true.mp hlast
  obtain ⟨data, hdata, -⟩ := (h imageService _).last hrun row hrow
  rw [hdata] at hmissing
  cases hmissing

end OtaRobot.Firmware
