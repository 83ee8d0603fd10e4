import OtaRobot.Auth.Chain

/-!
# How a chain of tokens moves on

Each operation of a request keeps the chain of refresh tokens in order, as long as no refresh goes
on without the token it was presented.

Main results:

- Theorem {lit}`Session.moved`: the chain moves without a new token.
- Theorem {lit}`Session.record`: the holder records its token.
- Theorem {lit}`Session.issue`: the holder answers with its token.
- Theorem {lit}`chain_step`: the chain moves on with each step.
-/

namespace OtaRobot.Auth

open Agent (Bytes)
open Prog Transition

section

variable {svc : AuthService} {chain : Chain} {c c' : Config} {i : Nat} {x : AuthChoice}
  {request : Request} {op : AuthOp} {k : op.Ret → Handling Unit} {r : op.Ret} {l : Label}

/-! ## Steps -/

/-- A request has deleted its token once it has executed the deletion. -/
theorem deleted_executed (hs : (authMachine svc).Executed c c' i x request op k r) (j : Nat) :
    Deleted j c' ↔ Deleted j c ∨ (j = i ∧ op.isDelete = true) := by
  constructor
  · intro h
    obtain ⟨e, he, hthread, hash, hop⟩ := h
    rw [hs.trace, List.mem_append, List.mem_singleton] at he
    rcases he with he | rfl
    · exact Or.inl ⟨e, he, hthread, hash, hop⟩
    · have hdelete : op = .deleteRefreshToken hash := hop
      exact Or.inr ⟨hthread.symm, by rw [hdelete]; rfl⟩
  · intro h
    rcases h with ⟨e, he, hthread, hop⟩ | ⟨hji, hdelete⟩
    · exact ⟨e, by rw [hs.trace]; exact List.mem_append_left _ he, hthread, hop⟩
    · subst hji
      have hmem : (⟨j, op, r⟩ : Record) ∈ c'.trace := by
        rw [hs.trace]
        exact List.mem_append_right _ (List.mem_singleton_self _)
      cases op with
      | deleteRefreshToken hash => exact ⟨_, hmem, rfl, hash, rfl⟩
      | _ => cases hdelete

/-- Whether the request that executes holds its token before. -/
theorem holds_self (hs : (authMachine svc).Executed c c' i x request op k r) :
    Holds svc i c ↔ (rotationOf svc i c).holds (request.role svc) = true := by
  simp [Holds, requestOf_self hs]

/-- Whether it holds its token afterwards. -/
theorem holds_executed_self (hs : (authMachine svc).Executed c c' i x request op k r) :
    Holds svc i c' ↔ (rotationOf svc i c').holds (request.role svc) = true := by
  simp [Holds, requestOf_executed hs, requestOf_self hs]

/-- The others hold what they held. -/
theorem holds_executed_ne (hs : (authMachine svc).Executed c c' i x request op k r) {j : Nat}
    (hne : i ≠ j) : Holds svc j c' ↔ Holds svc j c := by
  rw [Holds, Holds, requestOf_executed hs, rotationOf_ne hs hne]

/-- The holder of the chain is the only one. -/
theorem Session.holder_unique (hc : Session svc chain c) {i j : Nat} (hi : Holds svc i c)
    (hj : Holds svc j c) : i = j := by
  have hholder := (hc.holder i).mp hi
  rw [(hc.holder j).mp hj] at hholder
  exact (Option.some.inj hholder).symm

/-- Who holds the chain and has recorded nothing has no token that is stored. -/
theorem Session.current_none (hc : Session svc chain c) (hi : Holds svc i c)
    (hstage : ∀ hash, rotationOf svc i c ≠ .recorded hash) : chain.current = none := by
  have hholder := (hc.holder i).mp hi
  have hfits := hc.fits
  cases chain with
  | recorded j hash =>
      have hji : j = i := Option.some.inj hholder
      subst hji
      exact absurd hfits.1 (hstage hash)
  | stored hash => cases hholder
  | _ => rfl

/-- The chain moves without a new token. -/
theorem Session.moved {chain' : Chain} (hc : Session svc chain c)
    (hs : (authMachine svc).Executed c c' i x request op k r)
    (hd : Machine.Disciplined (rotationDiscipline svc) (fun _ _ => True) (fun _ => .opened) c')
    (hinserted : insertedHashes c'.trace = insertedHashes c.trace)
    (hissued : issuedTokens c'.trace = issuedTokens c.trace)
    (hdrawn : ∀ hash ∈ drawnHashes svc c.trace, hash ∈ drawnHashes svc c'.trace)
    (hrows : ∀ t ∈ tokens c', t ∈ tokens c)
    (hcurrent : ∀ hash, chain'.current = some hash →
      chain.current = some hash ∧ ∃ t ∈ tokens c', t.tokenHash = hash)
    (hleft : ∀ t ∈ tokens c', chain.current = some t.tokenHash →
      chain'.current = some t.tokenHash)
    (hholder : ∀ j, Holds svc j c' ↔ chain'.holder = some j) (hfits : chain'.Fits svc c')
    (hnew : ∀ hash, rotationOf svc i c' = .drawn hash → hash ∈ drawnHashes svc c'.trace ∧
      hash ∉ insertedHashes c.trace ∧ ∀ t ∈ tokens c, t.tokenHash ≠ hash)
    (hopen : rotationOf svc i c = .closed → rotationOf svc i c' = .closed)
    (hdeparted : ∀ token, requestOf i c = some (.logout token) → Deleted i c' →
      chain' = .ended ∨ (issuedTokens c.trace).getLast? ≠ some token)
    (hended : chain = .ended → chain' = .ended) : Session svc chain' c' where
  disciplined := hd
  holder := hholder
  fits := hfits
  rows t ht h := hleft t ht (hc.rows t (hrows t ht) (hinserted ▸ h))
  single t ht t' ht' h := hc.single t (hrows t ht) t' (hrows t' ht') (hinserted ▸ h)
  present hash h := by
    obtain ⟨hbefore, hstored⟩ := hcurrent hash h
    exact ⟨hinserted ▸ (hc.present hash hbefore).1, hstored⟩
  drawn j hash h := by
    rw [hinserted]
    by_cases hij : i = j
    · subst hij
      obtain ⟨hmem, hnot, hfree⟩ := hnew hash h
      exact ⟨hmem, hnot, fun t ht => hfree t (hrows t ht)⟩
    · rw [rotationOf_ne hs hij] at h
      obtain ⟨hmem, hnot, hfree⟩ := hc.drawn j hash h
      exact ⟨hdrawn hash hmem, hnot, fun t ht => hfree t (hrows t ht)⟩
  inserted hash h := hdrawn hash (hc.inserted hash (hinserted ▸ h))
  issued token h := by
    rw [hinserted]
    exact hc.issued token (hissued ▸ h)
  presented j request' hash hrequest hrole := by
    rw [hissued]
    rw [requestOf_executed hs] at hrequest
    exact hc.presented j request' hash hrequest hrole
  login j body hrequest hstage := by
    rw [hissued]
    rw [requestOf_executed hs] at hrequest
    apply hc.login j body hrequest
    by_cases hij : i = j
    · subst hij
      exact fun hclosed => hstage (hopen hclosed)
    · rwa [rotationOf_ne hs hij] at hstage
  departed j token hrequest hdeleted := by
    rw [hissued]
    rw [requestOf_executed hs] at hrequest
    by_cases hij : i = j
    · subst hij
      exact hdeparted token hrequest hdeleted
    · have hbefore : Deleted j c := by
        rcases (deleted_executed hs j).mp hdeleted with h | ⟨hji, -⟩
        · exact h
        · exact absurd hji.symm hij
      rcases hc.departed j token hrequest hbefore with h | h
      · exact Or.inl (hended h)
      · exact Or.inr h

/-- Holding is a matter of the stage. -/
theorem Session.holder_of_stage (hc : Session svc chain c)
    (hs : (authMachine svc).Executed c c' i x request op k r)
    (hstage : (rotationOf svc i c').holds (request.role svc) =
      (rotationOf svc i c).holds (request.role svc)) (j : Nat) :
    Holds svc j c' ↔ chain.holder = some j := by
  rw [← hc.holder j]
  by_cases hij : i = j
  · subst hij
    rw [holds_executed_self hs, holds_self hs, hstage]
  · exact holds_executed_ne hs hij

/-- An operation that changes no token keeps the chain. -/
theorem Chain.Fits.keep (hfits : chain.Fits svc c)
    (hs : (authMachine svc).Executed c c' i x request op k r)
    (hissued : issuedTokens c'.trace = issuedTokens c.trace)
    (hstage : ∀ hash, rotationOf svc i c' = .recorded hash ↔ rotationOf svc i c = .recorded hash) :
    chain.Fits svc c' := by
  have hall : ∀ j hash, rotationOf svc j c' = .recorded hash ↔
      rotationOf svc j c = .recorded hash := by
    intro j hash
    by_cases hij : i = j
    · subst hij
      exact hstage hash
    · rw [rotationOf_ne hs hij]
  cases chain with
  | opening j | taken j => exact fun hash h => hfits hash ((hall j hash).mp h)
  | recorded j hash => exact ⟨(hall j hash).mpr hfits.1, hissued ▸ hfits.2⟩
  | stored hash =>
      rw [Chain.Fits, hissued]
      exact hfits
  | ended => trivial

/-- The chain stays where it is, and so do the rows. -/
theorem Session.stays (hc : Session svc chain c)
    (hs : (authMachine svc).Executed c c' i x request op k r)
    (hd : Machine.Disciplined (rotationDiscipline svc) (fun _ _ => True) (fun _ => .opened) c')
    (hinserted : insertedHashes c'.trace = insertedHashes c.trace)
    (hissued : issuedTokens c'.trace = issuedTokens c.trace)
    (hdrawn : ∀ hash ∈ drawnHashes svc c.trace, hash ∈ drawnHashes svc c'.trace)
    (hrows : tokens c' = tokens c) (hholder : ∀ j, Holds svc j c' ↔ chain.holder = some j)
    (hfits : chain.Fits svc c')
    (hnew : ∀ hash, rotationOf svc i c' = .drawn hash → hash ∈ drawnHashes svc c'.trace ∧
      hash ∉ insertedHashes c.trace ∧ ∀ t ∈ tokens c, t.tokenHash ≠ hash)
    (hopen : rotationOf svc i c = .closed → rotationOf svc i c' = .closed)
    (hdeparted : ∀ token, requestOf i c = some (.logout token) → Deleted i c' →
      chain = .ended ∨ (issuedTokens c.trace).getLast? ≠ some token) : Session svc chain c' := by
  refine hc.moved hs hd hinserted hissued hdrawn ?_ ?_ ?_ hholder hfits hnew hopen hdeparted id
  · intro t ht
    rwa [hrows] at ht
  · intro hash h
    rw [hrows]
    exact ⟨h, (hc.present hash h).2⟩
  · intro t _ h
    exact h

/-- Who executes no delete has departed before. -/
theorem Session.departed_of_not_delete (hc : Session svc chain c)
    (hs : (authMachine svc).Executed c c' i x request op k r) (hop : op.isDelete = false)
    (token : String) (hrequest : requestOf i c = some (.logout token)) (hdeleted : Deleted i c') :
    chain = .ended ∨ (issuedTokens c.trace).getLast? ≠ some token := by
  rcases (deleted_executed hs i).mp hdeleted with h | ⟨-, hdelete⟩
  · exact hc.departed i token hrequest h
  · rw [hop] at hdelete
    cases hdelete

/-- A step of the history that is not of tokens, with the same stages. -/
theorem Session.kept (hc : Session svc chain c)
    (hs : (authMachine svc).Executed c c' i x request op k r)
    (hd : Machine.Disciplined (rotationDiscipline svc) (fun _ _ => True) (fun _ => .opened) c')
    (hlists : SameLists svc c c') (hrows : tokens c' = tokens c)
    (hstage : rotationOf svc i c' = rotationOf svc i c) (hop : op.isDelete = false) :
    Session svc chain c' := by
  apply hc.stays hs hd hlists.inserted hlists.issued
  · intro hash h
    rwa [hlists.drawn]
  · exact hrows
  · exact hc.holder_of_stage hs (by rw [hstage])
  · apply hc.fits.keep hs hlists.issued
    intro hash
    rw [hstage]
  · intro hash h
    rw [hstage] at h
    obtain ⟨hmem, hnot, hfree⟩ := hc.drawn i hash h
    exact ⟨hlists.drawn ▸ hmem, hnot, hfree⟩
  · intro h
    rwa [hstage]
  · exact hc.departed_of_not_delete hs hop

/-- The chain of a request that has given up has ended. -/
def Chain.without (chain : Chain) (i : Nat) : Chain :=
  if chain.holder = some i then .ended else chain

/-- A refresh that fails ends the session. -/
theorem Session.failed (hc : Session svc chain c)
    (hs : (authMachine svc).Executed c c' i x request op k r)
    (hd : Machine.Disciplined (rotationDiscipline svc) (fun _ _ => True) (fun _ => .opened) c')
    (hlists : SameLists svc c c') (hrows : tokens c' = tokens c)
    (hbefore : ∀ hash, rotationOf svc i c ≠ .recorded hash)
    (hstage : rotationOf svc i c' = .closed) (hop : op.isDelete = false) :
    Session svc (chain.without i) c' := by
  have hreleased : ¬ Holds svc i c' := by
    rw [holds_executed_self hs, hstage]
    cases request <;> simp [Request.role, Rotation.holds]
  have hdeparted : ∀ token, requestOf i c = some (.logout token) → Deleted i c' →
      chain.without i = .ended ∨ (issuedTokens c.trace).getLast? ≠ some token := by
    intro token hrequest hdeleted
    rcases hc.departed_of_not_delete hs hop token hrequest hdeleted with hended | hlast
    · subst hended
      exact Or.inl rfl
    · exact Or.inr hlast
  have hnone : ∀ hash, rotationOf svc i c' = .drawn hash → False := by
    intro hash h
    rw [hstage] at h
    cases h
  by_cases hholder : chain.holder = some i
  · have hwithout : chain.without i = .ended := if_pos hholder
    rw [hwithout] at hdeparted ⊢
    have hcurrent : chain.current = none := hc.current_none ((hc.holder i).mpr hholder) hbefore
    apply hc.moved hs hd hlists.inserted hlists.issued
    · intro hash h
      rwa [hlists.drawn]
    · intro t ht
      rwa [hrows] at ht
    · intro hash h
      cases h
    · intro t _ h
      rw [hcurrent] at h
      cases h
    · intro j
      constructor
      · intro hj
        by_cases hij : i = j
        · subst hij
          exact absurd hj hreleased
        · have hbefore : Holds svc j c := (holds_executed_ne hs hij).mp hj
          exact absurd (hc.holder_unique ((hc.holder i).mpr hholder) hbefore) hij
      · intro h
        cases h
    · trivial
    · exact fun hash h => (hnone hash h).elim
    · exact fun _ => hstage
    · exact hdeparted
    · exact fun _ => rfl
  · have hwithout : chain.without i = chain := if_neg hholder
    rw [hwithout] at hdeparted ⊢
    apply hc.stays hs hd hlists.inserted hlists.issued
    · intro hash h
      rwa [hlists.drawn]
    · exact hrows
    · intro j
      by_cases hij : i = j
      · subst hij
        exact iff_of_false hreleased hholder
      · rw [← hc.holder j]
        exact holds_executed_ne hs hij
    · apply hc.fits.keep hs hlists.issued
      intro hash
      rw [hstage]
      exact iff_of_false (by simp) (hbefore hash)
    · exact fun hash h => (hnone hash h).elim
    · exact fun _ => hstage
    · exact hdeparted

/-- A new token is drawn. -/
theorem Session.drew (hc : Session svc chain c)
    (hs : (authMachine svc).Executed c c' i x request op k r)
    (hd : Machine.Disciplined (rotationDiscipline svc) (fun _ _ => True) (fun _ => .opened) c')
    {b : Bytes} (hfresh : hashOf svc b ∉ drawnHashes svc c.trace ∧
      ∀ t ∈ tokens c, t.tokenHash ≠ hashOf svc b) (hrows : tokens c' = tokens c)
    (hinserted : insertedHashes c'.trace = insertedHashes c.trace)
    (hdrawn : drawnHashes svc c'.trace = drawnHashes svc c.trace ++ [hashOf svc b])
    (hissued : issuedTokens c'.trace = issuedTokens c.trace)
    (hbefore : (request.role svc = .login ∧ rotationOf svc i c = .opened) ∨
      ∃ hash, request.role svc = .refresh hash ∧ rotationOf svc i c = .removed)
    (hstage : rotationOf svc i c' = .drawn (hashOf svc b)) (hop : op = .readRandom) :
    Session svc chain c' := by
  apply hc.stays hs hd hinserted hissued
  · intro hash h
    rw [hdrawn]
    exact List.mem_append_left _ h
  · exact hrows
  · apply hc.holder_of_stage hs
    rw [hstage]
    rcases hbefore with ⟨hrole, hopened⟩ | ⟨hash, hrole, hremoved⟩
    · rw [hrole, hopened]
      rfl
    · rw [hrole, hremoved]
      rfl
  · apply hc.fits.keep hs hissued
    intro hash
    rw [hstage]
    apply iff_of_false (by simp)
    rcases hbefore with ⟨-, hopened⟩ | ⟨-, -, hremoved⟩
    · simp [hopened]
    · simp [hremoved]
  · intro hash h
    rw [hstage] at h
    have hhash : hashOf svc b = hash := Rotation.drawn.inj h
    subst hhash
    refine ⟨?_, fun h => hfresh.1 (hc.inserted _ h), hfresh.2⟩
    rw [hdrawn]
    exact List.mem_append_right _ (List.mem_singleton_self _)
  · intro h
    rcases hbefore with ⟨-, hopened⟩ | ⟨-, -, hremoved⟩
    · rw [hopened] at h
      cases h
    · rw [hremoved] at h
      cases h
  · exact hc.departed_of_not_delete hs (by rw [hop]; rfl)

/-- Whoever has drawn a token holds the chain. -/
theorem holds_of_drawn
    (hd : Machine.Disciplined (rotationDiscipline svc) (fun _ _ => True) (fun _ => .opened) c)
    {hash : String} (h : rotationOf svc i c = .drawn hash) : Holds svc i c := by
  cases hthread : c.thread i with
  | none =>
      rw [rotationOf, Machine.eventsOf_eq_nil hd.closed hthread] at h
      cases h
  | some t =>
      refine ⟨t.1, by rw [requestOf, hthread]; rfl, ?_⟩
      rw [h]
      cases t.1 <;> rfl

/-- The holder records its token. -/
theorem Session.record (hc : Session svc chain c)
    (hs : (authMachine svc).Executed c c' i x request op k r)
    (hd : Machine.Disciplined (rotationDiscipline svc) (fun _ _ => True) (fun _ => .opened) c')
    {t : RefreshToken} (hrows : tokens c' = tokens c ++ [t])
    (hinserted : insertedHashes c'.trace = insertedHashes c.trace ++ [t.tokenHash])
    (hdrawn : drawnHashes svc c'.trace = drawnHashes svc c.trace)
    (hissued : issuedTokens c'.trace = issuedTokens c.trace)
    (hbefore : rotationOf svc i c = .drawn t.tokenHash)
    (hstage : rotationOf svc i c' = .recorded t.tokenHash) (hop : op.isDelete = false) :
    Session svc (.recorded i t.tokenHash) c' ∧ chain ≠ .ended := by
  have hholds : Holds svc i c := by
    rw [holds_self hs, hbefore]
    cases request <;> rfl
  have hholder : chain.holder = some i := (hc.holder i).mp hholds
  have hcurrent : chain.current = none := hc.current_none hholds (by simp [hbefore])
  obtain ⟨hmem, hnot, hfree⟩ := hc.drawn i t.tokenHash hbefore
  have hother : ∀ j, i ≠ j → ¬ Holds svc j c' := by
    intro j hij hj
    exact hij (hc.holder_unique hholds ((holds_executed_ne hs hij).mp hj))
  -- No token of the session was stored before.
  have hnew : ∀ u ∈ tokens c', u.tokenHash ∈ insertedHashes c'.trace → u = t := by
    intro u hu hin
    rw [hrows, List.mem_append, List.mem_singleton] at hu
    rw [hinserted, List.mem_append, List.mem_singleton] at hin
    rcases hu with hu | hu
    · rcases hin with hin | hin
      · have hrow := hc.rows u hu hin
        rw [hcurrent] at hrow
        cases hrow
      · exact absurd hin (hfree u hu)
    · exact hu
  refine ⟨⟨hd, ?_, ⟨hstage, ?_⟩, ?_, ?_, ?_, ?_, ?_, ?_, ?_, ?_, ?_⟩, ?_⟩
  · intro j
    by_cases hij : i = j
    · subst hij
      refine iff_of_true ?_ rfl
      rw [holds_executed_self hs, hstage]
      cases request <;> rfl
    · refine iff_of_false (hother j hij) fun h => hij ?_
      exact Option.some.inj h
  · intro h
    rw [hissued] at h
    obtain ⟨token, htoken, hhash⟩ := List.mem_map.mp h
    exact hnot (hhash ▸ hc.issued token htoken)
  · intro u hu hin
    rw [hnew u hu hin]
    rfl
  · intro u hu u' hu' hin heq
    rw [hnew u hu hin, hnew u' hu' (heq ▸ hin)]
  · intro hash h
    have hhash : t.tokenHash = hash := Option.some.inj h
    subst hhash
    rw [hinserted, hrows]
    exact ⟨List.mem_append_right _ (List.mem_singleton_self _), t,
      List.mem_append_right _ (List.mem_singleton_self _), rfl⟩
  · intro j hash h
    have hij : i ≠ j := by
      intro hij
      rw [← hij, hstage] at h
      cases h
    -- Two requests that have drawn would both hold the chain.
    exact (hother j hij (holds_of_drawn hd h)).elim
  · intro hash h
    rw [hinserted, List.mem_append, List.mem_singleton] at h
    rw [hdrawn]
    rcases h with h | h
    · exact hc.inserted hash h
    · exact h ▸ hmem
  · intro token h
    rw [hinserted]
    exact List.mem_append_left _ (hc.issued token (hissued ▸ h))
  · intro j request' hash hrequest hrole
    rw [hissued]
    rw [requestOf_executed hs] at hrequest
    exact hc.presented j request' hash hrequest hrole
  · intro j body hrequest hclosed
    rw [hissued]
    rw [requestOf_executed hs] at hrequest
    apply hc.login j body hrequest
    by_cases hij : i = j
    · subst hij
      simp [hbefore]
    · rwa [rotationOf_ne hs hij] at hclosed
  · intro j token hrequest hdeleted
    rw [hissued]
    rw [requestOf_executed hs] at hrequest
    rcases (deleted_executed hs j).mp hdeleted with h | ⟨-, hdelete⟩
    · rcases hc.departed j token hrequest h with hended | hlast
      · rw [hended] at hholder
        cases hholder
      · exact Or.inr hlast
    · rw [hop] at hdelete
      cases hdelete
  · intro hended
    rw [hended] at hholder
    cases hholder

/-- The holder is where its own stage says. -/
theorem Session.recorded_of_stage (hc : Session svc chain c) (hholds : Holds svc i c)
    {hash : String} (hstage : rotationOf svc i c = .recorded hash) :
    chain = .recorded i hash := by
  have hholder : chain.holder = some i := (hc.holder i).mp hholds
  have hfits := hc.fits
  cases chain with
  | recorded j hash' =>
      have hji : j = i := Option.some.inj hholder
      subst hji
      have hhash : hash' = hash := Rotation.recorded.inj (hfits.1.symm.trans hstage)
      rw [hhash]
  | opening j | taken j =>
      have hji : j = i := Option.some.inj hholder
      subst hji
      exact absurd hstage (hfits hash)
  | _ => cases hholder

/-- The holder answers with its token. -/
theorem Session.issue (hc : Session svc chain c)
    (hs : (authMachine svc).Executed c c' i x request op k r)
    (hd : Machine.Disciplined (rotationDiscipline svc) (fun _ _ => True) (fun _ => .opened) c')
    {token : String} (hrows : tokens c' = tokens c)
    (hinserted : insertedHashes c'.trace = insertedHashes c.trace)
    (hdrawn : drawnHashes svc c'.trace = drawnHashes svc c.trace)
    (hissued : issuedTokens c'.trace = issuedTokens c.trace ++ [token])
    (hbefore : rotationOf svc i c = .recorded (hashRefreshToken svc token))
    (hstage : rotationOf svc i c' = .closed) :
    Session svc (.stored (hashRefreshToken svc token)) c' ∧
      chain = .recorded i (hashRefreshToken svc token) := by
  have hholds : Holds svc i c := by
    rw [holds_self hs, hbefore]
    cases request <;> rfl
  have hchain : chain = .recorded i (hashRefreshToken svc token) :=
    hc.recorded_of_stage hholds hbefore
  have hnot : hashRefreshToken svc token ∉ (issuedTokens c.trace).map (hashRefreshToken svc) := by
    have hfits := hc.fits
    rw [hchain] at hfits
    exact hfits.2
  have hcurrent : chain.current = some (hashRefreshToken svc token) := by
    rw [hchain]
    rfl
  have hreleased : ∀ j, ¬ Holds svc j c' := by
    intro j hj
    by_cases hij : i = j
    · subst hij
      rw [holds_executed_self hs, hstage] at hj
      cases request <;> cases hj
    · exact hij (hc.holder_unique hholds ((holds_executed_ne hs hij).mp hj))
  refine ⟨⟨hd, ?_, ?_, ?_, ?_, ?_, ?_, ?_, ?_, ?_, ?_, ?_⟩, hchain⟩
  · intro j
    exact iff_of_false (hreleased j) (by simp [Chain.holder])
  · show (issuedTokens c'.trace).getLast?.map (hashRefreshToken svc) = _
    simp [hissued]
  · intro t ht hin
    rw [hrows] at ht
    have hrow := hc.rows t ht (hinserted ▸ hin)
    rw [hcurrent] at hrow
    exact hrow
  · intro t ht t' ht' hin
    rw [hrows] at ht ht'
    exact hc.single t ht t' ht' (hinserted ▸ hin)
  · intro hash h
    have hhash : chain.current = some hash := hcurrent.trans h
    rw [hinserted, hrows]
    exact hc.present hash hhash
  · intro j hash h
    have hij : i ≠ j := by
      intro hij
      rw [← hij, hstage] at h
      cases h
    rw [rotationOf_ne hs hij] at h
    rw [hdrawn, hinserted, hrows]
    exact hc.drawn j hash h
  · intro hash h
    rw [hdrawn]
    exact hc.inserted hash (hinserted ▸ h)
  · intro token' h
    rw [hissued, List.mem_append, List.mem_singleton] at h
    rw [hinserted]
    rcases h with h | h
    · exact hc.issued token' h
    · rw [h]
      exact (hc.present _ hcurrent).1
  · intro j request' hash hrequest hrole
    rw [requestOf_executed hs] at hrequest
    rw [hissued, List.map_append]
    exact List.mem_append_left _ (hc.presented j request' hash hrequest hrole)
  · intro j body hrequest hclosed
    refine (hreleased j ⟨_, hrequest, ?_⟩).elim
    cases hj : rotationOf svc j c' with
    | closed => exact absurd hj hclosed
    | _ => rfl
  · intro j token' hrequest _
    right
    intro hlast
    rw [requestOf_executed hs] at hrequest
    rw [hissued, List.getLast?_append, List.getLast?_singleton] at hlast
    have htoken : token = token' := Option.some.inj hlast
    subst htoken
    exact hnot (hc.presented j _ _ hrequest (Or.inr rfl))

/-- A token of the session that is stored and is presented is the last that was issued. -/
theorem Session.stored_of_presented (hc : Session svc chain c) {hash : String}
    (hrequest : requestOf i c = some request)
    (hrole : request.role svc = .refresh hash ∨ request.role svc = .logout hash)
    (hcurrent : chain.current = some hash) : chain = .stored hash := by
  have hfits := hc.fits
  cases chain with
  | recorded j hash' =>
      have hhash : hash' = hash := Option.some.inj hcurrent
      subst hhash
      exact absurd (hc.presented i request hash' hrequest hrole) hfits.2
  | stored hash' =>
      have hhash : hash' = hash := Option.some.inj hcurrent
      rw [hhash]
  | _ => cases hcurrent

/-- A refresh deletes the token it was presented. -/
theorem Session.take (hc : Session svc chain c)
    (hs : (authMachine svc).Executed c c' i x request op k r)
    (hd : Machine.Disciplined (rotationDiscipline svc) (fun _ _ => True) (fun _ => .opened) c')
    {hash : String} (hlists : SameLists svc c c')
    (hrows : tokens c' = (tokens c).filter fun t => t.tokenHash ≠ hash)
    (hstored : ∃ t ∈ tokens c, t.tokenHash = hash) (hrole : request.role svc = .refresh hash)
    (hbefore : rotationOf svc i c = .opened) (hstage : rotationOf svc i c' = .removed) :
    Session svc (.taken i) c' ∧ chain = .stored hash := by
  obtain ⟨t, ht, hhash⟩ := hstored
  have hin : hash ∈ insertedHashes c.trace :=
    hc.presented_inserted (requestOf_self hs) (Or.inl hrole)
  have hcurrent : chain.current = some hash := hhash ▸ hc.rows t ht (hhash ▸ hin)
  have hchain : chain = .stored hash :=
    hc.stored_of_presented (requestOf_self hs) (Or.inl hrole) hcurrent
  subst hchain
  refine ⟨?_, rfl⟩
  apply hc.moved hs hd hlists.inserted hlists.issued
  · intro hash' h
    rwa [hlists.drawn]
  · intro u hu
    rw [hrows] at hu
    exact List.mem_of_mem_filter hu
  · intro hash' h
    cases h
  · intro u hu h
    rw [hrows, List.mem_filter] at hu
    have heq : hash = u.tokenHash := Option.some.inj h
    simp [heq] at hu
  · intro j
    by_cases hij : i = j
    · subst hij
      refine iff_of_true ?_ rfl
      rw [holds_executed_self hs, hstage, hrole]
      rfl
    · refine iff_of_false (fun hj => ?_) fun h => hij (Option.some.inj h)
      have hholder := (hc.holder j).mp ((holds_executed_ne hs hij).mp hj)
      cases hholder
  · intro hash' h
    rw [hstage] at h
    cases h
  · intro hash' h
    rw [hstage] at h
    cases h
  · intro h
    rw [hbefore] at h
    cases h
  · intro token hrequest _
    rw [requestOf_self hs] at hrequest
    obtain rfl := Option.some.inj hrequest
    cases hrole
  · intro h
    cases h

/-- The chain without the token of that hash. -/
def Chain.drop (chain : Chain) (hash : String) : Chain :=
  if chain = .stored hash then .ended else chain

/-- A logout deletes the token it was presented. -/
theorem Session.leave (hc : Session svc chain c)
    (hs : (authMachine svc).Executed c c' i x request op k r)
    (hd : Machine.Disciplined (rotationDiscipline svc) (fun _ _ => True) (fun _ => .opened) c')
    {hash : String} (hlists : SameLists svc c c')
    (hrows : tokens c' = (tokens c).filter fun t => t.tokenHash ≠ hash)
    (hlast : ∀ token, request = .logout token → (issuedTokens c.trace).getLast? = some token →
      ∀ j, ¬ Holds svc j c)
    (hrole : request.role svc = .logout hash)
    (hbefore : rotationOf svc i c = .opened) (hstage : rotationOf svc i c' = .removed) :
    Session svc (chain.drop hash) c' := by
  have hstages : (rotationOf svc i c').holds (request.role svc) =
      (rotationOf svc i c).holds (request.role svc) := by
    rw [hstage, hbefore, hrole]
    rfl
  have hsub : ∀ u ∈ tokens c', u ∈ tokens c ∧ u.tokenHash ≠ hash := by
    intro u hu
    rw [hrows, List.mem_filter] at hu
    exact ⟨hu.1, by simpa using hu.2⟩
  have hother : chain.current = some hash → chain = .stored hash :=
    hc.stored_of_presented (requestOf_self hs) (Or.inr hrole)
  have hholder : (chain.drop hash).holder = chain.holder := by
    rw [Chain.drop]
    split
    · rename_i h
      rw [h]
      rfl
    · rfl
  have hcurrent : ∀ hash', (chain.drop hash).current = some hash' →
      chain.current = some hash' ∧ hash' ≠ hash := by
    intro hash' h
    rw [Chain.drop] at h
    split at h
    · cases h
    · rename_i hne
      refine ⟨h, fun heq => hne (hother ?_)⟩
      rw [← heq]
      exact h
  apply hc.moved hs hd hlists.inserted hlists.issued
  · intro hash' h
    rwa [hlists.drawn]
  · exact fun u hu => (hsub u hu).1
  · intro hash' h
    obtain ⟨hbefore, hne⟩ := hcurrent hash' h
    obtain ⟨-, t, ht, hhash⟩ := hc.present hash' hbefore
    refine ⟨hbefore, t, ?_, hhash⟩
    rw [hrows, List.mem_filter]
    exact ⟨ht, by simpa [hhash] using hne⟩
  · intro u hu h
    rw [Chain.drop, if_neg]
    · exact h
    · intro hchain
      rw [hchain] at h
      exact (hsub u hu).2 (Option.some.inj h).symm
  · intro j
    rw [hholder]
    exact hc.holder_of_stage hs hstages j
  · have hkeep : chain.Fits svc c' := by
      apply hc.fits.keep hs hlists.issued
      intro hash'
      rw [hstage, hbefore]
      exact iff_of_false (by simp) (by simp)
    rw [Chain.drop]
    split
    · trivial
    · exact hkeep
  · intro hash' h
    rw [hstage] at h
    cases h
  · intro h
    rw [hbefore] at h
    cases h
  · intro token hrequest _
    rw [requestOf_self hs] at hrequest
    obtain rfl := Option.some.inj hrequest
    have hhash : hashRefreshToken svc token = hash := Role.logout.inj hrole
    by_cases htoken : (issuedTokens c.trace).getLast? = some token
    · -- Nobody holds the chain, and what is stored is the token that goes.
      left
      have hfree := hlast token rfl htoken
      have hfits := hc.fits
      cases chain with
      | opening j | recorded j _ | taken j => exact absurd ((hc.holder j).mpr rfl) (hfree j)
      | stored hash' =>
          rw [Chain.Fits, htoken] at hfits
          have heq : hash = hash' := hhash.symm.trans (Option.some.inj hfits)
          rw [Chain.drop, if_pos (by rw [heq])]
      | ended => rfl
    · exact Or.inr htoken
  · intro h
    rw [h]
    rfl

/-- The inserts of refreshes are answered as the discipline relies on. -/
theorem answer_of_inOrder (horder : InOrder svc c l) (hl : l = .step i x)
    (hs : (authMachine svc).Executed c c' i x request op k r)
    (hallowed : (rotationOf svc i c).Allowed svc (request.role svc) op) :
    Rotation.Answer (request.role svc) op r := by
  cases op with
  | createRefreshToken p =>
      intro hlogin
      cases request with
      | login body => exact absurd rfl hlogin
      | refresh token =>
          rw [(exec_answer hs).1]
          exact horder.insert i x token p k hl hs.before
      | logout token => exact absurd rfl (hallowed.2 _)
  | _ => trivial

/-- A logout of a token that is not the last one fails to delete it. -/
theorem Session.pass (hc : Session svc chain c)
    (hs : (authMachine svc).Executed c c' i x request op k r)
    (hd : Machine.Disciplined (rotationDiscipline svc) (fun _ _ => True) (fun _ => .opened) c')
    {hash : String} (hlists : SameLists svc c c') (hrows : tokens c' = tokens c)
    (hlast : ∀ token, request = .logout token → (issuedTokens c.trace).getLast? ≠ some token)
    (hrole : request.role svc = .logout hash)
    (hbefore : rotationOf svc i c = .opened) (hstage : rotationOf svc i c' = .removed) :
    Session svc chain c' := by
  apply hc.stays hs hd hlists.inserted hlists.issued
  · intro hash' h
    rwa [hlists.drawn]
  · exact hrows
  · apply hc.holder_of_stage hs
    rw [hstage, hbefore, hrole]
    rfl
  · apply hc.fits.keep hs hlists.issued
    intro hash'
    rw [hstage, hbefore]
    exact iff_of_false (by simp) (by simp)
  · intro hash' h
    rw [hstage] at h
    cases h
  · intro h
    rw [hbefore] at h
    cases h
  · intro token hrequest _
    rw [requestOf_self hs] at hrequest
    exact Or.inr (hlast token (Option.some.inj hrequest))

/-- One operation moves the chain on; when it has ended, it stays so. -/
theorem chain_executed (hc : Session svc chain c)
    (hs : (authMachine svc).Executed c c' i x request op k r)
    (hd : Machine.Disciplined (rotationDiscipline svc) (fun _ _ => True) (fun _ => .opened) c')
    (hone : OneSession svc c (.step i x)) (horder : InOrder svc c (.step i x))
    (heffect : Effect svc c c' i (request.role svc) x op) :
    ∃ chain', Session svc chain' c' ∧ (chain = .ended → chain' = .ended) := by
  cases heffect with
  | kept hlists hrows hstage hop => exact ⟨chain, hc.kept hs hd hlists hrows hstage hop, id⟩
  | failed hlists hrows hbefore hstage hop =>
      refine ⟨chain.without i, hc.failed hs hd hlists hrows hbefore hstage hop, ?_⟩
      intro hended
      rw [hended]
      rfl
  | drew b hrandom hrows hinserted hdrawn hissued hbefore hstage hop =>
      have hfresh : hashOf svc b ∉ drawnHashes svc c.trace ∧
          ∀ t ∈ tokens c, t.tokenHash ≠ hashOf svc b := by
        subst hop
        exact hone.fresh i x b request k rfl hs.before hrandom
      exact ⟨chain, hc.drew hs hd hfresh hrows hinserted hdrawn hissued hbefore hstage hop, id⟩
  | recorded t hrows hinserted hdrawn hissued _ hbefore hstage hop =>
      obtain ⟨hrecorded, hne⟩ :=
        hc.record hs hd hrows hinserted hdrawn hissued hbefore hstage hop
      exact ⟨_, hrecorded, fun hended => absurd hended hne⟩
  | issued token hrows hinserted hdrawn hissued hbefore hstage _ =>
      obtain ⟨hstored, hchain⟩ := hc.issue hs hd hrows hinserted hdrawn hissued hbefore hstage
      refine ⟨_, hstored, fun hended => ?_⟩
      rw [hchain] at hended
      cases hended
  | deleted hash hlists hrows hrole hbefore hstage hop =>
      subst hop
      cases request with
      | login body => rcases hrole with h | h <;> cases h
      | refresh token =>
          have hrefresh : Role.refresh (hashRefreshToken svc token) = .refresh hash := by
            rcases hrole with h | h
            · exact h
            · cases h
          obtain ⟨hfault, hstored⟩ := horder.delete i x token hash k rfl hs.before
          rw [hfault, if_neg Bool.false_ne_true] at hrows
          obtain ⟨htaken, hchain⟩ :=
            hc.take hs hd hlists hrows hstored hrefresh hbefore hstage
          refine ⟨_, htaken, fun hended => ?_⟩
          rw [hchain] at hended
          cases hended
      | logout token =>
          have hlogout : Role.logout (hashRefreshToken svc token) = .logout hash := by
            rcases hrole with h | h
            · cases h
            · exact h
          have hlast := horder.logout i x token hash k rfl hs.before
          by_cases hfault : x.fault = true
          · rw [if_pos hfault] at hrows
            refine ⟨chain, hc.pass hs hd hlists hrows ?_ hlogout hbefore hstage, id⟩
            intro token' htoken hissued
            obtain rfl := Request.logout.inj htoken
            rw [(hlast hissued).1] at hfault
            cases hfault
          · rw [if_neg hfault] at hrows
            refine ⟨chain.drop hash, hc.leave hs hd hlists hrows ?_ hlogout hbefore hstage, ?_⟩
            · intro token' htoken hissued
              obtain rfl := Request.logout.inj htoken
              exact (hlast hissued).2
            · intro hended
              rw [hended]
              rfl

/-- A login opens the chain. -/
theorem Session.open (hc : Session svc chain c) {body : Option LoginRequest}
    (hs : (authMachine svc).Spawned c c' i (.login body))
    (hd : Machine.Disciplined (rotationDiscipline svc) (fun _ _ => True) (fun _ => .opened) c')
    (hfirst : ∀ j, c.thread j = none) : Session svc (.opening i) c' := by
  have hempty : c.trace = [] := by
    apply List.eq_nil_iff_forall_not_mem.mpr
    intro e he
    exact hc.disciplined.closed e he (hfirst e.thread)
  have htrace : c'.trace = [] := hs.trace.trans hempty
  have hstage : ∀ j, rotationOf svc j c' = .opened := by
    intro j
    rw [rotationOf, htrace]
    rfl
  have hrequest : ∀ j request', requestOf j c' = some request' →
      j = i ∧ request' = .login body := by
    intro j request' h
    rw [requestOf_spawned hs] at h
    split at h
    · rename_i hji
      exact ⟨hji, (Option.some.inj h).symm⟩
    · rw [requestOf, hfirst j] at h
      cases h
  refine ⟨hd, ?_, ?_, ?_, ?_, ?_, ?_, ?_, ?_, ?_, ?_, ?_⟩
  · intro j
    constructor
    · intro h
      obtain ⟨request', h, -⟩ := h
      rw [(hrequest j request' h).1]
      rfl
    · intro h
      have hij : i = j := Option.some.inj h
      subst hij
      refine ⟨.login body, by rw [requestOf_spawned hs, if_pos rfl], ?_⟩
      rw [hstage]
      rfl
  · intro hash
    rw [hstage]
    simp
  · intro t _ h
    simp [htrace, insertedHashes] at h
  · intro t _ t' _ h
    simp [htrace, insertedHashes] at h
  · intro hash h
    cases h
  · intro j hash h
    rw [hstage] at h
    cases h
  · intro hash h
    simp [htrace, insertedHashes] at h
  · intro token h
    simp [htrace, issuedTokens] at h
  · intro j request' hash h hrole
    rw [(hrequest j request' h).2] at hrole
    rcases hrole with h | h <;> cases h
  · intro _ _ _ _
    rw [htrace]
    rfl
  · intro j token h
    cases (hrequest j _ h).2

/-- A refresh or a logout arrives. -/
theorem Session.arrive (hc : Session svc chain c)
    (hs : (authMachine svc).Spawned c c' i request)
    (hd : Machine.Disciplined (rotationDiscipline svc) (fun _ _ => True) (fun _ => .opened) c')
    {token : String} (hrequest : request = .refresh token ∨ request = .logout token)
    (htoken : token ∈ issuedTokens c.trace) : Session svc chain c' := by
  have hnil : Machine.eventsOf i c.trace = [] :=
    Machine.eventsOf_eq_nil hc.disciplined.closed hs.fresh
  have hrows : tokens c' = tokens c := by
    have haccept : some c.store = some c'.store := hs.accepted
    rw [tokens, ← Option.some.inj haccept]
    rfl
  have hbefore : requestOf i c = none := by
    rw [requestOf, hs.fresh]
    rfl
  have hopened : rotationOf svc i c' = .opened := by
    rw [rotationOf_spawned hs, rotationOf, hnil]
    rfl
  have hundeleted : ∀ j, Deleted j c' → Deleted j c := by
    intro j h
    rwa [Deleted, hs.trace] at h
  have hdeleted : ¬ Deleted i c := by
    intro h
    obtain ⟨e, he, hthread, -⟩ := h
    exact hc.disciplined.closed e he (hthread ▸ hs.fresh)
  have hfits : chain.Fits svc c' := by
    have hstages : ∀ j, rotationOf svc j c' = rotationOf svc j c := rotationOf_spawned hs
    have hfits := hc.fits
    cases chain with
    | opening j | taken j =>
        intro hash
        rw [hstages]
        exact hfits hash
    | recorded j hash =>
        rw [Chain.Fits, hstages, hs.trace]
        exact hfits
    | stored hash =>
        rw [Chain.Fits, hs.trace]
        exact hfits
    | ended => trivial
  refine ⟨hd, ?_, hfits, ?_, ?_, ?_, ?_, ?_, ?_, ?_, ?_, ?_⟩
  · intro j
    rw [← hc.holder j, Holds, Holds, requestOf_spawned hs, rotationOf_spawned hs]
    by_cases hji : j = i
    · subst hji
      rw [if_pos rfl, hbefore, ← rotationOf_spawned hs, hopened]
      refine iff_of_false ?_ (by simp)
      rcases hrequest with rfl | rfl <;> simp [Request.role, Rotation.holds]
    · rw [if_neg hji]
  · rw [hs.trace, hrows]
    exact hc.rows
  · rw [hs.trace, hrows]
    exact hc.single
  · rw [hs.trace, hrows]
    exact hc.present
  · intro j hash h
    rw [hs.trace, hrows]
    rw [rotationOf_spawned hs] at h
    exact hc.drawn j hash h
  · rw [hs.trace]
    exact hc.inserted
  · rw [hs.trace]
    exact hc.issued
  · intro j request' hash h hrole
    rw [hs.trace]
    rw [requestOf_spawned hs] at h
    split at h
    · obtain rfl := Option.some.inj h
      apply List.mem_map.mpr
      refine ⟨token, htoken, ?_⟩
      rcases hrequest with rfl | rfl
      · rcases hrole with h | h
        · exact Role.refresh.inj h
        · cases h
      · rcases hrole with h | h
        · cases h
        · exact Role.logout.inj h
    · exact hc.presented j request' hash h hrole
  · intro j body h hstage
    rw [hs.trace]
    rw [requestOf_spawned hs] at h
    rw [rotationOf_spawned hs] at hstage
    split at h
    · rcases hrequest with rfl | rfl <;> cases h
    · exact hc.login j body h hstage
  · intro j token' h hd'
    rw [hs.trace]
    rw [requestOf_spawned hs] at h
    split at h
    · rename_i hji
      exact absurd (hji ▸ hundeleted j hd') hdeleted
    · exact hc.departed j token' h (hundeleted j hd')

/-- The chain moves on with each step, as long as no refresh goes on without its token.  Once a
request is there, a chain that has ended stays so. -/
theorem chain_step (hc : Session svc chain c) (hone : OneSession svc c l)
    (horder : InOrder svc c l) (h : step svc c l = some c') :
    ∃ chain', Session svc chain' c' ∧
      ((∃ j, c.thread j ≠ none) → chain = .ended → chain' = .ended) := by
  have hd : Machine.Disciplined (rotationDiscipline svc) (fun _ _ => True)
      (fun _ => .opened) c' := by
    apply Machine.step_disciplined_of_label h hc.disciplined
    · intro request
      exact handle_rotates svc request
    · intro i x request op k r hl hs
      exact answer_of_inOrder horder hl hs (hc.disciplined.allowed hs)
  obtain ⟨i, request, hl, hs⟩ | ⟨i, x, request, op, k, r, hl, hs⟩ := Machine.step_cases h
  · cases request with
    | login body =>
        have hfirst := hone.login i body hl
        refine ⟨_, hc.open hs hd hfirst, fun hsome => ?_⟩
        obtain ⟨j, hj⟩ := hsome
        exact absurd (hfirst j) hj
    | refresh token =>
        have htoken := hone.presented i token (Or.inl hl)
        exact ⟨chain, hc.arrive hs hd (Or.inl rfl) htoken, fun _ => id⟩
    | logout token =>
        have htoken := hone.presented i token (Or.inr hl)
        exact ⟨chain, hc.arrive hs hd (Or.inr rfl) htoken, fun _ => id⟩
  · have hallowed : (rotationOf svc i c).Allowed svc (request.role svc) op :=
      hc.disciplined.allowed hs
    have heffect := executed_effect hs hallowed (answer_of_inOrder horder hl hs hallowed)
    subst hl
    obtain ⟨chain', hchain', hended⟩ := chain_executed hc hs hd hone horder heffect
    exact ⟨chain', hchain', fun _ => hended⟩

end

end OtaRobot.Auth
