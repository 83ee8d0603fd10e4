import OtaRobot.Agent.Pipeline

/-!
# What a busy agent says of itself

The status of the agent is a variable next to the state machine.  A handler announces its work
by writing {lit}`updating`, works, and withdraws the announcement at its end, in an update that
has failed as much as 200 ms after the state machine has left the update.  By then another
handler may have announced its own work.

Main results:

- Theorem {lit}`body_announces`: a goroutine announces its work before it makes the agent busy.
- Theorem {lit}`busy_announced`: a busy agent says so in every run in which nobody withdraws
  somebody else's announcement.
- Theorem {lit}`busy_withdrawn`: a rollback during the recovery of a failed update.
-/

namespace OtaRobot.Agent

open Prog Transition

/-- The states in which the agent works on an image or on its slots. -/
def State.isBusy : State → Bool
  | .verifying | .installing | .rebooting | .rollingBack => true
  | _ => false

/-- The triggers that lead into the busy states. -/
def Op.isEntry : Op → Bool
  | .trigger .downloadOK | .trigger .rollbackCommand => true
  | _ => false

/-- The operation announces work. -/
def Announces (op : Op) : Prop :=
  op = .setStatus "updating"

/-- The goroutine can make the agent busy without announcing it again. -/
def Announced (q : Handler Unit) : Prop :=
  Pending (fun _ _ => True) Announces (fun op => op.isEntry = true) q

/-- A goroutine that writes another status than {lit}`updating` does so while the agent is not
busy, and while no other goroutine that has announced its work can still make it busy. -/
structure WithdrawsOwn (c : Config) (l : Label) : Prop where
  idle : ∀ i x t status k, l = .step i x → c.thread i = some (t, .call (.setStatus status) k) →
    status ≠ "updating" → c.store.fsm.current.isBusy = false
  others : ∀ i x t status k, l = .step i x → c.thread i = some (t, .call (.setStatus status) k) →
    status ≠ "updating" → ∀ j t' q, j ≠ i → c.thread j = some (t', q) → ¬ Announced q

/-! ## The discipline -/

/-- Entries come after an announcement that the goroutine has not withdrawn itself. -/
def announceDiscipline : Discipline Op.Ret Bool where
  allowed announced op := op.isEntry = true → announced = true
  rely _ _ _ := True
  next announced op _ :=
    match op with
    | .setStatus status => status = "updating"
    | _ => announced

/-- The procedure announces work before it makes the agent busy. -/
abbrev Announcing {α : Type} (announced : Bool) (m : Handler α) : Prop :=
  Obeys announceDiscipline (fun _ _ => True) announced m

/-- The operation is no entry and no change of the status. -/
def Op.isAside : Op → Bool
  | .setStatus _ => false
  | op => !op.isEntry

/-- No operation of the procedure makes the agent busy or writes the status. -/
abbrev Aside {α : Type} (m : Handler α) : Prop :=
  Always (fun _ _ => True) (fun op => op.isAside = true) m

/-- Such an operation is no entry. -/
theorem not_entry_of_aside {op : Op} (h : op.isAside = true) : op.isEntry = false := by
  cases op with
  | setStatus status => rfl
  | _ => simpa [Op.isAside] using h

/-- What is aside may stand before. -/
theorem Aside.bind {α β : Type} {announced : Bool} {m : Handler α} {f : α → Handler β}
    (hm : Aside m) (hf : ∀ a, Announcing announced (f a)) : Announcing announced (m >>= f) := by
  apply Always.obeys_bind hm
  · intro op r _
    trivial
  · intro op hop hentry
    cases (not_entry_of_aside hop).symm.trans hentry
  · intro op r hop
    cases op with
    | setStatus status => cases hop
    | _ => rfl
  · exact hf

/-- What is aside announces nothing and needs nothing. -/
theorem Aside.announcing {α : Type} {m : Handler α} (hm : Aside m) (announced : Bool) :
    Announcing announced m := by
  rw [← bind_done m]
  exact hm.bind fun _ => trivial

/-- An operation that is aside by itself. -/
theorem perform_aside {op : Op} (h : op.isAside = true) : Aside (perform op) :=
  ⟨h, fun _ _ => trivial⟩

/-- What is local is aside. -/
theorem Local.aside {α : Type} {m : Handler α} (h : Local m) : Aside m := by
  apply Always.mono (fun _ _ _ => trivial) ?_ h
  intro op hlocal
  cases op with
  | trigger event => cases hlocal
  | setStatus status => cases hlocal
  | _ => rfl

theorem publishProgress_aside (progress : Nat) (status : String)
    (ecdsaMs sha256Ms : Option Nat) :
    Aside (publishProgressWithMeta progress status ecdsaMs sha256Ms) :=
  publishProgress_always rfl fun _ => rfl

/-! ## The handlers -/

section

variable {announced : Bool} (p : Process) (cmd : Command)

/-- Any status may be written. -/
theorem setStatus_announcing (status : String) : Announcing announced (setStatus status) :=
  ⟨fun hentry => (by cases hentry), fun _ _ => trivial⟩

/-- An aborted update enters nothing. -/
theorem abortUpdate_announcing {event : Event} {text : Handler String}
    (hevent : (Op.trigger event).isAside = true) (htext : Aside text) :
    Announcing announced (abortUpdate event text) := by
  apply Aside.bind (perform_aside hevent)
  intro _
  apply htext.bind
  intro t
  apply Aside.bind (m := publishError t) (perform_aside rfl)
  intro _
  apply Aside.bind (m := trigger .reset) (perform_aside rfl)
  intro _
  exact setStatus_announcing "online"

/-- A failed installation enters nothing. -/
theorem failInstall_announcing (text : String) : Announcing announced (failInstall text) := by
  apply Aside.bind (m := trigger .installFail) (perform_aside rfl)
  intro _
  apply Aside.bind (m := publishError text) (perform_aside rfl)
  intro _
  exact setStatus_announcing "error"

/-- The end of an update and of a rollback. -/
theorem switch_announcing (version : String) :
    Announcing announced (do
      setCurrentVersion version
      setStatus "online"
      publishProgressWithMeta 100 "success") := by
  apply Aside.bind (m := setCurrentVersion version) (perform_aside rfl)
  intro _
  refine ⟨fun hentry => (by cases hentry), fun _ _ => ?_⟩
  exact (publishProgress_aside _ _ _ _).announcing _

/-- A completed update enters nothing. -/
theorem completeUpdate_announcing : Announcing announced (completeUpdate cmd) := by
  apply (publishProgress_aside _ _ _ _).bind
  intro _
  apply Aside.bind (m := trigger .installOK) (perform_aside rfl)
  intro _
  apply Aside.bind (m := trigger .rebootOK) (perform_aside rfl)
  intro _
  exact switch_announcing cmd.version

theorem installFirmware_announcing (ecdsaMs : Nat) :
    Announcing announced (installFirmware p cmd ecdsaMs) := by
  apply Aside.bind (m := trigger .verifyOK) (perform_aside rfl)
  intro _
  apply Aside.bind (m := elapsedMs) (perform_aside rfl)
  intro sha256Ms
  apply (publishProgress_aside _ _ _ _).bind
  intro _
  apply (publishProgress_aside _ _ _ _).bind
  intro _
  apply (publishProgress_aside _ _ _ _).bind
  intro _
  apply (publishProgress_aside _ _ _ _).bind
  intro _
  dsimp only
  split
  · exact failInstall_announcing _
  · split
    · apply Aside.bind (perform_aside rfl)
      intro random
      split
      · exact failInstall_announcing _
      · exact completeUpdate_announcing cmd
    · exact completeUpdate_announcing cmd

/-- The verification begins with the entry, and has been announced. -/
theorem verifyFirmware_announcing (pub : PublicKey) (data : Bytes) :
    Announcing true (verifyFirmware p cmd pub data) := by
  have habort : ∀ text : String,
      Announcing true (abortUpdate .verifyFail (pure text)) :=
    fun text => abortUpdate_announcing rfl trivial
  refine ⟨fun _ => rfl, fun _ _ => ?_⟩
  show Announcing true _
  dsimp only [done_bind]
  split
  · exact habort _
  · split
    · exact habort _
    · apply Aside.bind (m := elapsedMs) (perform_aside rfl)
      intro ecdsaMs
      split
      · exact installFirmware_announcing p cmd ecdsaMs
      · exact habort _

theorem downloadFirmware_announcing (pub : PublicKey) :
    Announcing announced (downloadFirmware p cmd pub) := by
  have habort : ∀ text : String,
      Announcing true (abortUpdate .downloadFail (pure text)) :=
    fun text => abortUpdate_announcing rfl trivial
  refine ⟨fun hentry => (by cases hentry), fun _ _ => ?_⟩
  show Announcing true _
  apply (publishProgress_aside _ _ _ _).bind
  intro _
  apply Aside.bind (perform_aside rfl)
  intro response
  split
  · exact habort _
  · split
    · exact habort _
    · split
      · exact habort _
      · exact verifyFirmware_announcing p cmd pub _

/-- The hardware and the key check enter nothing. -/
theorem checkCompatible_announcing : Announcing announced (checkCompatible p cmd) := by
  unfold checkCompatible
  split
  · exact abortUpdate_announcing rfl trivial
  · split
    · exact abortUpdate_announcing rfl trivial
    · exact downloadFirmware_announcing p cmd _

theorem checkInterlocks_announcing : Announcing announced (checkInterlocks p cmd) := by
  apply Aside.bind (m := readActivity) (perform_aside rfl)
  intro activity
  split
  · exact abortUpdate_announcing rfl busyText_local.aside
  · apply lowBattery_local.aside.bind
    intro low
    split
    · exact abortUpdate_announcing rfl lowBatteryText_local.aside
    · exact checkCompatible_announcing p cmd

theorem handleUpdate_announcing : Announcing announced (handleUpdate p cmd) := by
  apply Aside.bind (m := trigger .updateCommand) (perform_aside rfl)
  intro answer
  split
  · apply Aside.bind (m := getState) (perform_aside rfl)
    intro s
    exact Aside.announcing (m := publishError _) (perform_aside rfl) _
  · exact checkInterlocks_announcing p cmd

theorem handleRollback_announcing : Announcing announced (handleRollback cmd) := by
  refine ⟨fun hentry => (by cases hentry), fun _ _ => ?_⟩
  refine ⟨fun _ => rfl, fun _ _ => ?_⟩
  show Announcing true _
  apply (publishProgress_aside _ _ _ _).bind
  intro _
  apply Aside.bind (m := trigger .rollbackComplete) (perform_aside rfl)
  intro _
  exact switch_announcing cmd.version

/-- A goroutine announces its work before it makes the agent busy. -/
theorem body_announces (t : Routine) : Announcing announced (body p t) := by
  cases t with
  | heartbeat => exact (heartbeat_local p).aside.announcing _
  | command cmd =>
      show Announcing announced (messagePubHandler p cmd)
      unfold messagePubHandler
      split
      · exact handleUpdate_announcing p cmd
      · split
        · exact handleRollback_announcing cmd
        · split
          · exact (applySettings_local cmd).aside.announcing _
          · trivial

end

/-- Before an announcement no entry is pending. -/
theorem Announcing.not_announced {q : Handler Unit} (h : Announcing false q) : ¬ Announced q := by
  apply h.not_pending (G := fun announced => announced = false)
  · intro _ _ _ _
    trivial
  · intro announced op r hfalse _ hcheck
    subst hfalse
    cases op with
    | setStatus status =>
        have hne : status ≠ "updating" := fun heq => hcheck (by rw [heq, Announces])
        simpa [announceDiscipline] using hne
    | _ => rfl
  · intro announced op hfalse hallowed hentry
    cases (hallowed hentry).symm.trans hfalse
  · rfl

/-! ## Runs -/

/-- The agent says what it does, and what it is about to do. -/
structure BusyInvariant (c : Config) : Prop where
  announcing : c.AllThreads fun _ q => ∃ announced, Announcing announced q
  busy : c.store.fsm.current.isBusy = true → c.store.status = "updating"
  pending : c.AllThreads fun _ q => Announced q → c.store.status = "updating"

/-- The robot is idle at the start. -/
theorem busyInvariant_start (p : Process) (r : Robot) : BusyInvariant (start p r) where
  announcing := Machine.allThreads_initial _ _
  busy h := by cases h
  pending := Machine.allThreads_initial _ _

/-- A state is busy after a trigger only if it was busy before, or the trigger is an entry. -/
theorem entry_of_busy {s next : State} {event : Event} (h : transitions s event = some next)
    (hnext : next.isBusy = true) : s.isBusy = true ∨ (Op.trigger event).isEntry = true := by
  cases s <;> cases event <;> simp_all [transitions, State.isBusy, Op.isEntry] <;>
    subst next <;> simp_all

/-- An operation other than a change of the status leaves the status. -/
theorem exec_status (r : Robot) {op : Op} (x : Choice) (h : ∀ status, op ≠ .setStatus status) :
    (exec r op x).2.status = r.status := by
  cases op with
  | setStatus status => exact absurd rfl (h status)
  | _ => rfl

/-- A step keeps every goroutine to its announcements. -/
theorem announcing_step {p : Process} {c c' : Config} {l : Label} (hc : BusyInvariant c)
    (h : step p c l = some c') : c'.AllThreads fun _ q => ∃ announced, Announcing announced q := by
  apply Machine.step_allThreads h hc.announcing
  · intro i t _ _
    exact ⟨false, body_announces p t⟩
  · intro i x t op k r _ _ hobeys
    obtain ⟨announced, _, hk⟩ := hobeys
    exact ⟨_, hk r trivial⟩

/-- A step that withdraws no announcement of others keeps the robot busy. -/
theorem busyInvariant_step {p : Process} {c c' : Config} {l : Label} (hc : BusyInvariant c)
    (hok : WithdrawsOwn c l) (h : step p c l = some c') : BusyInvariant c' := by
  have hannouncing := announcing_step hc h
  obtain ⟨i, t, rfl, hs⟩ | ⟨i, x, t, op, k, r, rfl, hs⟩ := Machine.step_cases h
  · -- a new goroutine has not announced anything
    have hstore : c'.store = c.store := (Option.some.inj hs.accepted).symm
    refine ⟨hannouncing, ?_, ?_⟩
    · rw [hstore]
      exact hc.busy
    · intro j t' q hj hannounced
      rw [hs.threads] at hj
      rw [hstore]
      split at hj
      · cases hj
        exact absurd hannounced (Announcing.not_announced (body_announces p t))
      · exact hc.pending j t' q hj hannounced
  · have hstore : c'.store = (exec c.store op x).2 := (congrArg Prod.snd hs.effect).symm
    by_cases hwrite : ∃ status, op = .setStatus status
    · obtain ⟨status, rfl⟩ := hwrite
      have hfsm : c'.store.fsm = c.store.fsm := by rw [hstore]; rfl
      have hstatus : c'.store.status = status := by rw [hstore]; rfl
      by_cases hupdating : status = "updating"
      · subst hupdating
        exact ⟨hannouncing, fun _ => hstatus, fun _ _ _ _ _ => hstatus⟩
      · refine ⟨hannouncing, ?_, ?_⟩
        · intro hbusy
          rw [hfsm, hok.idle i x t status k rfl hs.before hupdating] at hbusy
          cases hbusy
        · intro j t' q hj hannounced
          rw [hs.threads] at hj
          split at hj
          · cases hj
            obtain ⟨announced, _, hk⟩ := hc.announcing i t _ hs.before
            have hafter : Announcing (decide (status = "updating")) (k r) := hk r trivial
            rw [decide_eq_false hupdating] at hafter
            exact absurd hannounced hafter.not_announced
          · rename_i hne
            exact absurd hannounced
              (hok.others i x t status k rfl hs.before hupdating j t' q hne hj)
    · have hwrites : ∀ status, op ≠ .setStatus status := fun status heq => hwrite ⟨status, heq⟩
      have hstatus : c'.store.status = c.store.status := by
        rw [hstore]
        exact exec_status c.store x hwrites
      refine ⟨hannouncing, ?_, ?_⟩
      · intro hbusy
        rw [hstatus]
        by_cases htrigger : ∃ event, op = .trigger event
        · obtain ⟨event, rfl⟩ := htrigger
          have hfsm : c'.store.fsm = (c.store.fsm.trigger event).2 := by rw [hstore]; rfl
          obtain ⟨-, hsame⟩ | ⟨next, hnext, -, hcurrent⟩ := c.store.fsm.trigger_cases event
          · rw [hfsm, hsame] at hbusy
            exact hc.busy hbusy
          · rw [hfsm, hcurrent] at hbusy
            rcases entry_of_busy hnext hbusy with hbefore | hentry
            · exact hc.busy hbefore
            · exact hc.pending i t _ hs.before (Or.inl hentry)
        · have hfsm : c'.store.fsm = c.store.fsm := by
            rw [hstore]
            exact exec_fsm c.store op x fun event heq => htrigger ⟨event, heq⟩
          rw [hfsm] at hbusy
          exact hc.busy hbusy
      · intro j t' q hj hannounced
        rw [hs.threads] at hj
        rw [hstatus]
        split at hj
        · cases hj
          apply hc.pending i t _ hs.before
          exact Pending.of_answer (hwrites _) trivial hannounced
        · exact hc.pending j t' q hj hannounced

/-- In every run in which a goroutine withdraws only its own announcement, a busy agent says
that it is updating. -/
theorem busy_announced {p : Process} {r : Robot} {ls : List Label} {c : Config}
    (h : run (step p) (start p r) ls = some c)
    (hok : EachStep (step p) WithdrawsOwn (start p r) ls)
    (hbusy : c.store.fsm.current.isBusy = true) : c.store.status = "updating" :=
  (run_invariant_of_eachStep (fun _ _ _ hc hok hstep => busyInvariant_step hc hok hstep)
    (busyInvariant_start p r) hok h).busy hbusy

/-- A test for {lean}`WithdrawsOwn`: the agent is not busy, and the other goroutines have run to
their end. -/
def withdrawsOwn (c : Config) : Label → Bool
  | .spawn _ _ => true
  | .step i _ =>
      match c.thread i with
      | some (_, .call (.setStatus status) _) =>
          status = "updating" || (!c.store.fsm.current.isBusy && c.restDone i)
      | _ => true

theorem withdrawsOwn_spec {c : Config} {l : Label} (h : withdrawsOwn c l = true) :
    WithdrawsOwn c l where
  idle := by
    intro i x t status k hl hi hne
    subst hl
    simp only [withdrawsOwn, hi, Bool.or_eq_true, Bool.and_eq_true, decide_eq_true_eq] at h
    have hidle := (h.resolve_left hne).1
    simpa using hidle
  others := by
    intro i x t status k hl hi hne j t' q hji hj
    subst hl
    simp only [withdrawsOwn, hi, Bool.or_eq_true, Bool.and_eq_true, decide_eq_true_eq] at h
    have hrest := (h.resolve_left hne).2
    rw [Machine.Config.restDone_spec hrest hj hji]
    exact not_pending_done _ _ _ _

/-- An update, and a rollback that is under way. -/
theorem busy_announced_in_rollback :
    ∃ c, run (step (robotProcess "r1")) (start (robotProcess "r1") (robot "r1"))
      (receive 0 (updateTo "2.0.0") 27 ++ receive 1 (rollbackTo "1.0.0") 2) = some c ∧
      c.store.fsm.current = .rollingBack ∧ c.store.status = "updating" := by
  obtain ⟨c, h, hstate⟩ := endsWith_eq_true
    (show endsWith (step (robotProcess "r1")) (start (robotProcess "r1") (robot "r1"))
      (receive 0 (updateTo "2.0.0") 27 ++ receive 1 (rollbackTo "1.0.0") 2)
      (fun c => c.store.fsm.current = .rollingBack) = true by decide +kernel)
  have hrolling : c.store.fsm.current = .rollingBack := by simpa using hstate
  refine ⟨c, h, hrolling, busy_announced h ?_ ?_⟩
  · exact EachStep.of_eachStep (fun _ _ => withdrawsOwn_spec) (by decide +kernel)
  · rw [hrolling]
    rfl

/-- A robot that is welding refuses an update.  A rollback arrives while it is about to recover;
the recovery is rejected, but it takes the announcement of the rollback back. -/
theorem busy_withdrawn :
    ∃ c, run (step (robotProcess "r1"))
      (start (robotProcess "r1") { robot "r1" with configuredActivity := "welding" })
      (receive 0 (updateTo "2.0.0") 5 ++ receive 1 (rollbackTo "1.0.0") 2 ++ resume 0 2) = some c ∧
      c.store.fsm.current = .rollingBack ∧ c.store.status = "online" := by
  obtain ⟨c, h, hend⟩ := endsWith_eq_true
    (show endsWith (step (robotProcess "r1"))
      (start (robotProcess "r1") { robot "r1" with configuredActivity := "welding" })
      (receive 0 (updateTo "2.0.0") 5 ++ receive 1 (rollbackTo "1.0.0") 2 ++ resume 0 2)
      (fun c => c.store.fsm.current = .rollingBack && c.store.status = "online") = true by
        decide +kernel)
  simp only [Bool.and_eq_true, decide_eq_true_eq] at hend
  exact ⟨c, h, hend.1, hend.2⟩

end OtaRobot.Agent
