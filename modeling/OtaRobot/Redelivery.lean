import OtaRobot.Agent.Commands
import OtaRobot.Library.Erasure
import OtaRobot.Rollout.Callbacks
import OtaRobot.System

/-!
# Commands that are delivered again

A command may be delivered again while its first copy is being handled.  What the handler of such
a delivery publishes is answered by callbacks like any other report.  The run without the
redeliveries is the run without all of these steps; a duplicate is harmless when both runs end
with the same failures, rollbacks and versions.

Main results:

- Theorem {lit}`copied_step`: what the callbacks for a duplicate are up to.
- Theorem {lit}`lockstep_silent` and {lit}`lockstep_visible`: both runs in lockstep.
- Theorem {lit}`redelivery_harmless`: a duplicate whose command is rejected, and whose reports find
  nothing to change, is harmless.
-/

namespace OtaRobot.System

open Transition Prog

/-! ## Two runs -/

/-- Callback {lit}`i` handles a report that the handler of a repeated delivery has sent. -/
def fromCopy (s : State) (i : Nat) : Bool :=
  match s.senders i with
  | some (d, j) => s.copies d j
  | none => false

/-- The report was sent by the handler of a first delivery. -/
def Report.isFirst {ε : Type} (copies : Nat → Bool) (report : Report ε) : Bool :=
  !copies report.sender

/-- The oldest report of a topic was sent by the handler of a repeated delivery. -/
def oldestOfCopy {ε : Type} (copies : Nat → Bool) : List (Report ε) → Bool
  | [] => false
  | report :: _ => copies report.sender

/-- The step is a repeated delivery, or one of its handler or of a callback for its reports. -/
def ofCopy (s : State) : Label → Bool
  | .redeliver _ _ _ => true
  | .agent d i _ => s.copies d i
  | .plane (.step i _) => fromCopy s i
  | .progress d _ => oldestOfCopy (s.copies d) (s.progress d)
  | .error d _ => oldestOfCopy (s.copies d) (s.errors d)
  | _ => false

/-- The labels of the run without the repeated deliveries. -/
def deliveredOnce (procs : DeviceID → Agent.Process) (s : State) (ls : List Label) : List Label :=
  erase (step procs) ofCopy s ls

/-- What duplicates must not change: the run with them has no other failed row and no other
failure, has rolled back nothing else, and leaves the same versions. -/
structure SameOutcome (s t : State) : Prop where
  failed : ∀ row ∈ s.plane.store.db.deploymentDevices, row.status = "failed" →
    ∃ row' ∈ t.plane.store.db.deploymentDevices, row'.deploymentID = row.deploymentID ∧
      row'.deviceID = row.deviceID ∧ row'.status = "failed"
  failures : ∀ id, (s.plane.store.db.deployment id).map Deployment.failureCount =
    (t.plane.store.db.deployment id).map Deployment.failureCount
  rolledBack : ∀ id, ControlPlane.status s.plane id = some .rolledBack ↔
    ControlPlane.status t.plane id = some .rolledBack
  rollbacks : ∀ d, ∀ packet ∈ s.commands d, packet.cmd.isUpdate = false → packet ∈ t.commands d
  versions : ∀ d, (s.agents d).store.currentVersion = (t.agents d).store.currentVersion

/-- The deployment table is empty at first, and one deployment is created at most. -/
def SingleDeployment (db : Db) (ls : List Label) : Prop :=
  db.deployments.rows = [] ∧ db.deploymentDevices = [] ∧
    (ls.filter fun l => match l with
      | .plane (.spawn _ (.createDeployment _)) => true
      | _ => false).length ≤ 1

/-- The state machine rejects what the handler of a duplicate triggers, and the version it sets
is the current one.  The report of a duplicate finds no active row; or an error report finds a
closed row, and a progress report other than a success finds the row as it would write it. -/
structure Harmless (s : State) (l : Label) : Prop where
  trigger : ∀ d i x routine event k, l = .agent d i x → s.copies d i = true →
    (s.agents d).thread i = some (routine, .call (.trigger event) k) →
    Agent.transitions (s.agents d).store.fsm.current event = none
  version : ∀ d i x routine v k, l = .agent d i x → s.copies d i = true →
    (s.agents d).thread i = some (routine, .call (.setCurrentVersion v) k) →
    v = (s.agents d).store.currentVersion
  error : ∀ i x event d k row, l = .plane (.step i x) → fromCopy s i = true →
    s.plane.thread i = some (.error event, .call (.sql (.getActiveDeploymentDeviceByDevice d)) k) →
    x.fault = false → s.plane.store.db.activeRow d = some row →
    row.status = "success" ∨ row.status = "failed"
  success : ∀ i x event d k, l = .plane (.step i x) → fromCopy s i = true →
    s.plane.thread i =
      some (.progress event, .call (.sql (.getActiveDeploymentDeviceByDevice d)) k) →
    x.fault = false → event.status = "success" → s.plane.store.db.activeRow d = none
  progress : ∀ i x call p k, l = .plane (.step i x) → fromCopy s i = true →
    s.plane.thread i = some (call, .call (.sql (.updateDeploymentDeviceStatus p)) k) →
    x.fault = false → ∀ row ∈ s.plane.store.db.deploymentDevices, p.selects row = true →
    p.set row = row

/-! ## What the handler of a command does to the robot -/

/-- The robot without its status. -/
def unstatused (r : Agent.Robot) : Agent.Robot :=
  { r with status := "" }

section

variable {r r' : Agent.Robot} {op : Agent.Op} {x : Agent.Choice}

/-- A handler that is rejected and sets the current version changes the status at most. -/
theorem exec_rejected (hop : op.isCommandOp = true)
    (htrigger : ∀ event, op = .trigger event → Agent.transitions r.fsm.current event = none)
    (hversion : ∀ v, op = .setCurrentVersion v → v = r.currentVersion) :
    unstatused (Agent.exec r op x).2 = unstatused r := by
  cases op with
  | trigger event =>
      have hrejected := (Agent.StateMachine.trigger_rejected (htrigger event rfl)).2
      simp only [Agent.exec, hrejected]
  | setCurrentVersion v => simp only [Agent.exec, hversion v rfl]
  | readVersion | readStatus | setActivity | setBattery | setCharging | publishStatus =>
      cases hop
  | _ => rfl

/-- A handler does not see the status. -/
theorem exec_status (hop : op.isCommandOp = true) (hr : unstatused r' = unstatused r) :
    (Agent.exec r' op x).1 = (Agent.exec r op x).1 ∧
      unstatused (Agent.exec r' op x).2 = unstatused (Agent.exec r op x).2 := by
  obtain ⟨fsm, currentVersion, status, isAGV, currentBattery, isCharging, activity⟩ := r
  obtain ⟨fsm', currentVersion', status', isAGV', currentBattery', isCharging', activity'⟩ := r'
  simp only [unstatused, Agent.Robot.mk.injEq] at hr
  obtain ⟨rfl, rfl, -, rfl, rfl, rfl, rfl⟩ := hr
  cases op with
  | readVersion | readStatus | setActivity | setBattery | setCharging | publishStatus =>
      cases hop
  | _ => exact ⟨rfl, rfl⟩

end

/-! ## What a callback for a duplicate is up to -/

/-- A callback for a report of a duplicate: before its lookup, before the update of a row, or
before its return. -/
inductive Answering : Call → Rollout Unit → Prop
  | progress (event : DeviceProgressEvent) :
      Answering (.progress event) (ControlPlane.body (.progress event))
  | error (event : DeviceErrorEvent) :
      Answering (.error event) (ControlPlane.body (.error event))
  | row (event : DeviceProgressEvent) (row : DeploymentDevice)
      (hstatus : event.status ≠ "success") :
      Answering (.progress event) (ControlPlane.callback (progressOnRow event row))
  | returning (call : Call) (hcall : call.isCallback = true) : Answering call callbackReturn
  | returned (call : Call) (hcall : call.isCallback = true) : Answering call (.done ())

/-- Who answers is a callback. -/
theorem Answering.isCallback {call : Call} {p : Rollout Unit} (h : Answering call p) :
    call.isCallback = true := by
  cases h with
  | progress | error | row => rfl
  | returning _ hcall | returned _ hcall => exact hcall

/-- What is known of handlers, reports and callbacks. -/
structure Copied (s : State) : Prop where
  serial : ControlPlane.Serial s.plane
  commanded : ∀ d, (s.agents d).AllThreads fun _ p => Agent.Commanded p
  copies : ∀ d i, s.copies d i = true → (s.agents d).thread i ≠ none
  progress : ∀ d, ∀ report ∈ s.progress d, (s.agents d).thread report.sender ≠ none
  errors : ∀ d, ∀ report ∈ s.errors d, (s.agents d).thread report.sender ≠ none
  senders : ∀ i d j, s.senders i = some (d, j) →
    s.plane.thread i ≠ none ∧ (s.agents d).thread j ≠ none
  callbacks : ∀ i call p, fromCopy s i = true → s.plane.thread i = some (call, p) →
    Answering call p

/-- The state {lit}`t` of the run without the repeated deliveries. -/
structure Lockstep (s t : State) : Prop where
  db : t.plane.store.db = s.plane.store.db
  goroutines : t.plane.store.goroutines = s.plane.store.goroutines
  busy : t.plane.store.mqttBusy = true → s.plane.store.mqttBusy = true ∧
    ∀ i, fromCopy s i = true → ¬ ControlPlane.Running s.plane i
  threads : ∀ i, t.plane.thread i = if fromCopy s i = true then none else s.plane.thread i
  robots : ∀ d, unstatused (t.agents d).store = unstatused (s.agents d).store
  handlers : ∀ d i, (t.agents d).thread i =
    if s.copies d i = true then none else (s.agents d).thread i
  commands : t.commands = s.commands
  progress : ∀ d, t.progress d = (s.progress d).filter (Report.isFirst (s.copies d))
  errors : ∀ d, t.errors d = (s.errors d).filter (Report.isFirst (s.copies d))

/-- An update that writes what is there changes nothing. -/
theorem updateDeploymentDeviceStatus_same {db : Db} {p : UpdateDeploymentDeviceStatusParams}
    (h : ∀ row ∈ db.deploymentDevices, p.selects row = true → p.set row = row) :
    (db.updateDeploymentDeviceStatus p).2 = db := by
  have hrows : (db.deploymentDevices.map fun row => if p.selects row then p.set row else row) =
      db.deploymentDevices.map id := by
    apply List.map_congr_left
    intro row hrow
    by_cases hselects : p.selects row = true
    · rw [if_pos hselects]
      exact h row hrow hselects
    · rw [if_neg hselects]
      rfl
  rw [List.map_id] at hrows
  simp only [Db.updateDeploymentDeviceStatus, hrows]

section

variable {s t : State} {c' : ControlPlane.Config} {i : Nat} {x : Choice} {call : Call}
  {op : Op} {k : op.Ret → Rollout Unit} {r : op.Ret}

/-- What a callback for a duplicate leaves alone in one operation. -/
structure Undisturbed (s : State) (store : Store) (i : Nat) (x : Choice) : Prop where
  db : store.db = s.plane.store.db
  goroutines : store.goroutines = s.plane.store.goroutines
  unsent : sentCommand s.plane (.step i x) = none

/-- A lookup changes nothing; it fails, or answers with the newest active row. -/
theorem lookup_executed {d : DeviceID} {k : Option DeploymentDevice → Rollout Unit}
    {r : Option DeploymentDevice}
    (hs : ControlPlane.machine.Executed s.plane c' i x call
      (.sql (.getActiveDeploymentDeviceByDevice d)) k r) :
    Undisturbed s c'.store i x ∧
      (r = none ∨ (x.fault = false ∧ r = s.plane.store.db.activeRow d)) := by
  have hthread := hs.before
  obtain ⟨hr, hstore⟩ := ControlPlane.executed_answer hs
  rw [ControlPlane.exec_sql] at hr hstore
  by_cases hfault : x.fault = true
  · rw [if_pos hfault] at hr hstore
    refine ⟨⟨?_, ?_, ?_⟩, Or.inl hr⟩
    · rw [hstore]
    · rw [hstore]
    · rw [sentCommand, hthread]
  · rw [if_neg hfault] at hr hstore
    refine ⟨⟨?_, ?_, ?_⟩, Or.inr ⟨by simpa using hfault, hr⟩⟩
    · rw [hstore]
      rfl
    · rw [hstore]
    · rw [sentCommand, hthread]

/-- A callback for a duplicate changes nothing, and goes on as one. -/
theorem answering_executed (hh : Harmless s (.plane (.step i x))) (hcopy : fromCopy s i = true)
    (hs : ControlPlane.machine.Executed s.plane c' i x call op k r)
    (ha : Answering call (.call op k)) :
    Answering call (k r) ∧ Undisturbed s c'.store i x := by
  obtain ⟨hr, hstore⟩ := ControlPlane.executed_answer hs
  have hthread := hs.before
  generalize hp : Prog.call op k = p at ha
  cases ha with
  | progress event =>
      cases hp
      obtain ⟨hundisturbed, hanswer⟩ := lookup_executed hs
      refine ⟨?_, hundisturbed⟩
      cases (r : Option DeploymentDevice) with
      | none => exact .returning _ rfl
      | some row =>
          rcases hanswer with hnone | ⟨hfault, hrow⟩
          · cases hnone
          · apply Answering.row event row
            intro hsuccess
            have hnone := hh.success i x event _ _ rfl hcopy hthread hfault hsuccess
            rw [← hrow] at hnone
            cases hnone
  | error event =>
      cases hp
      obtain ⟨hundisturbed, hanswer⟩ := lookup_executed hs
      refine ⟨?_, hundisturbed⟩
      cases (r : Option DeploymentDevice) with
      | none => exact .returning _ rfl
      | some row =>
          rcases hanswer with hnone | ⟨hfault, hrow⟩
          · cases hnone
          · have hclosed := hh.error i x event _ _ row rfl hcopy hthread hfault hrow.symm
            have hdone : errorOnRow event row = pure (.ok ()) := by
              unfold errorOnRow
              exact if_pos hclosed
            show Answering _ (errorOnRow event row >>= fun _ => callbackReturn)
            rw [hdone]
            exact .returning _ rfl
  | row event row hstatus =>
      cases hp
      have hsame : x.fault = false → _ := fun hfault =>
        updateDeploymentDeviceStatus_same (hh.progress i x _ _ _ rfl hcopy hthread hfault)
      have hundisturbed : Undisturbed s c'.store i x := by
        constructor
        · rw [hstore, ControlPlane.exec_sql]
          by_cases hfault : x.fault = true
          · rw [if_pos hfault]
          · rw [if_neg hfault]
            exact hsame (by simpa using hfault)
        · rw [hstore, ControlPlane.exec_sql]
          split <;> rfl
        · rw [sentCommand, hthread]
      refine ⟨?_, hundisturbed⟩
      cases (r : Option DeploymentDevice) with
      | none => exact .returning _ rfl
      | some updated =>
          show Answering _ ((if event.status = "success" ∧ event.progress = 100 then
            creditSuccess event row else pure (.ok ())) >>= fun _ => callbackReturn)
          rw [if_neg fun h => hstatus h.1]
          exact .returning _ rfl
  | returning _ hcall =>
      cases hp
      refine ⟨.returned _ hcall, ?_, ?_, ?_⟩
      · rw [hstore]
        rfl
      · rw [hstore]
        rfl
      · rw [sentCommand, hthread]
  | returned => cases hp

end

/-! ## Who sent what -/

section

variable {procs : DeviceID → Agent.Process} {s s' t : State} {d : DeviceID} {i : Nat}

/-- Nothing is delivered at the start. -/
theorem copied_start (procs : DeviceID → Agent.Process) (robots : DeviceID → Agent.Robot)
    (db : Db) : Copied (start procs robots db) where
  serial := ControlPlane.serial_start db
  commanded _ := Machine.allThreads_initial _ _
  copies _ _ h := by cases h
  progress _ _ h := by cases h
  errors _ _ h := by cases h
  senders _ _ _ h := by cases h
  callbacks _ _ _ h := by cases h

/-- Whose report a callback handles depends on the senders and the copies only. -/
theorem fromCopy_eq (hsenders : s'.senders = s.senders) (hcopies : s'.copies = s.copies) (i : Nat) :
    fromCopy s' i = fromCopy s i := by
  rw [fromCopy, fromCopy, hsenders, hcopies]

/-- A command of the control plane is an update or a rollback. -/
theorem parsed_action (packet : Packet) :
    packet.parsed.action = "update" ∨ packet.parsed.action = "rollback" := by
  unfold Packet.parsed
  split
  · exact Or.inl rfl
  · exact Or.inr rfl

/-- A copy is marked when it is delivered. -/
def markCopy (copies : DeviceID → Nat → Bool) (d : DeviceID) (i : Nat) : DeviceID → Nat → Bool :=
  Function.update copies d (Function.update (copies d) i true)

/-- The marks after one more. -/
theorem markCopy_apply (copies : DeviceID → Nat → Bool) (d : DeviceID) (i : Nat) (d' : DeviceID)
    (j : Nat) : markCopy copies d i d' j = if d' = d ∧ j = i then true else copies d' j := by
  unfold markCopy
  by_cases hd : d' = d
  · subst hd
    rw [Function.update_self]
    by_cases hj : j = i
    · subst hj
      simp
    · rw [Function.update_of_ne hj]
      simp [hj]
  · rw [Function.update_of_ne hd]
    simp [hd]

/-- A new mark is about a new handler. -/
theorem fromCopy_markCopy (hc : Copied s) (hfresh : (s.agents d).thread i = none)
    (hsenders : s'.senders = s.senders) (hcopies : s'.copies = markCopy s.copies d i) (j : Nat) :
    fromCopy s' j = fromCopy s j := by
  rw [fromCopy, fromCopy, hsenders]
  cases hsender : s.senders j with
  | none => rfl
  | some sender =>
      obtain ⟨d', k⟩ := sender
      dsimp only
      rw [hcopies, markCopy_apply, if_neg]
      rintro ⟨rfl, rfl⟩
      exact (hc.senders j d' k hsender).2 hfresh

/-- The first reports of a topic are the same after a new delivery. -/
theorem filter_markCopy {ε : Type} {reports : List (Report ε)} {c : Agent.Config}
    {copies : DeviceID → Nat → Bool} {d' : DeviceID}
    (hsenders : ∀ report ∈ reports, d' = d → c.thread report.sender ≠ none)
    (hfresh : c.thread i = none) :
    reports.filter (Report.isFirst (markCopy copies d i d')) =
      reports.filter (Report.isFirst (copies d')) := by
  apply List.filter_congr
  intro report hreport
  rw [Report.isFirst, Report.isFirst, markCopy_apply, if_neg]
  rintro ⟨hd, hi⟩
  exact hsenders report hreport hd (hi ▸ hfresh)

/-- The agent of one robot has taken a step. -/
theorem agents_thread_ne_none {c : Agent.Config} {l : Agent.Label}
    (hc : Agent.step (procs d) (s.agents d) l = some c) {d' : DeviceID} {j : Nat}
    (hj : (s.agents d').thread j ≠ none) :
    (Function.update s.agents d c d').thread j ≠ none := by
  by_cases hd : d' = d
  · subst hd
    rw [Function.update_self]
    exact Machine.step_thread_ne_none hc hj
  · rw [Function.update_of_ne hd]
    exact hj

/-- A step of a robot runs handlers of delivered commands. -/
theorem commanded_agent {c : Agent.Config} {l : Agent.Label} (hs : Copied s)
    (hc : Agent.step (procs d) (s.agents d) l = some c)
    (hl : ∀ j routine, l = .spawn j routine → ∃ packet : Packet, routine = .command packet.parsed)
    (d' : DeviceID) : (Function.update s.agents d c d').AllThreads fun _ p => Agent.Commanded p := by
  by_cases hd : d' = d
  · subst hd
    rw [Function.update_self]
    apply Machine.step_allThreads hc (hs.commanded d')
    · intro j routine hspawn _
      obtain ⟨packet, rfl⟩ := hl j routine hspawn
      exact Agent.command_ops (procs d') packet.parsed (parsed_action packet)
    · intro j x routine op k r _ _ hcall
      exact hcall.2 r trivial
  · rw [Function.update_of_ne hd]
    exact hs.commanded d'

/-- A handler was started for a command. -/
theorem copied_handler {c : Agent.Config} {packet : Packet} (hs : Copied s)
    (hc : Agent.step (procs d) (s.agents d) (.spawn i (.command packet.parsed)) = some c)
    (hagents : s'.agents = Function.update s.agents d c) (hplane : s'.plane = s.plane)
    (hsenders : s'.senders = s.senders) (hprogress : s'.progress = s.progress)
    (herrors : s'.errors = s.errors)
    (hcopies : s'.copies = s.copies ∨ s'.copies = markCopy s.copies d i) : Copied s' := by
  have hspawned : (Agent.machine (procs d)).Spawned (s.agents d) c i (.command packet.parsed) :=
    Machine.spawned_of_step hc
  have hmono : ∀ d' j, (s.agents d').thread j ≠ none → (s'.agents d').thread j ≠ none := by
    intro d' j hj
    rw [hagents]
    exact agents_thread_ne_none hc hj
  have hfrom : ∀ j, fromCopy s' j = fromCopy s j := by
    rcases hcopies with hcopies | hcopies
    · exact fromCopy_eq hsenders hcopies
    · exact fromCopy_markCopy hs hspawned.fresh hsenders hcopies
  constructor
  · rw [hplane]
    exact hs.serial
  · rw [hagents]
    apply commanded_agent hs hc
    intro j routine hl
    exact ⟨packet, (Machine.Label.spawn.inj hl).2.symm⟩
  · intro d' j hj
    rcases hcopies with hcopies | hcopies
    · rw [hcopies] at hj
      exact hmono d' j (hs.copies d' j hj)
    · rw [hcopies, markCopy_apply] at hj
      by_cases hnew : d' = d ∧ j = i
      · obtain ⟨rfl, rfl⟩ := hnew
        rw [hagents, Function.update_self, hspawned.threads, if_pos rfl]
        simp
      · rw [if_neg hnew] at hj
        exact hmono d' j (hs.copies d' j hj)
  · intro d' report hreport
    rw [hprogress] at hreport
    exact hmono d' _ (hs.progress d' report hreport)
  · intro d' report hreport
    rw [herrors] at hreport
    exact hmono d' _ (hs.errors d' report hreport)
  · intro j d' k hsender
    rw [hsenders] at hsender
    rw [hplane]
    exact ⟨(hs.senders j d' k hsender).1, hmono d' k (hs.senders j d' k hsender).2⟩
  · intro j call p hj hthread
    rw [hfrom] at hj
    rw [hplane] at hthread
    exact hs.callbacks j call p hj hthread

/-- What a goroutine of an agent has sent names it. -/
theorem sentProgress_sender {op : Option Agent.Op} {report : Report DeviceProgressEvent}
    (h : sentProgress d i op = some report) : report.sender = i := by
  unfold sentProgress at h
  split at h
  · rw [← Option.some.inj h]
  · cases h

/-- A report names its sender. -/
theorem sentError_sender {op : Option Agent.Op} {report : Report DeviceErrorEvent}
    (h : sentError d i op = some report) : report.sender = i := by
  unfold sentError at h
  split at h
  · rw [← Option.some.inj h]
  · cases h

/-- A step of a robot keeps track of the copies. -/
theorem copied_agent {x : Agent.Choice} (hs : Copied s)
    (h : step procs s (.agent d i x) = some s') : Copied s' := by
  obtain ⟨c, hc, rfl⟩ := step_agent h
  have hrunning : (s.agents d).thread i ≠ none := by
    obtain ⟨routine, op, k, r, hx⟩ := Machine.executed_of_step hc
    simp [hx.before]
  constructor
  · exact hs.serial
  · apply commanded_agent hs hc
    intro j routine hl
    cases hl
  · intro d' j hj
    exact agents_thread_ne_none hc (hs.copies d' j hj)
  · intro d' report hreport
    apply agents_thread_ne_none hc
    rcases mem_send hreport with hbefore | hsent
    · exact hs.progress d' report hbefore
    · obtain ⟨m, hm, heq⟩ := Option.map_eq_some_iff.mp hsent
      obtain ⟨rfl, rfl⟩ := Prod.mk.inj heq
      rw [sentProgress_sender hm]
      exact hrunning
  · intro d' report hreport
    apply agents_thread_ne_none hc
    rcases mem_send hreport with hbefore | hsent
    · exact hs.errors d' report hbefore
    · obtain ⟨m, hm, heq⟩ := Option.map_eq_some_iff.mp hsent
      obtain ⟨rfl, rfl⟩ := Prod.mk.inj heq
      rw [sentError_sender hm]
      exact hrunning
  · intro j d' k hsender
    exact ⟨(hs.senders j d' k hsender).1,
      agents_thread_ne_none hc (hs.senders j d' k hsender).2⟩
  · exact hs.callbacks

/-- A harmless step of the control plane keeps track of the copies. -/
theorem copied_plane {l : ControlPlane.Label} (hs : Copied s) (hh : Harmless s (.plane l))
    (h : step procs s (.plane l) = some s') : Copied s' := by
  obtain ⟨-, plane, hplane, rfl⟩ := step_plane h
  refine ⟨ControlPlane.serial_step hs.serial hplane, hs.commanded, hs.copies, hs.progress,
    hs.errors, ?_, ?_⟩
  · intro j d' k hsender
    obtain ⟨hthread, hagent⟩ := hs.senders j d' k hsender
    exact ⟨Machine.step_thread_ne_none hplane hthread, hagent⟩
  · intro j call p hcopy hthread
    change fromCopy s j = true at hcopy
    change plane.thread j = some (call, p) at hthread
    have hbefore : s.plane.thread j ≠ none := by
      unfold fromCopy at hcopy
      split at hcopy
      · rename_i d' k hsender
        exact (hs.senders j d' k hsender).1
      · cases hcopy
    obtain ⟨i, tag, rfl, hx⟩ | ⟨i, x, tag, op, k, r, rfl, hx⟩ := Machine.step_cases hplane
    · rw [hx.threads] at hthread
      split at hthread
      · rename_i hji
        exact absurd (hji ▸ hx.fresh) hbefore
      · exact hs.callbacks j call p hcopy hthread
    · rw [hx.threads] at hthread
      split at hthread
      · rename_i hji
        subst hji
        obtain ⟨rfl, rfl⟩ := Prod.mk.inj (Option.some.inj hthread)
        exact (answering_executed hh hcopy hx (hs.callbacks j tag _ hcopy hx.before)).1
      · exact hs.callbacks j call p hcopy hthread

/-- What is left in the topics was there before the oldest report was taken. -/
theorem mem_of_taken {ε : Type} {topics : DeviceID → List ε} {m : ε} {rest : List ε}
    (htopic : topics d = m :: rest) {d' : DeviceID} {m' : ε}
    (h : m' ∈ Function.update topics d rest d') : m' ∈ topics d' := by
  by_cases hd : d' = d
  · subst hd
    rw [Function.update_self] at h
    rw [htopic]
    exact List.mem_cons_of_mem _ h
  · rwa [Function.update_of_ne hd] at h

/-- Which callbacks answer duplicates, after one more was started. -/
theorem fromCopy_callback {sender : Nat}
    (hsenders : s'.senders = Function.update s.senders i (some (d, sender)))
    (hcopies : s'.copies = s.copies) (j : Nat) :
    fromCopy s' j = if j = i then s.copies d sender else fromCopy s j := by
  rw [fromCopy, hsenders, hcopies]
  by_cases hji : j = i
  · subst hji
    rw [Function.update_self, if_pos rfl]
  · rw [Function.update_of_ne hji, if_neg hji]
    rfl

/-- A callback was started for a report. -/
theorem copied_callback {call : Call} {plane : ControlPlane.Config} {sender : Nat}
    (hs : Copied s) (hcall : Answering call (ControlPlane.body call))
    (hplane : ControlPlane.step s.plane (.spawn i call) = some plane)
    (hsender : (s.agents d).thread sender ≠ none) (hstate : s'.plane = plane)
    (hsenders : s'.senders = Function.update s.senders i (some (d, sender)))
    (hagents : s'.agents = s.agents) (hcopies : s'.copies = s.copies)
    (hprogress : ∀ d', ∀ report ∈ s'.progress d', report ∈ s.progress d')
    (herrors : ∀ d', ∀ report ∈ s'.errors d', report ∈ s.errors d') : Copied s' := by
  have hspawned : ControlPlane.machine.Spawned s.plane plane i call :=
    Machine.spawned_of_step hplane
  have hfrom := fromCopy_callback hsenders hcopies
  constructor
  · rw [hstate]
    exact ControlPlane.serial_step hs.serial hplane
  · rw [hagents]
    exact hs.commanded
  · rw [hagents, hcopies]
    exact hs.copies
  · intro d' report hreport
    rw [hagents]
    exact hs.progress d' report (hprogress d' report hreport)
  · intro d' report hreport
    rw [hagents]
    exact hs.errors d' report (herrors d' report hreport)
  · intro j d' k hj
    rw [hsenders] at hj
    rw [hstate, hagents]
    by_cases hji : j = i
    · subst hji
      rw [Function.update_self] at hj
      obtain ⟨rfl, rfl⟩ := Prod.mk.inj (Option.some.inj hj)
      rw [hspawned.threads, if_pos rfl]
      exact ⟨by simp, hsender⟩
    · rw [Function.update_of_ne hji] at hj
      obtain ⟨hthread, hagent⟩ := hs.senders j d' k hj
      exact ⟨Machine.step_thread_ne_none hplane hthread, hagent⟩
  · intro j call' p hj hthread
    rw [hfrom] at hj
    rw [hstate, hspawned.threads] at hthread
    by_cases hji : j = i
    · rw [if_pos hji] at hthread
      obtain ⟨rfl, rfl⟩ := Prod.mk.inj (Option.some.inj hthread)
      exact hcall
    · rw [if_neg hji] at hj hthread
      exact hs.callbacks j call' p hj hthread

/-- What the callbacks for a duplicate are up to. -/
theorem copied_step {l : Label} (hs : Copied s) (hh : Harmless s l)
    (h : step procs s l = some s') : Copied s' := by
  cases l with
  | plane l => exact copied_plane hs hh h
  | deliver d i =>
      obtain ⟨packet, rest, c, -, hc, rfl⟩ := step_deliver h
      exact copied_handler hs hc rfl rfl rfl rfl rfl (Or.inl rfl)
  | redeliver d j i =>
      obtain ⟨packet, c, -, -, hc, rfl⟩ := step_redeliver h
      exact copied_handler hs hc rfl rfl rfl rfl rfl (Or.inr rfl)
  | agent d i x => exact copied_agent hs h
  | progress d i =>
      obtain ⟨report, rest, plane, htopic, hplane, rfl⟩ := step_progress h
      have hsender := hs.progress d report (by simp [htopic])
      refine copied_callback hs (.progress _) hplane hsender rfl rfl rfl rfl ?_ ?_
      · intro d' report' hreport'
        exact mem_of_taken htopic hreport'
      · intro d' report' hreport'
        exact hreport'
  | error d i =>
      obtain ⟨report, rest, plane, htopic, hplane, rfl⟩ := step_error h
      have hsender := hs.errors d report (by simp [htopic])
      refine copied_callback hs (.error _) hplane hsender rfl rfl rfl rfl ?_ ?_
      · intro d' report' hreport'
        exact hreport'
      · intro d' report' hreport'
        exact mem_of_taken htopic hreport'

/-! ## Lockstep -/

theorem lockstep_start (robots : DeviceID → Agent.Robot) (db : Db) :
    Lockstep (start procs robots db) (start procs robots db) where
  db := rfl
  goroutines := rfl
  busy h := by cases h
  threads _ := rfl
  robots _ := rfl
  handlers _ _ := rfl
  commands := rfl
  progress _ := rfl
  errors _ := rfl

/-- What is left out does not show. -/
theorem filter_send_dropped {γ : Type} {p : DeviceID → γ → Bool} {topics : DeviceID → List γ}
    {sent : Option γ} (hsent : ∀ m, sent = some m → p d m = false) (d' : DeviceID) :
    (send topics (sent.map fun m => (d, m)) d').filter (p d') = (topics d').filter (p d') := by
  cases sent with
  | none => rfl
  | some m =>
      show (Function.update topics d (topics d ++ [m]) d').filter (p d') = _
      by_cases hd : d' = d
      · subst hd
        rw [Function.update_self, List.filter_append]
        simp [hsent m rfl]
      · rw [Function.update_of_ne hd]

/-- What is kept is sent in both runs. -/
theorem filter_send_kept {γ : Type} {p : DeviceID → γ → Bool} {topics topics' : DeviceID → List γ}
    {sent : Option γ} (hsent : ∀ m, sent = some m → p d m = true)
    (htopics : ∀ d', topics' d' = (topics d').filter (p d')) (d' : DeviceID) :
    send topics' (sent.map fun m => (d, m)) d' =
      (send topics (sent.map fun m => (d, m)) d').filter (p d') := by
  cases sent with
  | none => exact htopics d'
  | some m =>
      show Function.update topics' d (topics' d ++ [m]) d' =
        (Function.update topics d (topics d ++ [m]) d').filter (p d')
      by_cases hd : d' = d
      · subst hd
        rw [Function.update_self, Function.update_self, List.filter_append, htopics]
        simp [hsent m rfl]
      · rw [Function.update_of_ne hd, Function.update_of_ne hd]
        exact htopics d'

/-- A handler of an agent executes one operation. -/
theorem agent_executed {c : Agent.Config} {x : Agent.Choice}
    (hc : Agent.step (procs d) (s.agents d) (.step i x) = some c) :
    ∃ routine op k r, (Agent.machine (procs d)).Executed (s.agents d) c i x routine op k r ∧
      nextOp (s.agents d) i = some op := by
  obtain ⟨routine, op, k, r, hx⟩ := Machine.executed_of_step hc
  exact ⟨routine, op, k, r, hx, by rw [nextOp, hx.before]⟩

/-- A handler of a duplicate goes on. -/
theorem lockstep_agent_silent {x : Agent.Choice} (hL : Lockstep s t) (hs : Copied s)
    (hh : Harmless s (.agent d i x)) (hcopy : s.copies d i = true)
    (h : step procs s (.agent d i x) = some s') : Lockstep s' t := by
  obtain ⟨c, hc, rfl⟩ := step_agent h
  obtain ⟨routine, op, k, r, hx, hop⟩ := agent_executed hc
  have heffect : Agent.exec (s.agents d).store op x = (r, c.store) := hx.effect
  have hcommand : op.isCommandOp = true := (hs.commanded d i _ _ hx.before).1
  have hunchanged : unstatused c.store = unstatused (s.agents d).store := by
    have hexec := exec_rejected (r := (s.agents d).store) (x := x) hcommand
      (fun event hevent => by
        subst hevent
        exact hh.trigger d i x routine event k rfl hcopy hx.before)
      (fun v hv => by
        subst hv
        exact hh.version d i x routine v k rfl hcopy hx.before)
    rwa [heffect] at hexec
  constructor
  · exact hL.db
  · exact hL.goroutines
  · exact hL.busy
  · exact hL.threads
  · intro d'
    dsimp only
    by_cases hd : d' = d
    · subst hd
      rw [Function.update_self, hunchanged]
      exact hL.robots d'
    · rw [Function.update_of_ne hd]
      exact hL.robots d'
  · intro d' j
    rw [hL.handlers]
    dsimp only
    by_cases hd : d' = d
    · subst hd
      rw [Function.update_self]
      by_cases hj : s.copies d' j = true
      · rw [if_pos hj, if_pos hj]
      · have hne : j ≠ i := by
          intro hji
          exact hj (hji ▸ hcopy)
        rw [if_neg hj, if_neg hj, hx.threads, if_neg hne]
    · rw [Function.update_of_ne hd]
  · exact hL.commands
  · intro d'
    rw [hL.progress]
    refine (filter_send_dropped (p := fun d' => Report.isFirst (s.copies d')) ?_ d').symm
    intro report hreport
    simp [Report.isFirst, sentProgress_sender hreport, hcopy]
  · intro d'
    rw [hL.errors]
    refine (filter_send_dropped (p := fun d' => Report.isFirst (s.copies d')) ?_ d').symm
    intro report hreport
    simp [Report.isFirst, sentError_sender hreport, hcopy]

/-- A robot keeps its variables when a handler is started. -/
theorem spawned_store {p : Agent.Process} {c c' : Agent.Config} {routine : Agent.Routine}
    (hx : (Agent.machine p).Spawned c c' i routine) : c'.store = c.store := by
  have haccept : some c.store = some c'.store := hx.accepted
  exact (Option.some.inj haccept).symm

/-- A duplicate is delivered. -/
theorem lockstep_redeliver {j : Nat} (hL : Lockstep s t) (hs : Copied s)
    (h : step procs s (.redeliver d j i) = some s') : Lockstep s' t := by
  obtain ⟨packet, c, -, -, hc, rfl⟩ := step_redeliver h
  have hx := Machine.spawned_of_step hc
  have hfrom : ∀ k, fromCopy { s with copies := markCopy s.copies d i } k = fromCopy s k :=
    fromCopy_markCopy hs hx.fresh rfl rfl
  constructor
  · exact hL.db
  · exact hL.goroutines
  · intro hbusy
    obtain ⟨hbusy', hnone⟩ := hL.busy hbusy
    refine ⟨hbusy', fun k hk => hnone k ?_⟩
    rw [← hfrom k]
    exact hk
  · intro k
    rw [hL.threads, ← hfrom k]
    rfl
  · intro d'
    dsimp only
    by_cases hd : d' = d
    · subst hd
      rw [Function.update_self, spawned_store hx]
      exact hL.robots d'
    · rw [Function.update_of_ne hd]
      exact hL.robots d'
  · intro d' k
    show _ = if markCopy s.copies d i d' k = true then none
      else (Function.update s.agents d c d').thread k
    rw [hL.handlers, markCopy_apply]
    by_cases hd : d' = d
    · subst hd
      rw [Function.update_self, hx.threads]
      by_cases hk : k = i
      · subst hk
        simp [hx.fresh]
      · simp [hk]
    · rw [Function.update_of_ne hd]
      simp [hd]
  · exact hL.commands
  · intro d'
    rw [hL.progress]
    refine (filter_markCopy ?_ hx.fresh).symm
    intro report hreport hd
    exact hd ▸ hs.progress d' report hreport
  · intro d'
    rw [hL.errors]
    refine (filter_markCopy ?_ hx.fresh).symm
    intro report hreport hd
    exact hd ▸ hs.errors d' report hreport

/-- A callback for a duplicate goes on. -/
theorem lockstep_plane_silent {x : Choice} (hL : Lockstep s t) (hs : Copied s)
    (hh : Harmless s (.plane (.step i x))) (hcopy : fromCopy s i = true)
    (h : step procs s (.plane (.step i x)) = some s') : Lockstep s' t := by
  obtain ⟨-, plane, hplane, rfl⟩ := step_plane h
  obtain ⟨call, op, k, r, hx⟩ := Machine.executed_of_step hplane
  have hanswering : Answering call (.call op k) := hs.callbacks i call _ hcopy hx.before
  obtain ⟨-, hundisturbed⟩ := answering_executed hh hcopy hx hanswering
  have hrunning : ControlPlane.Running s.plane i :=
    ⟨call, op, k, hx.before, hanswering.isCallback⟩
  have hidle : t.plane.store.mqttBusy ≠ true := by
    intro hbusy
    exact (hL.busy hbusy).2 i hcopy hrunning
  constructor
  · rw [hL.db]
    exact hundisturbed.db.symm
  · rw [hL.goroutines]
    exact hundisturbed.goroutines.symm
  · intro hbusy
    exact absurd hbusy hidle
  · intro j
    show _ = if fromCopy s j = true then none else plane.thread j
    rw [hL.threads]
    by_cases hj : fromCopy s j = true
    · rw [if_pos hj, if_pos hj]
    · have hne : j ≠ i := by
        intro hji
        exact hj (hji ▸ hcopy)
      rw [if_neg hj, if_neg hj, hx.threads, if_neg hne]
  · exact hL.robots
  · exact hL.handlers
  · rw [hundisturbed.unsent]
    exact hL.commands
  · exact hL.progress
  · exact hL.errors

/-- A callback for a duplicate is started: the other run starts none. -/
theorem lockstep_callback_silent {call : Call} {plane : ControlPlane.Config} {sender : Nat}
    (hL : Lockstep s t) (hcall : call.isCallback = true)
    (hplane : ControlPlane.step s.plane (.spawn i call) = some plane)
    (hcopy : s.copies d sender = true) (hstate : s'.plane = plane)
    (hsenders : s'.senders = Function.update s.senders i (some (d, sender)))
    (hagents : s'.agents = s.agents) (hcopies : s'.copies = s.copies)
    (hcommands : s'.commands = s.commands)
    (hprogress : ∀ d', (s'.progress d').filter (Report.isFirst (s.copies d')) =
      (s.progress d').filter (Report.isFirst (s.copies d')))
    (herrors : ∀ d', (s'.errors d').filter (Report.isFirst (s.copies d')) =
      (s.errors d').filter (Report.isFirst (s.copies d'))) : Lockstep s' t := by
  have hx := Machine.spawned_of_step hplane
  obtain ⟨hfree, hstore⟩ := ControlPlane.accept_callback hcall hx.accepted
  have hfrom := fromCopy_callback hsenders hcopies
  constructor
  · rw [hL.db, hstate, hstore]
  · rw [hL.goroutines, hstate, hstore]
  · intro hbusy
    rw [(hL.busy hbusy).1] at hfree
    cases hfree
  · intro j
    rw [hL.threads, hfrom, hstate, hx.threads]
    by_cases hj : j = i
    · subst hj
      simp [hcopy, hx.fresh]
    · simp [hj]
  · rw [hagents]
    exact hL.robots
  · rw [hagents, hcopies]
    exact hL.handlers
  · rw [hcommands]
    exact hL.commands
  · intro d'
    rw [hL.progress, hcopies, hprogress]
  · intro d'
    rw [hL.errors, hcopies, herrors]

/-- A report of a duplicate that is taken was left out. -/
theorem filter_taken_silent {ε : Type} {topics : DeviceID → List (Report ε)} {report : Report ε}
    {rest : List (Report ε)} {copies : DeviceID → Nat → Bool} (htopic : topics d = report :: rest)
    (hcopy : copies d report.sender = true) (d' : DeviceID) :
    (Function.update topics d rest d').filter (Report.isFirst (copies d')) =
      (topics d').filter (Report.isFirst (copies d')) := by
  by_cases hd : d' = d
  · subst hd
    rw [Function.update_self, htopic, List.filter_cons_of_neg]
    simp [Report.isFirst, hcopy]
  · rw [Function.update_of_ne hd]

/-- The steps of a duplicate do not show in the other run. -/
theorem lockstep_silent {l : Label} (hL : Lockstep s t) (hs : Copied s) (hh : Harmless s l)
    (hl : ofCopy s l = true) (h : step procs s l = some s') : Lockstep s' t := by
  cases l with
  | plane l =>
      cases l with
      | spawn i call => cases hl
      | step i x => exact lockstep_plane_silent hL hs hh hl h
  | deliver d i => cases hl
  | redeliver d j i => exact lockstep_redeliver hL hs h
  | agent d i x => exact lockstep_agent_silent hL hs hh hl h
  | progress d i =>
      obtain ⟨report, rest, plane, htopic, hplane, rfl⟩ := step_progress h
      have hcopy : s.copies d report.sender = true := by
        rw [ofCopy, htopic] at hl
        exact hl
      exact lockstep_callback_silent hL rfl hplane hcopy rfl rfl rfl rfl rfl
        (filter_taken_silent htopic hcopy) (fun _ => rfl)
  | error d i =>
      obtain ⟨report, rest, plane, htopic, hplane, rfl⟩ := step_error h
      have hcopy : s.copies d report.sender = true := by
        rw [ofCopy, htopic] at hl
        exact hl
      exact lockstep_callback_silent hL rfl hplane hcopy rfl rfl rfl rfl rfl (fun _ => rfl)
        (filter_taken_silent htopic hcopy)

/-! ## The steps of both runs -/

/-- Requests and goroutines are admitted in both runs. -/
theorem accept_lockstep {u v u' : Store} {call : Call} (hdb : v.db = u.db)
    (hgoroutines : v.goroutines = u.goroutines) (hcall : call.isCallback = false)
    (h : ControlPlane.accept u call = some u') :
    ∃ v', ControlPlane.accept v call = some v' ∧ v'.db = u'.db ∧
      v'.goroutines = u'.goroutines ∧ v'.mqttBusy = v.mqttBusy := by
  cases call with
  | progress event | error event => cases hcall
  | runCanary depID devices cmd =>
      simp only [ControlPlane.accept] at h ⊢
      rw [hgoroutines]
      split at h
      · rename_i hmem
        rw [if_pos hmem]
        rw [← Option.some.inj h]
        exact ⟨_, rfl, hdb, rfl, rfl⟩
      · cases h
  | _ =>
      have hsame : u = u' := Option.some.inj h
      subst hsame
      exact ⟨v, rfl, hdb, hgoroutines, rfl⟩

/-- An operation answers the same and does the same in both runs. -/
theorem exec_lockstep {u v : Store} (hdb : v.db = u.db) (hgoroutines : v.goroutines = u.goroutines)
    (op : Op) (x : Choice) :
    (ControlPlane.exec v op x).1 = (ControlPlane.exec u op x).1 ∧
      (ControlPlane.exec v op x).2.db = (ControlPlane.exec u op x).2.db ∧
      (ControlPlane.exec v op x).2.goroutines = (ControlPlane.exec u op x).2.goroutines := by
  cases op with
  | sql q =>
      rw [ControlPlane.exec_sql, ControlPlane.exec_sql]
      by_cases hfault : x.fault = true
      · rw [if_pos hfault, if_pos hfault]
        exact ⟨rfl, hdb, hgoroutines⟩
      · rw [if_neg hfault, if_neg hfault, hdb]
        exact ⟨rfl, rfl, hgoroutines⟩
  | goRunCanary depID devices cmd =>
      refine ⟨rfl, hdb, ?_⟩
      simp only [ControlPlane.exec, hgoroutines]
  | _ => exact ⟨rfl, hdb, hgoroutines⟩

/-- A callback starts in both systems. -/
theorem lockstep_spawn {call : Call} (hL : Lockstep s t) (hs : Copied s)
    (h : step procs s (.plane (.spawn i call)) = some s') :
    ∃ t', step procs t (.plane (.spawn i call)) = some t' ∧ Lockstep s' t' := by
  obtain ⟨hcallback, plane, hplane, rfl⟩ := step_plane h
  have hx := Machine.spawned_of_step hplane
  have hcall : call.isCallback = false := by
    cases call with
    | progress | error => cases hcallback
    | _ => rfl
  have hbusy := ControlPlane.accept_other hcall hx.accepted
  obtain ⟨store, haccept, hdb, hgoroutines, hstore⟩ :=
    accept_lockstep hL.db hL.goroutines hcall hx.accepted
  have hnew : fromCopy s i = false := by
    cases hcopy : fromCopy s i with
    | false => rfl
    | true =>
        unfold fromCopy at hcopy
        split at hcopy
        · rename_i d' k hsender
          exact absurd hx.fresh (hs.senders i d' k hsender).1
        · cases hcopy
  have hfresh : t.plane.thread i = none := by
    rw [hL.threads, hnew, hx.fresh]
    rfl
  obtain ⟨plane', hplane', hx', hstore'⟩ :=
    Machine.exists_spawned (M := ControlPlane.machine) hfresh haccept
  have hstep : step procs t (.plane (.spawn i call)) =
      some { t with plane := plane', commands := send t.commands none } := by
    have hplane'' : ControlPlane.step t.plane (.spawn i call) = some plane' := hplane'
    simp [step, hcallback, hplane'', sentCommand]
  refine ⟨_, hstep, ?_⟩
  constructor
  · show plane'.store.db = plane.store.db
    rw [hstore', hdb]
  · show plane'.store.goroutines = plane.store.goroutines
    rw [hstore', hgoroutines]
  · show plane'.store.mqttBusy = true → plane.store.mqttBusy = true ∧ _
    rw [hstore', hstore, hbusy]
    intro hrunning
    obtain ⟨hrunning', hnone⟩ := hL.busy hrunning
    refine ⟨hrunning', fun j hj hrun => ?_⟩
    rcases ControlPlane.running_spawned hx hrun with hbefore | ⟨-, hcallback⟩
    · exact hnone j hj hbefore
    · rw [hcall] at hcallback
      cases hcallback
  · intro j
    show plane'.thread j = if fromCopy s j = true then none else plane.thread j
    rw [hx'.threads, hx.threads, hL.threads]
    by_cases hj : j = i
    · subst hj
      simp [hnew]
    · simp [hj]
  · exact hL.robots
  · exact hL.handlers
  · exact hL.commands
  · exact hL.progress
  · exact hL.errors

/-- A thread that serves no copy executes in both systems. -/
theorem lockstep_execute {x : Choice} (hL : Lockstep s t) (hcopy : fromCopy s i = false)
    (h : step procs s (.plane (.step i x)) = some s') :
    ∃ t', step procs t (.plane (.step i x)) = some t' ∧ Lockstep s' t' := by
  obtain ⟨-, plane, hplane, rfl⟩ := step_plane h
  obtain ⟨call, op, k, r, hx⟩ := Machine.executed_of_step hplane
  have hthread : t.plane.thread i = s.plane.thread i := by
    rw [hL.threads, hcopy]
    rfl
  obtain ⟨plane', hplane', hx'⟩ := Machine.exists_executed (M := ControlPlane.machine) x
    (hthread.trans hx.before)
  obtain ⟨hr, hstore⟩ := ControlPlane.executed_answer hx
  have hstore' := (ControlPlane.executed_answer hx').2
  obtain ⟨hanswer, hdb, hgoroutines⟩ := exec_lockstep hL.db hL.goroutines op x
  have hsent : sentCommand t.plane (.step i x) = sentCommand s.plane (.step i x) := by
    rw [sentCommand, sentCommand, hthread]
  have hstep : step procs t (.plane (.step i x)) =
      some { t with
        plane := plane'
        commands := send t.commands (sentCommand t.plane (.step i x)) } := by
    have hplane'' : ControlPlane.step t.plane (.step i x) = some plane' := hplane'
    simp [step, startsCallback, hplane'']
  refine ⟨_, hstep, ?_⟩
  constructor
  · show plane'.store.db = plane.store.db
    rw [hstore', hstore, hdb]
  · show plane'.store.goroutines = plane.store.goroutines
    rw [hstore', hstore, hgoroutines]
  · show plane'.store.mqttBusy = true → plane.store.mqttBusy = true ∧ _
    rw [hstore', hstore, ControlPlane.exec_busy, ControlPlane.exec_busy]
    by_cases hop : op = .callbackReturn
    · rw [if_pos hop]
      intro hbusy
      cases hbusy
    · rw [if_neg hop, if_neg hop]
      intro hbusy
      obtain ⟨hbusy', hnone⟩ := hL.busy hbusy
      exact ⟨hbusy', fun j hj hrun => hnone j hj (ControlPlane.running_executed hx hrun)⟩
  · intro j
    show plane'.thread j = if fromCopy s j = true then none else plane.thread j
    rw [hx'.threads, hx.threads, hL.threads]
    by_cases hj : j = i
    · subst hj
      have hr' : (ControlPlane.machine.exec t.plane.store op x).1 = r := hanswer.trans hr.symm
      simp [hcopy, hr']
    · simp [hj]
  · exact hL.robots
  · exact hL.handlers
  · show send t.commands _ = send s.commands _
    rw [hL.commands, hsent]
  · exact hL.progress
  · exact hL.errors

/-- A command is delivered in both systems. -/
theorem lockstep_deliver (hL : Lockstep s t) (hs : Copied s)
    (h : step procs s (.deliver d i) = some s') :
    ∃ t', step procs t (.deliver d i) = some t' ∧ Lockstep s' t' := by
  obtain ⟨packet, rest, c, htopic, hc, rfl⟩ := step_deliver h
  have hx := Machine.spawned_of_step hc
  have hnew : s.copies d i = false := by
    cases hcopy : s.copies d i with
    | false => rfl
    | true => exact absurd hx.fresh (hs.copies d i hcopy)
  have hfresh : (t.agents d).thread i = none := by
    rw [hL.handlers, hnew, hx.fresh]
    rfl
  have haccept : (Agent.machine (procs d)).accept (t.agents d).store (.command packet.parsed) =
      some (t.agents d).store := rfl
  obtain ⟨c', hc', hx', -⟩ := Machine.exists_spawned hfresh haccept
  have htopic' : t.commands d = packet :: rest := by
    rw [hL.commands, htopic]
  have hstep : step procs t (.deliver d i) =
      some { t with
        agents := Function.update t.agents d c'
        packets := Function.update t.packets d (Function.update (t.packets d) i (some packet))
        commands := Function.update t.commands d rest } := by
    have hc'' : Agent.step (procs d) (t.agents d) (.spawn i (.command packet.parsed)) = some c' :=
      hc'
    simp [step, htopic', startHandler, hc'']
  refine ⟨_, hstep, ?_⟩
  constructor
  · exact hL.db
  · exact hL.goroutines
  · exact hL.busy
  · exact hL.threads
  · intro d'
    dsimp only
    by_cases hd : d' = d
    · subst hd
      rw [Function.update_self, Function.update_self, spawned_store hx, spawned_store hx']
      exact hL.robots d'
    · rw [Function.update_of_ne hd, Function.update_of_ne hd]
      exact hL.robots d'
  · intro d' j
    dsimp only
    by_cases hd : d' = d
    · subst hd
      rw [Function.update_self, Function.update_self, hx.threads, hx'.threads, hL.handlers]
      by_cases hj : j = i
      · subst hj
        simp [hnew]
      · simp [hj]
    · rw [Function.update_of_ne hd, Function.update_of_ne hd]
      exact hL.handlers d' j
  · dsimp only
    rw [hL.commands]
  · exact hL.progress
  · exact hL.errors

/-- A handler that is no copy executes in both systems. -/
theorem lockstep_handle {x : Agent.Choice} (hL : Lockstep s t) (hs : Copied s)
    (hcopy : s.copies d i = false) (h : step procs s (.agent d i x) = some s') :
    ∃ t', step procs t (.agent d i x) = some t' ∧ Lockstep s' t' := by
  obtain ⟨c, hc, rfl⟩ := step_agent h
  obtain ⟨routine, op, k, r, hx, hop⟩ := agent_executed hc
  have hthread : (t.agents d).thread i = (s.agents d).thread i := by
    rw [hL.handlers, hcopy]
    rfl
  have hnext : nextOp (t.agents d) i = nextOp (s.agents d) i := by
    rw [nextOp, nextOp, hthread]
  obtain ⟨c', hc', hx'⟩ := Machine.exists_executed (M := Agent.machine (procs d)) x
    (hthread.trans hx.before)
  have hcommand : op.isCommandOp = true := (hs.commanded d i _ _ hx.before).1
  have heffect : Agent.exec (s.agents d).store op x = (r, c.store) := hx.effect
  have heffect' : Agent.exec (t.agents d).store op x = (_, c'.store) := hx'.effect
  obtain ⟨hanswer, hstore⟩ := exec_status (x := x) hcommand (hL.robots d)
  rw [heffect] at hanswer hstore
  rw [heffect'] at hstore
  have hstep : step procs t (.agent d i x) =
      some { t with
        agents := Function.update t.agents d c'
        progress := send t.progress
          ((sentProgress d i (nextOp (t.agents d) i)).map fun m => (d, m))
        errors := send t.errors
          ((sentError d i (nextOp (t.agents d) i)).map fun m => (d, m)) } := by
    have hc'' : Agent.step (procs d) (t.agents d) (.step i x) = some c' := hc'
    simp [step, hc'']
  refine ⟨_, hstep, ?_⟩
  constructor
  · exact hL.db
  · exact hL.goroutines
  · exact hL.busy
  · exact hL.threads
  · intro d'
    dsimp only
    by_cases hd : d' = d
    · subst hd
      rw [Function.update_self, Function.update_self]
      exact hstore
    · rw [Function.update_of_ne hd, Function.update_of_ne hd]
      exact hL.robots d'
  · intro d' j
    dsimp only
    by_cases hd : d' = d
    · subst hd
      rw [Function.update_self, Function.update_self, hx.threads, hx'.threads, hL.handlers]
      by_cases hj : j = i
      · subst hj
        have hr : ((Agent.machine (procs d')).exec (t.agents d').store op x).1 = r := hanswer
        simp [hcopy, hr]
      · simp [hj]
    · rw [Function.update_of_ne hd, Function.update_of_ne hd]
      exact hL.handlers d' j
  · exact hL.commands
  · intro d'
    dsimp only
    rw [hnext]
    refine filter_send_kept (p := fun d' => Report.isFirst (s.copies d')) ?_ hL.progress d'
    intro report hreport
    simp [Report.isFirst, sentProgress_sender hreport, hcopy]
  · intro d'
    dsimp only
    rw [hnext]
    refine filter_send_kept (p := fun d' => Report.isFirst (s.copies d')) ?_ hL.errors d'
    intro report hreport
    simp [Report.isFirst, sentError_sender hreport, hcopy]

/-- A callback for the report of a first delivery is started in both runs. -/
theorem exists_callback {call : Call} {plane : ControlPlane.Config} (hL : Lockstep s t)
    (hs : Copied s) (hcall : call.isCallback = true)
    (hplane : ControlPlane.step s.plane (.spawn i call) = some plane) :
    ∃ plane', ControlPlane.step t.plane (.spawn i call) = some plane' ∧
      plane'.store.db = plane.store.db ∧ plane'.store.goroutines = plane.store.goroutines ∧
      (plane'.store.mqttBusy = true → plane.store.mqttBusy = true) ∧
      (∀ j, plane'.thread j =
        if j = i then plane.thread i else if fromCopy s j = true then none else plane.thread j) ∧
      ∀ j, ControlPlane.Running plane j → j = i := by
  have hx := Machine.spawned_of_step hplane
  obtain ⟨hfree, hstore⟩ := ControlPlane.accept_callback hcall hx.accepted
  have hidle : t.plane.store.mqttBusy = false := by
    cases hbusy : t.plane.store.mqttBusy with
    | false => rfl
    | true =>
        rw [(hL.busy hbusy).1] at hfree
        cases hfree
  have haccept : ControlPlane.accept t.plane.store call =
      some { t.plane.store with mqttBusy := true } := by
    cases call with
    | progress | error => simp [ControlPlane.accept, hidle]
    | _ => cases hcall
  have hfresh : t.plane.thread i = none := by
    rw [hL.threads, hx.fresh]
    split <;> rfl
  obtain ⟨plane', hplane', hx', hstore'⟩ :=
    Machine.exists_spawned (M := ControlPlane.machine) hfresh haccept
  refine ⟨plane', hplane', ?_, ?_, ?_, ?_, ?_⟩
  · rw [hstore', hstore]
    exact hL.db
  · rw [hstore', hstore]
    exact hL.goroutines
  · intro _
    rw [hstore]
  · intro j
    rw [hx'.threads, hx.threads, hx.threads, hL.threads]
    by_cases hj : j = i
    · simp [hj]
    · simp [hj]
  · intro j hrun
    rcases ControlPlane.running_spawned hx hrun with hbefore | ⟨hji, -⟩
    · rw [hs.serial.busy j hbefore] at hfree
      cases hfree
    · exact hji

/-- What a callback that is started in both runs leaves in lockstep. -/
theorem lockstep_callback {plane plane' : ControlPlane.Config} {sender : Nat} {t' : State}
    (hL : Lockstep s t) (hcopy : s.copies d sender = false)
    (hdb : plane'.store.db = plane.store.db)
    (hgoroutines : plane'.store.goroutines = plane.store.goroutines)
    (hbusy : plane'.store.mqttBusy = true → plane.store.mqttBusy = true)
    (hthreads : ∀ j, plane'.thread j =
      if j = i then plane.thread i else if fromCopy s j = true then none else plane.thread j)
    (halone : ∀ j, ControlPlane.Running plane j → j = i) (hstate : s'.plane = plane)
    (hsenders : s'.senders = Function.update s.senders i (some (d, sender)))
    (hagents : s'.agents = s.agents) (hcopies : s'.copies = s.copies)
    (hcommands : s'.commands = s.commands) (hstate' : t'.plane = plane')
    (hagents' : t'.agents = t.agents) (hcommands' : t'.commands = t.commands)
    (hprogress : ∀ d', t'.progress d' = (s'.progress d').filter (Report.isFirst (s.copies d')))
    (herrors : ∀ d', t'.errors d' = (s'.errors d').filter (Report.isFirst (s.copies d'))) :
    Lockstep s' t' := by
  have hfrom := fromCopy_callback hsenders hcopies
  constructor
  · rw [hstate, hstate']
    exact hdb
  · rw [hstate, hstate']
    exact hgoroutines
  · rw [hstate, hstate']
    intro hrunning
    refine ⟨hbusy hrunning, fun j hj hrun => ?_⟩
    rw [hfrom, if_pos (halone j hrun), hcopy] at hj
    cases hj
  · intro j
    rw [hstate, hstate', hthreads, hfrom]
    by_cases hj : j = i
    · subst hj
      simp [hcopy]
    · simp [hj]
  · rw [hagents, hagents']
    exact hL.robots
  · rw [hagents, hagents', hcopies]
    exact hL.handlers
  · rw [hcommands, hcommands']
    exact hL.commands
  · rw [hcopies]
    exact hprogress
  · rw [hcopies]
    exact herrors

/-- The oldest report of a first delivery is the oldest in both runs. -/
theorem filter_taken {ε : Type} {topics topics' : DeviceID → List (Report ε)} {report : Report ε}
    {rest : List (Report ε)} {copies : DeviceID → Nat → Bool} (htopic : topics d = report :: rest)
    (hcopy : copies d report.sender = false)
    (htopics : ∀ d', topics' d' = (topics d').filter (Report.isFirst (copies d'))) :
    ∃ rest', topics' d = report :: rest' ∧ ∀ d', Function.update topics' d rest' d' =
      (Function.update topics d rest d').filter (Report.isFirst (copies d')) := by
  refine ⟨rest.filter (Report.isFirst (copies d)), ?_, ?_⟩
  · rw [htopics, htopic, List.filter_cons_of_pos]
    simp [Report.isFirst, hcopy]
  · intro d'
    by_cases hd : d' = d
    · subst hd
      rw [Function.update_self, Function.update_self]
    · rw [Function.update_of_ne hd, Function.update_of_ne hd]
      exact htopics d'

/-- A progress report of no copy is taken in both systems. -/
theorem lockstep_progress (hL : Lockstep s t) (hs : Copied s)
    (hl : oldestOfCopy (s.copies d) (s.progress d) = false)
    (h : step procs s (.progress d i) = some s') :
    ∃ t', step procs t (.progress d i) = some t' ∧ Lockstep s' t' := by
  obtain ⟨report, rest, plane, htopic, hplane, rfl⟩ := step_progress h
  have hcopy : s.copies d report.sender = false := by
    rw [htopic] at hl
    exact hl
  obtain ⟨rest', htopic', hrest⟩ := filter_taken htopic hcopy hL.progress
  obtain ⟨plane', hplane', hdb, hgoroutines, hbusy, hthreads, halone⟩ :=
    exists_callback hL hs rfl hplane
  have hstep : step procs t (.progress d i) =
      some { t with
        plane := plane'
        senders := Function.update t.senders i (some (d, report.sender))
        progress := Function.update t.progress d rest' } := by
    simp [step, htopic', startCallback, hplane']
  refine ⟨_, hstep, ?_⟩
  exact lockstep_callback hL hcopy hdb hgoroutines hbusy hthreads halone rfl rfl rfl rfl rfl rfl
    rfl rfl hrest hL.errors

/-- An error report of no copy is taken in both systems. -/
theorem lockstep_error (hL : Lockstep s t) (hs : Copied s)
    (hl : oldestOfCopy (s.copies d) (s.errors d) = false)
    (h : step procs s (.error d i) = some s') :
    ∃ t', step procs t (.error d i) = some t' ∧ Lockstep s' t' := by
  obtain ⟨report, rest, plane, htopic, hplane, rfl⟩ := step_error h
  have hcopy : s.copies d report.sender = false := by
    rw [htopic] at hl
    exact hl
  obtain ⟨rest', htopic', hrest⟩ := filter_taken htopic hcopy hL.errors
  obtain ⟨plane', hplane', hdb, hgoroutines, hbusy, hthreads, halone⟩ :=
    exists_callback hL hs rfl hplane
  have hstep : step procs t (.error d i) =
      some { t with
        plane := plane'
        senders := Function.update t.senders i (some (d, report.sender))
        errors := Function.update t.errors d rest' } := by
    simp [step, htopic', startCallback, hplane']
  refine ⟨_, hstep, ?_⟩
  exact lockstep_callback hL hcopy hdb hgoroutines hbusy hthreads halone rfl rfl rfl rfl rfl rfl
    rfl rfl hL.progress hrest

/-- The other steps are steps of both runs. -/
theorem lockstep_visible {l : Label} (hL : Lockstep s t) (hs : Copied s)
    (hl : ofCopy s l = false) (h : step procs s l = some s') :
    ∃ t', step procs t l = some t' ∧ Lockstep s' t' := by
  cases l with
  | plane l =>
      cases l with
      | spawn i call => exact lockstep_spawn hL hs h
      | step i x => exact lockstep_execute hL hl h
  | deliver d i => exact lockstep_deliver hL hs h
  | redeliver d j i => cases hl
  | agent d i x => exact lockstep_handle hL hs hl h
  | progress d i => exact lockstep_progress hL hs hl h
  | error d i => exact lockstep_error hL hs hl h

/-- Two runs in lockstep have the same failures, rollbacks and versions. -/
theorem Lockstep.sameOutcome (hL : Lockstep s t) : SameOutcome s t where
  failed row hrow hfailed := by
    rw [hL.db]
    exact ⟨row, hrow, rfl, rfl, hfailed⟩
  failures id := by rw [hL.db]
  rolledBack id := by
    rw [ControlPlane.status, ControlPlane.status, ControlPlane.deployment, ControlPlane.deployment,
      hL.db]
  rollbacks d packet hpacket _ := by
    rw [hL.commands]
    exact hpacket
  versions d := by
    have hsame : (unstatused (s.agents d).store).currentVersion =
        (unstatused (t.agents d).store).currentVersion := by rw [hL.robots d]
    exact hsame

end

/-! ## Runs -/

/-- Duplicates that are rejected, and whose reports find nothing to change, are harmless: the run
without them is a run, and it has the same failures, rollbacks and versions. -/
theorem redelivery_harmless {procs : DeviceID → Agent.Process}
    {robots : DeviceID → Agent.Robot} {db : Db} {ls : List Label} {s : State}
    (hharmless : EachStep (step procs) Harmless (start procs robots db) ls)
    (hrun : run (step procs) (start procs robots db) ls = some s) :
    ∃ t, run (step procs) (start procs robots db)
        (deliveredOnce procs (start procs robots db) ls) = some t ∧ SameOutcome s t := by
  have hstart : Copied (start procs robots db) ∧
      Lockstep (start procs robots db) (start procs robots db) :=
    ⟨copied_start procs robots db, lockstep_start robots db⟩
  have hsilent : ∀ s t l s', (Copied s ∧ Lockstep s t) → Harmless s l → ofCopy s l = true →
      step procs s l = some s' → Copied s' ∧ Lockstep s' t := by
    intro s t l s' hR hh hl h
    exact ⟨copied_step hR.1 hh h, lockstep_silent hR.2 hR.1 hh hl h⟩
  have hvisible : ∀ s t l s', (Copied s ∧ Lockstep s t) → Harmless s l → ofCopy s l = false →
      step procs s l = some s' →
        ∃ t', step procs t l = some t' ∧ (Copied s' ∧ Lockstep s' t') := by
    intro s t l s' hR hh hl h
    obtain ⟨t', ht', hL⟩ := lockstep_visible hR.2 hR.1 hl h
    exact ⟨t', ht', copied_step hR.1 hh h, hL⟩
  obtain ⟨t, ht, -, hL⟩ := run_erase hsilent hvisible hstart hharmless hrun
  exact ⟨t, ht, hL.sameOutcome⟩

/-! ## Concrete runs -/

/-- The executable form of {lit}`Harmless`. -/
def harmless (s : State) : Label → Bool
  | .agent d i _ =>
      !s.copies d i ||
        match (s.agents d).thread i with
        | some (_, .call (.trigger event) _) =>
            (Agent.transitions (s.agents d).store.fsm.current event).isNone
        | some (_, .call (.setCurrentVersion v) _) => v = (s.agents d).store.currentVersion
        | _ => true
  | .plane (.step i _) =>
      !fromCopy s i ||
        match s.plane.thread i with
        | some (.error _, .call (.sql (.getActiveDeploymentDeviceByDevice d)) _) =>
            (s.plane.store.db.activeRow d).all fun row =>
              row.status = "success" || row.status = "failed"
        | some (.progress event, .call (.sql (.getActiveDeploymentDeviceByDevice d)) _) =>
            event.status ≠ "success" || (s.plane.store.db.activeRow d).isNone
        | some (_, .call (.sql (.updateDeploymentDeviceStatus p)) _) =>
            s.plane.store.db.deploymentDevices.all fun row => !p.selects row || p.set row = row
        | _ => true
  | _ => true

theorem harmless_spec {s : State} {l : Label} (h : harmless s l = true) : Harmless s l := by
  constructor
  · intro d i x routine event k hl hcopy hthread
    subst hl
    simpa [harmless, hcopy, hthread] using h
  · intro d i x routine v k hl hcopy hthread
    subst hl
    simpa [harmless, hcopy, hthread] using h
  · intro i x event d k row hl hcopy hthread _ hrow
    subst hl
    simpa [harmless, hcopy, hthread, hrow] using h
  · intro i x event d k hl hcopy hthread _ hsuccess
    subst hl
    simpa [harmless, hcopy, hthread, hsuccess] using h
  · intro i x call p k hl hcopy hthread _ row hrow hselects
    subst hl
    have hall : (s.plane.store.db.deploymentDevices.all
        fun row => !p.selects row || decide (p.set row = row)) = true := by
      cases call <;> simpa [harmless, hcopy, hthread] using h
    have hsame := List.all_eq_true.mp hall row hrow
    simpa [hselects] using hsame

/-- The command is delivered again after the first copy was accepted; the robot rejects it. -/
def rejectedCopy : List Label :=
  updateUnderWay ++ handle "r1" 0 1 ++ .redeliver "r1" 0 1 :: handle "r1" 1 3

/-- The robot installs the update, and the report of the rejection is handled last. -/
def lateRejection : List Label :=
  rejectedCopy ++ handle "r1" 0 26 ++
    [1, 2, 3, 4, 5, 6].flatMap (fun i => reportProgress "r1" i 3) ++ reportProgress "r1" 7 8 ++
      .error "r1" 8 :: (ControlPlane.resumeCall 8 2).map Label.plane

/-- The report of the rejection is handled while the robot installs the update. -/
def earlyRejection : List Label :=
  rejectedCopy ++ .error "r1" 1 :: (ControlPlane.resumeCall 1 3).map Label.plane

/-- One robot is there once. -/
theorem one_robot_nodup : ["r1"].Nodup := by
  decide

/-- Tables with one robot and a firmware. -/
def oneRobotDb : Db :=
  releasedDb ["r1"] one_robot_nodup

/-- The state before any run of the two. -/
abbrev oneRobot : State :=
  start Agent.robotProcess Agent.robot oneRobotDb

/-- The rejection of a duplicate that is handled last changes nothing. -/
theorem redelivery_harmless_late :
    ∃ s t, run (step Agent.robotProcess) oneRobot lateRejection = some s ∧
      run (step Agent.robotProcess) oneRobot
        (deliveredOnce Agent.robotProcess oneRobot lateRejection) = some t ∧ SameOutcome s t := by
  have hsome : (run (step Agent.robotProcess) oneRobot lateRejection).isSome = true := by
    decide +kernel
  obtain ⟨s, hs⟩ := Option.isSome_iff_exists.mp hsome
  obtain ⟨t, ht, hsame⟩ := redelivery_harmless
    (EachStep.of_eachStep (p := harmless) (fun _ _ => harmless_spec) (by decide +kernel)) hs
  exact ⟨s, t, hs, ht, hsame⟩

/-- Some row is failed. -/
def someFailed (s : State) : Bool :=
  s.plane.store.db.deploymentDevices.any fun row => row.status = "failed"

/-- The rejection of a duplicate fails the row of the robot that installs the update. -/
theorem redelivery_harmful :
    ¬ ∀ (procs : DeviceID → Agent.Process) (robots : DeviceID → Agent.Robot) (db : Db)
      (ls : List Label) (s : State), SingleDeployment db ls →
        run (step procs) (start procs robots db) ls = some s →
          ∃ t, run (step procs) (start procs robots db)
            (deliveredOnce procs (start procs robots db) ls) = some t ∧ SameOutcome s t := by
  intro h
  have hfailed : endsWith (step Agent.robotProcess) oneRobot earlyRejection someFailed = true := by
    decide +kernel
  obtain ⟨s, hs, htest⟩ := endsWith_eq_true hfailed
  obtain ⟨t, ht, hsame⟩ := h Agent.robotProcess Agent.robot oneRobotDb earlyRejection s
    ⟨rfl, rfl, by decide +kernel⟩ hs
  obtain ⟨row, hrow, hstatus⟩ := List.any_eq_true.mp htest
  obtain ⟨row', hrow', -, -, hstatus'⟩ := hsame.failed row hrow (of_decide_eq_true hstatus)
  have hclean : endsWith (step Agent.robotProcess) oneRobot
      (deliveredOnce Agent.robotProcess oneRobot earlyRejection)
      (fun t => !someFailed t) = true := by
    decide +kernel
  obtain ⟨t', ht', htest'⟩ := endsWith_eq_true hclean
  have hsame' : t = t' := Option.some.inj (ht.symm.trans ht')
  subst hsame'
  have hany : someFailed t = true := List.any_eq_true.mpr ⟨row', hrow', decide_eq_true hstatus'⟩
  rw [hany] at htest'
  cases htest'

end OtaRobot.System
