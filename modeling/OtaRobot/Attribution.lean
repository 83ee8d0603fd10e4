import OtaRobot.System

/-!
# Whose success a report is

A report names neither a deployment nor a version: {lit}`HandleDeviceProgress` credits it
to the newest active row of the robot.  The row is the right one when it belongs to the
deployment whose update command the sender of the report has handled.

Main results:

- Theorem {lit}`ControlPlane.body_credits`: a progress callback credits the row it has found.
- Theorem {lit}`System.provenance_step`: what a step keeps about commands, reports and callbacks.
- Theorem {lit}`System.attribution_sound`: what is credited to a deployment was installed for it.
- Theorem {lit}`System.rollback_credited`: a run in which the report of a rollback is credited.
-/

namespace OtaRobot

open Prog Transition

namespace ControlPlane

/-! ## What a progress callback credits -/

/-- The row a callback has found. -/
def foundAfter (found : Option DeploymentDevice) : (op : Op) → op.Ret → Option DeploymentDevice
  | .sql (.getActiveDeploymentDeviceByDevice _), (r : Option DeploymentDevice) => r
  | _, _ => found

/-- A progress callback writes the row it has found and credits its deployment, the
latter two for a success only. -/
def CreditAllowed (call : Call) (found : Option DeploymentDevice) (op : Op) : Prop :=
  match call, op with
  | .progress event, .sql (.getActiveDeploymentDeviceByDevice d) => d = event.deviceID
  | .progress event, .sql (.updateDeploymentDeviceStatus p) =>
      p.deviceID = event.deviceID ∧ p.status = event.status ∧
        ∃ row, found = some row ∧ p.deploymentID = row.deploymentID
  | .progress event, .sql (.incrementDeploymentSuccess id) =>
      event.status = "success" ∧ ∃ row, found = some row ∧ id = row.deploymentID
  | .progress event, .sql (.updateDeviceVersion d _) =>
      event.status = "success" ∧ d = event.deviceID
  | _, _ => True

/-- A callback credits the row it has found. -/
def creditDiscipline (call : Call) : Discipline Op.Ret (Option DeploymentDevice) where
  allowed := CreditAllowed call
  rely _ _ _ := True
  next := foundAfter

section

variable (event : DeviceProgressEvent) (row : DeploymentDevice)

/-- The rest of the callback credits this row only. -/
private abbrev Credits {α : Type} (p : Rollout α) : Prop :=
  Obeys (creditDiscipline (.progress event)) (fun found _ => found = some row) (some row) p

/-- The version is recorded for a success. -/
theorem recordInstalledVersion_credits (dep : Deployment) (hsuccess : event.status = "success") :
    Credits event row (recordInstalledVersion event dep) := by
  rw [recordInstalledVersion, query_bind]
  refine ⟨trivial, fun (r : Option FirmwareVersion) _ => ?_⟩
  cases r with
  | none => rfl
  | some fw => exact ⟨⟨hsuccess, rfl⟩, fun _ _ => rfl⟩

/-- A completion credits no row. -/
theorem completeDeployment_credits (depID : DeploymentID) (dep : Deployment) :
    Credits event row (completeDeployment depID dep) := by
  rw [completeDeployment, query_bind]
  refine ⟨trivial, fun _ _ => ?_⟩
  split
  · exact ⟨trivial, fun _ _ => rfl⟩
  · rfl

/-- A success is credited to the row. -/
theorem creditSuccess_credits (hsuccess : event.status = "success") :
    Credits event row (creditSuccess event row) := by
  rw [creditSuccess, getDeployment_bind]
  refine ⟨trivial, fun (r : Option Deployment) _ => ?_⟩
  cases r with
  | none => rfl
  | some dep =>
      dsimp only
      split
      · rfl
      · rw [query_bind]
        refine ⟨⟨hsuccess, row, rfl, rfl⟩, fun _ _ => ?_⟩
        refine (recordInstalledVersion_credits event row dep hsuccess).bind fun found _ hfound => ?_
        rw [hfound]
        split
        · refine (completeDeployment_credits event row _ dep).bind fun found _ hfound => ?_
          exact hfound
        · rfl

/-- A progress report is credited to the row. -/
theorem progressOnRow_credits : Credits event row (progressOnRow event row) := by
  rw [progressOnRow, query_bind]
  refine ⟨⟨rfl, rfl, row, rfl, rfl⟩, fun (r : Option DeploymentDevice) _ => ?_⟩
  cases r with
  | none => rfl
  | some updated =>
      dsimp only
      split
      · rename_i hsuccess
        exact creditSuccess_credits event row hsuccess.1
      · rfl

end

/-- A progress callback credits the row it has found. -/
theorem body_credits (call : Call) :
    Obeys (creditDiscipline call) (fun _ _ => True) none (body call) := by
  cases call with
  | progress event =>
      show Obeys _ _ none (callback (handleDeviceProgress event))
      rw [callback, handleDeviceProgress, query_bind]
      refine ⟨rfl, fun (r : Option DeploymentDevice) _ => ?_⟩
      cases r with
      | none => exact ⟨trivial, fun _ _ => trivial⟩
      | some row =>
          refine (progressOnRow_credits event row).bind fun _ _ _ => ?_
          exact ⟨trivial, fun _ _ => trivial⟩
  | error | createDeployment | getDeployment | rollback | runCanary =>
      exact obeys_of_forall (fun _ _ => trivial) (fun _ _ => trivial) _ _

/-- The row thread {lit}`i` has found. -/
def foundRow (i : Nat) (c : Config) : Option DeploymentDevice :=
  (Machine.eventsOf i c.trace).foldl (fun found e => foundAfter found e.op e.ret) none

/-- An operation changes what its own callback has found. -/
theorem foundRow_executed {c c' : Config} {i : Nat} {x : Choice} {call : Call} {op : Op}
    {k : op.Ret → Rollout Unit} {r : op.Ret} (hs : machine.Executed c c' i x call op k r)
    (j : Nat) : foundRow j c' = if i = j then foundAfter (foundRow i c) op r else foundRow j c := by
  rw [foundRow, hs.trace, Machine.eventsOf_append]
  by_cases hij : i = j
  · subst hij
    rw [if_pos rfl, if_pos rfl, List.foldl_append]
    rfl
  · rw [if_neg hij, if_neg hij]
    rfl

end ControlPlane

namespace System

/-! ## Completed updates -/

/-- Handler {lit}`j` of robot {lit}`d` has switched the version. -/
abbrev HandlerSwitched (s : State) (d : DeviceID) (j : Nat) : Prop :=
  Agent.Switched j (s.agents d)

/-- Robot {lit}`d` has completed {lit}`handleUpdate` for an update command of deployment
{lit}`id`. -/
def Completed (s : State) (d : DeviceID) (id : DeploymentID) : Prop :=
  ∃ j packet, s.packets d j = some packet ∧ packet.onBehalfOf = id ∧
    packet.cmd.isUpdate = true ∧ HandlerSwitched s d j

/-- The report that callback {lit}`i` handles was sent by the handler of an update command
of deployment {lit}`id`. -/
def Answers (s : State) (i : Nat) (id : DeploymentID) : Prop :=
  ∃ d j packet, s.senders i = some (d, j) ∧ s.packets d j = some packet ∧
    packet.onBehalfOf = id ∧ packet.cmd.isUpdate = true

/-- A success report is matched with the deployment it answers: when its callback looks
up the active row of the robot, the newest one is a row of this deployment. -/
def Matched (s : State) (l : Label) : Prop :=
  ∀ i x event d k, l = .plane (.step i x) →
    s.plane.thread i =
      some (.progress event, .call (.sql (.getActiveDeploymentDeviceByDevice d)) k) →
    event.status = "success" →
      ∀ row, s.plane.store.db.activeRow d = some row → Answers s i row.deploymentID

/-- What was handled and done stays so. -/
structure Extends (s s' : State) : Prop where
  packets : ∀ d j packet, s.packets d j = some packet → s'.packets d j = some packet
  traces : ∀ d, (s.agents d).trace <+: (s'.agents d).trace

/-- What has switched has switched ever after. -/
theorem Extends.switched {s s' : State} (h : Extends s s') {d : DeviceID} {j : Nat}
    (hj : HandlerSwitched s d j) : HandlerSwitched s' d j := by
  obtain ⟨e, he, hswitch⟩ := hj
  exact ⟨e, (h.traces d).subset he, hswitch⟩

/-- What was completed was completed ever after. -/
theorem Extends.completed {s s' : State} (h : Extends s s') {d : DeviceID} {id : DeploymentID}
    (hd : Completed s d id) : Completed s' d id := by
  obtain ⟨j, packet, hpacket, hid, hupdate, hswitched⟩ := hd
  exact ⟨j, packet, h.packets d j packet hpacket, hid, hupdate, h.switched hswitched⟩

/-! ## The invariant -/

/-- Where reports and callbacks come from. -/
structure Provenance (s : State) : Prop where
  agents : ∀ d, Agent.Switches (s.agents d)
  started : ∀ d j, (s.agents d).thread j = none → s.packets d j = none
  plane : Machine.Disciplined ControlPlane.creditDiscipline (fun _ _ => True) (fun _ => none)
    s.plane
  queued : ∀ d, ∀ report ∈ s.progress d, report.event.deviceID = d ∧
    (report.event.status = "success" → HandlerSwitched s d report.sender)
  callbacks : ∀ i event q, s.plane.thread i = some (.progress event, q) →
    ∃ j, s.senders i = some (event.deviceID, j) ∧
      (event.status = "success" → HandlerSwitched s event.deviceID j)
  matched : ∀ i event q, s.plane.thread i = some (.progress event, q) →
    event.status = "success" → ∀ row, ControlPlane.foundRow i s.plane = some row →
      Completed s event.deviceID row.deploymentID

section

variable {procs : DeviceID → Agent.Process} {s s' : State}

/-- Nothing is reported at the start. -/
theorem provenance_start (robots : DeviceID → Agent.Robot) (db : Db) :
    Provenance (start procs robots db) where
  agents d := Agent.switches_start (procs d) (robots d)
  started _ _ _ := rfl
  plane := Machine.disciplined_initial _ _ _ _
  queued d report hreport := by simp [start] at hreport
  callbacks i event q hi := by
    simp [start, ControlPlane.start, Machine.initial, Machine.Config.thread] at hi
  matched i event q hi := by
    simp [start, ControlPlane.start, Machine.initial, Machine.Config.thread] at hi

/-- A step keeps every callback to the row it has found. -/
theorem creditDisciplined_step {c c' : ControlPlane.Config} {l : ControlPlane.Label}
    (hc : Machine.Disciplined ControlPlane.creditDiscipline (fun _ _ => True) (fun _ => none) c)
    (h : ControlPlane.step c l = some c') :
    Machine.Disciplined ControlPlane.creditDiscipline (fun _ _ => True) (fun _ => none) c' :=
  Machine.step_disciplined h hc ControlPlane.body_credits fun _ _ _ _ _ _ _ => trivial

/-! ## Steps of the control plane -/

/-- A thread of the control plane was there before, or has just been started. -/
theorem thread_step {c c' : ControlPlane.Config} {l : ControlPlane.Label} {i : Nat} {call : Call}
    {q : Rollout Unit} (h : ControlPlane.step c l = some c') (hi : c'.thread i = some (call, q)) :
    (∃ q₀, c.thread i = some (call, q₀)) ∨ (l = .spawn i call ∧ c.thread i = none) := by
  obtain ⟨j, tag, hl, hs⟩ | ⟨j, x, tag, op, k, r, -, hs⟩ := Machine.step_cases h
  · rw [hs.threads] at hi
    by_cases hij : i = j
    · subst hij
      right
      rw [if_pos rfl] at hi
      obtain ⟨rfl, -⟩ : tag = call ∧ _ := by simpa using hi
      exact ⟨hl, hs.fresh⟩
    · rw [if_neg hij] at hi
      exact Or.inl ⟨q, hi⟩
  · left
    rw [hs.threads] at hi
    by_cases hij : i = j
    · subst hij
      rw [if_pos rfl] at hi
      obtain ⟨rfl, -⟩ : tag = call ∧ _ := by simpa using hi
      exact ⟨_, hs.before⟩
    · rw [if_neg hij] at hi
      exact ⟨q, hi⟩

/-- A callback that starts has found nothing. -/
theorem found_spawned {c c' : ControlPlane.Config} {i : Nat} {call : Call}
    (hc : Machine.Disciplined ControlPlane.creditDiscipline (fun _ _ => True) (fun _ => none) c)
    (h : ControlPlane.step c (.spawn i call) = some c') (j : Nat) :
    ControlPlane.foundRow j c' = ControlPlane.foundRow j c ∧
      (c.thread j = none → ControlPlane.foundRow j c = none) := by
  constructor
  · rw [ControlPlane.foundRow, (Machine.spawned_of_step h).trace]
    rfl
  · intro hj
    rw [ControlPlane.foundRow, Machine.eventsOf_eq_nil hc.closed hj]
    rfl

/-- The row a success callback finds belongs to an update the robot has completed. -/
theorem Provenance.found_completed (hs : Provenance s) {c' : ControlPlane.Config} {i : Nat}
    {x : Choice} {event : DeviceProgressEvent} {op : Op} {k : op.Ret → Rollout Unit}
    {r : op.Ret} (hmatched : Matched s (.plane (.step i x)))
    (hx : ControlPlane.machine.Executed s.plane c' i x (.progress event) op k r)
    (hsuccess : event.status = "success") {row : DeploymentDevice}
    (hrow : ControlPlane.foundAfter (ControlPlane.foundRow i s.plane) op r = some row) :
    Completed s event.deviceID row.deploymentID := by
  by_cases hlookup : ∃ d, op = .sql (.getActiveDeploymentDeviceByDevice d)
  · obtain ⟨d, rfl⟩ := hlookup
    have hr : r = some row := hrow
    have hactive : s.plane.store.db.activeRow d = some row := by
      have hanswer := (ControlPlane.executed_answer hx).1
      rw [hr, ControlPlane.exec_sql] at hanswer
      split at hanswer
      · cases hanswer
      · exact hanswer.symm
    obtain ⟨d', j, packet, hsender, hpacket, hid, hupdate⟩ :=
      hmatched i x event d k rfl hx.before hsuccess row hactive
    obtain ⟨j', hsender', hswitched⟩ := hs.callbacks i event _ hx.before
    obtain ⟨rfl, rfl⟩ : d' = event.deviceID ∧ j = j' := by simpa [hsender] using hsender'
    exact ⟨j, packet, hpacket, hid, hupdate, hswitched hsuccess⟩
  · have hkeep : ControlPlane.foundAfter (ControlPlane.foundRow i s.plane) op r =
        ControlPlane.foundRow i s.plane := by
      cases op with
      | sql q =>
          cases q with
          | getActiveDeploymentDeviceByDevice d => exact absurd ⟨d, rfl⟩ hlookup
          | _ => rfl
      | _ => rfl
    rw [hkeep] at hrow
    exact hs.matched i event _ hx.before hsuccess row hrow

/-- A step of the control plane credits what was reported. -/
theorem provenance_plane {l : ControlPlane.Label} (hs : Provenance s)
    (hmatched : Matched s (.plane l)) (h : step procs s (.plane l) = some s') :
    Provenance s' := by
  obtain ⟨hcallback, plane, hplane, rfl⟩ := step_plane h
  have hthread : ∀ i event q, plane.thread i = some (.progress event, q) →
      ∃ q₀, s.plane.thread i = some (.progress event, q₀) := by
    intro i event q hi
    rcases thread_step hplane hi with hbefore | ⟨hl, -⟩
    · exact hbefore
    · rw [hl] at hcallback
      cases hcallback
  constructor
  · exact hs.agents
  · exact hs.started
  · exact creditDisciplined_step hs.plane hplane
  · exact hs.queued
  · intro i event q hi
    obtain ⟨q₀, hi₀⟩ := hthread i event q hi
    exact hs.callbacks i event q₀ hi₀
  · intro i event q hi hsuccess row hrow
    obtain ⟨q₀, hi₀⟩ := hthread i event q hi
    obtain ⟨j, tag, rfl, hx⟩ | ⟨j, x, tag, op, k, r, rfl, hx⟩ := Machine.step_cases hplane
    · have hsame := (found_spawned hs.plane hplane i).1
      rw [hsame] at hrow
      exact hs.matched i event q₀ hi₀ hsuccess row hrow
    · rw [ControlPlane.foundRow_executed hx] at hrow
      by_cases hji : j = i
      · subst hji
        rw [if_pos rfl] at hrow
        obtain ⟨rfl, -⟩ : tag = .progress event ∧ _ := by simpa [hx.before] using hi₀
        exact hs.found_completed hmatched hx hsuccess hrow
      · rw [if_neg hji] at hrow
        exact hs.matched i event q₀ hi₀ hsuccess row hrow

/-- A callback is started for a report of the progress topic. -/
theorem provenance_progress {d : DeviceID} {i : Nat} (hs : Provenance s)
    (h : step procs s (.progress d i) = some s') : Provenance s' := by
  obtain ⟨report, rest, plane, htopic, hplane, rfl⟩ := step_progress h
  have hreport := hs.queued d report (by simp [htopic])
  constructor
  · exact hs.agents
  · exact hs.started
  · exact creditDisciplined_step hs.plane hplane
  · intro d' m hm
    by_cases hd : d' = d
    · subst hd
      dsimp only at hm
      rw [Function.update_self] at hm
      apply hs.queued d' m
      rw [htopic]
      exact List.mem_cons_of_mem _ hm
    · dsimp only at hm
      rw [Function.update_of_ne hd] at hm
      exact hs.queued d' m hm
  · intro i' event q hi'
    dsimp only at hi' ⊢
    rcases thread_step hplane hi' with ⟨q₀, hbefore⟩ | ⟨hl, -⟩
    · have hne : i' ≠ i := by
        intro hii
        subst hii
        rw [(Machine.spawned_of_step hplane).fresh] at hbefore
        cases hbefore
      rw [Function.update_of_ne hne]
      exact hs.callbacks i' event q₀ hbefore
    · obtain ⟨rfl, rfl⟩ : i = i' ∧ report.event = event := by simpa using hl
      rw [Function.update_self, hreport.1]
      exact ⟨report.sender, rfl, hreport.2⟩
  · intro i' event q hi' hsuccess row hrow
    dsimp only at hi' hrow
    obtain ⟨hsame, hfresh⟩ := found_spawned hs.plane hplane i'
    rw [hsame] at hrow
    rcases thread_step hplane hi' with ⟨q₀, hbefore⟩ | ⟨-, hnone⟩
    · exact hs.matched i' event q₀ hbefore hsuccess row hrow
    · rw [hfresh hnone] at hrow
      cases hrow

/-- An error report credits nothing. -/
theorem provenance_error {d : DeviceID} {i : Nat} (hs : Provenance s)
    (h : step procs s (.error d i) = some s') : Provenance s' := by
  obtain ⟨report, rest, plane, -, hplane, rfl⟩ := step_error h
  have hthread : ∀ i' event q, plane.thread i' = some (.progress event, q) →
      i' ≠ i ∧ ∃ q₀, s.plane.thread i' = some (.progress event, q₀) := by
    intro i' event q hi'
    rcases thread_step hplane hi' with ⟨q₀, hbefore⟩ | ⟨hl, -⟩
    · refine ⟨?_, q₀, hbefore⟩
      intro hii
      subst hii
      rw [(Machine.spawned_of_step hplane).fresh] at hbefore
      cases hbefore
    · simp at hl
  constructor
  · exact hs.agents
  · exact hs.started
  · exact creditDisciplined_step hs.plane hplane
  · exact hs.queued
  · intro i' event q hi'
    obtain ⟨hne, q₀, hbefore⟩ := hthread i' event q hi'
    dsimp only
    rw [Function.update_of_ne hne]
    exact hs.callbacks i' event q₀ hbefore
  · intro i' event q hi' hsuccess row hrow
    obtain ⟨-, q₀, hbefore⟩ := hthread i' event q hi'
    dsimp only at hrow
    rw [(found_spawned hs.plane hplane i').1] at hrow
    exact hs.matched i' event q₀ hbefore hsuccess row hrow

/-! ## Steps of the agents -/

/-- A handler is started for a command: what reports say about handlers stays true. -/
theorem provenance_handler {d : DeviceID} {i : Nat} {packet : Packet} {c : Agent.Config}
    (hs : Provenance s)
    (h : Agent.step (procs d) (s.agents d) (.spawn i (.command packet.parsed)) = some c)
    (commands : DeviceID → List Packet) (copies : DeviceID → Nat → Bool) :
    Provenance
      { s with
        agents := Function.update s.agents d c
        packets := Function.update s.packets d (Function.update (s.packets d) i (some packet))
        commands, copies } := by
  have hx := Machine.spawned_of_step h
  have hextends : Extends s
      { s with
        agents := Function.update s.agents d c
        packets := Function.update s.packets d (Function.update (s.packets d) i (some packet))
        commands, copies } := by
    constructor
    · intro d' j packet' hpacket
      by_cases hd : d' = d
      · subst hd
        have hj : j ≠ i := by
          intro hji
          subst hji
          rw [hs.started d' j hx.fresh] at hpacket
          cases hpacket
        dsimp only
        rw [Function.update_self, Function.update_of_ne hj]
        exact hpacket
      · dsimp only
        rw [Function.update_of_ne hd]
        exact hpacket
    · intro d'
      by_cases hd : d' = d
      · subst hd
        dsimp only
        rw [Function.update_self]
        exact Machine.step_trace h
      · simp only [Function.update_of_ne hd, List.prefix_rfl]
  constructor
  · intro d'
    by_cases hd : d' = d
    · subst hd
      dsimp only
      rw [Function.update_self]
      exact Agent.switches_step (hs.agents d') h
    · dsimp only
      rw [Function.update_of_ne hd]
      exact hs.agents d'
  · intro d' j hj
    by_cases hd : d' = d
    · subst hd
      dsimp only at hj ⊢
      rw [Function.update_self, hx.threads] at hj
      rw [Function.update_self]
      by_cases hji : j = i
      · rw [if_pos hji] at hj
        cases hj
      · rw [if_neg hji] at hj
        rw [Function.update_of_ne hji]
        exact hs.started d' j hj
    · dsimp only at hj ⊢
      rw [Function.update_of_ne hd] at hj ⊢
      exact hs.started d' j hj
  · exact hs.plane
  · intro d' report hreport
    obtain ⟨hid, hswitched⟩ := hs.queued d' report hreport
    exact ⟨hid, fun hsuccess => hextends.switched (hswitched hsuccess)⟩
  · intro j event q hj
    obtain ⟨k, hsender, hswitched⟩ := hs.callbacks j event q hj
    exact ⟨k, hsender, fun hsuccess => hextends.switched (hswitched hsuccess)⟩
  · intro j event q hj hsuccess row hrow
    exact hextends.completed (hs.matched j event q hj hsuccess row hrow)

/-- A success report is sent by a goroutine that has switched. -/
theorem sentProgress_spec {d : DeviceID} {i : Nat} {report : Report DeviceProgressEvent}
    (hs : Agent.Switches (s.agents d))
    (h : sentProgress d i (nextOp (s.agents d) i) = some report) :
    report.event.deviceID = d ∧
      (report.event.status = "success" → HandlerSwitched s d report.sender) := by
  cases hthread : (s.agents d).thread i with
  | none => simp [nextOp, hthread, sentProgress] at h
  | some tq =>
      obtain ⟨t, q⟩ := tq
      cases q with
      | done a => simp [nextOp, hthread, sentProgress] at h
      | call op k =>
          cases op with
          | publishProgress update =>
              obtain rfl : _ = report := by simpa [nextOp, hthread, sentProgress] using h
              constructor
              · rfl
              · intro hsuccess
                exact Agent.switched_of_success hs hthread (decide_eq_true hsuccess)
          | _ => simp [nextOp, hthread, sentProgress] at h

/-- A report is published by a handler that has switched. -/
theorem provenance_agent {d : DeviceID} {i : Nat} {x : Agent.Choice} (hs : Provenance s)
    (h : step procs s (.agent d i x) = some s') : Provenance s' := by
  obtain ⟨c, hc, rfl⟩ := step_agent h
  have hextends : Extends s
      { s with
        agents := Function.update s.agents d c
        progress := send s.progress
          ((sentProgress d i (nextOp (s.agents d) i)).map fun m => (d, m))
        errors := send s.errors
          ((sentError d i (nextOp (s.agents d) i)).map fun m => (d, m)) } := by
    constructor
    · intro _ _ _ hpacket
      exact hpacket
    · intro d'
      by_cases hd : d' = d
      · subst hd
        dsimp only
        rw [Function.update_self]
        exact Machine.step_trace hc
      · simp only [Function.update_of_ne hd, List.prefix_rfl]
  constructor
  · intro d'
    by_cases hd : d' = d
    · subst hd
      dsimp only
      rw [Function.update_self]
      exact Agent.switches_step (hs.agents d') hc
    · dsimp only
      rw [Function.update_of_ne hd]
      exact hs.agents d'
  · intro d' j hj
    apply hs.started d' j
    by_cases hd : d' = d
    · subst hd
      dsimp only at hj
      rw [Function.update_self] at hj
      cases hbefore : (s.agents d').thread j with
      | none => rfl
      | some tq =>
          obtain ⟨q, hq⟩ := Machine.step_tag hc (show _ = some (tq.1, tq.2) from hbefore)
          rw [hj] at hq
          cases hq
    · dsimp only at hj
      rw [Function.update_of_ne hd] at hj
      exact hj
  · exact hs.plane
  · intro d' report hreport
    have hwas : report.event.deviceID = d' ∧
        (report.event.status = "success" → HandlerSwitched s d' report.sender) := by
      rcases mem_send hreport with hold | hnew
      · exact hs.queued d' report hold
      · obtain ⟨m, hm, heq⟩ := Option.map_eq_some_iff.mp hnew
        obtain ⟨rfl, rfl⟩ : d = d' ∧ m = report := by simpa using heq
        exact sentProgress_spec (hs.agents d) hm
    exact ⟨hwas.1, fun hsuccess => hextends.switched (hwas.2 hsuccess)⟩
  · intro j event q hj
    obtain ⟨k, hsender, hswitched⟩ := hs.callbacks j event q hj
    exact ⟨k, hsender, fun hsuccess => hextends.switched (hswitched hsuccess)⟩
  · intro j event q hj hsuccess row hrow
    exact hextends.completed (hs.matched j event q hj hsuccess row hrow)

/-! ## Runs -/

/-- Every step keeps track of where reports come from, if it credits none to a deployment
it does not answer. -/
theorem provenance_step {l : Label} (hs : Provenance s) (hmatched : Matched s l)
    (h : step procs s l = some s') : Provenance s' := by
  cases l with
  | plane l => exact provenance_plane hs hmatched h
  | deliver d i =>
      obtain ⟨packet, rest, c, -, hc, rfl⟩ := step_deliver h
      exact provenance_handler hs hc _ _
  | redeliver d j i =>
      obtain ⟨packet, c, -, -, hc, rfl⟩ := step_redeliver h
      exact provenance_handler hs hc _ _
  | agent d i x => exact provenance_agent hs h
  | progress d i => exact provenance_progress hs h
  | error d i => exact provenance_error hs h

end

/-- A report is credited to the deployment: its row is set to {lit}`'success'`, its success
is counted, or the version it installs is recorded for the robot. -/
def Credits (s : State) (l : Label) (d : DeviceID) (id : DeploymentID) : Prop :=
  ∃ i x event op k, l = .plane (.step i x) ∧
    s.plane.thread i = some (.progress event, .call op k) ∧ event.deviceID = d ∧
    match op with
    | .sql (.updateDeploymentDeviceStatus p) => p.status = "success" ∧ p.deploymentID = id
    | .sql (.incrementDeploymentSuccess id') => id' = id
    | .sql (.updateDeviceVersion _ _) =>
        ∃ row, ControlPlane.foundRow i s.plane = some row ∧ row.deploymentID = id
    | _ => False

/-- What is credited to a deployment has been installed for it. -/
theorem Provenance.completed_of_credits {s : State} {l : Label} {d : DeviceID}
    {id : DeploymentID} (hs : Provenance s) (h : Credits s l d id) : Completed s d id := by
  obtain ⟨i, x, event, op, k, rfl, hi, rfl, hop⟩ := h
  have hallowed : ControlPlane.CreditAllowed (.progress event) (ControlPlane.foundRow i s.plane) op :=
    (hs.plane.obeys i _ _ hi).1
  cases op with
  | sql q =>
      cases q with
      | updateDeploymentDeviceStatus p =>
          obtain ⟨hsuccess, rfl⟩ := hop
          obtain ⟨-, hstatus, row, hrow, hid⟩ := hallowed
          rw [hid]
          exact hs.matched i event _ hi (hstatus.symm.trans hsuccess) row hrow
      | incrementDeploymentSuccess id' =>
          obtain ⟨hsuccess, row, hrow, hid⟩ := hallowed
          obtain rfl : id' = id := hop
          rw [hid]
          exact hs.matched i event _ hi hsuccess row hrow
      | updateDeviceVersion d' v =>
          obtain ⟨row, hrow, rfl⟩ := hop
          exact hs.matched i event _ hi hallowed.1 row hrow
      | _ => exact hop.elim
  | _ => exact hop.elim

/-- If every success report is matched with the deployment it answers, then whatever a run
credits to a deployment has been installed for it. -/
theorem attribution_sound {procs : DeviceID → Agent.Process} {robots : DeviceID → Agent.Robot}
    {db : Db} {ls : List Label} {s : State}
    (h : run (step procs) (start procs robots db) ls = some s)
    (hmatched : EachStep (step procs) Matched (start procs robots db) ls)
    {l : Label} {d : DeviceID} {id : DeploymentID} (hcredits : Credits s l d id) :
    Completed s d id := by
  have hprovenance : Provenance s := by
    apply run_invariant_of_eachStep ?_ (provenance_start robots db) hmatched h
    intro m l' m' hm hl hstep
    exact provenance_step hm hl hstep
  exact hprovenance.completed_of_credits hcredits

/-! ## Tests of a state -/

/-- The executable form of {lit}`Answers`. -/
def answers (s : State) (i : Nat) (id : DeploymentID) : Bool :=
  match s.senders i with
  | none => false
  | some (d, j) =>
      match s.packets d j with
      | none => false
      | some packet => packet.onBehalfOf = id && packet.cmd.isUpdate

theorem answers_spec {s : State} {i : Nat} {id : DeploymentID} (h : answers s i id = true) :
    Answers s i id := by
  unfold answers at h
  split at h
  · cases h
  · rename_i d j hsender
    split at h
    · cases h
    · rename_i packet hpacket
      rw [Bool.and_eq_true, decide_eq_true_eq] at h
      exact ⟨d, j, packet, hsender, hpacket, h.1, h.2⟩

/-- The row a callback is about to look up belongs to the deployment it answers. -/
def matched (s : State) : Label → Bool
  | .plane (.step i _) =>
      match s.plane.thread i with
      | some (.progress _, .call (.sql (.getActiveDeploymentDeviceByDevice d)) _) =>
          (s.plane.store.db.activeRow d).all fun row => answers s i row.deploymentID
      | _ => true
  | _ => true

theorem matched_spec {s : State} {l : Label} (h : matched s l = true) : Matched s l := by
  intro i x event d k hl hi hsuccess row hrow
  rw [hl, matched, hi] at h
  dsimp only at h
  rw [hrow] at h
  exact answers_spec h

/-- The callback is about to set the row of the deployment to {lit}`'success'`. -/
def setsSuccess (s : State) (i : Nat) (d : DeviceID) (id : DeploymentID) : Bool :=
  match s.plane.thread i with
  | some (.progress event, .call (.sql (.updateDeploymentDeviceStatus p)) _) =>
      event.deviceID = d && (p.status = "success" && p.deploymentID = id)
  | _ => false

theorem setsSuccess_spec {s : State} {i : Nat} {d : DeviceID} {id : DeploymentID}
    (h : setsSuccess s i d id = true) : Credits s (.plane (.step i {})) d id := by
  unfold setsSuccess at h
  split at h
  · rename_i event p k hi
    simp only [Bool.and_eq_true, decide_eq_true_eq] at h
    exact ⟨i, {}, event, _, k, rfl, hi, h.1, h.2⟩
  · cases h

/-- A robot that installs the update it was sent. -/
def installedRun : List Label :=
  updateUnderWay ++ handle "r1" 0 27 ++
    [1, 2, 3, 4, 5, 6].flatMap (fun i => reportProgress "r1" i 3) ++ reportProgress "r1" 7 1

/-- The row is credited, and its robot has installed the update. -/
theorem attribution_sound_installed :
    ∃ s, run (step Agent.robotProcess)
        (start Agent.robotProcess Agent.robot (releasedDb ["r1"] (by decide))) installedRun =
          some s ∧
      Credits s (.plane (.step 7 {})) "r1" 0 ∧ Completed s "r1" 0 := by
  obtain ⟨s, h, hsets⟩ := endsWith_eq_true
    (show endsWith (step Agent.robotProcess)
      (start Agent.robotProcess Agent.robot (releasedDb ["r1"] (by decide))) installedRun
      (fun s => setsSuccess s 7 "r1" 0) = true by decide +kernel)
  have hmatched : eachStep (step Agent.robotProcess) matched
      (start Agent.robotProcess Agent.robot (releasedDb ["r1"] (by decide))) installedRun =
        true := by
    decide +kernel
  have hcredits : Credits s (.plane (.step 7 {})) "r1" 0 := setsSuccess_spec hsets
  exact ⟨s, h, hcredits, attribution_sound h
    (EachStep.of_eachStep (fun _ _ => matched_spec) hmatched) hcredits⟩

/-- The operator rolls the deployment back before the robot has started on the update; the
row stays active, and the success the robot reports for the rollback command is recorded as
an installed update. -/
theorem rollback_credited :
    ∃ s, run (step Agent.robotProcess)
        (start Agent.robotProcess Agent.robot (releasedDb ["r1"] (by decide)))
        (updateUnderWay ++ request 1 (.rollback 0) 6 ++ [.deliver "r1" 1] ++ handle "r1" 1 9 ++
          reportProgress "r1" 2 3 ++ reportProgress "r1" 3 1) = some s ∧
      Credits s (.plane (.step 3 {})) "r1" 0 ∧ ¬ Completed s "r1" 0 := by
  obtain ⟨s, h, hend⟩ := endsWith_eq_true
    (show endsWith (step Agent.robotProcess)
      (start Agent.robotProcess Agent.robot (releasedDb ["r1"] (by decide)))
      (updateUnderWay ++ request 1 (.rollback 0) 6 ++ [.deliver "r1" 1] ++ handle "r1" 1 9 ++
        reportProgress "r1" 2 3 ++ reportProgress "r1" 3 1)
      (fun s => setsSuccess s 3 "r1" 0 &&
        (((s.agents "r1").trace.all fun e => e.thread = 1 || !e.op.isSwitch) &&
          (s.packets "r1" 1).all fun packet => !packet.cmd.isUpdate)) = true by decide +kernel)
  simp only [Bool.and_eq_true, List.all_eq_true, Bool.or_eq_true, decide_eq_true_eq,
    Bool.not_eq_true', Option.all_eq_true] at hend
  obtain ⟨hsets, hswitches, hrollback⟩ := hend
  refine ⟨s, h, setsSuccess_spec hsets, ?_⟩
  rintro ⟨j, packet, hpacket, -, hupdate, e, he, rfl, hswitch⟩
  rcases hswitches e he with hthread | hnot
  · rw [hthread] at hpacket
    rw [hrollback packet hpacket] at hupdate
    cases hupdate
  · rw [hnot] at hswitch
    cases hswitch

end System

end OtaRobot
