import OtaRobot.Rollout.Canary

/-!
# Updates after a rollback

The dispatch loops and the rollback loop publish to the same robots from different
goroutines.  {lit}`runCanary` looks at the status once for each phase and
{lit}`StartRollout` never does, so a loop that is under way publishes its remaining
updates after the rollback, and a robot that was told to go back is updated.

Main results:

- Theorem {lit}`update_after_rollback`: an error report during a direct dispatch puts
  an update behind a rollback.
- Theorem {lit}`no_update_after_rollback`: it does not happen in a run in which no
  dispatch to a robot is under way when its rollback is published.
-/

namespace OtaRobot

open Prog Transition

namespace ControlPlane

/-- The commands published to a robot on behalf of a deployment, in order. -/
def commandsTo (id : DeploymentID) (deviceID : DeviceID) (c : Config) : List Command :=
  c.trace.filterMap fun e =>
    match e.op with
    | .publishCommand id' deviceID' cmd =>
        if id' = id ∧ deviceID' = deviceID then some cmd else none
    | _ => none

/-- Once a rollback is published no update is. -/
def RollbackLast (cmds : List Command) : Prop :=
  cmds.Pairwise fun earlier later => earlier.isUpdate = false → later.isUpdate = false

instance (cmds : List Command) : Decidable (RollbackLast cmds) :=
  inferInstanceAs (Decidable (List.Pairwise _ _))

/-- An update of the robot on behalf of the deployment. -/
def UpdatesDevice (id : DeploymentID) (deviceID : DeviceID) (op : Op) : Prop :=
  ∃ cmd, op = .publishCommand id deviceID (.update cmd)

/-- The thread can publish an update to the robot before it reads the deployment
again. -/
def UpdatePending (id : DeploymentID) (deviceID : DeviceID) (p : Rollout Unit) : Prop :=
  Pending (Foreign id) (ReadsDeployment id) (UpdatesDevice id deviceID) p

/-- When a rollback is published to the robot, the deployment is not running, no
other thread can set it running, and no other thread is in the middle of a dispatch to the
robot. -/
structure RollbackAfterDispatch (id : DeploymentID) (deviceID : DeviceID) (c : Config)
    (l : Label) : Prop where
  stopped : ∀ i x tag version reason k, l = .step i x →
    c.thread i = some (tag, .call (.publishCommand id deviceID (.rollback version reason)) k) →
    deployment c id ≠ none ∧ status c id ≠ some .running
  others : ∀ i x tag version reason k, l = .step i x →
    c.thread i = some (tag, .call (.publishCommand id deviceID (.rollback version reason)) k) →
    ∀ j tag' p, j ≠ i → c.thread j = some (tag', p) →
      StatusSettled id p ∧ ¬ UpdatePending id deviceID p

/-! ## Threads that publish no update -/

/-- A handler sends no update. -/
theorem HandlerOp.not_updatesDevice {op : Op} (h : HandlerOp op) (id : DeploymentID)
    (deviceID : DeviceID) : ¬ UpdatesDevice id deviceID op := by
  rintro ⟨cmd, rfl⟩
  cases h

/-- The operations of a handler. -/
theorem CallOp.handlerOp {call : Call} (h : call.isHandler = true) {op : Op}
    (hop : CallOp call op) : HandlerOp op := by
  cases call with
  | createDeployment | runCanary => cases h
  | progress | error | getDeployment | rollback => exact hop

/-- A handler publishes no update. -/
theorem handler_not_updatePending {call : Call} (h : call.isHandler = true) {p : Rollout Unit}
    (hp : Always AnyAnswer (CallOp call) p) (id : DeploymentID) (deviceID : DeviceID) :
    ¬ UpdatePending id deviceID p := by
  refine Always.not_pending (hp.mono (fun _ _ _ => trivial) fun op hop => hop) ?_
  intro op hop
  exact HandlerOp.not_updatesDevice (CallOp.handlerOp h hop) id deviceID

/-- A thread that publishes a rollback is a handler. -/
theorem isHandler_of_rollback {call : Call} {id : DeploymentID} {deviceID : DeviceID}
    {version : String} {reason : RollbackReason}
    (h : CallOp call (.publishCommand id deviceID (.rollback version reason))) :
    call.isHandler = true := by
  cases call with
  | createDeployment | runCanary => cases h
  | progress | error | getDeployment | rollback => rfl

/-- A canary that has dispatched its open phase publishes nothing before its next
read. -/
theorem canary_not_updatePending {depID : DeploymentID} {devs : List Device}
    {cmd : UpdateCommand} {g : Dispatched} {p : Rollout Unit}
    (hp : Obeys (canaryDiscipline depID devs cmd) (fun _ _ => True) g p)
    (hg : g.sent = phaseEnd devs.length g.phase) (deviceID : DeviceID) :
    ¬ UpdatePending depID deviceID p := by
  refine hp.not_pending (G := fun g => g.sent = phaseEnd devs.length g.phase)
    (fun _ _ _ _ => trivial) ?_ ?_ hg
  · intro g op r hg hallowed hread
    cases op with
    | publishCommand id' deviceID' c =>
        have hlt : g.sent < phaseEnd devs.length g.phase := hallowed.1
        omega
    | sql q =>
        cases q with
        | getDeployment id' site =>
            have hne : id' ≠ depID := by
              intro h
              exact hread ⟨site, by rw [h]⟩
            cases site with
            | phaseCheck phaseNum => simpa [canaryDiscipline, sentAfter, phaseAfter, hne] using hg
            | _ => exact hg
        | _ => exact hg
    | _ => exact hg
  · intro g op hg hallowed hupdates
    obtain ⟨c, rfl⟩ := hupdates
    have hlt : g.sent < phaseEnd devs.length g.phase := hallowed.1
    omega

/-- A canary publishes for its own deployment only. -/
theorem canary_foreign_not_updatePending {id depID : DeploymentID} (hne : depID ≠ id)
    {cmd : UpdateCommand} {p : Rollout Unit} (hp : Always AnyAnswer (CanaryOp depID cmd) p)
    (deviceID : DeviceID) : ¬ UpdatePending id deviceID p := by
  refine Always.not_pending (hp.mono (fun _ _ _ => trivial) fun op hop => hop) ?_
  intro op hop hupdates
  obtain ⟨c, rfl⟩ := hupdates
  cases hop
  exact hne rfl

/-- A new thread publishes no update of an existing deployment before it reads it. -/
theorem body_not_updatePending (id : DeploymentID) (deviceID : DeviceID) (call : Call) :
    ¬ UpdatePending id deviceID (body call) := by
  cases call with
  | createDeployment req =>
      refine Always.not_pending (createDeployment_aloof id req) ?_
      intro op haloof hupdates
      obtain ⟨cmd, rfl⟩ := hupdates
      exact haloof.noUpdate deviceID cmd rfl
  | runCanary depID devs cmd =>
      by_cases hid : depID = id
      · subst hid
        exact canary_not_updatePending (runCanary_dispatch depID devs cmd) rfl deviceID
      · exact canary_foreign_not_updatePending hid (runCanary_ops depID devs cmd) deviceID
  | progress | error | getDeployment | rollback =>
      exact handler_not_updatePending rfl (body_ops _) id deviceID

/-- A canary reads its deployment when the open phase is dispatched. -/
theorem canaryAllowed_read {id depID : DeploymentID} {devs : List Device}
    {cmd : UpdateCommand} {g : Dispatched} {site : ReadSite}
    (h : CanaryAllowed depID devs cmd g (.sql (.getDeployment id site))) :
    g.sent = phaseEnd devs.length g.phase := by
  cases site with
  | phaseCheck phaseNum => exact h.1
  | handler | observeWindow | rolloutEnd => exact h

/-! ## Stopped deployments -/

/-- No update of the robot on behalf of the deployment can follow. -/
structure Stopped (id : DeploymentID) (deviceID : DeviceID) (c : Config) : Prop where
  launched : Launched id c
  status : status c id ≠ some .running
  quiet : c.AllThreads fun _ p => ¬ UpdatePending id deviceID p

/-- A read of a deployment that is not running leaves nothing pending. -/
theorem read_not_updatePending {id : DeploymentID} {deviceID : DeviceID} {c c' : Config}
    {i : Nat} {x : Choice} {call : Call} {site : ReadSite}
    {k : Option Deployment → Rollout Unit} {r : Option Deployment}
    (hdispatch : DispatchInvariant c) (hops : IssuesOwnOps c)
    (hstatus : status c id ≠ some .running)
    (hs : machine.Executed c c' i x call (.sql (.getDeployment id site)) k r) :
    ¬ UpdatePending id deviceID (k r) := by
  have hop := hops i call _ hs.before
  cases call with
  | createDeployment req =>
      obtain ⟨hcall, -⟩ := hop
      cases hcall with
      | statement q hlaunch => cases hlaunch
  | runCanary depID devs cmd =>
      by_cases hid : depID = id
      · subst hid
        obtain ⟨hallowed, hobeys⟩ := hdispatch.disciplined.obeys i _ _ hs.before
        refine canary_not_updatePending (hobeys r trivial) ?_ deviceID
        have hsettled := canaryAllowed_read hallowed
        have hphase := phaseAfter_executed hs hstatus (Machine.ghost
          (canaryDiscipline depID devs cmd) {} i c.trace).phase
        exact hsettled.trans (congrArg _ hphase.symm)
      · exact canary_foreign_not_updatePending hid (hop.2 r trivial) deviceID
  | progress | error | getDeployment | rollback =>
      exact handler_not_updatePending rfl (hop.2 r trivial) id deviceID

/-- A step after the rollback sends the robot nothing more. -/
theorem stopped_step {id : DeploymentID} {deviceID : DeviceID} {c c' : Config} {l : Label}
    (hdispatch : DispatchInvariant c) (hops : IssuesOwnOps c) (hc : Stopped id deviceID c)
    (h : step c l = some c') : Stopped id deviceID c' where
  launched := launched_step hc.launched h
  status := hc.launched.not_running_step hc.status h
  quiet := by
    apply Machine.step_allThreads h hc.quiet
    · intro i call _ _
      exact body_not_updatePending id deviceID call
    · intro i x call op k r _ hs hquiet
      by_cases hread : ReadsDeployment id op
      · obtain ⟨site, rfl⟩ := hread
        exact read_not_updatePending hdispatch hops hc.status hs
      · intro hpending
        exact hquiet (Pending.of_answer hread (executed_foreign hs hc.launched.exists_) hpending)

/-- The deployment is stopped where the condition lets a rollback be published. -/
theorem stopped_of_rollback {id : DeploymentID} {deviceID : DeviceID} {c : Config}
    {i : Nat} {x : Choice} {call : Call} {version : String} {reason : RollbackReason}
    {k : Bool → Rollout Unit} (hops : IssuesOwnOps c)
    (hi : c.thread i =
      some (call, .call (.publishCommand id deviceID (.rollback version reason)) k))
    (hok : RollbackAfterDispatch id deviceID c (.step i x)) : Stopped id deviceID c := by
  obtain ⟨hexists, hstatus⟩ := hok.stopped i x call version reason k rfl hi
  have hothers := hok.others i x call version reason k rfl hi
  have howner : Always AnyAnswer (CallOp call)
      (.call (.publishCommand id deviceID (.rollback version reason)) k) := hops i call _ hi
  have hhandler : call.isHandler = true := isHandler_of_rollback howner.1
  refine ⟨⟨hexists, ?_⟩, hstatus, ?_⟩
  · intro j tag p hj
    by_cases hji : j = i
    · subst hji
      obtain ⟨rfl, rfl⟩ : call = tag ∧ _ = p := by simpa [hi] using hj
      exact howner.mono (fun _ _ _ => trivial) fun op hop =>
        (HandlerOp.settled (CallOp.handlerOp hhandler hop) id).status
    · exact (hothers j tag p hji hj).1
  · intro j tag p hj
    by_cases hji : j = i
    · subst hji
      obtain ⟨rfl, rfl⟩ : call = tag ∧ _ = p := by simpa [hi] using hj
      exact handler_not_updatePending hhandler howner id deviceID
    · exact (hothers j tag p hji hj).2

/-! ## The last command -/

/-- Rollbacks come last, and once there is one the deployment is stopped. -/
structure RaceInvariant (id : DeploymentID) (deviceID : DeviceID) (c : Config) : Prop where
  dispatch : DispatchInvariant c
  ops : IssuesOwnOps c
  last : RollbackLast (commandsTo id deviceID c)
  stopped : (∃ cmd ∈ commandsTo id deviceID c, cmd.isUpdate = false) → Stopped id deviceID c

/-- Nothing was sent at the start. -/
theorem raceInvariant_start (id : DeploymentID) (deviceID : DeviceID) (db : Db) :
    RaceInvariant id deviceID (start db) where
  dispatch := dispatchInvariant_start db
  ops := Machine.allThreads_initial _ _
  last := List.Pairwise.nil
  stopped h := by simp [commandsTo, start, Machine.initial] at h

/-- A step publishes at most one command to the robot. -/
theorem commandsTo_step {id : DeploymentID} {deviceID : DeviceID} {c c' : Config} {l : Label}
    (h : step c l = some c') :
    commandsTo id deviceID c' = commandsTo id deviceID c ∨
      ∃ i x tag cmd k r, l = .step i x ∧
        machine.Executed c c' i x tag (.publishCommand id deviceID cmd) k r ∧
        commandsTo id deviceID c' = commandsTo id deviceID c ++ [cmd] := by
  obtain ⟨i, tag, -, hs⟩ | ⟨i, x, tag, op, k, r, hl, hs⟩ := Machine.step_cases h
  · left
    rw [commandsTo, hs.trace]
    rfl
  · rw [commandsTo, hs.trace, List.filterMap_append]
    cases op with
    | publishCommand id' deviceID' cmd =>
        by_cases hto : id' = id ∧ deviceID' = deviceID
        · obtain ⟨rfl, rfl⟩ := hto
          right
          exact ⟨i, x, tag, cmd, k, r, hl, hs, by simp [commandsTo]⟩
        · left
          simp [commandsTo, hto]
    | _ =>
        left
        simp [commandsTo]

/-- A step with the rollback after the dispatch keeps the invariant. -/
theorem raceInvariant_step {id : DeploymentID} {deviceID : DeviceID} {c c' : Config}
    {l : Label} (hc : RaceInvariant id deviceID c) (hok : RollbackAfterDispatch id deviceID c l)
    (h : step c l = some c') : RaceInvariant id deviceID c' := by
  have hdispatch : DispatchInvariant c' := dispatchInvariant_step hc.dispatch h
  have hops : IssuesOwnOps c' := issuesOwnOps_step hc.ops h
  have hstays : Stopped id deviceID c → Stopped id deviceID c' := fun hstopped =>
    stopped_step hc.dispatch hc.ops hstopped h
  obtain hsame | ⟨i, x, tag, cmd, k, r, rfl, hs, hcmds⟩ := commandsTo_step h
  · exact ⟨hdispatch, hops, hsame ▸ hc.last, fun hrolled => hstays (hc.stopped (hsame ▸ hrolled))⟩
  · cases cmd with
    | update u =>
        -- An update is pending where it is published, so no rollback came before.
        have hnone : ∀ cmd ∈ commandsTo id deviceID c, cmd.isUpdate = true := by
          intro cmd hmem
          by_contra hne
          have hstopped := hc.stopped ⟨cmd, hmem, by simpa using hne⟩
          exact hstopped.quiet i tag _ hs.before (Or.inl ⟨u, rfl⟩)
        refine ⟨hdispatch, hops, ?_, ?_⟩
        · rw [hcmds, RollbackLast, List.pairwise_append]
          refine ⟨hc.last, List.pairwise_singleton _ _, ?_⟩
          intro earlier hmem later _ hrollback
          rw [hnone earlier hmem] at hrollback
          cases hrollback
        · rw [hcmds]
          rintro ⟨cmd, hmem, hrollback⟩
          rw [List.mem_append, List.mem_singleton] at hmem
          rcases hmem with hmem | rfl
          · rw [hnone cmd hmem] at hrollback
            cases hrollback
          · cases hrollback
    | rollback version reason =>
        have hstopped : Stopped id deviceID c := stopped_of_rollback hc.ops hs.before hok
        refine ⟨hdispatch, hops, ?_, fun _ => hstays hstopped⟩
        rw [hcmds, RollbackLast, List.pairwise_append]
        refine ⟨hc.last, List.pairwise_singleton _ _, ?_⟩
        intro earlier _ later hlater _
        rw [List.mem_singleton] at hlater
        rw [hlater]
        rfl

/-- No update of a robot follows a rollback of it, in every run in which each rollback
is published to the robot after the dispatch to it. -/
theorem no_update_after_rollback {id : DeploymentID} {deviceID : DeviceID} {db : Db}
    {ls : List Label} {c : Config} (h : run step (start db) ls = some c)
    (hok : EachStep step (RollbackAfterDispatch id deviceID) (start db) ls) :
    RollbackLast (commandsTo id deviceID c) :=
  (run_invariant_of_eachStep (fun _ _ _ hc hok hstep => raceInvariant_step hc hok hstep)
    (raceInvariant_start id deviceID db) hok h).last

/-- A step that {lean}`RollbackAfterDispatch` has nothing to say about: no rollback is
published while the deployment is running or another procedure is under way. -/
def rollbackAfterDispatch (id : DeploymentID) (c : Config) : Label → Bool
  | .spawn _ _ => true
  | .step i _ =>
      match c.thread i with
      | some (_, .call (.publishCommand _ _ (.rollback _ _)) _) =>
          c.restDone i && (deployment c id ≠ none && status c id ≠ some .running)
      | _ => true

theorem rollbackAfterDispatch_spec {id : DeploymentID} {deviceID : DeviceID} {c : Config}
    {l : Label} (h : rollbackAfterDispatch id c l = true) :
    RollbackAfterDispatch id deviceID c l where
  stopped := by
    intro i x tag version reason k hl hi
    subst hl
    simp only [rollbackAfterDispatch, hi, Bool.and_eq_true, decide_eq_true_eq] at h
    exact h.2
  others := by
    intro i x tag version reason k hl hi j tag' p hne hj
    subst hl
    simp only [rollbackAfterDispatch, hi, Bool.and_eq_true, decide_eq_true_eq] at h
    obtain rfl := Machine.Config.restDone_spec h.1 hj hne
    exact ⟨trivial, Prog.not_pending_done _ _ _ _⟩

/-- The operator rolls a dispatched rollout back. -/
theorem no_update_after_rollback_of_dispatched :
    ∃ c, run step (start (fleetDb ["r1", "r2"] (by decide)))
      (startCall 0 (.createDeployment (rolloutRequest "full")) 12 ++
        startCall 1 (.rollback 0) 8) = some c ∧
      RollbackLast (commandsTo 0 "r1" c) := by
  obtain ⟨c, h, -⟩ := endsWith_eq_true
    (show endsWith step (start (fleetDb ["r1", "r2"] (by decide)))
      (startCall 0 (.createDeployment (rolloutRequest "full")) 12 ++
        startCall 1 (.rollback 0) 8) (fun _ => true) = true by decide +kernel)
  refine ⟨c, h, no_update_after_rollback h ?_⟩
  exact EachStep.of_eachStep (fun _ _ => rollbackAfterDispatch_spec) (by decide +kernel)

/-- A direct dispatch to two robots: the first one refuses the update, the deployment is
rolled back, and the second one gets its update after its rollback. -/
theorem update_after_rollback :
    ¬ ∀ (id : DeploymentID) (deviceID : DeviceID) (db : Db) (ls : List Label) (c : Config),
      run step (start db) ls = some c → RollbackLast (commandsTo id deviceID c) := by
  intro h
  obtain ⟨c, hrun, hlast⟩ := endsWith_eq_true
    (show endsWith step (start (fleetDb ["r1", "r2"] (by decide)))
      (startCall 0 (.createDeployment (rolloutRequest "full")) 9 ++
        startCall 1 (.error ⟨"r2", "device busy"⟩) 12 ++ resumeCall 0 1)
      (fun c => !decide (RollbackLast (commandsTo 0 "r1" c))) = true by decide +kernel)
  have hafter := h 0 "r1" _ _ c hrun
  simp [hafter] at hlast

end ControlPlane

end OtaRobot
