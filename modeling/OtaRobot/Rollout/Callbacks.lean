import OtaRobot.Rollout.Operations

/-!
# Callbacks run one at a time

The MQTT client hands over the next report when the callback of the last one has returned, and a
callback returns at its very end: at most one callback is running.

Main results:

- Theorem {lit}`ControlPlane.body_returnsLast`: a callback returns last, and nothing else returns.
- Theorem {lit}`ControlPlane.serial_step`: at most one callback is running.
-/

namespace OtaRobot

open Prog Transition

/-! ## What a callback does before it returns -/

/-- The procedure does not return to the MQTT client. -/
abbrev Unreturned {α : Type} (m : Rollout α) : Prop :=
  Always AnyAnswer (fun op => op ≠ .callbackReturn) m

/-- A statement is no return. -/
theorem query_unreturned (q : Query) : Unreturned (query q) :=
  ⟨by simp, fun _ _ => trivial⟩

/-- A rollback does not return. -/
theorem RollbackOp.unreturned {op : Op} (h : RollbackOp op) : op ≠ .callbackReturn := by
  intro hop
  subst hop
  cases h

/-- Recording a version does not return. -/
theorem recordInstalledVersion_unreturned (event : DeviceProgressEvent) (dep : Deployment) :
    Unreturned (recordInstalledVersion event dep) := by
  apply (recordInstalledVersion_ops event dep).mono fun _ _ h => h
  intro op hop
  rcases hop with ⟨fw, rfl⟩ | ⟨v, rfl⟩ <;> simp

/-- A completion does not return. -/
theorem completeDeployment_unreturned (depID : DeploymentID) (dep : Deployment) :
    Unreturned (completeDeployment depID dep) := by
  apply Always.bind (query_unreturned _)
  intro _
  split
  · apply Always.bind (query_unreturned _)
    intro _
    trivial
  · trivial

/-- Counting a success does not return. -/
theorem creditSuccess_unreturned (event : DeviceProgressEvent) (row : DeploymentDevice) :
    Unreturned (creditSuccess event row) := by
  apply Always.bind (query_unreturned _)
  intro (r : Option Deployment)
  cases r with
  | none => trivial
  | some dep =>
      dsimp only
      split
      · trivial
      · apply Always.bind (query_unreturned _)
        intro _
        apply Always.bind (recordInstalledVersion_unreturned event dep)
        intro _
        split
        · apply Always.bind (completeDeployment_unreturned _ dep)
          intro _
          trivial
        · trivial

/-- The handling of a row does not return. -/
theorem progressOnRow_unreturned (event : DeviceProgressEvent) (row : DeploymentDevice) :
    Unreturned (progressOnRow event row) := by
  apply Always.bind (query_unreturned _)
  intro (r : Option DeploymentDevice)
  cases r with
  | none => trivial
  | some updated =>
      dsimp only
      split
      · exact creditSuccess_unreturned event row
      · trivial

/-- The handler of a progress leaves the return to its callback. -/
theorem handleDeviceProgress_unreturned (event : DeviceProgressEvent) :
    Unreturned (handleDeviceProgress event) := by
  apply Always.bind (query_unreturned _)
  intro (r : Option DeploymentDevice)
  cases r with
  | none => trivial
  | some row => exact progressOnRow_unreturned event row

/-- The evaluation of a failure does not return. -/
theorem evaluateFailure_unreturned (row : DeploymentDevice) :
    Unreturned (evaluateFailure row) := by
  apply Always.bind (query_unreturned _)
  intro (r : Option Deployment)
  cases r with
  | none => trivial
  | some dep =>
      dsimp only
      split
      · exact (executeRollback_rollbackOps _ _).mono (fun _ _ h => h) fun _ h => h.unreturned
      · split
        · apply Always.bind (query_unreturned _)
          intro _
          trivial
        · trivial

/-- The handling of a row does not return. -/
theorem errorOnRow_unreturned (event : DeviceErrorEvent) (row : DeploymentDevice) :
    Unreturned (errorOnRow event row) := by
  unfold errorOnRow
  split
  · trivial
  · apply Always.bind (query_unreturned _)
    intro (r : Option DeploymentDevice)
    cases r with
    | none => trivial
    | some updated =>
        apply Always.bind (query_unreturned _)
        intro _
        exact evaluateFailure_unreturned row

/-- The handler of an error leaves the return to its callback. -/
theorem handleDeviceError_unreturned (event : DeviceErrorEvent) :
    Unreturned (handleDeviceError event) := by
  apply Always.bind (query_unreturned _)
  intro (r : Option DeploymentDevice)
  cases r with
  | none => trivial
  | some row => exact errorOnRow_unreturned event row

/-! ## Returning last -/

/-- The call is a callback of the broker's client. -/
def Call.isCallback : Call → Bool
  | .progress _ | .error _ => true
  | _ => false

/-- Only a callback returns to the MQTT client, and nothing is left to run then. -/
def ReturnsLast (call : Call) : Rollout Unit → Prop
  | .done _ => True
  | .call op k =>
      (op = .callbackReturn → call.isCallback = true ∧ ∀ r, k r = .done ()) ∧
        ∀ r, ReturnsLast call (k r)

/-- What does not return may stand before. -/
theorem ReturnsLast.of_unreturned {call : Call} {p : Rollout Unit} (hp : Unreturned p) :
    ReturnsLast call p := by
  induction p with
  | done a => trivial
  | call op k ih => exact ⟨fun hop => absurd hop hp.1, fun r => ih r (hp.2 r trivial)⟩

namespace ControlPlane

/-- A callback returns at its end. -/
theorem callback_returnsLast {call : Call} (hcall : call.isCallback = true)
    {handler : Rollout Outcome} (hp : Unreturned handler) :
    ReturnsLast call (callback handler) := by
  show ReturnsLast call (handler >>= fun _ => callbackReturn)
  induction handler with
  | done a => exact ⟨fun _ => ⟨hcall, fun _ => rfl⟩, fun _ => trivial⟩
  | call op k ih => exact ⟨fun hop => absurd hop hp.1, fun r => ih r (hp.2 r trivial)⟩

/-- A callback returns last, and nothing else returns. -/
theorem body_returnsLast (call : Call) : ReturnsLast call (body call) := by
  cases call with
  | progress event => exact callback_returnsLast rfl (handleDeviceProgress_unreturned event)
  | error event => exact callback_returnsLast rfl (handleDeviceError_unreturned event)
  | createDeployment req =>
      apply ReturnsLast.of_unreturned
      apply (createDeployment_ops req).mono fun _ _ h => h
      intro op hop
      cases hop <;> simp
  | getDeployment depID =>
      apply ReturnsLast.of_unreturned
      apply (getDeploymentHandler_ops depID).mono fun _ _ h => h
      intro op hop
      cases hop <;> simp
  | rollback depID =>
      apply ReturnsLast.of_unreturned
      apply (rollbackHandler_ops depID).mono fun _ _ h => h
      intro op hop
      rcases hop with hop | ⟨r, rfl⟩
      · exact hop.unreturned
      · simp
  | runCanary depID devices cmd =>
      apply ReturnsLast.of_unreturned
      apply (runCanary_ops depID devices cmd).mono fun _ _ h => h
      intro op hop
      cases hop <;> simp

/-! ## One at a time -/

/-- Thread {lit}`i` is a callback that has not returned. -/
def Running (c : Config) (i : Nat) : Prop :=
  ∃ call op k, c.thread i = some (call, .call op k) ∧ call.isCallback = true

/-- At most one callback is running, and the client waits for it. -/
structure Serial (c : Config) : Prop where
  returns : c.AllThreads ReturnsLast
  unique : ∀ i j, Running c i → Running c j → i = j
  busy : ∀ i, Running c i → c.store.mqttBusy = true

/-- No callback runs at the start. -/
theorem serial_start (db : Db) : Serial (start db) where
  returns := Machine.allThreads_initial _ _
  unique i j h := by
    obtain ⟨call, op, k, hthread, -⟩ := h
    simp [start, Machine.initial, Machine.Config.thread] at hthread
  busy i h := by
    obtain ⟨call, op, k, hthread, -⟩ := h
    simp [start, Machine.initial, Machine.Config.thread] at hthread

section

variable {c c' : Config} {i j : Nat} {x : Choice} {call : Call} {op : Op}
  {k : op.Ret → Rollout Unit} {r : op.Ret} {l : Label}

/-- An operation starts no callback. -/
theorem running_executed (hs : machine.Executed c c' i x call op k r) (h : Running c' j) :
    Running c j := by
  obtain ⟨call', op', k', hthread, hcall⟩ := h
  rw [hs.threads] at hthread
  split at hthread
  · rename_i hji
    have hpair := Option.some.inj hthread
    have htag : call = call' := congrArg Prod.fst hpair
    subst htag
    exact ⟨call, op, k, hji ▸ hs.before, hcall⟩
  · exact ⟨call', op', k', hthread, hcall⟩

/-- A callback runs from its start on. -/
theorem running_spawned (hs : machine.Spawned c c' i call) (h : Running c' j) :
    Running c j ∨ (j = i ∧ call.isCallback = true) := by
  obtain ⟨call', op', k', hthread, hcall⟩ := h
  rw [hs.threads] at hthread
  split at hthread
  · rename_i hji
    have hpair := Option.some.inj hthread
    have htag : call = call' := congrArg Prod.fst hpair
    subst htag
    exact Or.inr ⟨hji, hcall⟩
  · exact Or.inl ⟨call', op', k', hthread, hcall⟩

/-- A callback starts when none is running. -/
theorem accept_callback {s s' : Store} (hcall : call.isCallback = true)
    (h : accept s call = some s') : s.mqttBusy = false ∧ s' = { s with mqttBusy := true } := by
  cases call with
  | progress event | error event =>
      simp only [accept] at h
      by_cases hbusy : s.mqttBusy = true
      · simp [hbusy] at h
      · rw [if_neg hbusy] at h
        exact ⟨by simpa using hbusy, (Option.some.inj h).symm⟩
  | _ => cases hcall

/-- Who is no callback does not occupy the client. -/
theorem accept_other {s s' : Store} (hcall : call.isCallback = false)
    (h : accept s call = some s') : s'.mqttBusy = s.mqttBusy := by
  cases call with
  | progress event | error event => cases hcall
  | runCanary depID devices cmd =>
      simp only [accept] at h
      split at h
      · rw [← Option.some.inj h]
      · cases h
  | _ => rw [← Option.some.inj h]

/-- Only a return frees the client. -/
theorem exec_busy (s : Store) (op : Op) (x : Choice) :
    (exec s op x).2.mqttBusy = if op = .callbackReturn then false else s.mqttBusy := by
  cases op with
  | sql q =>
      rw [exec_sql]
      split <;> rfl
  | _ => rfl

/-- At most one callback is running. -/
theorem serial_step (hc : Serial c) (h : step c l = some c') : Serial c' := by
  have hreturns : c'.AllThreads ReturnsLast := by
    apply Machine.step_allThreads h hc.returns
    · intro id call _ _
      exact body_returnsLast call
    · intro id x call op k r _ _ hcall
      exact hcall.2 r
  obtain ⟨i, call, -, hs⟩ | ⟨i, x, call, op, k, r, -, hs⟩ := Machine.step_cases h
  · by_cases hcall : call.isCallback = true
    · obtain ⟨hfree, hstore⟩ := accept_callback hcall hs.accepted
      have hnone : ∀ j, ¬ Running c j := by
        intro j hj
        rw [hc.busy j hj] at hfree
        cases hfree
      have honly : ∀ j, Running c' j → j = i := by
        intro j hj
        rcases running_spawned hs hj with h | ⟨hji, -⟩
        · exact absurd h (hnone j)
        · exact hji
      exact ⟨hreturns, fun j j' hj hj' => (honly j hj).trans (honly j' hj').symm,
        fun _ _ => by rw [hstore]⟩
    · have hbefore : ∀ j, Running c' j → Running c j := by
        intro j hj
        rcases running_spawned hs hj with h | ⟨-, h⟩
        · exact h
        · exact absurd h hcall
      refine ⟨hreturns, fun j j' hj hj' => hc.unique j j' (hbefore j hj) (hbefore j' hj'), ?_⟩
      intro j hj
      rw [accept_other (by simpa using hcall) hs.accepted]
      exact hc.busy j (hbefore j hj)
  · have hstore : c'.store = (exec c.store op x).2 := (executed_answer hs).2
    refine ⟨hreturns, fun j j' hj hj' => hc.unique j j' (running_executed hs hj)
      (running_executed hs hj'), ?_⟩
    intro j hj
    rw [hstore, exec_busy]
    by_cases hop : op = .callbackReturn
    · -- The callback that returns was the one that ran.
      obtain ⟨hcall, hdone⟩ := (hc.returns i call _ hs.before).1 hop
      have hji : j = i := hc.unique j i (running_executed hs hj) ⟨call, op, k, hs.before, hcall⟩
      obtain ⟨call', op', k', hthread, -⟩ := hj
      rw [hs.threads, if_pos hji, hdone r] at hthread
      cases hthread
    · rw [if_neg hop]
      exact hc.busy j (running_executed hs hj)

end

end ControlPlane

end OtaRobot
