import OtaRobot.Rollout.Ledger

/-!
# Handler calls one after another

When no two handler calls overlap and no statement fails, a call is one step on the
database.  The canary goroutines still run between its statements; all they write is
the phase of a deployment.

Main results:

- Theorem {lit}`handle_of_run`: what the interleaved control plane does during such a
  call is one such step.
- Theorem {lit}`ledger_handle`: what a call does to the ledger of a deployment.
-/

namespace OtaRobot

open Prog Transition

/-- One {lit}`UpdateDeploymentPhase` of a canary goroutine. -/
structure PhaseWrite where
  depID : DeploymentID
  currentPhase : Nat
  canaryPercentage : Nat
deriving DecidableEq, Repr

/-- A canary writes one phase. -/
def Db.writePhase (db : Db) (w : PhaseWrite) : Db :=
  (db.exec 0 (.updateDeploymentPhase w.depID w.currentPhase w.canaryPercentage)).2

/-- A canary writes some phases. -/
def Db.writePhases (db : Db) (ws : List PhaseWrite) : Db :=
  ws.foldl Db.writePhase db

/-- A handler call, with the UUID and the URL it is given, and with what the canary
goroutines write before each of its operations and after the last one. -/
structure Handling where
  call : Call
  uuid : DeploymentID := 0
  url : String := ""
  canary : List (List PhaseWrite) := []
deriving DecidableEq, Repr

/-- No statement of the call fails. -/
def Handling.choice (h : Handling) : Choice where
  uuid := h.uuid
  url := h.url

/-- One operation of the call, after the writes of the canary goroutines. -/
def execQuiet (x : Choice) (s : Db × List (List PhaseWrite)) (op : Op) :
    op.Ret × (Db × List (List PhaseWrite)) :=
  let answer := ControlPlane.exec { db := s.1.writePhases (s.2.headD []) } op x
  (answer.1, (answer.2.db, s.2.tail))

/-- Run a program to its end, then let the canary goroutines write the rest. -/
def runQuiet (x : Choice) (p : Rollout Unit) (db : Db) (canary : List (List PhaseWrite)) : Db :=
  let final := (p.run (execQuiet x) (db, canary)).2
  final.1.writePhases final.2.flatten

/-- The database after the call. -/
def handle (db : Db) (h : Handling) : Db :=
  runQuiet h.choice (ControlPlane.body h.call) db h.canary

/-- A call is always possible. -/
def handleStep (db : Db) (h : Handling) : Option Db :=
  some (handle db h)

/-! ## Sequential calls in the interleaved control plane -/

/-- One operation in quiet times. -/
theorem runQuiet_call (x : Choice) (op : Op) (k : op.Ret → Rollout Unit) (db : Db)
    (canary : List (List PhaseWrite)) :
    runQuiet x (.call op k) db canary =
      runQuiet x (k (ControlPlane.exec { db := db.writePhases (canary.headD []) } op x).1)
        (ControlPlane.exec { db := db.writePhases (canary.headD []) } op x).2.db
        canary.tail :=
  rfl

/-- A phase write before the call is a phase write before its first operation. -/
theorem runQuiet_writePhase (x : Choice) (p : Rollout Unit) (db : Db) (w : PhaseWrite)
    (canary : List (List PhaseWrite)) :
    runQuiet x p (db.writePhase w) canary =
      runQuiet x p db ((w :: canary.headD []) :: canary.tail) := by
  cases p with
  | done a =>
      have hflat : canary.flatten = canary.headD [] ++ canary.tail.flatten := by
        cases canary <;> simp
      simp [runQuiet, hflat, Db.writePhases]
  | call op k =>
      rw [runQuiet_call, runQuiet_call]
      rfl

namespace ControlPlane

/-- The canary goroutines run {lit}`runCanary`. -/
def CanaryThreads (c : Config) : Prop :=
  c.AllThreads fun tag p => ∀ depID devices cmd, tag = .runCanary depID devices cmd →
    Always AnyAnswer (CanaryOp depID cmd) p

/-- A step keeps the canaries to their operations. -/
theorem canaryThreads_step {c c' : Config} {l : Label} (hc : CanaryThreads c)
    (h : step c l = some c') : CanaryThreads c' := by
  refine Machine.step_allThreads h hc ?_ ?_
  · intro i tag _ hs depID devices cmd htag
    rw [htag]
    exact runCanary_ops depID devices cmd
  · intro i x tag op k r hl hs hp depID devices cmd htag
    exact (hp depID devices cmd htag).2 r trivial

/-- A step of a canary goroutine writes one phase or nothing. -/
theorem canary_db {c c' : Config} {j : Nat} {x : Choice} {depID : DeploymentID}
    {devices : List Device} {cmd : UpdateCommand} {op : Op} {k : op.Ret → Rollout Unit}
    {r : op.Ret} (hs : machine.Executed c c' j x (.runCanary depID devices cmd) op k r)
    (hcanary : CanaryThreads c) :
    c'.store.db = c.store.db ∨ ∃ w, c'.store.db = c.store.db.writePhase w := by
  have hop : CanaryOp depID cmd op := (hcanary j _ _ hs.before depID devices cmd rfl).1
  have hstore : c'.store = (exec c.store op x).2 := (executed_answer hs).2
  rw [hstore]
  cases hop with
  | read site =>
      left
      rcases exec_sql_db c.store (.getDeployment depID site) x with hsame | hexec
      · exact hsame
      · exact hexec
  | phase p percentage =>
      rcases exec_sql_db c.store (.updateDeploymentPhase depID p percentage) x with hsame | hexec
      · exact Or.inl hsame
      · exact Or.inr ⟨⟨depID, p, percentage⟩, hexec⟩
  | _ => exact Or.inl rfl

/-- The label lets the call go on, or a canary goroutine. -/
def OnlyCall (i : Nat) (x : Choice) (c : Config) (l : Label) : Prop :=
  l = .step i x ∨ ∃ j y depID devices cmd p, j ≠ i ∧ l = .step j y ∧
    c.thread j = some (.runCanary depID devices cmd, p)

/-- Answers and the database after an operation depend on the database only. -/
theorem exec_congr {s s' : Store} (h : s.db = s'.db) (op : Op) (x : Choice) :
    (exec s op x).1 = (exec s' op x).1 ∧ (exec s op x).2.db = (exec s' op x).2.db := by
  cases op with
  | sql q =>
      simp only [exec_sql, h]
      split
      · exact ⟨rfl, h⟩
      · exact ⟨rfl, rfl⟩
  | _ => exact ⟨rfl, h⟩

/-- One step of the call, followed by what is left of it. -/
theorem runQuiet_executed {c c' : Config} {i : Nat} {x : Choice} {call : Call} {op : Op}
    {k : op.Ret → Rollout Unit} {r : op.Ret} (hs : machine.Executed c c' i x call op k r)
    (canary : List (List PhaseWrite)) :
    runQuiet x (.call op k) c.store.db ([] :: canary) =
      runQuiet x (k r) c'.store.db canary := by
  obtain ⟨hr, hstore⟩ := executed_answer hs
  have hdb₀ : c.store.db = ({ db := c.store.db } : Store).db := rfl
  obtain ⟨hanswer, hdb⟩ := exec_congr hdb₀ op x
  rw [runQuiet_call, hr, hstore, hanswer, hdb]
  rfl

/-- A call that nothing but canary goroutines interrupts runs as one step. -/
theorem runQuiet_of_run {i : Nat} {x : Choice} {call : Call} {ls : List Label} {c c' : Config}
    {p : Rollout Unit} (hp : c.thread i = some (call, p)) (hcanary : CanaryThreads c)
    (honly : EachStep step (OnlyCall i x) c ls) (h : run step c ls = some c')
    (hdone : c'.thread i = some (call, .done ())) :
    ∃ canary, c'.store.db = runQuiet x p c.store.db canary := by
  induction ls generalizing c p with
  | nil =>
      obtain rfl : c = c' := by simpa using h
      obtain rfl : p = .done () := by simpa [hp] using hdone
      exact ⟨[], rfl⟩
  | cons l ls ih =>
      obtain ⟨m, hstep, hrest⟩ := run_cons_eq_some h
      have hcanary' : CanaryThreads m := canaryThreads_step hcanary hstep
      have honly' : EachStep step (OnlyCall i x) m ls := honly.2 m hstep
      obtain ⟨j, tag, rfl, hs⟩ | ⟨j, y, tag, op, k, r, rfl, hs⟩ := Machine.step_cases hstep
      · rcases honly.1 with hl | ⟨_, _, _, _, _, _, _, hl, _⟩ <;> cases hl
      · by_cases hji : j = i
        · subst hji
          have hx : y = x := by
            rcases honly.1 with hl | ⟨j', _, _, _, _, _, hne, hl, _⟩
            · cases hl
              rfl
            · cases hl
              exact absurd rfl hne
          subst hx
          obtain ⟨rfl, rfl⟩ : call = tag ∧ p = .call op k := by
            simpa [hp] using hs.before
          have hm : m.thread j = some (call, k r) := by rw [hs.threads, if_pos rfl]
          obtain ⟨canary, hdb⟩ := ih hm hcanary' honly' hrest
          exact ⟨[] :: canary, by rw [hdb, runQuiet_executed hs]⟩
        · have hm : m.thread i = some (call, p) := by
            rw [hs.threads, if_neg (Ne.symm hji), hp]
          obtain ⟨canary, hdb⟩ := ih hm hcanary' honly' hrest
          have htag : ∃ depID devices cmd, tag = .runCanary depID devices cmd := by
            rcases honly.1 with hl | ⟨j', _, depID, devices, cmd, _, _, hl, hj⟩
            · cases hl
              exact absurd rfl hji
            · cases hl
              rw [hs.before] at hj
              exact ⟨depID, devices, cmd, by cases hj; rfl⟩
          obtain ⟨depID, devices, cmd, rfl⟩ := htag
          rcases canary_db hs hcanary with hsame | ⟨w, hwrite⟩
          · exact ⟨canary, by rw [hdb, hsame]⟩
          · exact ⟨_, by rw [hdb, hwrite, runQuiet_writePhase]⟩

/-- A handler call that overlaps with no other handler call, and in which no
statement fails, is one sequential step. -/
theorem handle_of_run {i : Nat} {call : Call} {uuid : DeploymentID} {url : String}
    {ls : List Label} {c m c' : Config} (hcanary : CanaryThreads c)
    (hspawn : step c (.spawn i call) = some m)
    (honly : EachStep step (OnlyCall i { uuid := uuid, url := url }) m ls)
    (h : run step m ls = some c') (hdone : c'.thread i = some (call, .done ())) :
    ∃ canary, c'.store.db =
      handle c.store.db { call := call, uuid := uuid, url := url, canary := canary } := by
  have hs := Machine.spawned_of_step hspawn
  have hm : m.thread i = some (call, body call) := by
    rw [hs.threads, if_pos rfl]
    rfl
  obtain ⟨canary, hdb⟩ := runQuiet_of_run hm (canaryThreads_step hcanary hspawn) honly h hdone
  refine ⟨canary, ?_⟩
  rw [hdb, accept_db hs.accepted]
  rfl

end ControlPlane

/-! ## Ledgers along a call -/

/-- A phase is not in the account. -/
theorem Db.ledger_writePhase (db : Db) (w : PhaseWrite) (id : DeploymentID) {l : Ledger}
    (h : db.ledger id = some l) : (db.writePhase w).ledger id = some l :=
  Db.ledger_exec h (by simp)

/-- Phases are not in the account. -/
theorem Db.ledger_writePhases {db : Db} {ws : List PhaseWrite} {id : DeploymentID}
    {l : Ledger} (h : db.ledger id = some l) : (db.writePhases ws).ledger id = some l := by
  induction ws generalizing db with
  | nil => exact h
  | cons w ws ih => exact ih (db.ledger_writePhase w id h)

/-- The database answers as its ledgers say. -/
theorem ledgerAnswer_exec {db : Db} {id : DeploymentID} {l : Ledger} {op : Op} {x : Choice}
    (hx : x.fault = false) (h : db.ledger id = some l)
    (hop : ∀ p, op ≠ .sql (.createDeploymentDevice p)) :
    LedgerAnswer id l op (ControlPlane.exec { db := db } op x).1 ∧
      (ControlPlane.exec { db := db } op x).2.db.ledger id = some (l.after id op) := by
  cases op with
  | sql q =>
      rw [ControlPlane.exec_sql, if_neg (by simp [hx])]
      refine ⟨?_, ?_⟩
      · cases q with
        | getDeployment i site =>
            refine ⟨fun d hd => Db.deployment_id hd, ?_⟩
            rintro rfl
            obtain ⟨d, hd, -, hshows⟩ := Db.shows_of_ledger h
            exact ⟨d, hd, hshows⟩
        | updateDeploymentStatus i status =>
            rintro rfl
            obtain ⟨d, hd, -, -⟩ := Db.shows_of_ledger h
            have hafter : (db.exec x.uuid (.updateDeploymentStatus i status)).2.deployment i =
                some (Query.onDeployment (.updateDeploymentStatus i status) d) :=
              Db.deployment_exec hd
            exact ⟨_, hafter⟩
        | listDeploymentDevices i => exact ⟨_, rfl⟩
        | updateDeploymentDeviceStatus p =>
            rintro ⟨row, hrow, hsel⟩
            rw [Db.rows_of_ledger h] at hrow
            exact Db.updateDeploymentDeviceStatus_isSome (Db.mem_rowsOf.mp hrow).1 hsel
        | _ => trivial
      · refine Db.ledger_exec h ?_
        intro p hp
        exact absurd (congrArg Op.sql hp) (hop p)
  | _ => exact ⟨trivial, h⟩

/-- One operation between canary writes. -/
theorem ledger_execQuiet {id : DeploymentID} {x : Choice} (hx : x.fault = false) (s : Db × List (List PhaseWrite)) (l : Ledger)
    (op : Op) (h : s.1.ledger id = some l) (hop : ∀ p, op ≠ .sql (.createDeploymentDevice p)) :
    LedgerAnswer id l op (execQuiet x s op).1 ∧
      (execQuiet x s op).2.1.ledger id = some (l.after id op) :=
  ledgerAnswer_exec hx (Db.ledger_writePhases h) hop

/-- Along a program the ledger goes where the program takes it. -/
theorem runQuiet_ledger {db : Db} {id : DeploymentID} {l l' : Ledger} {x : Choice}
    {p : Rollout Unit} {canary : List (List PhaseWrite)} (hx : x.fault = false)
    (h : db.ledger id = some l) (hp : TakesLedger id l l' p) :
    (runQuiet x p db canary).ledger id = some l' := by
  obtain ⟨final, hledger, rfl⟩ := Obeys.run (ledger_execQuiet hx) hp
    (s := (db, canary)) (R := fun s l => s.1.ledger id = some l) h
  exact Db.ledger_writePhases hledger

/-! ## The active row along canary writes -/

/-- A phase is no status. -/
theorem Db.deployment_writePhase_status (db : Db) (w : PhaseWrite) (id : DeploymentID) :
    ((db.writePhase w).deployment id).map (fun d => d.status) =
      (db.deployment id).map fun d => d.status := by
  simp only [Db.writePhase, Db.exec, Db.deployment_updateDeployment]
  split
  · rw [Option.map_map]
    rfl
  · rfl

/-- A phase makes no row active. -/
theorem Db.isActive_writePhase (db : Db) (w : PhaseWrite) (deviceID : DeviceID)
    (row : DeploymentDevice) :
    (db.writePhase w).isActive deviceID row = db.isActive deviceID row := by
  have hstatus := db.deployment_writePhase_status w row.deploymentID
  unfold Db.isActive
  cases hd : db.deployment row.deploymentID <;>
    cases hd' : (db.writePhase w).deployment row.deploymentID <;> simp_all

/-- Phases change no active row. -/
theorem Db.activeRow_writePhases (db : Db) (ws : List PhaseWrite) (deviceID : DeviceID) :
    (db.writePhases ws).activeRow deviceID = db.activeRow deviceID := by
  induction ws generalizing db with
  | nil => rfl
  | cons w ws ih =>
      have hactive : (db.writePhase w).activeRow deviceID = db.activeRow deviceID := by
        have hfun : (db.writePhase w).isActive deviceID = db.isActive deviceID :=
          funext (db.isActive_writePhase w deviceID)
        rw [Db.activeRow, hfun]
        rfl
      rw [← hactive]
      exact ih (db.writePhase w)

/-! ## What a call does to a ledger -/

/-- The active row of a device, if it belongs to the deployment. -/
def Db.activeRowOf (db : Db) (id : DeploymentID) (deviceID : DeviceID) :
    Option DeploymentDevice :=
  (db.activeRow deviceID).filter fun row => row.deploymentID = id

/-- The ledger after a report, a read or a rollback request. -/
def Db.ledgerAfter (db : Db) (id : DeploymentID) (l : Ledger) : Call → Ledger
  | .progress event =>
      match db.activeRowOf id event.deviceID with
      | none => l
      | some _ => l.afterProgress id event
  | .error event =>
      match db.activeRowOf id event.deviceID with
      | none => l
      | some activeDD => l.afterError id activeDD event
  | .getDeployment depID => if depID = id then l.afterReconcile else l
  | .rollback depID => if depID = id then l.afterRollback else l
  | _ => l

/-- What the active row of a deployment is. -/
theorem Db.activeRowOf_spec {db : Db} {id : DeploymentID} {deviceID : DeviceID}
    {row : DeploymentDevice} (h : db.activeRowOf id deviceID = some row) :
    row ∈ db.rowsOf id ∧ db.isActive deviceID row = true := by
  rw [Db.activeRowOf, Option.filter_eq_some_iff] at h
  obtain ⟨hrow, hid⟩ := h
  obtain ⟨hmem, hactive⟩ := Db.activeRow_spec hrow
  exact ⟨Db.mem_rowsOf.mpr ⟨hmem, by simpa using hid⟩, hactive⟩

/-- A callback does to the account what its handler does. -/
private theorem callback_ledger {id : DeploymentID} {l l' : Ledger} {handler : Rollout Outcome}
    (h : TakesLedger id l l' handler) : TakesLedger id l l' (ControlPlane.callback handler) :=
  h.bind fun _ => takesLedger_call (by simp) fun _ _ => takesLedger_done _

/-- A report handler that takes the ledger to {lit}`l'` on the active row of its device
does so as a callback; without such a row it changes nothing. -/
private theorem runQuiet_report {db : Db} {id : DeploymentID} {l : Ledger}
    {deviceID : DeviceID} {onRow : DeploymentDevice → Rollout Outcome}
    {l' : DeploymentDevice → Ledger} {outcome : Outcome}
    {k : Option DeploymentDevice → Rollout Outcome} {x : Choice}
    {canary : List (List PhaseWrite)} (hx : x.fault = false) (hl : db.ledger id = some l) (hnone : k none = .done outcome)
    (hsome : ∀ row, k (some row) = onRow row)
    (hrow : ∀ row ∈ l.rows, row.deploymentID = id → row.deviceID = deviceID →
      TakesLedger id l (l' row) (onRow row))
    (hother : ∀ row : DeploymentDevice, row.deploymentID ≠ id → TakesLedger id l l (onRow row)) :
    (runQuiet x (ControlPlane.callback
        (.call (.sql (.getActiveDeploymentDeviceByDevice deviceID)) k)) db canary).ledger id =
      some (match db.activeRowOf id deviceID with
        | none => l
        | some row => l' row) := by
  have hl' : (db.writePhases (canary.headD [])).ledger id = some l := Db.ledger_writePhases hl
  have hrun : runQuiet x (ControlPlane.callback
      (.call (.sql (.getActiveDeploymentDeviceByDevice deviceID)) k)) db canary =
      runQuiet x (ControlPlane.callback (k (db.activeRow deviceID)))
        (db.writePhases (canary.headD [])) canary.tail := by
    obtain ⟨fault, uuid, url, ticks⟩ := x
    obtain rfl : fault = false := hx
    rw [← db.activeRow_writePhases (canary.headD []) deviceID]
    rfl
  rw [hrun, Db.activeRowOf]
  cases hfound : db.activeRow deviceID with
  | none =>
      rw [hnone]
      exact runQuiet_ledger hx hl' (callback_ledger (takesLedger_done _))
  | some row =>
      by_cases hid : row.deploymentID = id
      · obtain ⟨hmem, hactive⟩ := Db.activeRow_spec hfound
        have hdevice : row.deviceID = deviceID := ((db.isActive_iff _ _).mp hactive).1
        have hrows : row ∈ l.rows := by
          rw [Db.rows_of_ledger hl]
          exact Db.mem_rowsOf.mpr ⟨hmem, hid⟩
        rw [hsome]
        simp only [Option.filter_some, hid, decide_true, if_true]
        exact runQuiet_ledger hx hl' (callback_ledger (hrow row hrows hid hdevice))
      · rw [hsome]
        simp only [Option.filter_some, hid, decide_false]
        exact runQuiet_ledger hx hl' (callback_ledger (hother row hid))

/-- A call that does not create a deployment takes the ledger where
{lit}`Db.ledgerAfter` says. -/
theorem ledger_handle {db : Db} {id : DeploymentID} {l : Ledger} {h : Handling}
    (hl : db.ledger id = some l) (hcall : h.call.isHandler = true) :
    (handle db h).ledger id = some (db.ledgerAfter id l h.call) := by
  obtain ⟨call, uuid, url, canary⟩ := h
  cases call with
  | progress event =>
      exact runQuiet_report rfl hl rfl (fun _ => rfl)
        (fun row hmem hid hdevice => progressOnRow_ledger event hid hmem hdevice)
        fun row hne => progressOnRow_ledger_ne event hne
  | error event =>
      exact runQuiet_report rfl hl rfl (fun _ => rfl)
        (fun row hmem hid hdevice => errorOnRow_ledger event hid hmem hdevice)
        fun row hne => errorOnRow_ledger_ne event hne
  | getDeployment depID =>
      rw [Db.ledgerAfter]
      split
      · rename_i hid
        exact runQuiet_ledger rfl hl (hid ▸ getDeploymentHandler_ledger)
      · rename_i hne
        exact runQuiet_ledger rfl hl (getDeploymentHandler_ledger_ne hne)
  | rollback depID =>
      rw [Db.ledgerAfter]
      split
      · rename_i hid
        exact runQuiet_ledger rfl hl (hid ▸ rollbackHandler_ledger)
      · rename_i hne
        exact runQuiet_ledger rfl hl (rollbackHandler_ledger_ne hne)
  | createDeployment | runCanary => simp [Call.isHandler] at hcall

end OtaRobot
