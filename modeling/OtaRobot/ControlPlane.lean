import OtaRobot.Handlers.Deployments
import OtaRobot.Library.Pool

/-!
# The control plane as an interleaved system

Every HTTP request, MQTT callback and canary goroutine is a thread of a
{lit}`Machine` over one database.  SQL statements and publishes are atomic, any
statement may fail, and any thread may run next.  The MQTT callbacks are serialised:
the client hands over the next message when the callback has returned.

Main results:

- Theorems {lit}`exec_keyed` and {lit}`exec_foreign`: what the answers to queries
  about a deployment can be.
- Theorem {lit}`deployment_step`: what a step does to an existing deployment.
-/

namespace OtaRobot

/-- What a thread of the control plane is started for. -/
inductive Call where
  | progress (event : DeviceProgressEvent)
  | error (event : DeviceErrorEvent)
  | createDeployment (req : CreateDeploymentRequest)
  | getDeployment (depID : DeploymentID)
  | rollback (depID : DeploymentID)
  | runCanary (depID : DeploymentID) (devices : List Device) (cmd : UpdateCommand)
deriving DecidableEq, Repr

/-- The goroutines that are started but have not run yet are part of the store. -/
structure Store where
  db : Db
  goroutines : List Call := []
  mqttBusy : Bool := false

/-- The environment's part of a step. -/
structure Choice where
  fault : Bool := false
  uuid : DeploymentID := 0
  url : String := ""
  ticks : Nat := 0
deriving DecidableEq, Repr

namespace ControlPlane

/-- An MQTT callback returns to the client when the manager is done. -/
def callback (handler : Rollout Outcome) : Rollout Unit := do
  let _ ← handler
  callbackReturn

/-- The program of a call; the callbacks of the broker's client return at their end. -/
def body : Call → Rollout Unit
  | .progress event => callback (handleDeviceProgress event)
  | .error event => callback (handleDeviceError event)
  | .createDeployment req => OtaRobot.createDeployment req
  | .getDeployment depID => getDeploymentHandler depID
  | .rollback depID => rollbackHandler depID
  | .runCanary depID devices cmd => OtaRobot.runCanary depID devices cmd

/-- Which calls start: one callback at a time, and canaries that were asked for. -/
def accept (s : Store) : Call → Option Store
  | .progress _ | .error _ => if s.mqttBusy then none else some { s with mqttBusy := true }
  | .runCanary depID devices cmd =>
      if Call.runCanary depID devices cmd ∈ s.goroutines then
        some { s with goroutines := s.goroutines.erase (.runCanary depID devices cmd) }
      else none
  | _ => some s

/-- One atomic operation.  A failing statement has no effect. -/
def exec (s : Store) : (op : Op) → Choice → op.Ret × Store
  | .sql q, x =>
      if x.fault then (none, s)
      else ((s.db.exec x.uuid q).1, { s with db := (s.db.exec x.uuid q).2 })
  | .publishCommand _ _ _, x => (!x.fault, s)
  | .presignedGetObject _, x => (if x.fault then none else some x.url, s)
  | .startRollout _, _ => ((), s)
  | .goRunCanary depID devices cmd, _ =>
      ((), { s with goroutines := s.goroutines ++ [.runCanary depID devices cmd] })
  | .newTicker _ _, x => (x.ticks, s)
  | .windowOver _ _, _ => ((), s)
  | .respond _, _ => ((), s)
  | .callbackReturn, _ => ((), { s with mqttBusy := false })

/-- The control plane. -/
def machine : Machine Op.Ret Store Call Choice where
  body := body
  accept := accept
  exec := exec

/-- A state of the control plane: its tables and the calls under way. -/
abbrev Config := Machine.Config Op.Ret Store Call

/-- A call starts, or executes its next operation. -/
abbrev Label := Machine.Label Call Choice

/-- An operation that was executed, with its answer. -/
abbrev Event := Machine.Event Op.Ret

/-- The interleaved steps of the calls. -/
def step : Config → Label → Option Config :=
  machine.step

/-- The control plane as it starts on a database: no thread is running. -/
def start (db : Db) : Config :=
  Machine.initial { db := db }

/-- The row of a deployment in a state. -/
def deployment (c : Config) (id : DeploymentID) : Option Deployment :=
  c.store.db.deployment id

/-- The status column of a deployment. -/
def status (c : Config) (id : DeploymentID) : Option DeploymentStatus :=
  (deployment c id).map fun d => d.status

/-! ## Effects on one deployment -/

/-- A statement works on the tables, or fails and changes nothing. -/
theorem exec_sql (s : Store) (q : Query) (x : Choice) :
    exec s (.sql q) x =
      if x.fault then (none, s)
      else ((s.db.exec x.uuid q).1, { s with db := (s.db.exec x.uuid q).2 }) :=
  rfl

/-- A statement leaves the tables as they are, or as it should. -/
theorem exec_sql_db (s : Store) (q : Query) (x : Choice) :
    (exec s (.sql q) x).2.db = s.db ∨ (exec s (.sql q) x).2.db = (s.db.exec x.uuid q).2 := by
  rw [exec_sql]
  split
  · exact Or.inl rfl
  · exact Or.inr rfl

/-- The effect of an operation on an existing deployment, when it does not fail. -/
def Op.onDeployment (op : Op) (d : Deployment) : Deployment :=
  match op with
  | .sql q => q.onDeployment d
  | _ => d

/-- An operation leaves an existing deployment alone or has its effect on it. -/
theorem deployment_exec {s : Store} {op : Op} {x : Choice} {id : DeploymentID}
    {d : Deployment} (h : s.db.deployment id = some d) :
    (exec s op x).2.db.deployment id = some d ∨
      (exec s op x).2.db.deployment id = some (Op.onDeployment op d) := by
  cases op with
  | sql q =>
      rcases exec_sql_db s q x with heq | heq
      · left
        rw [heq, h]
      · right
        rw [heq, Db.deployment_exec h]
        rfl
  | _ => exact Or.inl h

/-- Admission does not touch the database. -/
theorem accept_db {s s' : Store} {call : Call} (h : accept s call = some s') :
    s'.db = s.db := by
  cases call with
  | progress | error | runCanary =>
      simp only [accept] at h
      split at h <;> simp at h
      subst h
      rfl
  | _ =>
      obtain rfl : s = s' := by simpa [accept] using h
      rfl

/-- What a step does to an existing deployment. -/
theorem deployment_step {c c' : Config} {l : Label} {id : DeploymentID} {d : Deployment}
    (h : step c l = some c') (hd : deployment c id = some d) :
    deployment c' id = some d ∨
      ∃ i x tag op k r, l = .step i x ∧ machine.Executed c c' i x tag op k r ∧
        deployment c' id = some (Op.onDeployment op d) := by
  obtain ⟨i, tag, -, hs⟩ | ⟨i, x, tag, op, k, r, hl, hs⟩ := Machine.step_cases h
  · left
    rw [deployment, accept_db hs.accepted]
    exact hd
  · have heff : c'.store = (exec c.store op x).2 := by
      have hexec : exec c.store op x = (r, c'.store) := hs.effect
      rw [hexec]
    have hexec : (exec c.store op x).2.db.deployment id = some d ∨
        (exec c.store op x).2.db.deployment id = some (Op.onDeployment op d) :=
      deployment_exec hd
    rcases hexec with hkeep | hchange
    · left
      rw [deployment, heff, hkeep]
    · right
      refine ⟨i, x, tag, op, k, r, hl, hs, ?_⟩
      rw [deployment, heff, hchange]

/-- A deployment that appears in a step has just been inserted. -/
theorem deployment_step_new {c c' : Config} {l : Label} {id : DeploymentID}
    (h : step c l = some c') (hd : deployment c id = none) (hd' : deployment c' id ≠ none) :
    ∃ d, deployment c' id = some d ∧ d.status = .pending := by
  obtain ⟨i, tag, -, hs⟩ | ⟨i, x, tag, op, k, r, -, hs⟩ := Machine.step_cases h
  · rw [deployment, accept_db hs.accepted] at hd'
    exact absurd hd hd'
  · have heff : c'.store = (exec c.store op x).2 := by
      have hexec : exec c.store op x = (r, c'.store) := hs.effect
      rw [hexec]
    rw [deployment, heff] at hd' ⊢
    cases op with
    | sql q =>
        rcases exec_sql_db c.store q x with hsame | hexec
        · rw [hsame] at hd'
          exact absurd hd hd'
        · rw [hexec] at hd' ⊢
          obtain ⟨d, hnew⟩ := Option.ne_none_iff_exists'.mp hd'
          obtain ⟨-, p, rfl⟩ := Db.deployment_exec_none hd hnew
          rcases c.store.db.deployment_createDeployment x.uuid p id with
            ⟨hsame, -⟩ | ⟨-, -, d, -, -, hpending, hrow⟩
          · rw [Db.exec, hsame] at hd'
            exact absurd hd hd'
          · exact ⟨d, hrow, hpending⟩
    | _ => exact absurd hd hd'

/-- A deployment that exists keeps existing. -/
theorem deployment_step_ne_none {c c' : Config} {l : Label} {id : DeploymentID}
    (h : step c l = some c') (hd : deployment c id ≠ none) : deployment c' id ≠ none := by
  obtain ⟨d, hd'⟩ := Option.ne_none_iff_exists'.mp hd
  rcases deployment_step h hd' with hkeep | ⟨i, x, tag, op, k, r, -, -, hchange⟩
  · simp [hkeep]
  · simp [hchange]

/-! ## Foreign answers -/

/-- A row returned by a lookup or an update by key has this key. -/
def Keyed : (op : Op) → op.Ret → Prop
  | .sql (.getDeployment id _), r => ∀ d : Deployment, r = some d → d.id = id
  | .sql (.updateDeploymentStatus id _), r => ∀ d : Deployment, r = some d → d.id = id
  | .sql (.updateDeploymentPhase id _ _), r => ∀ d : Deployment, r = some d → d.id = id
  | _, _ => True

/-- A row that is answered has the key that was asked for. -/
theorem exec_keyed (s : Store) (op : Op) (x : Choice) : Keyed op (exec s op x).1 := by
  cases op with
  | sql q =>
      by_cases hfault : x.fault = true
      · rw [exec_sql, if_pos hfault]
        cases q with
        | getDeployment | updateDeploymentStatus | updateDeploymentPhase =>
            intro d hd
            simp at hd
        | _ => trivial
      · rw [exec_sql, if_neg hfault]
        cases q with
        | getDeployment | updateDeploymentStatus | updateDeploymentPhase =>
            intro d hd
            exact Db.deployment_id hd
        | _ => trivial
  | _ => trivial

/-- A new row is not the row of deployment {lit}`id`, which exists already. -/
def Foreign (id : DeploymentID) : (op : Op) → op.Ret → Prop
  | .sql (.createDeployment _), r => ∀ d : Deployment, r = some d → d.id ≠ id
  | _, _ => True

/-- An answer is plausible, or it is the row of the deployment that has just been
created. -/
theorem exec_foreign_or_created (s : Store) (id : DeploymentID) (op : Op) (x : Choice) :
    Foreign id op (exec s op x).1 ∨
      (s.db.deployment id = none ∧ (exec s op x).2.db.deployment id ≠ none) := by
  cases op with
  | sql q =>
      cases q with
      | createDeployment p =>
          rw [exec_sql]
          split
          · exact Or.inl fun d hd => by simp at hd
          · rcases s.db.deployment_createDeployment x.uuid p id with
              ⟨-, hne⟩ | ⟨hnone, -, d, -, -, -, hd⟩
            · exact Or.inl hne
            · exact Or.inr ⟨hnone, by simp [Db.exec, hd]⟩
      | _ => exact Or.inl trivial
  | _ => exact Or.inl trivial

/-- A deployment that is there is not created again. -/
theorem exec_foreign {s : Store} {id : DeploymentID} (h : s.db.deployment id ≠ none)
    (op : Op) (x : Choice) : Foreign id op (exec s op x).1 := by
  rcases exec_foreign_or_created s id op x with hforeign | ⟨hnone, -⟩
  · exact hforeign
  · exact absurd hnone h

/-- The answer and the store after an executed operation. -/
theorem executed_answer {c c' : Config} {i : Nat} {x : Choice} {tag : Call} {op : Op}
    {k : op.Ret → Rollout Unit} {r : op.Ret} (h : machine.Executed c c' i x tag op k r) :
    r = (exec c.store op x).1 ∧ c'.store = (exec c.store op x).2 := by
  have heff : exec c.store op x = (r, c'.store) := h.effect
  exact ⟨by rw [heff], by rw [heff]⟩

/-- A step does not create a deployment that is there. -/
theorem executed_foreign {c c' : Config} {i : Nat} {x : Choice} {tag : Call} {op : Op}
    {k : op.Ret → Rollout Unit} {r : op.Ret} (h : machine.Executed c c' i x tag op k r)
    {id : DeploymentID} (hd : deployment c id ≠ none) : Foreign id op r := by
  rw [(executed_answer h).1]
  exact exec_foreign hd op x

/-- A row that is answered in a step has the key that was asked for. -/
theorem executed_keyed {c c' : Config} {i : Nat} {x : Choice} {tag : Call} {op : Op}
    {k : op.Ret → Rollout Unit} {r : op.Ret} (h : machine.Executed c c' i x tag op k r) :
    Keyed op r := by
  rw [(executed_answer h).1]
  exact exec_keyed c.store op x

/-! ## Schedules -/

/-- The labels that start a procedure and let it execute {lit}`n` operations. -/
def startCall (i : Nat) (call : Call) (n : Nat) : List Label :=
  .spawn i call :: List.replicate n (.step i {})

/-- The labels that let a running procedure execute {lit}`n` more operations. -/
def resumeCall (i n : Nat) : List Label :=
  List.replicate n (.step i {})

/-- A database with one firmware and the given robots, all of them online. -/
def fleetDb (robots : List DeviceID) (h : robots.Nodup) : Db where
  firmware :=
    Table.single { id := 0, version := "2.0.0", storageKey := "fw", sha256Checksum := "" }
  devices :=
    { rows := robots.map fun robot =>
        { id := robot, currentVersion := "1.0.0", status := "online" }
      nodup := by simpa [Function.comp_def] using h }
  deployments := Table.empty
  deploymentDevices := []

/-- A request for the whole online fleet. -/
def rolloutRequest (strategy : String) : CreateDeploymentRequest where
  firmwareID := some 0
  strategy := strategy

end ControlPlane

end OtaRobot
