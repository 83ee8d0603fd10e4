import OtaRobot.Rollout.Creation

/-!
# What a rollback undoes

Reports overwrite the versions recorded for devices; {lit}`ExecuteRollback` writes those of
its rows back and issues one rollback command for each row.  Handler calls come one after
another, no statement fails, and publishes return what they like.

Main results:

- Theorem {lit}`executeRollback_undo`: what a rollback does to the devices and which
  commands it issues.
- Theorems {lit}`progressOnRow_forward` and {lit}`errorOnRow_undo`: a report writes the
  versions of targets only, or rolls back.
-/

namespace OtaRobot

open Prog Transition

/-! ## Calls whose publishes may fail -/

/-- A handler call, with what {lit}`PublishCommand` returns at each of its operations. -/
structure Service extends Handling where
  delivered : List Bool := []
deriving DecidableEq, Repr

/-- The operation sends a command. -/
def Op.isPublish : Op → Bool
  | .publishCommand _ _ _ => true
  | _ => false

/-- No statement of the call fails. -/
def Service.choiceAt (h : Service) (op : Op) (delivered : Bool) : Choice where
  fault := op.isPublish && !delivered
  uuid := h.uuid
  url := h.url

/-- One operation of the call, after the writes of the canary goroutines. -/
def execServed (h : Service) (s : (Db × List (List PhaseWrite)) × List Bool) (op : Op) :
    op.Ret × ((Db × List (List PhaseWrite)) × List Bool) :=
  let answer := execQuiet (h.choiceAt op (s.2.headD true)) s.1 op
  (answer.1, (answer.2, s.2.tail))

/-- The operations executed so far, with their answers. -/
abbrev Journal := List (Answered Op.Ret)

/-- The database and the journal after the call. -/
def serve (s : Db × Journal) (h : Service) : Db × Journal :=
  let final := ((ControlPlane.body h.call).run (logged (execServed h))
    (((s.1, h.canary), h.delivered), s.2)).2
  (final.1.1.1.writePhases final.1.1.2.flatten, final.2)

/-- When every publish succeeds, the call is a step of the sequential control plane. -/
theorem serve_handle (s : Db × Journal) (h : Handling) :
    (serve s { h with }).1 = handle s.1 h := by
  have hrun : ∀ (p : Rollout Unit) (t : Db × List (List PhaseWrite)),
      (p.run (execServed { h with }) (t, [])).2.1 = (p.run (execQuiet h.choice) t).2 := by
    intro p
    induction p with
    | done a => exact fun _ => rfl
    | call op k ih =>
        intro t
        have hexec : execServed { h with } (t, []) op =
            ((execQuiet h.choice t op).1, ((execQuiet h.choice t op).2, [])) := by
          simp [execServed, Service.choiceAt, Handling.choice]
        rw [run_call, hexec]
        exact ih _ _
  obtain ⟨-, hlogged⟩ := run_logged (execServed { h with }) (ControlPlane.body h.call)
    (((s.1, h.canary), []), s.2)
  rw [handle, runQuiet, ← hrun (ControlPlane.body h.call) (s.1, h.canary), ← hlogged]
  rfl

/-- A call is always possible. -/
def serveStep (s : Db × Journal) (h : Service) : Option (Db × Journal) :=
  some (serve s h)

/-- {lit}`ExecuteRollback` of the deployment has set the status. -/
def rollbackBegun (id : DeploymentID) (log : Journal) : Bool :=
  log.any fun e => e.op = .sql (.updateDeploymentStatus id .rolledBack)

/-- The rollback command an operation issues for the deployment. -/
def Op.rollbackOf (id : DeploymentID) : Op → Option (DeviceID × String)
  | .publishCommand depID deviceID (.rollback version _) =>
      if depID = id then some (deviceID, version) else none
  | _ => none

/-- The rollback commands issued for the deployment, whatever the publishes returned. -/
def rollbacksIssued (id : DeploymentID) (log : Journal) : List (DeviceID × String) :=
  log.filterMap fun e => e.op.rollbackOf id

/-- The version recorded for a device. -/
def Db.currentVersion (db : Db) (deviceID : DeviceID) : Option String :=
  (db.device deviceID).map fun d => d.currentVersion

/-! ## What is followed of a rollback -/

/-- The status of the deployment, the devices, the rollback commands issued so far, and
whether {lit}`ExecuteRollback` has set the status. -/
structure Undo where
  begun : Bool
  status : DeploymentStatus
  devices : DeviceID → Option Device
  issued : List (DeviceID × String)

namespace Undo

/-- {lit}`UpdateDeviceVersion` on the devices. -/
def setVersion (g : Undo) (deviceID : DeviceID) (version : String) : Undo :=
  { g with
    devices := fun i =>
      if i = deviceID then
        (g.devices deviceID).map fun d => { d with currentVersion := version, status := "online" }
      else g.devices i }

/-- What an operation does to what is followed. -/
def after (id : DeploymentID) (g : Undo) (op : Op) : Undo :=
  match op with
  | .sql (.updateDeploymentStatus i status) =>
      if i = id then { g with status := status, begun := g.begun || status = .rolledBack } else g
  | .sql (.updateDeviceVersion i version) => g.setVersion i version
  | op => { g with issued := g.issued ++ (op.rollbackOf id).toList }

end Undo

/-- The answers of a database whose deployment {lit}`id` has a row for each device of
{lit}`targets`, with the version {lit}`V` says. -/
def UndoAnswer (id : DeploymentID) (targets : List DeviceID) (V : DeviceID → String) (g : Undo) :
    (op : Op) → op.Ret → Prop
  | .sql (.getDeployment i _), r =>
      (∀ d : Deployment, r = some d → d.id = i) ∧
        (i = id → ∃ d : Deployment, r = some d ∧ d.status = g.status)
  | .sql (.updateDeploymentStatus i _), r => i = id → ∃ d : Deployment, r = some d
  | .sql (.listDeploymentDevices i), r => i = id → ∃ devs : List DeploymentDevice, r = some devs ∧
      devs.map (fun row => (row.deviceID, row.previousVersion)) = targets.map fun i => (i, some (V i))
  | _, _ => True

/-- A call rolls back to the versions of the targets. -/
def undoDiscipline (id : DeploymentID) (targets : List DeviceID) (V : DeviceID → String) :
    Discipline Op.Ret Undo where
  allowed _ op := ∀ p, op ≠ .sql (.createDeploymentDevice p)
  rely := UndoAnswer id targets V
  next g op _ := g.after id op

/-- The state shows what is followed. -/
structure Undoing (id : DeploymentID) (targets : List DeviceID) (V : DeviceID → String) (db : Db)
    (log : Journal) (g : Undo) : Prop where
  status : (db.deployment id).map (fun d => d.status) = some g.status
  rows : (db.rowsOf id).map (fun row => (row.deviceID, row.previousVersion)) =
    targets.map fun i => (i, some (V i))
  known : ∀ i ∈ targets, (db.device i).isSome = true
  devices : db.device = g.devices
  issued : rollbacksIssued id log = g.issued
  begun : rollbackBegun id log = g.begun

/-! ## The state along the operations -/

/-- Statements that insert no row keep which devices a deployment targets, and the versions
recorded for them. -/
theorem Db.targets_exec {db : Db} {uuid : DeploymentID} {q : Query} {id : DeploymentID}
    (hq : ∀ p, q ≠ .createDeploymentDevice p) :
    ((db.exec uuid q).2.rowsOf id).map (fun row => (row.deviceID, row.previousVersion)) =
      (db.rowsOf id).map fun row => (row.deviceID, row.previousVersion) := by
  by_cases hupdate : ∃ p, q = .updateDeploymentDeviceStatus p
  · obtain ⟨p, rfl⟩ := hupdate
    rw [Db.exec, Db.rowsOf_updateDeploymentDeviceStatus, List.map_map]
    apply List.map_congr_left
    intro row _
    simp only [Function.comp]
    split <;> rfl
  · rw [Db.rowsOf_exec]
    · intro p hp
      exact absurd hp (hq p)
    · intro p hp
      exact absurd ⟨p, hp⟩ hupdate

/-- A listed device is found under its id. -/
theorem Db.device_of_mem_listDevices {db : Db} {d : Device} (h : d ∈ db.listDevices) :
    db.device d.id = some d := by
  have hperm : db.listDevices.Perm db.devices.rows :=
    (List.perm_insertionSort _ _).trans (List.reverse_perm _)
  exact Table.find?_some_iff.mpr ⟨hperm.mem_iff.mp h, rfl⟩

/-- Only {lit}`UpdateDeviceVersion` writes the devices. -/
theorem Db.device_exec {db : Db} {uuid : DeploymentID} {q : Query}
    (hq : ∀ i v, q ≠ .updateDeviceVersion i v) : (db.exec uuid q).2.device = db.device := by
  cases q with
  | createDeployment p =>
      simp only [Db.exec, Db.createDeployment]
      split <;> rfl
  | createDeploymentDevice p =>
      simp only [Db.exec, Db.createDeploymentDevice]
      split <;> rfl
  | updateDeviceVersion i v => exact absurd rfl (hq i v)
  | _ => rfl

/-- Phases are not in the registry. -/
theorem Db.device_writePhases (db : Db) (ws : List PhaseWrite) :
    (db.writePhases ws).device = db.device := by
  induction ws generalizing db with
  | nil => rfl
  | cons w ws ih => exact (ih (db.writePhase w)).trans (Db.device_exec (by simp))

/-- A rollback that has begun has begun ever after. -/
theorem rollbackBegun_append (id : DeploymentID) (log log' : Journal) :
    rollbackBegun id (log ++ log') = (rollbackBegun id log || rollbackBegun id log') :=
  List.any_append

/-- The commands of a longer journal. -/
theorem rollbacksIssued_append (id : DeploymentID) (log log' : Journal) :
    rollbacksIssued id (log ++ log') = rollbacksIssued id log ++ rollbacksIssued id log' :=
  List.filterMap_append

section

variable {id : DeploymentID} {targets : List DeviceID} {V : DeviceID → String} {db : Db}
  {log : Journal} {g : Undo}

theorem Undoing.writePhases (h : Undoing id targets V db log g) (ws : List PhaseWrite) :
    Undoing id targets V (db.writePhases ws) log g := by
  induction ws generalizing db with
  | nil => exact h
  | cons w ws ih =>
      apply ih
      have hdevice : (db.writePhase w).device = db.device := db.device_writePhases [w]
      refine ⟨?_, ?_, ?_, hdevice.trans h.devices, h.issued, h.begun⟩
      · rw [Db.deployment_writePhase_status, h.status]
      · exact (Db.targets_exec (by simp)).trans h.rows
      · rw [hdevice]
        exact h.known

/-- The log entry of an operation. -/
theorem after_issued (op : Op) (r : op.Ret) :
    (g.after id op).issued = g.issued ++ rollbacksIssued id [⟨op, r⟩] := by
  unfold Undo.after
  split
  · split <;> simp [rollbacksIssued, Op.rollbackOf]
  · simp [Undo.setVersion, rollbacksIssued, Op.rollbackOf]
  · cases hop : op.rollbackOf id <;> simp [rollbacksIssued, hop]

/-- The automaton remembers the rollback. -/
theorem after_begun (op : Op) (r : op.Ret) :
    (g.after id op).begun = (g.begun || rollbackBegun id [⟨op, r⟩]) := by
  unfold Undo.after
  split
  · rename_i i status
    by_cases hi : i = id <;> simp [rollbackBegun, hi]
  · simp [Undo.setVersion, rollbackBegun]
  · rename_i hstatus _
    have hop : op ≠ .sql (.updateDeploymentStatus id .rolledBack) := hstatus id .rolledBack
    simp [rollbackBegun, hop]

/-- The status column after a statement. -/
theorem after_status (q : Query) (uuid : DeploymentID)
    (h : (db.deployment id).map (fun d => d.status) = some g.status) :
    ((db.exec uuid q).2.deployment id).map (fun d => d.status) =
      some (g.after id (.sql q)).status := by
  obtain ⟨d, hd, hstatus⟩ := Option.map_eq_some_iff.mp h
  have hid : d.id = id := Db.deployment_id hd
  rw [Db.deployment_exec hd, Option.map_some]
  cases q with
  | updateDeploymentStatus i status =>
      by_cases hi : i = id <;> simp [Query.onDeployment, Undo.after, hid, hi, hstatus]
  | updateDeploymentPhase | incrementDeploymentSuccess | incrementDeploymentFailure =>
      simp only [Query.onDeployment, Undo.after]
      split <;> simp [hstatus]
  | _ => exact congrArg some hstatus

/-- The devices after a statement. -/
theorem after_devices (q : Query) (uuid : DeploymentID) (h : db.device = g.devices) :
    (db.exec uuid q).2.device = (g.after id (.sql q)).devices := by
  by_cases hq : ∃ i v, q = .updateDeviceVersion i v
  · obtain ⟨i, v, rfl⟩ := hq
    funext j
    simp only [Db.exec, Db.device_updateDeviceVersion, Undo.after, Undo.setVersion, h]
  · have hsame : (g.after id (.sql q)).devices = g.devices := by
      cases q with
      | updateDeviceVersion i v => exact absurd ⟨i, v, rfl⟩ hq
      | updateDeploymentStatus i status =>
          simp only [Undo.after]
          split <;> rfl
      | _ => rfl
    rw [hsame, ← h]
    exact Db.device_exec fun i v hq' => hq ⟨i, v, hq'⟩

/-- The database answers and changes as the discipline says. -/
theorem Undoing.exec {h : Service} {delivered : Bool} (hs : Undoing id targets V db log g)
    {op : Op} (hop : ∀ p, op ≠ .sql (.createDeploymentDevice p)) :
    UndoAnswer id targets V g op (ControlPlane.exec { db := db } op (h.choiceAt op delivered)).1 ∧
      Undoing id targets V (ControlPlane.exec { db := db } op (h.choiceAt op delivered)).2.db
        (log ++ [⟨op, (ControlPlane.exec { db := db } op (h.choiceAt op delivered)).1⟩])
        (g.after id op) := by
  have hissued : ∀ r : op.Ret, rollbacksIssued id (log ++ [⟨op, r⟩]) = (g.after id op).issued := by
    intro r
    rw [rollbacksIssued_append, hs.issued, after_issued op r]
  have hbegun : ∀ r : op.Ret, rollbackBegun id (log ++ [⟨op, r⟩]) = (g.after id op).begun := by
    intro r
    rw [rollbackBegun_append, hs.begun, after_begun op r]
  cases op with
  | sql q =>
      have hfault : ¬ (h.choiceAt (.sql q) delivered).fault = true := by
        simp [Service.choiceAt, Op.isPublish]
      have hinsert : ∀ p, q ≠ .createDeploymentDevice p := by
        intro p hp
        exact hop p (congrArg Op.sql hp)
      have hdevices : (db.exec h.uuid q).2.device = (g.after id (.sql q)).devices :=
        after_devices q h.uuid hs.devices
      refine ⟨?_, ?_, ?_, ?_, ?_, hissued _, hbegun _⟩
      · rw [ControlPlane.exec_sql, if_neg hfault]
        cases q with
        | getDeployment i site =>
            refine ⟨fun d hd => Db.deployment_id hd, ?_⟩
            intro hi
            obtain ⟨d, hd, hstatus⟩ := Option.map_eq_some_iff.mp hs.status
            exact ⟨d, hi ▸ hd, hstatus⟩
        | updateDeploymentStatus i status =>
            intro hi
            obtain ⟨d, hd, -⟩ := Option.map_eq_some_iff.mp hs.status
            have hafter : (db.exec h.uuid (.updateDeploymentStatus i status)).2.deployment i =
                some (Query.onDeployment (.updateDeploymentStatus i status) d) :=
              Db.deployment_exec (hi ▸ hd)
            exact ⟨_, hafter⟩
        | listDeploymentDevices i =>
            intro hi
            refine ⟨db.listDeploymentDevices i, rfl, ?_⟩
            have hall : db.listDeploymentDevices i = db.rowsOf id := by
              rw [hi]
              apply List.filter_congr
              intro row hrow
              by_cases hid : row.deploymentID = id
              · have hmem : (row.deviceID, row.previousVersion) ∈
                    targets.map fun i => (i, some (V i)) := by
                  rw [← hs.rows]
                  exact List.mem_map.mpr ⟨row, Db.mem_rowsOf.mpr ⟨hrow, hid⟩, rfl⟩
                obtain ⟨i, hi, heq⟩ := List.mem_map.mp hmem
                have hdevice : i = row.deviceID := congrArg Prod.fst heq
                have hknown := hs.known i hi
                rw [hdevice] at hknown
                simp [hid, hknown]
              · simp [hid]
            rw [hall]
            exact hs.rows
        | _ => trivial
      · rw [ControlPlane.exec_sql, if_neg hfault]
        exact after_status q h.uuid hs.status
      · rw [ControlPlane.exec_sql, if_neg hfault]
        exact (Db.targets_exec hinsert).trans hs.rows
      · rw [ControlPlane.exec_sql, if_neg hfault]
        intro i hi
        show ((db.exec h.uuid q).2.device i).isSome = true
        rw [db.device_exec_isSome]
        exact hs.known i hi
      · rw [ControlPlane.exec_sql, if_neg hfault]
        exact hdevices
  | _ => exact ⟨trivial, hs.status, hs.rows, hs.known, hs.devices, hissued _, hbegun _⟩

/-- One operation of a call. -/
theorem undoing_execServed {h : Service}
    {s : ((Db × List (List PhaseWrite)) × List Bool) × Journal}
    (hs : Undoing id targets V s.1.1.1 s.2 g) (op : Op)
    (hop : ∀ p, op ≠ .sql (.createDeploymentDevice p)) :
    UndoAnswer id targets V g op (logged (execServed h) s op).1 ∧
      Undoing id targets V (logged (execServed h) s op).2.1.1.1 (logged (execServed h) s op).2.2
        (g.after id op) :=
  (hs.writePhases _).exec hop

end

/-! ## The rollback -/

section

variable {id : DeploymentID} {targets : List DeviceID} {V : DeviceID → String}

/-- One operation, answered by the database. -/
theorem undo_call {α : Type} {g : Undo} {op : Op} {k : op.Ret → Rollout α} {post : Undo → α → Prop}
    (hop : ∀ p, op ≠ .sql (.createDeploymentDevice p))
    (hk : ∀ r, UndoAnswer id targets V g op r →
      Obeys (undoDiscipline id targets V) post (g.after id op) (k r)) :
    Obeys (undoDiscipline id targets V) post g (.call op k) :=
  ⟨hop, hk⟩

/-- The devices have the versions of {lit}`V` and the commands are issued, in this order. -/
structure Reverted (V : DeviceID → String) (ids : List DeviceID) (g g' : Undo) : Prop where
  begun : g'.begun = g.begun
  status : g'.status = g.status
  issued : g'.issued = g.issued ++ ids.map fun i => (i, V i)
  others : ∀ i, i ∉ ids → g'.devices i = g.devices i
  versions : ∀ i ∈ ids, (g'.devices i).map (fun d => d.currentVersion) =
    (g.devices i).map fun _ => V i

theorem reverted_cons {i : DeviceID} {ids : List DeviceID} {g g' : Undo}
    (h : Reverted V ids ({ g with issued := g.issued ++ [(i, V i)] }.setVersion i (V i)) g') :
    Reverted V (i :: ids) g g' := by
  refine ⟨h.begun, h.status, ?_, ?_, ?_⟩
  · rw [h.issued]
    simp [Undo.setVersion]
  · intro j hj
    rw [List.mem_cons, not_or] at hj
    rw [h.others j hj.2]
    simp [Undo.setVersion, hj.1]
  · intro j hj
    by_cases hmem : j ∈ ids
    · rw [h.versions j hmem]
      by_cases hji : j = i
      · simp [Undo.setVersion, hji, Function.comp_def]
      · simp [Undo.setVersion, hji]
    · have hji : j = i := (List.mem_cons.mp hj).resolve_right hmem
      rw [h.others j hmem]
      simp [Undo.setVersion, hji, Function.comp_def]

/-- The loop over the rows writes back the version of each row and issues its command. -/
theorem revertDevices_undo (reason : RollbackReason) (devs : List DeploymentDevice) (g : Undo)
    (hV : ∀ row ∈ devs, row.prevVer = V row.deviceID) :
    Obeys (undoDiscipline id targets V)
      (fun g' _ => Reverted V (devs.map fun row => row.deviceID) g g') g
      (revertDevices id reason devs) := by
  induction devs generalizing g with
  | nil => exact ⟨rfl, rfl, (List.append_nil _).symm, fun _ _ => rfl, fun i hi => by simp at hi⟩
  | cons row devs ih =>
      have hrow : row.prevVer = V row.deviceID := hV row List.mem_cons_self
      rw [revertDevices, publishCommand_bind, hrow]
      refine undo_call (by simp) fun _ _ => ?_
      rw [query_bind]
      refine undo_call (by simp) fun _ _ => ?_
      have hissue : (g.after id (.publishCommand id row.deviceID
          (.rollback (V row.deviceID) reason))) =
            { g with issued := g.issued ++ [(row.deviceID, V row.deviceID)] } := by
        simp [Undo.after, Op.rollbackOf]
      have hrest := ih (({ g with issued := g.issued ++ [(row.deviceID, V row.deviceID)] } :
        Undo).setVersion row.deviceID (V row.deviceID))
        fun r hr => hV r (List.mem_cons_of_mem _ hr)
      rw [hissue]
      exact hrest.mono fun g' _ h => reverted_cons h

/-- What is left when a rollback has undone the deployment; {lit}`before` are the devices
before it. -/
structure Undone (targets : List DeviceID) (V : DeviceID → String)
    (before : DeviceID → Option Device) (g : Undo) : Prop where
  begun : g.begun = true
  status : g.status = .rolledBack
  issued : g.issued = targets.map fun i => (i, V i)
  others : ∀ i, i ∉ targets → g.devices i = before i
  versions : ∀ i ∈ targets, ∀ d, g.devices i = some d → d.currentVersion = V i

/-- The deployment is not rolled back, and only targets have changed. -/
structure Forward (targets : List DeviceID) (before : DeviceID → Option Device) (g : Undo) :
    Prop where
  begun : g.begun = false
  status : g.status ≠ .rolledBack
  issued : g.issued = []
  others : ∀ i, i ∉ targets → g.devices i = before i

variable {before : DeviceID → Option Device} {g : Undo}

/-- A rollback of a deployment that goes forward undoes it. -/
theorem executeRollback_undo (hV : ∀ i ∈ targets, V i ≠ "") (hg : Forward targets before g)
    (reason : RollbackReason) :
    Obeys (undoDiscipline id targets V) (fun g' _ => Undone targets V before g') g
      (executeRollback id reason) := by
  rw [executeRollback, getDeployment_bind]
  refine undo_call (by simp) fun (r : Option Deployment) hr => ?_
  obtain ⟨dep, rfl, hstatus⟩ := hr.2 rfl
  have hdep : dep.id = id := hr.1 dep rfl
  have hopen : ¬ dep.status = .rolledBack := hstatus ▸ hg.status
  have hread : g.after id (.sql (.getDeployment id .handler)) = g := by
    simp [Undo.after, Op.rollbackOf]
  refine Obeys.of_eq hread ?_
  dsimp only
  rw [if_neg hopen, query_bind, hdep]
  refine undo_call (by simp) fun (r : Option Deployment) hr => ?_
  obtain ⟨updated, rfl⟩ := hr rfl
  dsimp only
  rw [query_bind]
  refine undo_call (by simp) fun (r : Option (List DeploymentDevice)) hr => ?_
  obtain ⟨devs, rfl, hdevs⟩ := hr rfl
  have hids : (devs.map fun row => row.deviceID) = targets := by
    have hfst := congrArg (List.map Prod.fst) hdevs
    simpa [Function.comp_def] using hfst
  have hprev : ∀ row ∈ devs, row.prevVer = V row.deviceID := by
    intro row hrow
    have hmem : (row.deviceID, row.previousVersion) ∈ targets.map fun i => (i, some (V i)) := by
      rw [← hdevs]
      exact List.mem_map.mpr ⟨row, hrow, rfl⟩
    obtain ⟨i, hi, heq⟩ := List.mem_map.mp hmem
    have hdevice : i = row.deviceID := congrArg Prod.fst heq
    have hversion : some (V i) = row.previousVersion := congrArg Prod.snd heq
    simp [DeploymentDevice.prevVer, ← hversion, ← hdevice, hV i hi]
  dsimp only
  refine Obeys.bind (revertDevices_undo reason devs _ hprev) ?_
  intro g' _ hreverted
  rw [hids] at hreverted
  refine ⟨?_, ?_, ?_, ?_, ?_⟩
  · rw [hreverted.begun]
    simp [Undo.after]
  · rw [hreverted.status]
    simp [Undo.after]
  · rw [hreverted.issued]
    simp [Undo.after, Op.rollbackOf, hg.issued]
  · intro i hi
    rw [hreverted.others i hi]
    simpa [Undo.after, Op.rollbackOf] using hg.others i hi
  · intro i hi d hd
    have hversion := hreverted.versions i hi
    rw [hd, Option.map_some] at hversion
    obtain ⟨_, -, hd⟩ := Option.map_eq_some_iff.mp hversion.symm
    exact hd.symm

/-! ## Reports and reads -/

/-- The operations of a report that does not roll back, and of a read. -/
inductive ForwardOp (targets : List DeviceID) : Op → Prop where
  | active (deviceID : DeviceID) :
      ForwardOp targets (.sql (.getActiveDeploymentDeviceByDevice deviceID))
  | row (p : UpdateDeploymentDeviceStatusParams) :
      ForwardOp targets (.sql (.updateDeploymentDeviceStatus p))
  | read (id : DeploymentID) : ForwardOp targets (.sql (.getDeployment id .handler))
  | success (id : DeploymentID) : ForwardOp targets (.sql (.incrementDeploymentSuccess id))
  | failure (id : DeploymentID) : ForwardOp targets (.sql (.incrementDeploymentFailure id))
  | completed (id : DeploymentID) : ForwardOp targets (.sql (.updateDeploymentStatus id .completed))
  | phase (id : DeploymentID) : ForwardOp targets (.sql (.updateDeploymentPhase id 3 100))
  | firmware (id : FirmwareID) : ForwardOp targets (.sql (.getFirmwareVersion id))
  | version {deviceID : DeviceID} (h : deviceID ∈ targets) (v : String) :
      ForwardOp targets (.sql (.updateDeviceVersion deviceID v))
  | list (id : DeploymentID) : ForwardOp targets (.sql (.listDeploymentDevices id))
  | respond (r : Reply) : ForwardOp targets (.respond r)
  | callbackReturn : ForwardOp targets .callbackReturn

/-- A forward operation keeps the automaton forward. -/
theorem Forward.after (id : DeploymentID) (hg : Forward targets before g) {op : Op} (hop : ForwardOp targets op) :
    Forward targets before (g.after id op) := by
  have hquiet : ∀ g' : Undo, g'.begun = g.begun → g'.status = g.status →
      g'.issued = g.issued → g'.devices = g.devices → Forward targets before g' := by
    intro g' hbegun hstatus hissued hdevices
    exact ⟨hbegun ▸ hg.begun, hstatus ▸ hg.status, hissued ▸ hg.issued, hdevices ▸ hg.others⟩
  cases hop with
  | completed i =>
      by_cases hi : i = id
      · simp only [Undo.after, if_pos hi]
        exact ⟨by simp [hg.begun], by simp, hg.issued, hg.others⟩
      · simp only [Undo.after, if_neg hi]
        exact hg
  | @version deviceID hmem v =>
      refine ⟨hg.begun, hg.status, hg.issued, ?_⟩
      intro i hi
      have hne : i ≠ deviceID := fun heq => hi (heq ▸ hmem)
      simp only [Undo.after, Undo.setVersion, if_neg hne]
      exact hg.others i hi
  | _ => exact hquiet _ rfl rfl (List.append_nil _) rfl

/-- A program of such operations keeps the deployment going forward. -/
theorem forward_obeys {α : Type} {p : Rollout α} (hp : Always AnyAnswer (ForwardOp targets) p)
    (hg : Forward targets before g) :
    Obeys (undoDiscipline id targets V) (fun g' _ => Forward targets before g') g p := by
  apply hp.obeys (G := Forward targets before) (fun _ _ _ _ => trivial)
  · intro g op _ hop p hp
    rw [hp] at hop
    cases hop
  · intro g op _ hg hop
    exact hg.after id hop
  · exact hg

/-- Recording a version of a target is forward. -/
theorem recordInstalledVersion_forward {event : DeviceProgressEvent}
    (htarget : event.deviceID ∈ targets) (dep : Deployment) :
    Always AnyAnswer (ForwardOp targets) (recordInstalledVersion event dep) := by
  apply (recordInstalledVersion_ops event dep).mono (fun _ _ h => h)
  intro op hop
  rcases hop with ⟨fw, rfl⟩ | ⟨v, rfl⟩
  · exact .firmware fw
  · exact .version htarget v

theorem completeDeployment_forward (depID : DeploymentID) (dep : Deployment) :
    Always AnyAnswer (ForwardOp targets) (completeDeployment depID dep) := by
  rw [completeDeployment, query_bind]
  refine ⟨.completed _, fun _ _ => ?_⟩
  split
  · exact ⟨.phase _, fun _ _ => trivial⟩
  · trivial

/-- A success of a target is forward. -/
theorem creditSuccess_forward {event : DeviceProgressEvent} (htarget : event.deviceID ∈ targets)
    (activeDD : DeploymentDevice) :
    Always AnyAnswer (ForwardOp targets) (creditSuccess event activeDD) := by
  rw [creditSuccess, getDeployment_bind]
  refine ⟨.read _, fun (r : Option Deployment) _ => ?_⟩
  cases r with
  | none => trivial
  | some dep =>
      dsimp only
      split
      · trivial
      · rw [query_bind]
        refine ⟨.success _, fun _ _ => ?_⟩
        apply (recordInstalledVersion_forward htarget dep).bind
        intro _
        split
        · exact (completeDeployment_forward _ dep).bind fun _ => trivial
        · trivial

/-- A progress report of a target is forward. -/
theorem progressOnRow_forward {event : DeviceProgressEvent} (htarget : event.deviceID ∈ targets)
    (activeDD : DeploymentDevice) :
    Always AnyAnswer (ForwardOp targets) (progressOnRow event activeDD) := by
  rw [progressOnRow, query_bind]
  refine ⟨.row _, fun (r : Option DeploymentDevice) _ => ?_⟩
  cases r with
  | none => trivial
  | some row =>
      dsimp only
      split
      · exact creditSuccess_forward htarget activeDD
      · trivial

/-- Reading a deployment is forward. -/
theorem getDeploymentHandler_forward (depID : DeploymentID) :
    Always AnyAnswer (ForwardOp targets) (getDeploymentHandler depID) := by
  apply (getDeploymentHandler_ops depID).mono (fun _ _ h => h)
  intro op hop
  cases hop <;> constructor

/-- What a call leaves behind: the deployment goes forward, or it is undone. -/
def ForwardOrUndone (targets : List DeviceID) (V : DeviceID → String)
    (before : DeviceID → Option Device) (g : Undo) : Prop :=
  Forward targets before g ∨ Undone targets V before g

/-- An error report on a row of the deployment undoes it or lets it go forward. -/
theorem errorOnRow_undo (hV : ∀ i ∈ targets, V i ≠ "") (hg : Forward targets before g)
    (event : DeviceErrorEvent) {activeDD : DeploymentDevice} (hid : activeDD.deploymentID = id) :
    Obeys (undoDiscipline id targets V) (fun g' _ => ForwardOrUndone targets V before g') g
      (errorOnRow event activeDD) := by
  unfold errorOnRow
  split
  · exact Or.inl hg
  · rw [query_bind]
    refine undo_call (by simp) fun (r : Option DeploymentDevice) _ => ?_
    have hrow := hg.after id (.row
      ⟨activeDD.deploymentID, event.deviceID, "failed", activeDD.progress, some event.error⟩)
    cases r with
    | none => exact Or.inl hrow
    | some row =>
        dsimp only
        rw [query_bind]
        refine undo_call (by simp) fun _ _ => ?_
        have hcount := hrow.after id (.failure activeDD.deploymentID)
        rw [evaluateFailure, getDeployment_bind]
        refine undo_call (by simp) fun (r : Option Deployment) hr => ?_
        have hread := hcount.after id (.read activeDD.deploymentID)
        cases r with
        | none => exact Or.inl hread
        | some dep =>
            have hdep : dep.id = id := (hr.1 dep rfl).trans hid
            dsimp only
            split
            · rw [hdep]
              exact (executeRollback_undo hV hread _).mono fun _ _ h => Or.inr h
            · split
              · rw [query_bind]
                exact undo_call (by simp) fun _ _ => Or.inl (hread.after id (.completed _))
              · exact Or.inl hread

end

end OtaRobot
