import OtaRobot.Rollout.Accounting

/-!
# Exact completion

A deployment ought to be {lit}`completed` exactly when every robot has reported its
end.  {lit}`HandleDeviceProgress` decides on a row read before its own increment and
adds one; {lit}`HandleDeviceError` decides on a row read after its increment and adds
one all the same.

Main results:

- Theorem {lit}`Ledger.onCourse_success`: a success report completes the deployment
  exactly when it is the last one.
- Theorem {lit}`Ledger.afterError_status`: an error report that does not roll the
  deployment back completes it one robot early.
- Theorem {lit}`completion_exact`: completion is exact along a run exactly when no
  error report is counted, below the threshold, while one other robot is still
  expected.
-/

namespace OtaRobot

open Prog Transition

/-! ## Open rows -/

/-- The robot of the row has not reported its end. -/
def DeploymentDevice.isOpen (row : DeploymentDevice) : Bool :=
  row.status ≠ "success" && row.status ≠ "failed"

/-- A row is open until its robot has succeeded or failed. -/
theorem DeploymentDevice.isOpen_iff {row : DeploymentDevice} :
    row.isOpen = true ↔ row.status ≠ "success" ∧ row.status ≠ "failed" := by
  simp [DeploymentDevice.isOpen]

/-- A row is closed when its robot has succeeded or failed. -/
theorem DeploymentDevice.not_isOpen_iff {row : DeploymentDevice} :
    row.isOpen = false ↔ row.status = "success" ∨ row.status = "failed" := by
  rw [← Bool.not_eq_true, row.isOpen_iff]
  tauto

/-- A row is open, successful or failed. -/
theorem countP_isOpen (rows : List DeploymentDevice) :
    rows.countP DeploymentDevice.isOpen + rows.countP (fun row => row.status = "success") +
      rows.countP (fun row => row.status = "failed") = rows.length := by
  induction rows with
  | nil => rfl
  | cons row rows ih =>
      simp only [List.countP_cons, List.length_cons, decide_eq_true_eq]
      by_cases hsuccess : row.status = "success"
      · have hopen : ¬ row.isOpen = true := by simp [row.isOpen_iff, hsuccess]
        have hfailed : row.status ≠ "failed" := by rw [hsuccess]; decide
        rw [if_neg hopen, if_pos hsuccess, if_neg hfailed]
        omega
      · by_cases hfailed : row.status = "failed"
        · have hopen : ¬ row.isOpen = true := by simp [row.isOpen_iff, hfailed]
          rw [if_neg hopen, if_neg hsuccess, if_pos hfailed]
          omega
        · have hopen : row.isOpen = true := row.isOpen_iff.mpr ⟨hsuccess, hfailed⟩
          rw [if_pos hopen, if_neg hsuccess, if_neg hfailed]
          omega

namespace Ledger

/-- The number of robots that are still expected. -/
def openRows (l : Ledger) : Nat :=
  l.rows.countP DeploymentDevice.isOpen

/-- The status is completed exactly if every row is terminal. -/
def CompletedExactly (l : Ledger) : Prop :=
  l.status = .completed ↔ ∀ row ∈ l.rows, row.status = "success" ∨ row.status = "failed"

/-- A deployment is completed exactly if no row is open. -/
theorem completedExactly_iff {l : Ledger} :
    l.CompletedExactly ↔ (l.status = .completed ↔ l.openRows = 0) := by
  unfold CompletedExactly openRows
  rw [List.countP_eq_zero]
  simp only [Bool.not_eq_true, DeploymentDevice.not_isOpen_iff]

/-- A rollout that is not rolled back and was completed exactly so far. -/
structure OnCourse (l : Ledger) : Prop where
  accounted : l.Accounted
  devices : (l.rows.map fun row => row.deviceID).Nodup
  size : l.totalDevices = l.rows.length
  status : l.status = if l.openRows = 0 then .completed else .running

/-- Every row is open or counted. -/
theorem Accounted.openRows {l : Ledger} (h : l.Accounted) :
    l.openRows + l.successCount + l.failureCount = l.rows.length := by
  rw [h.success, h.failure]
  exact countP_isOpen l.rows

/-- A deployment on course is completed exactly if no row is open. -/
theorem OnCourse.completedExactly {l : Ledger} (h : l.OnCourse) : l.CompletedExactly := by
  rw [completedExactly_iff, h.status]
  split <;> simp_all

/-- A new deployment is on course. -/
theorem Fresh.onCourse {l : Ledger} (h : l.Fresh) : l.OnCourse := by
  refine ⟨h.accounted, h.devices, h.size, ?_⟩
  have hopen := h.accounted.openRows
  rw [h.success, h.failure] at hopen
  have hlength : l.rows.length ≠ 0 := by simpa using h.nonempty
  rw [if_neg (by omega), h.status]

/-- A deployment on course with an open row is running. -/
theorem OnCourse.running {l : Ledger} (h : l.OnCourse) (hopen : l.openRows ≠ 0) :
    l.status = .running := by
  rw [h.status, if_neg hopen]

section

variable {id : DeploymentID} {l : Ledger} {row : DeploymentDevice}

/-- An open row is one of the open rows. -/
theorem openRows_pos (hrow : row ∈ l.rows) (hopen : row.isOpen = true) : l.openRows ≠ 0 := by
  have hpos : 0 < l.rows.countP DeploymentDevice.isOpen :=
    List.countP_pos_iff.mpr ⟨row, hrow, hopen⟩
  exact Nat.ne_of_gt hpos

/-- How the update of an open row changes the number of open rows. -/
theorem openRows_setRow (hdevices : (l.rows.map fun row => row.deviceID).Nodup)
    (hrow : row ∈ l.rows) (hopen : row.isOpen = true)
    {p : UpdateDeploymentDeviceStatusParams} (hsel : p.selects row = true) :
    (l.setRow p).openRows + 1 =
      l.openRows + if p.status ≠ "success" ∧ p.status ≠ "failed" then 1 else 0 := by
  have hcount := countP_setRow hdevices hrow hsel DeploymentDevice.isOpen
  rw [if_pos hopen] at hcount
  have hset : (p.set row).isOpen = true ↔ p.status ≠ "success" ∧ p.status ≠ "failed" :=
    (p.set row).isOpen_iff
  simp only [hset] at hcount
  exact hcount

/-- A report that is not terminal changes nothing that matters. -/
theorem onCourse_setRow (hl : l.OnCourse) (hrow : row ∈ l.rows) (hopen : row.isOpen = true)
    {p : UpdateDeploymentDeviceStatusParams} (hsel : p.selects row = true)
    (hp : p.status ≠ "success" ∧ p.status ≠ "failed") : (l.setRow p).OnCourse := by
  have hcount := openRows_setRow hl.devices hrow hopen hsel
  rw [if_pos hp] at hcount
  have haccounted : (l.setRow p).Accounted :=
    (accounted_setRow hl.accounted hl.devices hrow hsel hp.1 hp.2).mpr
      (row.isOpen_iff.mp hopen)
  refine ⟨haccounted, by rw [devices_setRow]; exact hl.devices, ?_, ?_⟩
  · rw [setRow_totalDevices, hl.size]
    simp [setRow]
  · rw [setRow_status, hl.status, show (l.setRow p).openRows = l.openRows by omega]

/-- A success report completes the deployment exactly when it is the last one. -/
theorem onCourse_success (hl : l.OnCourse) (hrow : row ∈ l.rows) (hopen : row.isOpen = true)
    {p : UpdateDeploymentDeviceStatusParams} (hsel : p.selects row = true)
    (hp : p.status = "success") : (l.setRow p).creditSuccess.OnCourse := by
  have hcount := openRows_setRow hl.devices hrow hopen hsel
  rw [if_neg (fun h => h.1 hp)] at hcount
  have hrunning : l.status = .running := hl.running (openRows_pos hrow hopen)
  have haccounted : (l.setRow p).creditSuccess.Accounted :=
    (accounted_creditSuccess hl.accounted hl.devices hrow hsel hp (Or.inl hrunning)).mpr
      ⟨row.isOpen_iff.mp hopen, by simp [hrunning]⟩
  have hsum := hl.accounted.openRows
  have hsize := hl.size
  have hrows : (l.setRow p).creditSuccess.openRows = (l.setRow p).openRows := by
    rw [Ledger.openRows, creditSuccess_rows]
    rfl
  have hnotover : ¬ ((l.setRow p).status = .rolledBack ∨ (l.setRow p).status = .failed) := by
    simp [hrunning]
  refine ⟨haccounted, by rw [creditSuccess_rows, devices_setRow]; exact hl.devices, ?_, ?_⟩
  · rw [creditSuccess_rows, creditSuccess_totalDevices, setRow_totalDevices, hl.size]
    simp [setRow]
  · rw [hrows, creditSuccess_status hnotover]
    by_cases hlast : l.successCount + 1 + l.failureCount ≥ l.totalDevices
    · rw [if_pos (show (l.setRow p).successCount + 1 + (l.setRow p).failureCount ≥
        (l.setRow p).totalDevices from hlast), if_pos (by omega)]
    · rw [if_neg (show ¬ (l.setRow p).successCount + 1 + (l.setRow p).failureCount ≥
        (l.setRow p).totalDevices from hlast), if_neg (by omega), setRow_status, hrunning]

/-- The status after an error report on an open row: rolled back, or completed one
robot early. -/
theorem afterError_status (hl : l.OnCourse) (hrow : row ∈ l.rows) (hopen : row.isOpen = true)
    (event : DeviceErrorEvent) :
    (l.afterError id row event).status =
      if { l with failureCount := l.failureCount + 1 }.breached then .rolledBack
      else if l.openRows ≤ 2 then .completed
      else .running := by
  have hrunning : l.status = .running := hl.running (openRows_pos hrow hopen)
  have hsum := hl.accounted.openRows
  have hsize := hl.size
  have hreport : ¬ (row.status = "success" ∨ row.status = "failed") := by
    have := row.isOpen_iff.mp hopen
    tauto
  have hbreached : (l.countFailure id row event).breached =
      Ledger.breached { l with failureCount := l.failureCount + 1 } := rfl
  have hstatus : (l.countFailure id row event).status = .running := hrunning
  rw [afterError, if_neg hreport, evaluateFailure]
  by_cases hbreach : Ledger.breached { l with failureCount := l.failureCount + 1 } = true
  · rw [if_pos ⟨hstatus, hbreached.trans hbreach⟩, if_pos hbreach]
  · rw [if_neg (fun h => hbreach (hbreached.symm.trans h.2)), if_neg hbreach]
    change (if l.successCount + (l.failureCount + 1) + 1 ≥ l.totalDevices then _ else _ :
      Ledger).status = _
    by_cases hearly : l.openRows ≤ 2
    · rw [if_pos (by omega), if_pos hearly]
    · rw [if_neg (by omega), if_neg hearly, hstatus]

/-- The rows after an error report on an open row. -/
theorem afterError_rows (hopen : row.isOpen = true) (event : DeviceErrorEvent) :
    (l.afterError id row event).rows =
      (l.setRow ⟨id, event.deviceID, "failed", row.progress, some event.error⟩).rows := by
  have hreport : ¬ (row.status = "success" ∨ row.status = "failed") := by
    have := row.isOpen_iff.mp hopen
    tauto
  rw [afterError, if_neg hreport, evaluateFailure_rows]
  rfl

/-- An error closes one row. -/
theorem openRows_afterError (hl : l.OnCourse) (hrow : row ∈ l.rows) (hopen : row.isOpen = true)
    (hid : row.deploymentID = id) {event : DeviceErrorEvent}
    (hdevice : row.deviceID = event.deviceID) :
    (l.afterError id row event).openRows + 1 = l.openRows := by
  have hcount := openRows_setRow hl.devices hrow hopen
    (p := ⟨id, event.deviceID, "failed", row.progress, some event.error⟩)
    (by simp [UpdateDeploymentDeviceStatusParams.selects, hid, hdevice])
  rw [if_neg (fun h => h.2 rfl)] at hcount
  rw [Ledger.openRows, afterError_rows hopen]
  exact hcount

/-- An error report that neither breaches the threshold nor comes while exactly one
other robot is expected keeps the rollout on course. -/
theorem onCourse_error (hl : l.OnCourse) (hrow : row ∈ l.rows) (hopen : row.isOpen = true)
    (hid : row.deploymentID = id) {event : DeviceErrorEvent}
    (hdevice : row.deviceID = event.deviceID)
    (hbreach : Ledger.breached { l with failureCount := l.failureCount + 1 } = false)
    (hothers : l.openRows ≠ 2) : (l.afterError id row event).OnCourse := by
  have hcount := openRows_afterError hl hrow hopen hid hdevice
  have hpos := openRows_pos hrow hopen
  refine ⟨accounted_afterError hl.accounted hl.devices hrow hid hdevice, ?_, ?_, ?_⟩
  · rw [afterError_rows hopen, devices_setRow]
    exact hl.devices
  · have hsize : (l.afterError id row event).totalDevices = l.totalDevices := by
      unfold afterError
      split
      · rfl
      · rw [evaluateFailure_totalDevices]
        rfl
    rw [afterError_rows hopen, hsize, hl.size]
    simp [setRow]
  · rw [afterError_status hl hrow hopen, hbreach]
    by_cases hlast : (l.afterError id row event).openRows = 0
    · rw [if_neg (by simp), if_pos (by omega), if_pos hlast]
    · rw [if_neg (by simp), if_neg (by omega), if_neg hlast]

end

end Ledger

/-! ## The reports of a rollout -/

/-- The robot whose report the call handles. -/
def Call.reporter : Call → Option DeviceID
  | .progress event => some event.deviceID
  | .error event => some event.deviceID
  | _ => none

/-- The report is the robot's last one. -/
def Call.isTerminal : Call → Bool
  | .progress event => event.status = "success" && event.progress = 100
  | .error _ => true
  | _ => false

/-- The robots that have sent their terminal report after the call. -/
def overAfter (ended : List DeviceID) (call : Call) : List DeviceID :=
  match call.reporter with
  | some dev => if call.isTerminal then dev :: ended else ended
  | none => ended

/-- A report comes from a robot of the fleet that is not over; other handler calls are
free. -/
structure OrderlyCall (fleet ended : List DeviceID) (call : Call) : Prop where
  handler : call.isHandler = true
  reporter : ∀ dev, call.reporter = some dev → dev ∈ fleet ∧ dev ∉ ended
  progress : ∀ event, call = .progress event → call.isTerminal = false →
    event.status ≠ "success" ∧ event.status ≠ "failed"

/-- Every robot sends progress reports and then at most one terminal report, in any
interleaving; {lit}`ended` are the robots that have sent it. -/
def Orderly (fleet : List DeviceID) : List DeviceID → List Handling → Prop
  | _, [] => True
  | ended, h :: hs => OrderlyCall fleet ended h.call ∧ Orderly fleet (overAfter ended h.call) hs

/-- A handler call inserts no rows. -/
theorem soleDeployment_handle {id : DeploymentID} {db : Db} {h : Handling}
    (hsole : SoleDeployment id db) (hcall : h.call.isHandler = true) :
    SoleDeployment id (handle db h) := by
  have hexec : ∀ (s : Db × List (List PhaseWrite)) (op : Op), SoleDeployment id s.1 →
      HandlerOp op → AnyAnswer op (execQuiet h.choice s op).1 ∧
        SoleDeployment id (execQuiet h.choice s op).2.1 := by
    intro s op hs hop
    refine ⟨trivial, soleDeployment_exec (soleDeployment_writePhases hs) ?_⟩
    intro p hp
    rw [hp] at hop
    cases hop
  exact soleDeployment_writePhases ((handler_ops hcall).run hexec (s := (db, h.canary)) hsole)

/-! ## One call of an orderly rollout -/

/-- A rollout under way, with the robots that are over. -/
structure Underway (id : DeploymentID) (fleet ended : List DeviceID) (db : Db) (l : Ledger) :
    Prop where
  ledger : db.ledger id = some l
  onCourse : l.OnCourse
  fleet : (l.rows.map fun row => row.deviceID) = fleet
  ended : ∀ row ∈ l.rows, row.isOpen = true ↔ row.deviceID ∉ ended
  sole : SoleDeployment id db

/-- An error report is counted, below the threshold, while exactly one other robot is
expected. -/
def EarlyCompletion (l : Ledger) (call : Call) : Prop :=
  (∃ event, call = .error event) ∧ l.openRows = 2 ∧
    Ledger.breached { l with failureCount := l.failureCount + 1 } = false

namespace Underway

variable {id : DeploymentID} {fleet ended : List DeviceID} {db : Db} {l : Ledger}

/-- The rows of the account are those of the deployment. -/
theorem row_id (h : Underway id fleet ended db l) {row : DeploymentDevice} (hrow : row ∈ l.rows) :
    row.deploymentID = id := by
  rw [Db.rows_of_ledger h.ledger] at hrow
  exact (Db.mem_rowsOf.mp hrow).2

/-- A robot that is still expected has its open row as active row. -/
theorem activeRow (h : Underway id fleet ended db l) {dev : DeviceID} (hfleet : dev ∈ fleet)
    (hover : dev ∉ ended) :
    ∃ row ∈ l.rows, db.activeRowOf id dev = some row ∧ row.isOpen = true ∧
      row.deviceID = dev := by
  rw [← h.fleet] at hfleet
  obtain ⟨row, hrow, rfl⟩ := List.mem_map.mp hfleet
  have hopen : row.isOpen = true := (h.ended row hrow).mpr hover
  have hrunning : l.status = .running :=
    h.onCourse.running (Ledger.openRows_pos hrow hopen)
  obtain ⟨d, hd, hshows⟩ := Db.ledger_eq_some.mp h.ledger
  have hmem : row ∈ db.deploymentDevices := by
    rw [Db.rows_of_ledger h.ledger] at hrow
    exact (Db.mem_rowsOf.mp hrow).1
  have hactive : db.isActive row.deviceID row = true := by
    rw [Db.isActive_iff]
    refine ⟨rfl, d, by rw [h.row_id hrow, hd], Or.inl ?_⟩
    rw [← hrunning, ← hshows]
    rfl
  obtain ⟨row', hrow'⟩ := Db.activeRow_isSome hmem hactive
  have hid : row'.deploymentID = id := h.sole row' (Db.activeRow_spec hrow').1
  have hfound : db.activeRowOf id row.deviceID = some row' := by
    rw [Db.activeRowOf, hrow', Option.filter_some, if_pos (by simpa using hid)]
  obtain ⟨hrow'', -, hdevice, -⟩ := Db.activeRowOf_ledger h.ledger hfound
  refine ⟨row', hrow'', hfound, ?_, hdevice⟩
  rw [h.ended row' hrow'', hdevice]
  exact hover

/-- The rows after a report of a robot that is still expected. -/
theorem over_setRow (h : Underway id fleet ended db l) {dev : DeviceID} (hover : dev ∉ ended)
    {p : UpdateDeploymentDeviceStatusParams} (hp : p.deploymentID = id)
    (hdevice : p.deviceID = dev) {ended' : List DeviceID}
    (hover' : ended' = if p.status ≠ "success" ∧ p.status ≠ "failed" then ended else dev :: ended) :
    ∀ row ∈ (l.setRow p).rows, row.isOpen = true ↔ row.deviceID ∉ ended' := by
  intro row hrow
  obtain ⟨row', hrow', rfl⟩ := List.mem_map.mp hrow
  have hid : row'.deploymentID = id := h.row_id hrow'
  by_cases hdev : row'.deviceID = dev
  · have hsel : p.selects row' = true := by
      simp [UpdateDeploymentDeviceStatusParams.selects, hid, hp, hdev, hdevice]
    have hset : (p.set row').isOpen = true ↔ p.status ≠ "success" ∧ p.status ≠ "failed" :=
      (p.set row').isOpen_iff
    have hsetdev : (p.set row').deviceID = dev := hdev
    rw [if_pos hsel, hset, hsetdev, hover']
    by_cases hopen : p.status ≠ "success" ∧ p.status ≠ "failed"
    · simp [hopen, hover]
    · simp [hopen]
  · have hsel : ¬ p.selects row' = true := by
      simp [UpdateDeploymentDeviceStatusParams.selects, hdevice, hdev]
    rw [if_neg hsel, h.ended row' hrow', hover']
    split
    · exact Iff.rfl
    · simp [hdev]

/-- The rollout is still under way after a call that keeps it on course. -/
theorem handle (h : Underway id fleet ended db l) {hd : Handling} {ended' : List DeviceID}
    (hcall : hd.call.isHandler = true) (hcourse : (db.ledgerAfter id l hd.call).OnCourse)
    (hover : ∀ row ∈ (db.ledgerAfter id l hd.call).rows,
      row.isOpen = true ↔ row.deviceID ∉ ended') :
    Underway id fleet ended' (OtaRobot.handle db hd) (db.ledgerAfter id l hd.call) where
  ledger := ledger_handle h.ledger hcall
  onCourse := hcourse
  fleet := by rw [devices_ledgerAfter, h.fleet]
  ended := hover
  sole := soleDeployment_handle h.sole hcall

/-- A reconciliation has nothing to do in a rollout on course. -/
theorem afterReconcile (h : Underway id fleet ended db l) : l.afterReconcile = l := by
  unfold Ledger.afterReconcile
  split
  · rename_i hcounted
    have hsum := h.onCourse.accounted.openRows
    have hsize := h.onCourse.size
    have hstatus := h.onCourse.status
    rw [if_pos (by omega)] at hstatus
    rw [← hstatus]
  · rfl

/-- A progress report keeps the rollout on course. -/
theorem progress (h : Underway id fleet ended db l) {event : DeviceProgressEvent}
    {hd : Handling} (hevent : hd.call = .progress event) (hcall : OrderlyCall fleet ended hd.call) :
    Underway id fleet (overAfter ended hd.call) (OtaRobot.handle db hd)
      (db.ledgerAfter id l hd.call) := by
  obtain ⟨hfleet, hover⟩ := hcall.reporter event.deviceID (by rw [hevent]; rfl)
  obtain ⟨row, hrow, hactive, hopen, hdevice⟩ := h.activeRow hfleet hover
  have hsel : (⟨id, event.deviceID, event.status, event.progress, none⟩ :
      UpdateDeploymentDeviceStatusParams).selects row = true := by
    simp [UpdateDeploymentDeviceStatusParams.selects, h.row_id hrow, hdevice]
  have hafter : db.ledgerAfter id l hd.call = l.afterProgress id event := by
    rw [hevent, Db.ledgerAfter, hactive]
  by_cases hterminal : event.status = "success" ∧ event.progress = 100
  · have hcredit : l.afterProgress id event =
        (l.setRow ⟨id, event.deviceID, event.status, event.progress, none⟩).creditSuccess :=
      if_pos hterminal
    have hover' : overAfter ended hd.call = event.deviceID :: ended := by
      simp [overAfter, hevent, Call.reporter, Call.isTerminal, hterminal]
    refine h.handle hcall.handler ?_ ?_
    · rw [hafter, hcredit]
      exact Ledger.onCourse_success h.onCourse hrow hopen hsel hterminal.1
    · rw [hafter, hcredit, Ledger.creditSuccess_rows]
      exact h.over_setRow hover rfl rfl (by rw [hover', if_neg (fun hne => hne.1 hterminal.1)])
  · have hset : l.afterProgress id event =
        l.setRow ⟨id, event.deviceID, event.status, event.progress, none⟩ :=
      if_neg hterminal
    have hnot : hd.call.isTerminal = false := by
      rw [hevent, Call.isTerminal, ← Bool.not_eq_true, Bool.and_eq_true]
      simpa using hterminal
    have hstatus := hcall.progress event hevent hnot
    have hover' : overAfter ended hd.call = ended := by
      rw [overAfter, hnot]
      cases hd.call.reporter <;> rfl
    refine h.handle hcall.handler ?_ ?_
    · rw [hafter, hset]
      exact Ledger.onCourse_setRow h.onCourse hrow hopen hsel hstatus
    · rw [hafter, hset]
      exact h.over_setRow hover rfl rfl (by rw [hover', if_pos hstatus])

/-- An error report rolls the deployment back, completes it early, or keeps it on
course. -/
theorem error (h : Underway id fleet ended db l) {event : DeviceErrorEvent}
    {hd : Handling} (hevent : hd.call = .error event) (hcall : OrderlyCall fleet ended hd.call) :
    ((db.ledgerAfter id l hd.call).status = .rolledBack ∧ ¬ EarlyCompletion l hd.call) ∨
      (¬ (db.ledgerAfter id l hd.call).CompletedExactly ∧
        (db.ledgerAfter id l hd.call).status ≠ .rolledBack ∧ EarlyCompletion l hd.call) ∨
      (Underway id fleet (overAfter ended hd.call) (OtaRobot.handle db hd)
        (db.ledgerAfter id l hd.call) ∧ ¬ EarlyCompletion l hd.call) := by
  obtain ⟨hfleet, hover⟩ := hcall.reporter event.deviceID (by rw [hevent]; rfl)
  obtain ⟨row, hrow, hactive, hopen, hdevice⟩ := h.activeRow hfleet hover
  have hafter : db.ledgerAfter id l hd.call = l.afterError id row event := by
    rw [hevent, Db.ledgerAfter, hactive]
  have hstatus : (l.afterError id row event).status = _ :=
    Ledger.afterError_status h.onCourse hrow hopen event
  have hcount : (l.afterError id row event).openRows + 1 = l.openRows :=
    Ledger.openRows_afterError h.onCourse hrow hopen (h.row_id hrow) hdevice
  by_cases hbreach : Ledger.breached { l with failureCount := l.failureCount + 1 } = true
  · left
    refine ⟨by rw [hafter, hstatus, if_pos hbreach], ?_⟩
    rintro ⟨-, -, hbelow⟩
    simp [hbreach] at hbelow
  · have hbelow : Ledger.breached { l with failureCount := l.failureCount + 1 } = false := by
      simpa using hbreach
    right
    by_cases hearly : l.openRows = 2
    · left
      rw [if_neg hbreach, if_pos (by omega)] at hstatus
      refine ⟨?_, ?_, ⟨event, hevent⟩, hearly, hbelow⟩
      · rw [hafter, Ledger.completedExactly_iff, hstatus]
        simp only [true_iff]
        omega
      · rw [hafter, hstatus]
        simp
    · right
      refine ⟨h.handle hcall.handler ?_ ?_, fun h => hearly h.2.1⟩
      · rw [hafter]
        exact Ledger.onCourse_error h.onCourse hrow hopen (h.row_id hrow) hdevice hbelow hearly
      · rw [hafter, Ledger.afterError_rows hopen]
        refine h.over_setRow hover rfl rfl ?_
        rw [if_neg (fun hne => hne.2 rfl)]
        simp [overAfter, hevent, Call.reporter, Call.isTerminal]

/-- What a call does to a rollout under way. -/
theorem step (h : Underway id fleet ended db l) {hd : Handling}
    (hcall : OrderlyCall fleet ended hd.call) :
    ((db.ledgerAfter id l hd.call).status = .rolledBack ∧ ¬ EarlyCompletion l hd.call) ∨
      (¬ (db.ledgerAfter id l hd.call).CompletedExactly ∧
        (db.ledgerAfter id l hd.call).status ≠ .rolledBack ∧ EarlyCompletion l hd.call) ∨
      (Underway id fleet (overAfter ended hd.call) (OtaRobot.handle db hd)
        (db.ledgerAfter id l hd.call) ∧ ¬ EarlyCompletion l hd.call) := by
  have hnot : (∀ event, hd.call ≠ .error event) → ¬ EarlyCompletion l hd.call :=
    fun hne hearly => hearly.1.elim hne
  -- A call that leaves the ledger as it is.
  have hkeep : db.ledgerAfter id l hd.call = l → hd.call.reporter = none →
      Underway id fleet (overAfter ended hd.call) (OtaRobot.handle db hd)
        (db.ledgerAfter id l hd.call) := by
    intro hsame hnone
    refine h.handle hcall.handler (by rw [hsame]; exact h.onCourse) ?_
    rw [hsame, overAfter, hnone]
    exact h.ended
  cases hevent : hd.call with
  | progress event =>
      rw [← hevent]
      exact Or.inr (Or.inr ⟨h.progress hevent hcall, hnot (by simp [hevent])⟩)
  | error event =>
      rw [← hevent]
      exact h.error hevent hcall
  | getDeployment depID =>
      rw [← hevent]
      refine Or.inr (Or.inr ⟨hkeep ?_ (by rw [hevent]; rfl), hnot (by simp [hevent])⟩)
      rw [hevent, Db.ledgerAfter]
      split
      · exact h.afterReconcile
      · rfl
  | rollback depID =>
      rw [← hevent]
      by_cases hid : depID = id
      · left
        refine ⟨?_, hnot (by simp [hevent])⟩
        rw [hevent, Db.ledgerAfter, if_pos hid]
        rfl
      · refine Or.inr (Or.inr ⟨hkeep ?_ (by rw [hevent]; rfl), hnot (by simp [hevent])⟩)
        rw [hevent, Db.ledgerAfter, if_neg hid]
  | createDeployment | runCanary =>
      have hhandler := hcall.handler
      simp [hevent, Call.isHandler] at hhandler

end Underway

/-! ## Along a run -/

/-- The deployment is rolled back. -/
def isRolledBack (id : DeploymentID) (db : Db) : Bool :=
  (db.ledger id).any fun l => l.status = .rolledBack

/-- As long as the deployment has not been rolled back, it is completed exactly when
every row is terminal. -/
def CompletionKept (id : DeploymentID) (s : Db × Bool) : Prop :=
  s.2 = false → ∀ l, s.1.ledger id = some l → l.CompletedExactly

/-- As long as the deployment has not been rolled back, no error report completes it
early. -/
def NoEarlyCompletion (id : DeploymentID) (s : Db × Bool) (h : Handling) : Prop :=
  s.2 = false → ∀ l, s.1.ledger id = some l → ¬ EarlyCompletion l h.call

/-- The deployment was rolled back, or it is under way and the reports to come are
orderly. -/
def CompletionInvariant (id : DeploymentID) (fleet : List DeviceID) (s : Db × Bool)
    (hs : List Handling) : Prop :=
  s.2 = true ∨ ∃ l ended, Underway id fleet ended s.1 l ∧ Orderly fleet ended hs

/-- The property after a call says what the condition says before it. -/
theorem completionInvariant_step {id : DeploymentID} {fleet : List DeviceID}
    {s s' : Db × Bool} {h : Handling} {hs : List Handling}
    (hinv : CompletionInvariant id fleet s (h :: hs))
    (hstep : latched handleStep (isRolledBack id) s h = some s') :
    (CompletionKept id s' ↔ NoEarlyCompletion id s h) ∧
      (NoEarlyCompletion id s h → CompletionInvariant id fleet s' hs) := by
  obtain ⟨hdb, hlatch⟩ := latched_eq_some.mp hstep
  obtain ⟨db, latch⟩ := s
  obtain ⟨db', latch'⟩ := s'
  obtain rfl : handle db h = db' := by simpa [handleStep] using hdb
  dsimp only at hlatch
  cases latch with
  | true =>
      -- The deployment was rolled back before: nothing is left to show.
      obtain rfl : latch' = true := by simpa using hlatch
      exact ⟨⟨fun _ hfalse => by simp at hfalse, fun _ hfalse => by simp at hfalse⟩,
        fun _ => Or.inl rfl⟩
  | false =>
      obtain ⟨l, ended, hunderway, hcall, horderly⟩ : ∃ l ended, Underway id fleet ended db l ∧
          OrderlyCall fleet ended h.call ∧ Orderly fleet (overAfter ended h.call) hs := by
        rcases hinv with hrolled | hinv
        · simp at hrolled
        · exact hinv
      have hafter := ledger_handle hunderway.ledger hcall.handler
      have hearly : NoEarlyCompletion id (db, false) h ↔ ¬ EarlyCompletion l h.call := by
        constructor
        · exact fun hno => hno rfl l hunderway.ledger
        · intro hno _ l' hl'
          rw [hunderway.ledger] at hl'
          exact Option.some.inj hl' ▸ hno
      have hrolled : isRolledBack id (handle db h) =
          decide ((db.ledgerAfter id l h.call).status = .rolledBack) := by
        rw [isRolledBack, hafter]
        rfl
      rw [hrolled, Bool.false_or] at hlatch
      rw [hearly]
      rcases hunderway.step hcall with ⟨hstatus, hno⟩ | ⟨hinexact, hstatus, hyes⟩ |
        ⟨hnext, hno⟩
      · obtain rfl : latch' = true := by simpa [hstatus] using hlatch
        exact ⟨⟨fun _ => hno, fun _ hfalse => by simp at hfalse⟩, fun _ => Or.inl rfl⟩
      · obtain rfl : latch' = false := by simpa [hstatus] using hlatch
        have hnot : ¬ CompletionKept id (handle db h, false) := fun hkept =>
          hinexact (hkept rfl _ hafter)
        exact ⟨⟨fun hkept => absurd hkept hnot, fun hno => absurd hyes hno⟩,
          fun hno => absurd hyes hno⟩
      · refine ⟨⟨fun _ => hno, ?_⟩, fun _ => Or.inr ⟨_, _, hnext, horderly⟩⟩
        intro _ _ l' hl'
        rw [hafter] at hl'
        exact Option.some.inj hl' ▸ hnext.onCourse.completedExactly

/-- Completion is exact in every state of an orderly run of the only deployment,
until it is rolled back, exactly when no error report is counted, below the threshold,
while exactly one other robot is still expected. -/
theorem completion_exact {db : Db} {req : CreateDeploymentRequest} {uuid : DeploymentID}
    {url : String} {canary : List (List PhaseWrite)} {l : Ledger} {hs : List Handling}
    (hdeployments : db.deployments.rows = []) (hrows : db.deploymentDevices = [])
    (hids : req.deviceIDs.Nodup)
    (hl : (handle db ⟨.createDeployment req, uuid, url, canary⟩).ledger uuid = some l)
    (hreports : Orderly (l.rows.map fun row => row.deviceID) [] hs) :
    EveryState (latched handleStep (isRolledBack uuid)) (CompletionKept uuid)
        (handle db ⟨.createDeployment req, uuid, url, canary⟩, false) hs ↔
      EachStep (latched handleStep (isRolledBack uuid)) (NoEarlyCompletion uuid)
        (handle db ⟨.createDeployment req, uuid, url, canary⟩, false) hs := by
  have hnew : db.deployment uuid = none := by
    rw [Db.deployment, Table.find?_none_iff, hdeployments]
    simp
  have horphans : db.rowsOf uuid = [] := by simp [Db.rowsOf, hrows]
  have hfresh : l.Fresh := createDeployment_fresh hnew horphans hids hl
  refine everyState_iff_eachStep
    (I := CompletionInvariant uuid (l.rows.map fun row => row.deviceID)) ?_ ?_ ?_ ?_ ?_
  · intro s h hs _
    exact ⟨_, rfl⟩
  · intro s h hs s' hinv hstep
    exact (completionInvariant_step hinv hstep).1
  · intro s h hs s' hinv hstep hno
    exact (completionInvariant_step hinv hstep).2 hno
  · rintro s hs (hrolled | ⟨l', ended, hunderway, -⟩) hfalse l'' hl''
    · simp [hrolled] at hfalse
    · rw [hunderway.ledger] at hl''
      exact Option.some.inj hl'' ▸ hunderway.onCourse.completedExactly
  · refine Or.inr ⟨l, [], ⟨hl, hfresh.onCourse, rfl, ?_, ?_⟩, hreports⟩
    · intro row hrow
      simp [DeploymentDevice.isOpen, hfresh.pending row hrow]
    · exact createDeployment_sole hnew hrows hids

/-! ## Concrete rollouts -/

/-- The executable form of {lit}`CompletionKept`. -/
def completionKept (id : DeploymentID) (s : Db × Bool) : Bool :=
  s.2 ||
    match s.1.ledger id with
    | none => true
    | some l => decide (l.status = .completed) == (l.openRows == 0)

/-- The property implies the executable form. -/
theorem completionKept_of_kept {id : DeploymentID} {s : Db × Bool} (h : CompletionKept id s) :
    completionKept id s = true := by
  unfold completionKept
  cases hlatch : s.2 with
  | true => rfl
  | false =>
      rw [Bool.false_or]
      split
      · rfl
      · rename_i l hl
        have hexact := Ledger.completedExactly_iff.mp (h hlatch l hl)
        rw [beq_iff_eq, Bool.eq_iff_iff]
        simpa using hexact

/-- The executable form of {lit}`NoEarlyCompletion`. -/
def noEarlyCompletion (id : DeploymentID) (s : Db × Bool) (h : Handling) : Bool :=
  match h.call, s.1.ledger id with
  | .error _, some l =>
      l.openRows ≠ 2 || Ledger.breached { l with failureCount := l.failureCount + 1 }
  | _, _ => true

theorem noEarlyCompletion_spec {id : DeploymentID} {s : Db × Bool} {h : Handling}
    (hcheck : noEarlyCompletion id s h = true) : NoEarlyCompletion id s h := by
  rintro - l hl ⟨⟨event, hevent⟩, hopen, hbelow⟩
  simp [noEarlyCompletion, hevent, hl, hopen, hbelow] at hcheck

/-- The test of {lit}`Orderly`. -/
def orderly (fleet : List DeviceID) : List DeviceID → List Handling → Bool
  | _, [] => true
  | ended, h :: hs =>
      h.call.isHandler &&
        (match h.call.reporter with
          | some dev => fleet.contains dev && !ended.contains dev
          | none => true) &&
        (match h.call with
          | .progress event => h.call.isTerminal || (event.status ≠ "success" &&
              event.status ≠ "failed")
          | _ => true) &&
        orderly fleet (overAfter ended h.call) hs

theorem orderly_spec {fleet ended : List DeviceID} {hs : List Handling}
    (hcheck : orderly fleet ended hs = true) : Orderly fleet ended hs := by
  induction hs generalizing ended with
  | nil => trivial
  | cons h hs ih =>
      simp only [orderly, Bool.and_eq_true] at hcheck
      obtain ⟨⟨⟨hhandler, hreporter⟩, hprogress⟩, hrest⟩ := hcheck
      refine ⟨⟨hhandler, ?_, ?_⟩, ih hrest⟩
      · intro dev hdev
        simpa [hdev] using hreporter
      · intro event hevent hterminal
        simpa [hevent, hevent ▸ hterminal] using hprogress

/-- A rollout to five robots with threshold {lit}`0.5`. -/
private def halfThreshold : CreateDeploymentRequest where
  firmwareID := some 0
  strategy := "full"
  rollbackThreshold := 1 / 2

/-- Five robots. -/
private def fiveRobots : List DeviceID :=
  ["r1", "r2", "r3", "r4", "r5"]

/-- The account of their deployment. -/
private theorem fiveRobots_ledger :
    ∃ l, (rolloutDb halfThreshold fiveRobots (by decide)).ledger 0 = some l ∧
      (l.rows.map fun row => row.deviceID) = fiveRobots.reverse := by
  have hrows : ((rolloutDb halfThreshold fiveRobots (by decide)).ledger 0).map
      (fun l => l.rows.map fun row => row.deviceID) = some fiveRobots.reverse := by
    decide +kernel
  rwa [Option.map_eq_some_iff] at hrows

/-- A failure first, then four successes: the last one completes the deployment. -/
theorem completion_exact_five_robots :
    EveryState (latched handleStep (isRolledBack 0)) (CompletionKept 0)
      (rolloutDb halfThreshold fiveRobots (by decide), false)
      [{ call := .progress ⟨"r1", "downloading", 0⟩ },
       { call := .error ⟨"r1", "checksum mismatch"⟩ },
       { call := .progress ⟨"r2", "success", 100⟩ },
       { call := .progress ⟨"r3", "success", 100⟩ },
       { call := .getDeployment 0 },
       { call := .progress ⟨"r4", "success", 100⟩ },
       { call := .progress ⟨"r5", "success", 100⟩ }] := by
  obtain ⟨l, hl, hfleet⟩ := fiveRobots_ledger
  refine (completion_exact rfl rfl List.nodup_nil hl ?_).mpr ?_
  · rw [hfleet]
    exact orderly_spec (by decide +kernel)
  · exact EachStep.of_eachStep (fun _ _ => noEarlyCompletion_spec) (by decide +kernel)

/-- Three successes, then a failure: the deployment is completed while a robot is
still expected. -/
theorem completion_exact_early :
    ¬ ∀ (db : Db) (req : CreateDeploymentRequest) (uuid : DeploymentID) (l : Ledger)
      (hs : List Handling), db.deployments.rows = [] → db.deploymentDevices = [] →
        req.deviceIDs.Nodup →
        (handle db ⟨.createDeployment req, uuid, "", []⟩).ledger uuid = some l →
        Orderly (l.rows.map fun row => row.deviceID) [] hs →
          EveryState (latched handleStep (isRolledBack uuid)) (CompletionKept uuid)
            (handle db ⟨.createDeployment req, uuid, "", []⟩, false) hs := by
  intro h
  obtain ⟨l, hl, hfleet⟩ := fiveRobots_ledger
  have hkept := h (ControlPlane.fleetDb fiveRobots (by decide)) halfThreshold 0 l
    [{ call := .progress ⟨"r1", "success", 100⟩ },
     { call := .progress ⟨"r2", "success", 100⟩ },
     { call := .progress ⟨"r3", "success", 100⟩ },
     { call := .error ⟨"r4", "checksum mismatch"⟩ }]
    rfl rfl List.nodup_nil hl (by rw [hfleet]; exact orderly_spec (by decide +kernel))
  have hlast := completionKept_of_kept
    ((((hkept.2 _ rfl).2 _ rfl).2 _ rfl).2 _ rfl)
  revert hlast
  decide +kernel

end OtaRobot
