import OtaRobot.Auth.Handlers

/-!
# The stages of a failing login

A login with a wrong password reads the row of the user, tests the lock it has read, checks the
password and writes the counter back.  What its own operations were answered says how far it is,
and what it is going to write.

Main results:

- Theorem {lit}`login_stages`: a login keeps to the order of its stages.
- Theorem {lit}`stageEvents_next`: what the stage of a request says about its history.
-/

namespace OtaRobot.Auth

open Prog Transition

/-! ## Stages -/

/-- How far a login has come. -/
inductive Stage where
  | started
  /-- The row was read and has a lock. -/
  | read (user : User)
  /-- The request is answered without a check. -/
  | refused
  /-- The row has no lock in force. -/
  | cleared (user : User)
  /-- The password was checked; the number is the counter as it was read. -/
  | checked (attempts : Int)
  | locking (attempts : Int) (now : Time)
  | closed
deriving DecidableEq

/-- The lock is in force. -/
def inForce (lockedUntil : Option Time) (now : Time) : Bool :=
  lockedUntil.any fun t => now < t

/-- The stage after the row was read. -/
def Stage.afterRead (user : User) : Stage :=
  if user.lockedUntil = none then .cleared user else .read user

/-- The stage after an operation. -/
def Stage.next : Stage → (op : AuthOp) → op.Ret → Stage
  | .started, .getUserByEmailOrUsername _, some user => afterRead user
  | .started, _, _ => .refused
  | .read user, .now, t => if inForce user.lockedUntil t then .refused else .cleared user
  | .read _, _, _ => .refused
  | .cleared user, .checkPassword _ _, _ => .checked user.failedAttempts
  | .checked attempts, .now, t => .locking attempts t
  | .checked _, .updateUserFailedAttempts _, _ => .closed
  | .locking _ _, .updateUserFailedAttempts _, _ => .closed
  | stage, _, _ => stage

/-- The counter a request has read, between its password check and its update. -/
def Stage.pending : Stage → Option Int
  | .checked attempts | .locking attempts _ => some attempts
  | _ => none

/-- What a failing login writes. -/
def Stage.Writes (id : UserID) (stage : Stage) (p : UpdateUserFailedAttemptsParams) : Prop :=
  match stage with
  | .checked attempts =>
      int32 (attempts + 1) < 5 ∧ p = ⟨id, int32 (attempts + 1), none⟩
  | .locking attempts now =>
      5 ≤ int32 (attempts + 1) ∧ p = ⟨id, int32 (attempts + 1), some (now + minutes 15)⟩
  | _ => False

/-- The request is a login. -/
def Request.isLogin : Request → Bool
  | .login _ => true
  | _ => false

/-- The name a login looks up. -/
def Request.username : Request → String
  | .login (some req) => Firmware.trimSpace req.username
  | _ => ""

/-- The password a login checks. -/
def Request.password : Request → String
  | .login (some req) => Firmware.trimSpace req.password
  | _ => ""

/-- What a login may do at a stage. -/
def Stage.Allowed (u : User) (request : Request) (stage : Stage) : AuthOp → Prop
  | .getUserByEmailOrUsername name => stage = .started ∧ name = request.username
  | .checkPassword hashedPassword password =>
      (∃ user, stage = .cleared user) ∧ hashedPassword = u.passwordHash ∧
        password = request.password
  | .updateUserFailedAttempts p => stage.Writes u.id p
  | .resetUserFailedAttempts _ => False
  | _ => True

/-- The user is found, and the password is wrong. -/
def Stage.Answer (u : User) : (op : AuthOp) → op.Ret → Prop
  | .getUserByEmailOrUsername _, r =>
      ∃ user : User, r = some user ∧ user.id = u.id ∧ user.passwordHash = u.passwordHash
  | .checkPassword _ _, r => r = false
  | _, _ => True

/-- Requests other than logins may do anything. -/
def loginDiscipline (u : User) (request : Request) : Discipline AuthOp.Ret Stage where
  allowed stage op := request.isLogin = true → stage.Allowed u request op
  rely _ op r := request.isLogin = true → Stage.Answer u op r
  next := Stage.next

/-! ## A login -/

section

variable (u : User) (request : Request)

/-- A reply may be sent at every stage. -/
theorem respond_stages (stage : Stage) (reply : Reply) :
    Obeys (loginDiscipline u request) (fun _ _ => True) stage (respond reply) :=
  ⟨fun _ => trivial, fun _ _ => trivial⟩

/-- A wrong password is counted after the comparison. -/
theorem rejectPassword_stages {user : User} (hid : user.id = u.id) :
    Obeys (loginDiscipline u request) (fun _ _ => True) (.checked user.failedAttempts)
      (rejectPassword user) := by
  unfold rejectPassword
  dsimp only
  split
  · rename_i hattempts
    refine ⟨fun _ => trivial, fun (now : Time) _ => ?_⟩
    exact ⟨fun _ => ⟨hattempts, by rw [hid]⟩, fun _ _ => respond_stages _ _ _ _⟩
  · rename_i hattempts
    exact ⟨fun _ => ⟨by omega, by rw [hid]⟩, fun _ _ => respond_stages _ _ _ _⟩

variable (svc : AuthService)

/-- The password is compared after the lock was looked at. -/
theorem authenticate_stages {user : User} (hlogin : request.isLogin = true)
    (hid : user.id = u.id) (hhash : user.passwordHash = u.passwordHash) :
    Obeys (loginDiscipline u request) (fun _ _ => True) (.cleared user)
      (authenticate svc user request.password) := by
  refine ⟨fun _ => ⟨⟨user, rfl⟩, hhash, rfl⟩, fun (matched : Bool) hr => ?_⟩
  have hwrong : matched = false := hr hlogin
  subst hwrong
  exact rejectPassword_stages u request hid

/-- The lock is looked at after the row was read. -/
theorem checkLock_stages {user : User} (hlogin : request.isLogin = true)
    (hid : user.id = u.id) (hhash : user.passwordHash = u.passwordHash) :
    Obeys (loginDiscipline u request) (fun _ _ => True) (.afterRead user)
      (checkLock svc user request.password) := by
  unfold checkLock Stage.afterRead
  cases hlocked : user.lockedUntil with
  | none =>
      rw [if_pos rfl]
      exact authenticate_stages u request svc hlogin hid hhash
  | some lockedUntil =>
      rw [if_neg (by simp)]
      refine ⟨fun _ => trivial, fun (now : Time) _ => ?_⟩
      have hnext : (loginDiscipline u request).next (.read user) .now now =
          if now < lockedUntil then .refused else .cleared user := by
        show (if inForce user.lockedUntil now = true then Stage.refused else .cleared user) = _
        simp [inForce, hlocked]
      rw [hnext]
      by_cases hnow : now < lockedUntil
      · rw [if_pos hnow]
        show Obeys _ _ _ (if now < lockedUntil then _ else _)
        rw [if_pos hnow]
        exact ⟨fun _ => trivial, fun _ _ => respond_stages _ _ _ _⟩
      · rw [if_neg hnow]
        show Obeys _ _ _ (if now < lockedUntil then _ else _)
        rw [if_neg hnow]
        exact authenticate_stages u request svc hlogin hid hhash

/-- A login keeps to the order of its stages. -/
theorem login_stages (request : Request) :
    Obeys (loginDiscipline u request) (fun _ _ => True) .started (handle svc request) := by
  cases request with
  | refresh rawToken =>
      exact obeys_of_forall (fun _ _ h => by cases h) (fun _ _ => trivial) _ _
  | logout rawToken =>
      exact obeys_of_forall (fun _ _ h => by cases h) (fun _ _ => trivial) _ _
  | login body =>
      cases body with
      | none => exact respond_stages _ _ _ _
      | some req =>
          simp only [handle, login]
          split
          · exact respond_stages _ _ _ _
          · refine ⟨fun _ => ⟨rfl, rfl⟩, fun (r : Option User) hr => ?_⟩
            obtain ⟨user, rfl, hid, hhash⟩ := hr rfl
            exact checkLock_stages u (.login (some req)) svc rfl hid hhash

end

/-! ## What an operation makes of the stage -/

/-- The operation compares a password. -/
def AuthOp.isCheck : AuthOp → Bool
  | .checkPassword _ _ => true
  | _ => false

/-- The operation writes a count. -/
def AuthOp.isUpdate : AuthOp → Bool
  | .updateUserFailedAttempts _ => true
  | _ => false

/-- No password has been checked. -/
def Stage.isUnchecked : Stage → Bool
  | .checked _ | .locking _ _ | .closed => false
  | _ => true

/-- The row of a user that an operation has read. -/
def readOf : Record → Option User
  | ⟨_, .getUserByEmailOrUsername _, user⟩ => user
  | _ => none

section

variable {u : User} {request : Request} {stage : Stage} {op : AuthOp} {r : op.Ret}

/-- A read clears the login or leaves a lock to look at. -/
theorem afterRead_cases (user : User) :
    Stage.afterRead user = .cleared user ∨ Stage.afterRead user = .read user := by
  unfold Stage.afterRead
  split
  · exact Or.inl rfl
  · exact Or.inr rfl

/-- What the first operation of a request leads to. -/
theorem next_started (op : AuthOp) (r : op.Ret) (i : Nat) : Stage.next .started op r = .refused ∨
    ∃ user, readOf ⟨i, op, r⟩ = some user ∧ Stage.next .started op r = .afterRead user := by
  cases op with
  | getUserByEmailOrUsername name =>
      change Option User at r
      cases r with
      | none => exact Or.inl rfl
      | some user => exact Or.inr ⟨user, rfl, rfl⟩
  | _ => exact Or.inl rfl

/-- The clock refuses the login or clears it. -/
theorem next_read (op : AuthOp) (r : op.Ret) (user : User) :
    Stage.next (.read user) op r = .refused ∨ Stage.next (.read user) op r = .cleared user := by
  cases op with
  | now =>
      by_cases hlocked : inForce user.lockedUntil r = true
      · exact Or.inl (if_pos hlocked)
      · exact Or.inr (if_neg hlocked)
  | _ => exact Or.inl rfl

/-- Only a check ends the stages before it. -/
theorem next_isUnchecked (h : stage.Allowed u request op) :
    (stage.next op r).isUnchecked = (stage.isUnchecked && !op.isCheck) := by
  by_cases hcheck : op.isCheck = true
  · cases op with
    | checkPassword hashedPassword password =>
        obtain ⟨⟨user, rfl⟩, -⟩ := h
        rfl
    | _ => cases hcheck
  · rw [Bool.not_eq_true] at hcheck
    rw [hcheck]
    cases stage with
    | started =>
        rcases next_started op r 0 with hnext | ⟨user, -, hnext⟩
        · rw [hnext]
          rfl
        · rw [hnext]
          rcases afterRead_cases user with hafter | hafter <;> rw [hafter] <;> rfl
    | read user =>
        rcases next_read op r user with hnext | hnext <;> rw [hnext] <;> rfl
    | _ => cases op <;> first | rfl | cases hcheck

/-- Only an update closes a request. -/
theorem next_closed (h : stage.Allowed u request op) :
    stage.next op r = .closed ↔ stage = .closed ∨ op.isUpdate = true := by
  cases stage with
  | started =>
      have hop : op.isUpdate = false := by
        cases op with
        | updateUserFailedAttempts p => exact absurd h id
        | _ => rfl
      rcases next_started op r 0 with hnext | ⟨user, -, hnext⟩
      · simp [hnext, hop]
      · rcases afterRead_cases user with hafter | hafter <;> simp [hnext, hafter, hop]
  | read user =>
      have hop : op.isUpdate = false := by
        cases op with
        | updateUserFailedAttempts p => exact absurd h id
        | _ => rfl
      rcases next_read op r user with hnext | hnext <;> simp [hnext, hop]
  | _ => cases op <;> first
    | exact absurd h id
    | simp [Stage.next, AuthOp.isUpdate]

/-- The counter that is pending changes with a check and with an update. -/
theorem next_pending (h : stage.Allowed u request op) :
    (op.isCheck = true ∧ ∃ user, stage = .cleared user ∧
        (stage.next op r).pending = some user.failedAttempts) ∨
      (∃ p, op = .updateUserFailedAttempts p ∧ stage.Writes u.id p ∧
        (stage.next op r).pending = none) ∨
        (op.isCheck = false ∧ op.isUpdate = false ∧
          (stage.next op r).pending = stage.pending) := by
  cases op with
  | checkPassword hashedPassword password =>
      obtain ⟨⟨user, rfl⟩, -⟩ := h
      exact Or.inl ⟨rfl, user, rfl, rfl⟩
  | updateUserFailedAttempts p =>
      right
      left
      refine ⟨p, rfl, h, ?_⟩
      have hclosed : stage.next (.updateUserFailedAttempts p) r = .closed :=
        (next_closed h).mpr (Or.inr rfl)
      rw [hclosed]
      rfl
  | _ =>
      right
      right
      refine ⟨rfl, rfl, ?_⟩
      cases stage with
      | started =>
          rcases next_started _ r 0 with hnext | ⟨user, -, hnext⟩
          · rw [hnext]
            rfl
          · rw [hnext]
            rcases afterRead_cases user with hafter | hafter <;> rw [hafter] <;> rfl
      | read user =>
          rcases next_read _ r user with hnext | hnext <;> rw [hnext] <;> rfl
      | _ => rfl

end

/-! ## The stage of a request and its history -/

/-- How far a request has come. -/
def stageOf (i : Nat) (c : Config) : Stage :=
  (Machine.eventsOf i c.trace).foldl (fun stage e => stage.next e.op e.ret) .started

/-- No password was compared. -/
def Unchecked (events : List Record) : Prop :=
  ∀ e ∈ events, e.op.isCheck = false

/-- No count was written. -/
def Unwritten (events : List Record) : Prop :=
  ∀ e ∈ events, e.op.isUpdate = false

/-- What the stage of a request says about its operations. -/
structure StageEvents (stage : Stage) (events : List Record) : Prop where
  started : stage = .started → events = []
  unchecked : Unchecked events ↔ stage.isUnchecked = true
  unwritten : Unwritten events ↔ stage ≠ .closed
  read : ∀ user, stage = .read user → ∃ e, events = [e] ∧ readOf e = some user
  cleared : ∀ user, stage = .cleared user → ∃ e ∈ events, readOf e = some user

/-- A request starts without an operation. -/
theorem stageEvents_started : StageEvents .started [] where
  started _ := rfl
  unchecked := iff_of_true (fun e he => by cases he) rfl
  unwritten := iff_of_true (fun e he => by cases he) (by simp)
  read user h := by cases h
  cleared user h := by cases h

theorem stageEvents_next {u : User} {request : Request} {stage : Stage}
    {events : List Record} {e : Record} (h : StageEvents stage events)
    (hallowed : stage.Allowed u request e.op) :
    StageEvents (stage.next e.op e.ret) (events ++ [e]) := by
  obtain ⟨i, op, r⟩ := e
  constructor
  · intro hnext
    have hnever : stage.next op r ≠ .started := by
      cases stage with
      | started =>
          rcases next_started op r 0 with hnext | ⟨user, -, hnext⟩
          · simp [hnext]
          · rcases afterRead_cases user with hafter | hafter <;> simp [hnext, hafter]
      | read user =>
          rcases next_read op r user with hnext | hnext <;> simp [hnext]
      | _ => cases op <;> simp [Stage.next]
    exact absurd hnext hnever
  · rw [next_isUnchecked hallowed, Bool.and_eq_true, ← h.unchecked]
    simp [Unchecked, or_imp, forall_and]
  · rw [ne_eq, next_closed hallowed, not_or, ← ne_eq, ← h.unwritten]
    simp [Unwritten, or_imp, forall_and]
  · intro user hnext
    cases stage with
    | started =>
        rcases next_started op r i with hrefused | ⟨user', hread, hafter⟩
        · rw [hrefused] at hnext
          cases hnext
        · rw [hafter] at hnext
          rcases afterRead_cases user' with hcase | hcase
          · rw [hcase] at hnext
            cases hnext
          · rw [hcase] at hnext
            cases hnext
            exact ⟨_, by rw [h.started rfl]; rfl, hread⟩
    | read user' =>
        rcases next_read op r user' with hcase | hcase <;> rw [hcase] at hnext <;>
          cases hnext
    | _ => cases op <;> cases hnext
  · intro user hnext
    cases stage with
    | started =>
        rcases next_started op r i with hrefused | ⟨user', hread, hafter⟩
        · rw [hrefused] at hnext
          cases hnext
        · rw [hafter] at hnext
          rcases afterRead_cases user' with hcase | hcase
          · rw [hcase] at hnext
            cases hnext
            exact ⟨_, List.mem_append_right _ (List.mem_singleton_self _), hread⟩
          · rw [hcase] at hnext
            cases hnext
    | read user' =>
        obtain ⟨e, hevents, hread⟩ := h.read user' rfl
        rcases next_read op r user' with hcase | hcase
        · rw [hcase] at hnext
          cases hnext
        · rw [hcase] at hnext
          cases hnext
          exact ⟨e, by rw [hevents]; simp, hread⟩
    | cleared user' =>
        obtain ⟨e, he, hread⟩ := h.cleared user' rfl
        have hsame : user' = user := by
          cases op <;> first | exact Stage.cleared.inj hnext | cases hnext
        exact ⟨e, List.mem_append_left _ he, hsame ▸ hread⟩
    | _ => cases op <;> cases hnext

/-- A request is between its check and its update exactly in the pending stages. -/
theorem StageEvents.pending_iff {stage : Stage} {events : List Record}
    (h : StageEvents stage events) :
    stage.pending ≠ none ↔ ¬ Unchecked events ∧ Unwritten events := by
  rw [h.unchecked, h.unwritten]
  cases stage <;> simp [Stage.pending, Stage.isUnchecked]

end OtaRobot.Auth
