import OtaRobot.Auth.Handlers

/-!
# The rotation of a refresh token

A login and a refresh draw a new token, record its hash and set it as a cookie; a refresh has
deleted the hash of the token it was presented before.  How far a request is, is seen from the
answers to its own operations.

Main results:

- Theorem {lit}`handle_rotates`: what a request deletes, records and answers, and when.
-/

namespace OtaRobot.Auth

open Agent (Bytes)
open Prog Transition

/-! ## Stages -/

/-- The stages of a request that issues a token; the text is the hash of the new token. -/
inductive Rotation where
  | opened
  /-- The statement that deletes the presented token has been executed. -/
  | removed
  | drawn (hash : String)
  | recorded (hash : String)
  | closed
deriving DecidableEq, Repr

/-- The digest of the token that was drawn. -/
def hashOf (svc : AuthService) (random : Bytes) : String :=
  hashRefreshToken svc (svc.encodeBase64URL random)

/-- The rotation after an operation. -/
def Rotation.next (svc : AuthService) : Rotation → (op : AuthOp) → op.Ret → Rotation
  | .opened, .deleteRefreshToken _, _ => .removed
  | .removed, .getUserByID _, none => .closed
  | .removed, .generateAccessToken _ _ _, none => .closed
  | .opened, .readRandom, some b => .drawn (hashOf svc b)
  | .removed, .readRandom, some b => .drawn (hashOf svc b)
  | .removed, .readRandom, none => .closed
  | .drawn hash, .createRefreshToken _, r => bif r then .recorded hash else .closed
  | _, .respond _, _ => .closed
  | stage, _, _ => stage

/-- What a request is about; a refresh and a logout are presented the hash of a token. -/
inductive Role where
  | login
  | refresh (hash : String)
  | logout (hash : String)
deriving DecidableEq, Repr

/-- What a request is about, by the digest of its token. -/
def Request.role (svc : AuthService) : Request → Role
  | .login _ => .login
  | .refresh rawToken => .refresh (hashRefreshToken svc rawToken)
  | .logout rawToken => .logout (hashRefreshToken svc rawToken)

/-! ## The discipline -/

/-- A request deletes what it was presented, first of all; it records the token it has drawn,
and answers with the token it has recorded. -/
def Rotation.Allowed (svc : AuthService) (role : Role) (stage : Rotation) : AuthOp → Prop
  | .deleteRefreshToken hash =>
      stage = .opened ∧ (role = .refresh hash ∨ role = .logout hash)
  | .readRandom =>
      (role = .login ∧ stage = .opened) ∨ ∃ hash, role = .refresh hash ∧ stage = .removed
  | .createRefreshToken p => stage = .drawn p.tokenHash ∧ ∀ hash, role ≠ .logout hash
  | .respond (.session _ cookies) =>
      stage = .recorded (hashRefreshToken svc cookies.refreshToken)
  | .respond _ => ∀ hash, stage ≠ .recorded hash
  | _ => True

/-- The insert of a refresh takes effect. -/
def Rotation.Answer (role : Role) : (op : AuthOp) → op.Ret → Prop
  | .createRefreshToken _, r => role ≠ .login → r = true
  | _, _ => True

/-- A refresh removes its token before it inserts the next one. -/
def rotationDiscipline (svc : AuthService) (request : Request) :
    Discipline AuthOp.Ret Rotation where
  allowed := Rotation.Allowed svc (request.role svc)
  rely _ := Rotation.Answer (request.role svc)
  next := Rotation.next svc

section

variable (svc : AuthService) (request : Request)

/-- An error is sent while no token was inserted. -/
theorem reject_rotates {stage : Rotation} (h : ∀ hash, stage ≠ .recorded hash) (status : Nat)
    (text : String) : Obeys (rotationDiscipline svc request) (fun _ _ => True) stage
      (reject status text) :=
  ⟨h, fun _ _ => trivial⟩

/-- The cookie is the token that has been recorded. -/
theorem setAuthCookies_rotates (user : User) (accessToken refreshToken : String)
    (refreshExpires : Time) :
    Obeys (rotationDiscipline svc request) (fun _ _ => True)
      (.recorded (hashRefreshToken svc refreshToken))
      (setAuthCookies user accessToken refreshToken refreshExpires) :=
  ⟨trivial, fun _ _ => ⟨rfl, fun _ _ => trivial⟩⟩

/-- A login inserts the token it has drawn. -/
theorem startSession_rotates (user : User) (hlogin : request.role svc = .login) :
    Obeys (rotationDiscipline svc request) (fun _ _ => True) .opened (startSession svc user) := by
  refine ⟨trivial, fun _ _ => ⟨trivial, fun (accessToken : Option String) _ => ?_⟩⟩
  cases accessToken with
  | none => exact reject_rotates svc request (by simp [rotationDiscipline, Rotation.next]) _ _
  | some accessToken =>
      refine ⟨Or.inl ⟨hlogin, rfl⟩, fun (random : Option Bytes) _ => ?_⟩
      cases random with
      | none => exact reject_rotates svc request (by simp [rotationDiscipline, Rotation.next]) _ _
      | some b =>
          have hrole : ∀ hash, request.role svc ≠ .logout hash := by simp [hlogin]
          refine ⟨trivial, fun _ _ => ⟨⟨rfl, hrole⟩, fun (recorded : Bool) _ => ?_⟩⟩
          cases recorded with
          | false =>
              exact reject_rotates svc request (by simp [rotationDiscipline, Rotation.next]) _ _
          | true => exact setAuthCookies_rotates svc request _ _ _ _

/-- A login inserts a token after the comparison. -/
theorem authenticate_rotates (user : User) (password : String)
    (hlogin : request.role svc = .login) :
    Obeys (rotationDiscipline svc request) (fun _ _ => True) .opened
      (authenticate svc user password) := by
  refine ⟨trivial, fun (matched : Bool) _ => ?_⟩
  cases matched with
  | true => exact startSession_rotates svc request user hlogin
  | false =>
      show Obeys _ _ Rotation.opened (rejectPassword user)
      unfold rejectPassword
      dsimp only
      split
      · exact ⟨trivial, fun _ _ => ⟨trivial, fun _ _ => reject_rotates svc request
          (by simp [rotationDiscipline, Rotation.next]) _ _⟩⟩
      · exact ⟨trivial, fun _ _ => reject_rotates svc request
          (by simp [rotationDiscipline, Rotation.next]) _ _⟩

/-- A login keeps to the order. -/
theorem login_rotates (body : Option LoginRequest) :
    Obeys (rotationDiscipline svc (.login body)) (fun _ _ => True) .opened (login svc body) := by
  have hreject : ∀ status text, Obeys (rotationDiscipline svc (.login body)) (fun _ _ => True)
      .opened (reject status text) := fun status text => reject_rotates svc _ (by simp) status text
  cases body with
  | none => exact hreject _ _
  | some req =>
      simp only [login]
      split
      · exact hreject _ _
      · refine ⟨trivial, fun (user : Option User) _ => ?_⟩
        cases user with
        | none => exact ⟨trivial, fun _ _ => hreject _ _⟩
        | some user =>
            show Obeys _ _ Rotation.opened (checkLock svc user _)
            unfold checkLock
            split
            · exact authenticate_rotates svc _ user _ rfl
            · rename_i lockedUntil _
              refine ⟨trivial, fun (now : Time) _ => ?_⟩
              show Obeys _ _ Rotation.opened (if now < lockedUntil then _ else _)
              split
              · exact ⟨trivial, fun _ _ => hreject _ _⟩
              · exact authenticate_rotates svc _ user _ rfl

/-- A refresh removes, draws, inserts and answers. -/
theorem rotateSession_rotates (user : User) {hash : String}
    (hrefresh : request.role svc = .refresh hash) :
    Obeys (rotationDiscipline svc request) (fun _ _ => True) .removed
      (rotateSession svc user) := by
  have hclosed : ∀ status text, Obeys (rotationDiscipline svc request) (fun _ _ => True)
      .closed (reject status text) := fun status text => reject_rotates svc _ (by simp) status text
  refine ⟨trivial, fun (accessToken : Option String) _ => ?_⟩
  cases accessToken with
  | none => exact hclosed _ _
  | some accessToken =>
      refine ⟨Or.inr ⟨hash, hrefresh, rfl⟩, fun (random : Option Bytes) _ => ?_⟩
      cases random with
      | none => exact hclosed _ _
      | some b =>
          have hrole : ∀ hash, request.role svc ≠ .logout hash := by simp [hrefresh]
          refine ⟨trivial, fun _ _ => ⟨⟨rfl, hrole⟩, fun (recorded : Bool) hr => ?_⟩⟩
          have hrecorded : recorded = true := hr (by simp [hrefresh])
          subst hrecorded
          exact setAuthCookies_rotates svc request _ _ _ _

/-- A refresh keeps to the order. -/
theorem refresh_rotates (rawToken : String) :
    Obeys (rotationDiscipline svc (.refresh rawToken)) (fun _ _ => True) .opened
      (refresh svc rawToken) := by
  unfold refresh
  split
  · exact reject_rotates svc _ (by simp) _ _
  · refine ⟨trivial, fun (record : Option RefreshToken) _ => ?_⟩
    cases record with
    | none => exact reject_rotates svc _ (by simp [rotationDiscipline, Rotation.next]) _ _
    | some record =>
        refine ⟨⟨rfl, Or.inl rfl⟩, fun _ _ => ⟨trivial, fun (user : Option User) _ => ?_⟩⟩
        cases user with
        | none => exact reject_rotates svc _ (by simp [rotationDiscipline, Rotation.next]) _ _
        | some user => exact rotateSession_rotates svc _ user rfl

/-- A logout removes its token. -/
theorem logout_rotates (rawToken : String) :
    Obeys (rotationDiscipline svc (.logout rawToken)) (fun _ _ => True) .opened
      (logout svc rawToken) := by
  unfold logout
  split
  · exact ⟨by simp [rotationDiscipline, Rotation.Allowed], fun _ _ => trivial⟩
  · refine ⟨⟨rfl, Or.inr rfl⟩, fun _ _ => ⟨?_, fun _ _ => trivial⟩⟩
    simp [rotationDiscipline, Rotation.Allowed, Rotation.next]

/-- What a request deletes, records and answers, and when. -/
theorem handle_rotates (request : Request) :
    Obeys (rotationDiscipline svc request) (fun _ _ => True) .opened (handle svc request) := by
  cases request with
  | login body => exact login_rotates svc body
  | refresh rawToken => exact refresh_rotates svc rawToken
  | logout rawToken => exact logout_rotates svc rawToken

end

/-! ## What the history says about tokens -/

/-- The hash an operation has recorded. -/
def insertedHash : Record → Option String
  | ⟨_, .createRefreshToken p, r⟩ => bif r then some p.tokenHash else none
  | _ => none

/-- The hash of a token that was drawn. -/
def drawnHash (svc : AuthService) : Record → Option String
  | ⟨_, .readRandom, r⟩ => Option.map (hashOf svc) r
  | _ => none

/-- The token an answer sets as a cookie. -/
def issuedToken : Record → Option String
  | ⟨_, .respond (.session _ cookies), _⟩ => some cookies.refreshToken
  | _ => none

end OtaRobot.Auth
