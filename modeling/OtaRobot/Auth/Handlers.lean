import OtaRobot.Firmware.Validate

/-!
# Logins and sessions

The handlers {lit}`Login`, {lit}`Refresh` and {lit}`Logout` of {lit}`internal/handlers/auth.go`
over the tables {lit}`users` and {lit}`refresh_tokens`.  Single statements, single password checks
and single readings of the clock are atomic; any statement may fail, time passes between any two
of them, and any request may run next.

What does not change while the service runs is an {lit}`AuthService`: the password hash, the
digest of a token and the encoding of random bytes.

Current gaps:

- The attributes of the cookies other than value and expiry are constants and left out; so are
  the columns that no handler reads.
- The database and the service read one clock.
-/

namespace OtaRobot.Auth

open Agent (Bytes)
open Prog

/-! ## Time and machine integers -/

/-- Nanoseconds. -/
abbrev Time := Nat

/-- {lit}`time.Second`, in nanoseconds. -/
def seconds (n : Nat) : Time :=
  n * 1000000000

/-- {lit}`time.Minute`. -/
def minutes (n : Nat) : Time :=
  seconds (n * 60)

/-- {lit}`time.Hour`. -/
def hours (n : Nat) : Time :=
  minutes (n * 60)

/-- {lit}`Duration.Round(time.Second)`, in seconds: halves are rounded away from zero. -/
def roundSeconds (d : Int) : Int :=
  d.sign * ((d.natAbs + 500000000) / 1000000000 : Nat)

/-- {lit}`Duration.String` of whole seconds. -/
def durationText (s : Int) : String :=
  let n := s.natAbs
  let minutesText := if n < 60 then "" else toString (n / 60 % 60) ++ "m"
  let hoursText := if n < 3600 then "" else toString (n / 3600) ++ "h"
  (if s < 0 then "-" else "") ++ hoursText ++ minutesText ++ toString (n % 60) ++ "s"

/-- The value of an {lit}`int32` after an arithmetic operation. -/
def int32 (n : Int) : Int :=
  (n + 2147483648) % 4294967296 - 2147483648

/-- A small count is its own conversion. -/
theorem int32_of_small {n : Int} (hlower : 0 ≤ n) (hupper : n ≤ 1000) : int32 n = n := by
  unfold int32
  omega

/-! ## Rows -/

/-- The UUID of a user, by a number. -/
abbrev UserID := Nat

/-- A row of {lit}`users`. -/
structure User where
  id : UserID
  username : String
  passwordHash : String
  role : String := "operator"
  email : Option String := none
  failedAttempts : Int := 0
  lockedUntil : Option Time := none
deriving DecidableEq, Repr

/-- A row of {lit}`refresh_tokens`. -/
structure RefreshToken where
  id : Nat
  userID : UserID
  tokenHash : String
  expiresAt : Time
deriving DecidableEq, Repr

/-- The parameters of {lit}`UpdateUserFailedAttempts`. -/
structure UpdateUserFailedAttemptsParams where
  id : UserID
  failedAttempts : Int
  lockedUntil : Option Time
deriving DecidableEq, Repr

/-- The parameters of {lit}`CreateRefreshToken`. -/
structure CreateRefreshTokenParams where
  userID : UserID
  tokenHash : String
  expiresAt : Time
deriving DecidableEq, Repr

/-- The row that {lit}`CreateRefreshToken` inserts. -/
def CreateRefreshTokenParams.row (p : CreateRefreshTokenParams) (id : Nat) : RefreshToken where
  id := id
  userID := p.userID
  tokenHash := p.tokenHash
  expiresAt := p.expiresAt

/-! ## Requests, answers and operations -/

/-- The body of a login. -/
structure LoginRequest where
  username : String
  password : String
deriving DecidableEq, Repr

/-- What a reply tells about a user. -/
structure UserResponse where
  id : UserID
  username : String
  email : String
  role : String
deriving DecidableEq, Repr

/-- The reply for a user; a missing email is the empty text. -/
def User.response (user : User) : UserResponse where
  id := user.id
  username := user.username
  email := user.email.getD ""
  role := user.role

/-- The cookies {lit}`setAuthCookies` sets. -/
structure AuthCookies where
  accessToken : String
  accessExpires : Time
  refreshToken : String
  refreshExpires : Time
deriving DecidableEq, Repr

/-- What a handler answers; {lit}`terminated` clears both cookies. -/
inductive Reply where
  | error (status : Nat) (text : String)
  | session (user : UserResponse) (cookies : AuthCookies)
  | terminated
deriving DecidableEq, Repr

/-- The statements, readings and replies of the three handlers. -/
inductive AuthOp where
  | getUserByEmailOrUsername (name : String)
  | getUserByID (id : UserID)
  | updateUserFailedAttempts (params : UpdateUserFailedAttemptsParams)
  | resetUserFailedAttempts (id : UserID)
  | createRefreshToken (params : CreateRefreshTokenParams)
  | getRefreshToken (tokenHash : String)
  | deleteRefreshToken (tokenHash : String)
  | checkPassword (hashedPassword password : String)
  | generateAccessToken (userID : UserID) (username role : String)
  | readRandom
  | now
  | respond (reply : Reply)
deriving DecidableEq

/-- Answers: {lean}`none` and {lean}`false` are errors, except that {lit}`checkPassword` answers
{lean}`false` to a wrong password. -/
def AuthOp.Ret : AuthOp → Type
  | .getUserByEmailOrUsername _ => Option User
  | .getUserByID _ => Option User
  | .updateUserFailedAttempts _ => Bool
  | .resetUserFailedAttempts _ => Bool
  | .createRefreshToken _ => Bool
  | .getRefreshToken _ => Option RefreshToken
  | .deleteRefreshToken _ => Bool
  | .checkPassword _ _ => Bool
  | .generateAccessToken _ _ _ => Option String
  | .readRandom => Option Bytes
  | .now => Time
  | .respond _ => Unit

/-- A handler, as a program over these operations. -/
abbrev Handling := Prog AuthOp.Ret

/-- One operation of a handler. -/
def ask (op : AuthOp) : Handling op.Ret :=
  perform op

/-- Sends the reply. -/
def respond (reply : Reply) : Handling Unit :=
  ask (.respond reply)

/-- Replies with an error. -/
def reject (status : Nat) (text : String) : Handling Unit :=
  respond (.error status text)

/-- {lit}`time.Now`. -/
def readClock : Handling Time :=
  ask .now

/-- The hash functions and encodings of the service. -/
structure AuthService where
  checkPassword : String → String → Bool
  sum256 : Bytes → Bytes
  encodeBase64URL : Bytes → String

/-! ## Tokens -/

/-- {lit}`HashRefreshToken`: the table holds digests, never the tokens. -/
def hashRefreshToken (svc : AuthService) (token : String) : String :=
  Agent.hexEncode (svc.sum256 token.toUTF8.data.toList)

/-- A new token and its hash. -/
def generateRefreshToken (svc : AuthService) : Handling (Option (String × String)) := do
  let b ← ask .readRandom
  let b : Option Bytes := b
  return b.map fun b => (svc.encodeBase64URL b, hashRefreshToken svc (svc.encodeBase64URL b))

/-- {lit}`setAuthCookies`: the two tokens with the times at which their cookies expire. -/
def setAuthCookies (user : User) (accessToken refreshToken : String) (refreshExpires : Time) :
    Handling Unit := do
  let now ← readClock
  respond (.session user.response
    { accessToken, accessExpires := now + minutes 15, refreshToken, refreshExpires })

/-! ## Login -/

/-- {lit}`Login` from the accepted password on. -/
def startSession (svc : AuthService) (user : User) : Handling Unit := do
  let _ ← ask (.resetUserFailedAttempts user.id)
  match ← ask (.generateAccessToken user.id user.username user.role) with
  | none => reject 500 "failed to generate access token"
  | some accessToken =>
      match ← generateRefreshToken svc with
      | none => reject 500 "failed to generate refresh token"
      | some (rawRefreshToken, hashedRefresh) => do
          let now ← readClock
          let expiresAt := now + hours (7 * 24)
          let recorded ← ask (.createRefreshToken ⟨user.id, hashedRefresh, expiresAt⟩)
          let recorded : Bool := recorded
          if recorded then setAuthCookies user accessToken rawRefreshToken expiresAt
          else reject 500 "failed to record session"

/-- {lit}`Login` from the wrong password on. -/
def rejectPassword (user : User) : Handling Unit :=
  let newAttempts := int32 (user.failedAttempts + 1)
  if 5 ≤ newAttempts then do
    let now ← readClock
    let _ ← ask (.updateUserFailedAttempts ⟨user.id, newAttempts, some (now + minutes 15)⟩)
    reject 429 "account has been locked for 15 minutes due to multiple failed login attempts"
  else do
    let _ ← ask (.updateUserFailedAttempts ⟨user.id, newAttempts, none⟩)
    reject 401 ("invalid username or password. Remaining attempts: " ++
      toString (int32 (5 - newAttempts)))

/-- {lit}`Login` from the comparison of the password on. -/
def authenticate (svc : AuthService) (user : User) (password : String) : Handling Unit := do
  let matched ← ask (.checkPassword user.passwordHash password)
  let matched : Bool := matched
  if matched then startSession svc user else rejectPassword user

/-- {lit}`Login` from the row of the user on: the test of the lock. -/
def checkLock (svc : AuthService) (user : User) (password : String) : Handling Unit :=
  match user.lockedUntil with
  | none => authenticate svc user password
  | some lockedUntil => do
      let now ← readClock
      if now < lockedUntil then do
        let now ← readClock
        reject 429 ("account is locked due to consecutive failed attempts. Try again in " ++
          durationText (roundSeconds (lockedUntil - now)))
      else authenticate svc user password

/-- The hash that a password is checked against when there is no user. -/
def dummyHash : String :=
  "$2a$12$e8ZbzKk4B7Q5xV5bC2/90u3cR2vNqYqg9aV8kL6r4N0P1E3L5O1S2"

/-- A body that cannot be bound is {lean}`none`. -/
def login (svc : AuthService) : Option LoginRequest → Handling Unit
  | none => reject 400 "invalid request body"
  | some req =>
      let username := Firmware.trimSpace req.username
      let password := Firmware.trimSpace req.password
      if username = "" ∨ password = "" then reject 400 "username and password are required"
      else do
        match ← ask (.getUserByEmailOrUsername username) with
        | none => do
            let _ ← ask (.checkPassword dummyHash password)
            reject 401 "invalid username or password"
        | some user => checkLock svc user password

/-! ## Refresh and logout -/

/-- {lit}`Refresh` from the user on: the new tokens. -/
def rotateSession (svc : AuthService) (user : User) : Handling Unit := do
  match ← ask (.generateAccessToken user.id user.username user.role) with
  | none => reject 500 "failed to generate access token"
  | some newAccessToken =>
      match ← generateRefreshToken svc with
      | none => reject 500 "failed to rotate refresh token"
      | some (newRawRefresh, newHashRefresh) => do
          let now ← readClock
          let expiresAt := now + hours (7 * 24)
          let _ ← ask (.createRefreshToken ⟨user.id, newHashRefresh, expiresAt⟩)
          setAuthCookies user newAccessToken newRawRefresh expiresAt

/-- {lit}`Refresh` from the record of the token on. -/
def rotateToken (svc : AuthService) (tokenHash : String) (record : RefreshToken) :
    Handling Unit := do
  let _ ← ask (.deleteRefreshToken tokenHash)
  match ← ask (.getUserByID record.userID) with
  | none => reject 401 "user no longer exists"
  | some user => rotateSession svc user

/-- A request without the cookie has the empty token. -/
def refresh (svc : AuthService) (rawToken : String) : Handling Unit :=
  if rawToken = "" then reject 401 "refresh token missing"
  else do
    match ← ask (.getRefreshToken (hashRefreshToken svc rawToken)) with
    | none => reject 401 "session expired or invalid"
    | some record => rotateToken svc (hashRefreshToken svc rawToken) record

/-- {lit}`Logout`: the row of the token is deleted, and whether that worked is not looked at. -/
def logout (svc : AuthService) (rawToken : String) : Handling Unit :=
  if rawToken = "" then respond .terminated
  else do
    let _ ← ask (.deleteRefreshToken (hashRefreshToken svc rawToken))
    respond .terminated

/-! ## The machine -/

/-- The two tables, and the clock. -/
structure AuthStore where
  users : Table User.id
  refreshTokens : Table RefreshToken.id
  now : Time

/-- Time passes. -/
def AuthStore.pass (s : AuthStore) (elapsed : Nat) : AuthStore :=
  { s with now := s.now + elapsed }

/-- {lit}`WHERE (email = $1 OR username = $1)`. -/
def User.named (user : User) (name : String) : Bool :=
  user.email = some name || user.username = name

/-- {lit}`WHERE token_hash = $1 AND expires_at > NOW()`. -/
def RefreshToken.presented (token : RefreshToken) (tokenHash : String) (now : Time) : Bool :=
  token.tokenHash = tokenHash && now < token.expiresAt

/-- {lit}`LIMIT 1`: without an order, any of the rows. -/
def limitOne {ρ : Type} (rows : List ρ) (pick : Nat) : Option ρ :=
  rows[pick % rows.length]?

/-- A row that {lit}`LIMIT 1` picks is one of the rows. -/
theorem mem_of_limitOne {ρ : Type} {rows : List ρ} {pick : Nat} {row : ρ}
    (h : limitOne rows pick = some row) : row ∈ rows :=
  List.mem_of_getElem? h

/-- {lit}`LIMIT 1` finds nothing among no rows only. -/
theorem limitOne_eq_none {ρ : Type} {rows : List ρ} {pick : Nat}
    (h : limitOne rows pick = none) : rows = [] := by
  rw [limitOne, List.getElem?_eq_none_iff] at h
  cases rows with
  | nil => rfl
  | cons row rows =>
      have hlt : pick % (row :: rows).length < (row :: rows).length :=
        Nat.mod_lt _ (by simp)
      omega

/-- {lit}`SET failed_attempts = $2, locked_until = $3`. -/
def AuthStore.setAttempts (s : AuthStore) (p : UpdateUserFailedAttemptsParams) : AuthStore :=
  { s with
    users := s.users.modify p.id
      (fun user =>
        { user with failedAttempts := p.failedAttempts, lockedUntil := p.lockedUntil })
      fun _ => rfl }

/-- The user is a foreign key, and the UUID is unique. -/
def AuthStore.createRefreshToken (s : AuthStore) (uuid : Nat) (p : CreateRefreshTokenParams) :
    Bool × AuthStore :=
  if s.users.find? p.userID = none then (false, s)
  else
    match s.refreshTokens.insert (p.row uuid) with
    | some refreshTokens => (true, { s with refreshTokens })
    | none => (false, s)

/-- {lit}`DeleteRefreshToken`. -/
def AuthStore.deleteRefreshToken (s : AuthStore) (tokenHash : String) : AuthStore :=
  { s with refreshTokens := s.refreshTokens.filter fun token => token.tokenHash ≠ tokenHash }

/-- The environment's part of a step. -/
structure AuthChoice where
  elapsed : Nat := 0
  fault : Bool := false
  pick : Nat := 0
  uuid : Nat := 0
  accessToken : Option String := some "jwt"
  random : Option Bytes := none
deriving DecidableEq, Repr

/-- One atomic operation, after the time that has passed.  A failing statement has no effect. -/
def AuthStore.perform (svc : AuthService) (s : AuthStore) :
    (op : AuthOp) → AuthChoice → op.Ret × AuthStore
  | .getUserByEmailOrUsername name, x =>
      (if x.fault then none else limitOne (s.users.rows.filter fun u => u.named name) x.pick, s)
  | .getUserByID id, x => (if x.fault then none else s.users.find? id, s)
  | .updateUserFailedAttempts p, x => if x.fault then (false, s) else (true, s.setAttempts p)
  | .resetUserFailedAttempts id, x =>
      if x.fault then (false, s) else (true, s.setAttempts ⟨id, 0, none⟩)
  | .createRefreshToken p, x => if x.fault then (false, s) else s.createRefreshToken x.uuid p
  | .getRefreshToken tokenHash, x =>
      (if x.fault then none
        else limitOne (s.refreshTokens.rows.filter fun t => t.presented tokenHash s.now) x.pick,
        s)
  | .deleteRefreshToken tokenHash, x =>
      if x.fault then (false, s) else (true, s.deleteRefreshToken tokenHash)
  | .checkPassword hashedPassword password, _ => (svc.checkPassword hashedPassword password, s)
  | .generateAccessToken _ _ _, x => (x.accessToken, s)
  | .readRandom, x => (x.random, s)
  | .now, _ => (s.now, s)
  | .respond _, _ => ((), s)

/-- An operation is executed after some time has passed. -/
def AuthStore.exec (svc : AuthService) (s : AuthStore) (op : AuthOp) (x : AuthChoice) :
    op.Ret × AuthStore :=
  (s.pass x.elapsed).perform svc op x

/-- A request as it reaches its handler; the cookie of a refresh or a logout may be absent. -/
inductive Request where
  | login (body : Option LoginRequest)
  | refresh (rawToken : String)
  | logout (rawToken : String)
deriving DecidableEq, Repr

/-- The program of a request. -/
def handle (svc : AuthService) : Request → Handling Unit
  | .login body => login svc body
  | .refresh rawToken => refresh svc rawToken
  | .logout rawToken => logout svc rawToken

/-- The service: every request is admitted. -/
def authMachine (svc : AuthService) : Machine AuthOp.Ret AuthStore Request AuthChoice where
  body := handle svc
  accept s _ := some s
  exec := AuthStore.exec svc

/-- A state of the service: the tables and the requests under way. -/
abbrev Config := Machine.Config AuthOp.Ret AuthStore Request

/-- A request arrives, or executes its next operation. -/
abbrev Label := Machine.Label Request AuthChoice

/-- An operation that was executed, with its answer. -/
abbrev Record := Machine.Event AuthOp.Ret

/-- The interleaved steps of the requests. -/
def step (svc : AuthService) : Config → Label → Option Config :=
  (authMachine svc).step

/-- No request is running. -/
def start (s : AuthStore) : Config :=
  Machine.initial s

end OtaRobot.Auth
