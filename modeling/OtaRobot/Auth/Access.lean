import OtaRobot.Auth.Handlers
import OtaRobot.Config

/-!
# Access tokens and guards

The access tokens of {lit}`internal/auth/jwt.go`, and the guards of {lit}`internal/middleware` for
users.  The library that signs and parses tokens is a parameter.

Main results:

- Theorem {lit}`guarded_iff`: who passes both guards.

Current gaps:

- Which guards stand before which handler is a matter of the router, and is left out.
-/

namespace OtaRobot.Auth

/-! ## Access tokens -/

/-- {lit}`Claims`; the dates are in seconds. -/
structure Claims where
  userID : UserID
  username : String
  role : String
  expiresAt : Option Nat := none
  notBefore : Option Nat := none
  issuedAt : Option Nat := none
  issuer : String := ""
deriving DecidableEq, Repr

/-- A token whose signature verifies with the secret. -/
structure SignedToken where
  hmac : Bool
  claims : Claims
deriving DecidableEq, Repr

/-- {lit}`jwt.ParseWithClaims` with the secret of the service, up to the dates. -/
abbrev Jwt := String → Option SignedToken

/-- {lit}`jwt.NewNumericDate`: whole seconds. -/
def numericDate (t : Time) : Nat :=
  t / 1000000000

/-- The claims {lit}`GenerateAccessToken` signs with HS256. -/
def accessClaims (now : Time) (userID : UserID) (username role : String) : Claims where
  userID := userID
  username := username
  role := role
  expiresAt := some (numericDate (now + minutes 15))
  issuedAt := some (numericDate now)
  issuer := "ota-robot-control-plane"

/-- The validator of the library: dates that are there. -/
def Claims.valid (claims : Claims) (now : Time) : Bool :=
  claims.expiresAt.all (fun t => now < seconds t) &&
    claims.notBefore.all fun t => seconds t ≤ now

/-- {lit}`ValidateAccessToken`: a token signed with HMAC whose dates fit. -/
def validateAccessToken (jwt : Jwt) (now : Time) (token : String) : Option Claims :=
  match jwt token with
  | none => none
  | some signed => if signed.hmac && signed.claims.valid now then some signed.claims else none

/-! ## Guards -/

/-- The user a request acts as. -/
structure Identity where
  userID : UserID
  username : String
  role : String
deriving DecidableEq, Repr

/-- What the guards store of the claims. -/
def Claims.identity (claims : Claims) : Identity where
  userID := claims.userID
  username := claims.username
  role := claims.role

/-- The header and the cookie the guards read, empty if they are absent, and what they store. -/
structure Ctx where
  authorization : String := ""
  accessCookie : String := ""
  locals : Option Identity := none
deriving DecidableEq, Repr

/-- A guard that stops a request answers it. -/
structure Answer where
  status : Nat
  error : String
deriving DecidableEq, Repr

/-- What the guards find when a request comes in. -/
structure Env where
  jwt : Jwt
  now : Time

/-- {lit}`strings.SplitN(s, " ", 2)`. -/
def splitN (s : String) : List String :=
  match s.toList.dropWhile (· ≠ ' ') with
  | [] => [s]
  | _ :: rest => [String.ofList (s.toList.takeWhile (· ≠ ' ')), String.ofList rest]

/-- The token of the header, else of the cookie; {lean}`none` is a header of another form. -/
def presentedToken (c : Ctx) : Option String :=
  if c.authorization ≠ "" then
    match splitN c.authorization with
    | [scheme, token] => if equalFold scheme "Bearer" then some token else none
    | _ => none
  else some c.accessCookie

/-- {lit}`Authenticate`. -/
def authenticateRequest (env : Env) (c : Ctx) : Except Answer Ctx :=
  match presentedToken c with
  | none => .error ⟨401, "invalid Authorization header format"⟩
  | some token =>
      if token = "" then .error ⟨401, "authentication required"⟩
      else
        match validateAccessToken env.jwt env.now token with
        | none => .error ⟨401, "invalid or expired token"⟩
        | some claims => .ok { c with locals := some claims.identity }

/-- {lit}`RequireRole`. -/
def requireRole (allowed : List String) (c : Ctx) : Except Answer Ctx :=
  match c.locals with
  | none => .error ⟨403, "user role not determined"⟩
  | some user =>
      if user.role = "" then .error ⟨403, "user role not determined"⟩
      else if allowed.any (equalFold user.role) then .ok c
      else .error ⟨403, "insufficient permissions for this action"⟩

/-- {lit}`Authenticate`, and then {lit}`RequireRole` on what it has stored. -/
def guarded (env : Env) (allowed : List String) (c : Ctx) : Except Answer Ctx :=
  match authenticateRequest env c with
  | .error answer => .error answer
  | .ok c => requireRole allowed c

/-! ## Who passes the guards -/

/-- The request carries a token that is valid now, of this user. -/
def Presents (env : Env) (c : Ctx) (claims : Claims) : Prop :=
  ∃ token, presentedToken c = some token ∧ token ≠ "" ∧
    validateAccessToken env.jwt env.now token = some claims

/-- The role is one of the allowed ones, up to case. -/
def HasRole (roles : List String) (role : String) : Prop :=
  role ≠ "" ∧ ∃ r ∈ roles, equalFold role r = true

/-- When a request is let through by its token. -/
theorem authenticateRequest_ok {env : Env} {c c' : Ctx} :
    authenticateRequest env c = .ok c' ↔
      ∃ claims, Presents env c claims ∧ c' = { c with locals := some claims.identity } := by
  unfold authenticateRequest
  cases htoken : presentedToken c with
  | none => simp [Presents, htoken]
  | some token =>
      by_cases hempty : token = ""
      · simp [Presents, htoken, hempty]
      · cases hvalid : validateAccessToken env.jwt env.now token with
        | none => simp [Presents, htoken, hempty, hvalid]
        | some claims => simp [Presents, htoken, hempty, hvalid, eq_comm]

/-- When a request is let through by its role. -/
theorem requireRole_ok {allowed : List String} {c c' : Ctx} :
    requireRole allowed c = .ok c' ↔
      c' = c ∧ ∃ user, c.locals = some user ∧ HasRole allowed user.role := by
  unfold requireRole
  cases hlocals : c.locals with
  | none => simp
  | some user =>
      by_cases hrole : user.role = ""
      · simp [HasRole, hrole]
      · by_cases hany : allowed.any (equalFold user.role) = true
        · have hexists : ∃ r ∈ allowed, equalFold user.role r = true := by simpa using hany
          simp only [hrole, hany, if_true, if_false, Except.ok.injEq]
          constructor
          · intro heq
            exact ⟨heq.symm, user, rfl, hrole, hexists⟩
          · intro hallowed
            exact hallowed.1.symm
        · have hnone : ¬ ∃ r ∈ allowed, equalFold user.role r = true := by simpa using hany
          simp [HasRole, hrole, hany, hnone]

/-- A request passes both guards exactly if it carries a token that is valid now and says one of
the allowed roles; and the user of this token is the one the handler sees. -/
theorem guarded_iff {env : Env} {allowed : List String} {c c' : Ctx} :
    guarded env allowed c = .ok c' ↔
      ∃ claims, Presents env c claims ∧ HasRole allowed claims.role ∧
        c' = { c with locals := some claims.identity } := by
  unfold guarded
  constructor
  · intro h
    split at h
    · cases h
    · rename_i d hpassed
      obtain ⟨claims, hpresents, rfl⟩ := authenticateRequest_ok.mp hpassed
      obtain ⟨rfl, user, hlocals, hrole⟩ := requireRole_ok.mp h
      obtain rfl : claims.identity = user := Option.some.inj hlocals
      exact ⟨claims, hpresents, hrole, rfl⟩
  · rintro ⟨claims, hpresents, hrole, rfl⟩
    have hpassed := authenticateRequest_ok.mpr ⟨claims, hpresents, rfl⟩
    rw [hpassed]
    exact requireRole_ok.mpr ⟨rfl, claims.identity, rfl, hrole⟩

end OtaRobot.Auth
