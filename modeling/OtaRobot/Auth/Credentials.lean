import OtaRobot.Auth.Access
import OtaRobot.Auth.SingleUse

/-!
# Where tokens come from

A login looks up a user, checks the password against the row it has read and only then issues
tokens for this row.  A refresh issues them for the user of the stored token it was presented.
The rows of users change in their counters and locks only, so every token goes back, through any
number of refreshes, to a login with the password of the user it is for.

Main results:

- Theorem {lit}`session_of_login`: who is given cookies, and what they hold.
- Theorem {lit}`actor_logged_in`: who passes the guards of a handler, if tokens cannot
  be forged.
-/

namespace OtaRobot.Auth

open Prog Transition

/-! ## What a request has shown -/

/-- The user or the stored token a request has shown to be its own. -/
inductive Standing where
  | anonymous
  /-- The row of the name, before the password. -/
  | named (user : User)
  /-- The row of the presented refresh token. -/
  | held (record : RefreshToken)
  | proved (user : User)
  | issued (user : User) (accessToken : String)
deriving DecidableEq

/-- The user for whom the call may act. -/
def Standing.user : Standing → Option User
  | .proved user | .issued user _ => some user
  | _ => none

/-- What a call has shown after an operation. -/
def Standing.next : Standing → (op : AuthOp) → op.Ret → Standing
  | .anonymous, .getUserByEmailOrUsername _, some user => .named user
  | .named user, .checkPassword _ _, r => bif r then .proved user else .named user
  | .anonymous, .getRefreshToken _, some record => .held record
  | .held _, .getUserByID _, some user => .proved user
  | .proved user, .generateAccessToken _ _ _, some accessToken => .issued user accessToken
  | standing, _, _ => standing

/-- How an operation and its answer move a request on. -/
inductive Standing.Advance : Standing → (op : AuthOp) → op.Ret → Standing → Prop where
  | kept (standing : Standing) (op : AuthOp) (r : op.Ret) : Advance standing op r standing
  | named (name : String) (user : User) :
      Advance .anonymous (.getUserByEmailOrUsername name) (some user) (.named user)
  | proved (user : User) (hashedPassword password : String) :
      Advance (.named user) (.checkPassword hashedPassword password) true (.proved user)
  | held (tokenHash : String) (record : RefreshToken) :
      Advance .anonymous (.getRefreshToken tokenHash) (some record) (.held record)
  | found (record : RefreshToken) (id : UserID) (user : User) :
      Advance (.held record) (.getUserByID id) (some user) (.proved user)
  | issued (user : User) (id : UserID) (username role accessToken : String) :
      Advance (.proved user) (.generateAccessToken id username role) (some accessToken)
        (.issued user accessToken)

/-- An operation advances the standing. -/
theorem Standing.advance_next (standing : Standing) (op : AuthOp) (r : op.Ret) :
    standing.Advance op r (standing.next op r) := by
  cases op with
  | getUserByEmailOrUsername name =>
      cases standing with
      | anonymous =>
          cases (r : Option User) with
          | none => exact .kept _ _ _
          | some user => exact .named name user
      | _ => exact .kept _ _ _
  | checkPassword hashedPassword password =>
      cases standing with
      | named user =>
          cases (r : Bool) with
          | false => exact .kept _ _ _
          | true => exact .proved user hashedPassword password
      | _ => exact .kept _ _ _
  | getRefreshToken tokenHash =>
      cases standing with
      | anonymous =>
          cases (r : Option RefreshToken) with
          | none => exact .kept _ _ _
          | some record => exact .held tokenHash record
      | _ => exact .kept _ _ _
  | getUserByID id =>
      cases standing with
      | held record =>
          cases (r : Option User) with
          | none => exact .kept _ _ _
          | some user => exact .found record id user
      | _ => exact .kept _ _ _
  | generateAccessToken id username role =>
      cases standing with
      | proved user =>
          cases (r : Option String) with
          | none => exact .kept _ _ _
          | some accessToken => exact .issued user id username role accessToken
      | _ => exact .kept _ _ _
  | _ => cases standing <;> exact .kept _ _ _

/-- What a call may do, by what it has shown. -/
def Standing.Allowed (request : Request) (standing : Standing) : AuthOp → Prop
  | .getUserByEmailOrUsername name => request.isLogin = true ∧ name = request.username
  | .checkPassword hashedPassword password =>
      ∀ user, standing = .named user → hashedPassword = user.passwordHash ∧
        password = request.password
  | .getUserByID id => ∃ record, standing = .held record ∧ id = record.userID
  | .generateAccessToken id username role =>
      ∃ user, standing = .proved user ∧ id = user.id ∧ username = user.username ∧ role = user.role
  | .createRefreshToken p => ∃ user, standing.user = some user ∧ p.userID = user.id
  | .respond (.session response cookies) =>
      ∃ user, standing = .issued user cookies.accessToken ∧ response = user.response
  | _ => True

/-- A call acts for nobody before the password was compared or the token found. -/
def standingDiscipline (request : Request) : Discipline AuthOp.Ret Standing where
  allowed := Standing.Allowed request
  rely _ _ _ := True
  next := Standing.next

section

variable (svc : AuthService) (request : Request)

/-- An error may always be sent. -/
theorem reject_standing (standing : Standing) (status : Nat) (text : String) :
    Obeys (standingDiscipline request) (fun _ _ => True) standing (reject status text) :=
  ⟨trivial, fun _ _ => trivial⟩

/-- From the access token on a login and a refresh do the same, but for what a failing insert
does. -/
theorem setAuthCookies_standing (user : User) (accessToken refreshToken : String)
    (refreshExpires : Time) :
    Obeys (standingDiscipline request) (fun _ _ => True) (.issued user accessToken)
      (setAuthCookies user accessToken refreshToken refreshExpires) :=
  ⟨trivial, fun _ _ => ⟨⟨user, rfl, rfl⟩, fun _ _ => trivial⟩⟩

/-- A session is started for the user that was proved. -/
theorem startSession_standing (user : User) :
    Obeys (standingDiscipline request) (fun _ _ => True) (.proved user)
      (startSession svc user) := by
  refine ⟨trivial, fun _ _ => ⟨⟨user, rfl, rfl, rfl, rfl⟩, fun (accessToken : Option String) _ => ?_⟩⟩
  cases accessToken with
  | none => exact reject_standing request _ _ _
  | some accessToken =>
      refine ⟨trivial, fun (random : Option Agent.Bytes) _ => ?_⟩
      cases random with
      | none => exact reject_standing request _ _ _
      | some b =>
          refine ⟨trivial, fun _ _ => ⟨⟨user, rfl, rfl⟩, fun (recorded : Bool) _ => ?_⟩⟩
          cases recorded with
          | false => exact reject_standing request _ _ _
          | true => exact setAuthCookies_standing request user accessToken _ _

/-- A session is renewed for the user that was proved. -/
theorem rotateSession_standing (user : User) :
    Obeys (standingDiscipline request) (fun _ _ => True) (.proved user)
      (rotateSession svc user) := by
  refine ⟨⟨user, rfl, rfl, rfl, rfl⟩, fun (accessToken : Option String) _ => ?_⟩
  cases accessToken with
  | none => exact reject_standing request _ _ _
  | some accessToken =>
      refine ⟨trivial, fun (random : Option Agent.Bytes) _ => ?_⟩
      cases random with
      | none => exact reject_standing request _ _ _
      | some b =>
          refine ⟨trivial, fun _ _ => ⟨⟨user, rfl, rfl⟩, fun _ _ => ?_⟩⟩
          exact setAuthCookies_standing request user accessToken _ _

/-- A wrong password opens nothing. -/
theorem rejectPassword_standing (user read : User) :
    Obeys (standingDiscipline request) (fun _ _ => True) (.named user) (rejectPassword read) := by
  unfold rejectPassword
  dsimp only
  split
  · exact ⟨trivial, fun _ _ => ⟨trivial, fun _ _ => reject_standing request _ _ _⟩⟩
  · exact ⟨trivial, fun _ _ => reject_standing request _ _ _⟩

/-- A session is started after the comparison of the password. -/
theorem authenticate_standing (user : User) {password : String}
    (hpassword : password = request.password) :
    Obeys (standingDiscipline request) (fun _ _ => True) (.named user)
      (authenticate svc user password) := by
  constructor
  · intro user' huser
    obtain rfl := Standing.named.inj huser
    exact ⟨rfl, hpassword⟩
  · intro (matched : Bool) _
    cases matched with
    | true => exact startSession_standing svc request user
    | false => exact rejectPassword_standing request user user

/-- A login keeps to the order. -/
theorem login_standing (body : Option LoginRequest) :
    Obeys (standingDiscipline (.login body)) (fun _ _ => True) .anonymous (login svc body) := by
  cases body with
  | none => exact reject_standing _ _ _ _
  | some req =>
      simp only [login]
      split
      · exact reject_standing _ _ _ _
      · refine ⟨⟨rfl, rfl⟩, fun (user : Option User) _ => ?_⟩
        cases user with
        | none =>
            refine ⟨?_, fun _ _ => reject_standing _ _ _ _⟩
            rintro user ⟨⟩
        | some user =>
            show Obeys _ _ (Standing.named user) (checkLock svc user _)
            unfold checkLock
            split
            · exact authenticate_standing svc _ user rfl
            · rename_i lockedUntil _
              refine ⟨trivial, fun (now : Time) _ => ?_⟩
              show Obeys _ _ (Standing.named user) (if now < lockedUntil then _ else _)
              split
              · exact ⟨trivial, fun _ _ => reject_standing _ _ _ _⟩
              · exact authenticate_standing svc _ user rfl

/-- A refresh keeps to the order. -/
theorem refresh_standing (rawToken : String) :
    Obeys (standingDiscipline (.refresh rawToken)) (fun _ _ => True) .anonymous
      (refresh svc rawToken) := by
  unfold refresh
  split
  · exact reject_standing _ _ _ _
  · refine ⟨trivial, fun (record : Option RefreshToken) _ => ?_⟩
    cases record with
    | none => exact reject_standing _ _ _ _
    | some record =>
        refine ⟨trivial, fun _ _ => ⟨⟨record, rfl, rfl⟩, fun (user : Option User) _ => ?_⟩⟩
        cases user with
        | none => exact reject_standing _ _ _ _
        | some user => exact rotateSession_standing svc _ user

theorem logout_standing (rawToken : String) :
    Obeys (standingDiscipline (.logout rawToken)) (fun _ _ => True) .anonymous
      (logout svc rawToken) := by
  unfold logout
  split
  · exact ⟨trivial, fun _ _ => trivial⟩
  · exact ⟨trivial, fun _ _ => ⟨trivial, fun _ _ => trivial⟩⟩

/-- Tokens are issued for users that the request has shown to be its own. -/
theorem handle_standing :
    Obeys (standingDiscipline request) (fun _ _ => True) .anonymous (handle svc request) := by
  cases request with
  | login body => exact login_standing svc body
  | refresh rawToken => exact refresh_standing svc rawToken
  | logout rawToken => exact logout_standing svc rawToken

end

/-! ## What has been shown is true -/

/-- What the service never changes of a user. -/
def User.profile (user : User) : User :=
  { user with failedAttempts := 0, lockedUntil := none }

/-- A login has named the user and given the password of the user. -/
def LoggedIn (c : Config) (user : User) : Prop :=
  ∃ i request p, c.thread i = some (request, p) ∧ request.isLogin = true ∧
    user.named request.username = true ∧
      (⟨i, .checkPassword user.passwordHash request.password, true⟩ : Record) ∈ c.trace

/-- The user is one of these, but for counter and lock, and has logged in. -/
def Known (users : List User) (c : Config) (user : User) : Prop :=
  ∃ u ∈ users, user.profile = u.profile ∧ LoggedIn c u

/-- The service has issued the token for the user, at time {lit}`t`. -/
structure IssuedAt (jwt : Jwt) (c : Config) (user : User) (accessToken : String) (t : Time) :
    Prop where
  past : t ≤ c.store.now
  signed : jwt accessToken = some ⟨true, accessClaims t user.id user.username user.role⟩
  recorded : ∃ i, (⟨i, .generateAccessToken user.id user.username user.role,
    some accessToken⟩ : Record) ∈ c.trace

/-- The access token an event has issued. -/
def accessTokenOf : Record → Option String
  | ⟨_, .generateAccessToken _ _ _, r⟩ => r
  | _ => none

/-- The session a request was answered. -/
def sessionOf : Record → Option (UserResponse × AuthCookies)
  | ⟨_, .respond (.session response cookies), _⟩ => some (response, cookies)
  | _ => none

/-- A token that is issued is a signed one of these claims. -/
def Signs (jwt : Jwt) (c : Config) : Label → Prop
  | .spawn _ _ => True
  | .step i x => ∀ request id username role k accessToken,
      c.thread i = some (request, .call (.generateAccessToken id username role) k) →
        x.accessToken = some accessToken →
          jwt accessToken =
            some ⟨true, accessClaims (c.store.now + x.elapsed) id username role⟩

/-- What a call has shown so far. -/
def standingOf (i : Nat) (c : Config) : Standing :=
  (Machine.eventsOf i c.trace).foldl (fun standing e => standing.next e.op e.ret) .anonymous

/-- What a call has shown is true in the state of the service. -/
def Standing.Sound (jwt : Jwt) (users : List User) (c : Config) (request : Request) :
    Standing → Prop
  | .anonymous => True
  | .named user => (∃ u ∈ users, user.profile = u.profile) ∧ request.isLogin = true ∧
      user.named request.username = true
  | .held record => ∃ user, Known users c user ∧ user.id = record.userID
  | .proved user => Known users c user
  | .issued user accessToken => Known users c user ∧ ∃ t, IssuedAt jwt c user accessToken t

/-- What holds in every state; {lit}`users` is the table at the start. -/
structure Vouched (svc : AuthService) (jwt : Jwt) (users : List User) (c : Config) : Prop where
  disciplined : Machine.Disciplined standingDiscipline (fun _ _ => True)
    (fun _ => .anonymous) c
  profiles : c.store.users.rows.map User.profile = users.map User.profile
  sound : ∀ i request p, c.thread i = some (request, p) →
    (standingOf i c).Sound jwt users c request
  sessions : ∀ token ∈ c.store.refreshTokens.rows,
    ∃ user, Known users c user ∧ user.id = token.userID
  issues : ∀ e ∈ c.trace, ∀ accessToken, accessTokenOf e = some accessToken →
    ∃ user t, Known users c user ∧ IssuedAt jwt c user accessToken t
  answers : ∀ e ∈ c.trace, ∀ response cookies, sessionOf e = some (response, cookies) →
    ∃ user t, Known users c user ∧ response = user.response ∧
      IssuedAt jwt c user cookies.accessToken t

section

variable {svc : AuthService} {jwt : Jwt} {users : List User} {c c' : Config}

/-! ### Steps keep what is known -/

/-- The clock does not go back. -/
theorem step_now {l : Label} (h : step svc c l = some c') : c.store.now ≤ c'.store.now := by
  obtain ⟨i, request, -, hs⟩ | ⟨i, x, request, op, k, r, -, hs⟩ := Machine.step_cases h
  · have hstore : c.store = c'.store := Option.some.inj hs.accepted
    rw [hstore]
  · rw [(exec_answer hs).2, exec_now]
    exact Nat.le_add_right _ _

/-- Who has logged in has done so ever after. -/
theorem LoggedIn.step {l : Label} (h : step svc c l = some c') {user : User}
    (huser : LoggedIn c user) : LoggedIn c' user := by
  obtain ⟨i, request, p, hthread, hlogin, hname, hcheck⟩ := huser
  obtain ⟨p', hthread'⟩ := Machine.step_tag h hthread
  exact ⟨i, request, p', hthread', hlogin, hname, (Machine.step_trace h).subset hcheck⟩

/-- A known user stays known. -/
theorem Known.step {l : Label} (h : step svc c l = some c') {user : User}
    (huser : Known users c user) : Known users c' user := by
  obtain ⟨u, hu, hprofile, hlogged⟩ := huser
  exact ⟨u, hu, hprofile, hlogged.step h⟩

/-- A token that was issued was issued ever after. -/
theorem IssuedAt.step {l : Label} (h : step svc c l = some c') {user : User}
    {accessToken : String} {t : Time} (hissued : IssuedAt jwt c user accessToken t) :
    IssuedAt jwt c' user accessToken t where
  past := hissued.past.trans (step_now h)
  signed := hissued.signed
  recorded := by
    obtain ⟨i, hi⟩ := hissued.recorded
    exact ⟨i, (Machine.step_trace h).subset hi⟩

/-- What was shown stays true. -/
theorem Standing.Sound.step {l : Label} (h : Auth.step svc c l = some c') {request : Request}
    {standing : Standing} (hsound : standing.Sound jwt users c request) :
    standing.Sound jwt users c' request := by
  cases standing with
  | anonymous => trivial
  | named user => exact hsound
  | held record =>
      obtain ⟨user, huser, hid⟩ := hsound
      exact ⟨user, huser.step h, hid⟩
  | proved user => exact Known.step h hsound
  | issued user accessToken =>
      obtain ⟨huser, t, hissued⟩ := hsound
      exact ⟨huser.step h, t, hissued.step h⟩

/-! ### The tables -/

/-- Counting attempts changes no profile. -/
theorem setAttempts_profiles (s : AuthStore) (p : UpdateUserFailedAttemptsParams) :
    (s.setAttempts p).users.rows.map User.profile = s.users.rows.map User.profile := by
  simp only [AuthStore.setAttempts, Table.modify, List.map_map]
  apply List.map_congr_left
  intro user _
  by_cases hid : user.id = p.id <;> simp [hid, User.profile]

/-- No operation changes a profile. -/
theorem exec_profiles (s : AuthStore) (op : AuthOp) (x : AuthChoice) :
    (AuthStore.exec svc s op x).2.users.rows.map User.profile =
      s.users.rows.map User.profile := by
  cases op with
  | updateUserFailedAttempts p =>
      simp only [AuthStore.exec, AuthStore.perform]
      cases x.fault with
      | true => rfl
      | false => exact setAttempts_profiles _ _
  | resetUserFailedAttempts id =>
      simp only [AuthStore.exec, AuthStore.perform]
      cases x.fault with
      | true => rfl
      | false => exact setAttempts_profiles _ _
  | _ =>
      rw [exec_users _ _ _ rfl]
      simp

/-- An insert appends its row, or has no effect. -/
theorem exec_createRefreshToken_rows (s : AuthStore) (p : CreateRefreshTokenParams)
    (x : AuthChoice) :
    (AuthStore.exec svc s (.createRefreshToken p) x).2.refreshTokens.rows =
        s.refreshTokens.rows ∨
      (AuthStore.exec svc s (.createRefreshToken p) x).2.refreshTokens.rows =
        s.refreshTokens.rows ++ [p.row x.uuid] := by
  simp only [AuthStore.exec, AuthStore.perform]
  cases x.fault with
  | true => exact Or.inl rfl
  | false =>
      rcases (s.pass x.elapsed).createRefreshToken_cases x.uuid p with ⟨-, hrows⟩ | ⟨-, hrows⟩
      · exact Or.inl hrows
      · exact Or.inr hrows

/-- A row that is read is one of the users. -/
theorem Vouched.mem (hc : Vouched svc jwt users c) {user : User}
    (huser : user ∈ c.store.users.rows) : ∃ u ∈ users, user.profile = u.profile := by
  have hmem : user.profile ∈ c.store.users.rows.map User.profile := List.mem_map_of_mem huser
  rw [hc.profiles, List.mem_map] at hmem
  obtain ⟨u, hu, hprofile⟩ := hmem
  exact ⟨u, hu, hprofile.symm⟩

/-- A row that is read under the id of somebody who is known is the row of this user. -/
theorem Vouched.known_of_id (hc : Vouched svc jwt users c) {user v : User}
    (huser : user ∈ c.store.users.rows) (hv : Known users c v) (hid : v.id = user.id) :
    Known users c user := by
  obtain ⟨u, hu, hprofile, hlogged⟩ := hv
  have hmem : u.profile ∈ c.store.users.rows.map User.profile := by
    rw [hc.profiles]
    exact List.mem_map_of_mem hu
  obtain ⟨row, hrow, heq⟩ := List.mem_map.mp hmem
  have hrowid : row.id = user.id := by
    have hrow' : row.profile.id = v.profile.id := by rw [heq, hprofile]
    exact hrow'.trans hid
  obtain rfl := c.store.users.eq_of_key_eq hrow huser hrowid
  exact ⟨u, hu, heq, hlogged⟩

/-! ### One operation -/

variable {i : Nat} {x : AuthChoice} {request : Request} {op : AuthOp}
  {k : op.Ret → Handling Unit} {r : op.Ret}

/-- An operation changes the standing of its own call. -/
theorem standingOf_executed (hs : (authMachine svc).Executed c c' i x request op k r) (j : Nat) :
    standingOf j c' =
      if i = j then (standingOf j c).next op r else standingOf j c := by
  rw [standingOf, hs.trace]
  exact Machine.ghost_append (standingDiscipline request) .anonymous j c.trace ⟨i, op, r⟩

/-- What a call executes is what its standing allows. -/
theorem Vouched.allowed (hc : Vouched svc jwt users c)
    (hs : (authMachine svc).Executed c c' i x request op k r) :
    (standingOf i c).Allowed request op :=
  hc.disciplined.allowed hs

/-- What an operation answers is enough for the new standing. -/
theorem Vouched.sound_next (hc : Vouched svc jwt users c)
    (h : step svc c (.step i x) = some c') (hsigns : Signs jwt c (.step i x))
    (hs : (authMachine svc).Executed c c' i x request op k r) :
    ((standingOf i c).next op r).Sound jwt users c' request := by
  have hsound := hc.sound i request _ hs.before
  have hallowed := hc.allowed hs
  have hadvance := (standingOf i c).advance_next op r
  obtain ⟨hr, hstore⟩ := exec_answer hs
  generalize standingOf i c = standing at hsound hallowed hadvance ⊢
  generalize standing.next op r = standing' at hadvance ⊢
  cases hadvance with
  | kept => exact hsound.step h
  | named name user =>
      obtain ⟨hlogin, hname⟩ := hallowed
      have hread : (if x.fault = true then none else limitOne
          (c.store.users.rows.filter fun u => u.named name) x.pick) = some user := hr.symm
      split at hread
      · cases hread
      · have hmem := mem_of_limitOne hread
        rw [List.mem_filter] at hmem
        exact ⟨hc.mem hmem.1, hlogin, hname ▸ hmem.2⟩
  | proved user hashedPassword password =>
      obtain ⟨⟨u, hu, hprofile⟩, hlogin, hname⟩ := hsound
      obtain ⟨rfl, rfl⟩ := hallowed user rfl
      have hlogged : LoggedIn c' user := by
        refine ⟨i, request, k true, ?_, hlogin, hname, ?_⟩
        · rw [hs.threads, if_pos rfl]
        · rw [hs.trace]
          exact List.mem_append_right _ List.mem_cons_self
      have hlogged' : LoggedIn c' u.profile := hprofile ▸ hlogged
      exact ⟨u, hu, hprofile, hlogged'⟩
  | held tokenHash record =>
      have hread : (if x.fault = true then none else limitOne
          (c.store.refreshTokens.rows.filter fun t =>
            t.presented tokenHash (c.store.now + x.elapsed)) x.pick) = some record := hr.symm
      split at hread
      · cases hread
      · have hmem := mem_of_limitOne hread
        rw [List.mem_filter] at hmem
        obtain ⟨user, huser, hid⟩ := hc.sessions record hmem.1
        exact ⟨user, huser.step h, hid⟩
  | found record id user =>
      obtain ⟨v, hv, hid⟩ := hsound
      obtain ⟨record', hrecord, hid'⟩ := hallowed
      obtain rfl := Standing.held.inj hrecord
      have hread : (if x.fault = true then none else c.store.users.find? id) = some user :=
        hr.symm
      split at hread
      · cases hread
      · have hkey := Table.find?_key hread
        exact (hc.known_of_id (Table.mem_of_find? hread) hv
          (hid.trans (hid'.symm.trans hkey.symm))).step h
  | issued user id username role accessToken =>
      obtain ⟨user', huser, rfl, rfl, rfl⟩ := hallowed
      obtain rfl := Standing.proved.inj huser
      refine ⟨Known.step h hsound, c'.store.now, Nat.le_refl _, ?_, i, ?_⟩
      · have hnow : c'.store.now = c.store.now + x.elapsed := by rw [hstore, exec_now]
        rw [hnow]
        exact hsigns _ _ _ _ _ _ hs.before hr.symm
      · rw [hs.trace]
        exact List.mem_append_right _ List.mem_cons_self

/-- A stored token is an old one, or for the user of the request. -/
theorem Vouched.sessions_next (hc : Vouched svc jwt users c)
    (h : step svc c (.step i x) = some c')
    (hs : (authMachine svc).Executed c c' i x request op k r) :
    ∀ token ∈ c'.store.refreshTokens.rows, ∃ user, Known users c' user ∧ user.id = token.userID := by
  have hold : ∀ token ∈ c.store.refreshTokens.rows,
      ∃ user, Known users c' user ∧ user.id = token.userID := by
    intro token htoken
    obtain ⟨user, huser, hid⟩ := hc.sessions token htoken
    exact ⟨user, huser.step h, hid⟩
  intro token htoken
  obtain ⟨hr, hstore⟩ := exec_answer hs
  cases op with
  | createRefreshToken p =>
      obtain ⟨user, huser, hid⟩ := hc.allowed hs
      have hknown : Known users c user := by
        have hsound := hc.sound i request _ hs.before
        cases hstanding : standingOf i c with
        | proved user' =>
            rw [hstanding] at huser hsound
            obtain rfl := Option.some.inj huser
            exact hsound
        | issued user' accessToken =>
            rw [hstanding] at huser hsound
            obtain rfl := Option.some.inj huser
            exact hsound.1
        | _ =>
            rw [hstanding] at huser
            cases huser
      rw [hstore] at htoken
      rcases exec_createRefreshToken_rows c.store p x with hrows | hrows
      · rw [hrows] at htoken
        exact hold token htoken
      · rw [hrows, List.mem_append, List.mem_singleton] at htoken
        rcases htoken with htoken | rfl
        · exact hold token htoken
        · exact ⟨user, hknown.step h, hid.symm⟩
  | deleteRefreshToken tokenHash =>
      rw [hstore] at htoken
      simp only [AuthStore.exec, AuthStore.perform] at htoken
      cases hfault : x.fault with
      | true =>
          simp only [hfault, if_true] at htoken
          exact hold token htoken
      | false =>
          simp only [hfault, Bool.false_eq_true, if_false] at htoken
          exact hold token (List.mem_of_mem_filter htoken)
  | _ =>
      have hrows : c'.store.refreshTokens.rows = c.store.refreshTokens.rows :=
        tokens_of_other hs rfl (by simp)
      rw [hrows] at htoken
      exact hold token htoken

/-! ### Whole runs -/

/-- What a step keeps. -/
theorem vouched_step {l : Label} (hc : Vouched svc jwt users c) (hsigns : Signs jwt c l)
    (h : step svc c l = some c') : Vouched svc jwt users c' := by
  have hissues : ∀ e ∈ c.trace, ∀ accessToken, accessTokenOf e = some accessToken →
      ∃ user t, Known users c' user ∧ IssuedAt jwt c' user accessToken t := by
    intro e he accessToken htoken
    obtain ⟨user, t, huser, hissued⟩ := hc.issues e he accessToken htoken
    exact ⟨user, t, huser.step h, hissued.step h⟩
  have hanswers : ∀ e ∈ c.trace, ∀ response cookies, sessionOf e = some (response, cookies) →
      ∃ user t, Known users c' user ∧ response = user.response ∧
        IssuedAt jwt c' user cookies.accessToken t := by
    intro e he response cookies hsession
    obtain ⟨user, t, huser, hresponse, hissued⟩ := hc.answers e he response cookies hsession
    exact ⟨user, t, huser.step h, hresponse, hissued.step h⟩
  have hdisciplined : Machine.Disciplined standingDiscipline (fun _ _ => True)
      (fun _ => .anonymous) c' :=
    Machine.step_disciplined h hc.disciplined (handle_standing svc) (by simp [standingDiscipline])
  obtain ⟨i, request, rfl, hs⟩ | ⟨i, x, request, op, k, r, rfl, hs⟩ := Machine.step_cases h
  · have hstore : c'.store = c.store := (Option.some.inj hs.accepted).symm
    refine ⟨hdisciplined, hstore ▸ hc.profiles, ?_, ?_, hs.trace ▸ hissues, hs.trace ▸ hanswers⟩
    · intro j request' p hj
      rw [hs.threads] at hj
      have hsame : standingOf j c' = standingOf j c := by rw [standingOf, hs.trace]; rfl
      rw [hsame]
      split at hj
      · rename_i hji
        have hnil : Machine.eventsOf i c.trace = [] :=
          Machine.eventsOf_eq_nil hc.disciplined.closed hs.fresh
        rw [standingOf, hji, hnil]
        trivial
      · exact (hc.sound j request' p hj).step h
    · intro token htoken
      rw [hstore] at htoken
      obtain ⟨user, huser, hid⟩ := hc.sessions token htoken
      exact ⟨user, huser.step h, hid⟩
  · have hnext := hc.sound_next h hsigns hs
    have hprofiles : c'.store.users.rows.map User.profile = users.map User.profile := by
      rw [(exec_answer hs).2, exec_profiles, hc.profiles]
    refine ⟨hdisciplined, hprofiles, ?_, hc.sessions_next h hs, ?_, ?_⟩
    · intro j request' p hj
      rw [hs.threads] at hj
      rw [standingOf_executed hs]
      by_cases hji : j = i
      · subst hji
        obtain ⟨rfl, -⟩ : request = request' ∧ k r = p := by simpa using hj
        rw [if_pos rfl]
        exact hnext
      · rw [if_neg hji] at hj
        rw [if_neg (Ne.symm hji)]
        exact (hc.sound j request' p hj).step h
    · intro e he accessToken htoken
      rw [hs.trace, List.mem_append, List.mem_singleton] at he
      rcases he with he | rfl
      · exact hissues e he accessToken htoken
      · cases op with
        | generateAccessToken id username role =>
            obtain rfl : r = some accessToken := htoken
            obtain ⟨user, huser, -⟩ := hc.allowed hs
            rw [huser] at hnext
            obtain ⟨hknown, t, hissued⟩ := hnext
            exact ⟨user, t, hknown, hissued⟩
        | _ => cases htoken
    · intro e he response cookies hsession
      rw [hs.trace, List.mem_append, List.mem_singleton] at he
      rcases he with he | rfl
      · exact hanswers e he response cookies hsession
      · cases op with
        | respond reply =>
            cases reply with
            | session response' cookies' =>
                obtain ⟨rfl, rfl⟩ : response' = response ∧ cookies' = cookies := by
                  simpa [sessionOf] using hsession
                obtain ⟨user, huser, hresponse⟩ := hc.allowed hs
                rw [huser] at hnext
                obtain ⟨hknown, t, hissued⟩ := hnext
                exact ⟨user, t, hknown, hresponse, hissued⟩
            | _ => cases hsession
        | _ => cases hsession

/-- No refresh token is stored at the start. -/
theorem vouched_run {s : AuthStore} (hempty : s.refreshTokens.rows = []) {ls : List Label}
    (hsigns : EachStep (step svc) (Signs jwt) (start s) ls)
    (h : run (step svc) (start s) ls = some c) : Vouched svc jwt s.users.rows c := by
  refine run_invariant_of_eachStep (fun m l m' hm hl hstep => vouched_step hm hl hstep)
    ?_ hsigns h
  constructor
  · exact Machine.disciplined_initial _ _ _ _
  · rfl
  · intro i request p hthread
    simp [start, Machine.initial, Machine.Config.thread] at hthread
  · intro token htoken
    rw [start, Machine.initial, hempty] at htoken
    cases htoken
  · intro e he
    simp [start, Machine.initial] at he
  · intro e he
    simp [start, Machine.initial] at he

/-- A token is issued for a profile. -/
theorem IssuedAt.of_profile {user u : User} (hprofile : user.profile = u.profile)
    {accessToken : String} {t : Time} (h : IssuedAt jwt c user accessToken t) :
    IssuedAt jwt c u accessToken t := by
  obtain ⟨past, signed, recorded⟩ := h
  have hid : user.profile.id = u.profile.id := by rw [hprofile]
  have hname : user.profile.username = u.profile.username := by rw [hprofile]
  have hrole : user.profile.role = u.profile.role := by rw [hprofile]
  simp only [User.profile] at hid hname hrole
  rw [hid, hname, hrole] at signed recorded
  exact ⟨past, signed, recorded⟩

/-! ## Where sessions come from -/

/-- Cookies are only given out for a user of the table whose name and password some login has
given; the access token among them is one that was issued for this user. -/
theorem session_of_login {s : AuthStore} (hempty : s.refreshTokens.rows = []) {ls : List Label}
    (hsigns : EachStep (step svc) (Signs jwt) (start s) ls)
    (h : run (step svc) (start s) ls = some c) {e : Record} (he : e ∈ c.trace)
    {response : UserResponse} {cookies : AuthCookies}
    (hsession : sessionOf e = some (response, cookies)) :
    ∃ user ∈ s.users.rows, LoggedIn c user ∧ response = user.response ∧
      ∃ t, IssuedAt jwt c user cookies.accessToken t := by
  obtain ⟨user, t, ⟨u, hu, hprofile, hlogged⟩, hresponse, hissued⟩ :=
    (vouched_run hempty hsigns h).answers e he response cookies hsession
  refine ⟨u, hu, hlogged, ?_, t, hissued.of_profile hprofile⟩
  have hsame : user.profile.response = u.profile.response := by rw [hprofile]
  exact hresponse.trans hsame

/-! ## Who changes something -/

/-- The executable form of a statement about an optional number. -/
theorem of_all {p : Nat → Prop} [DecidablePred p] {o : Option Nat} {n : Nat} (ho : o = some n)
    (h : o.all (fun n => p n) = true) : p n := by
  subst ho
  simpa using h

/-- A date is rounded down to a second. -/
theorem before_of_valid {claims : Claims} {now expires : Time}
    (hexpires : claims.expiresAt = some (numericDate expires)) (h : claims.valid now = true) :
    now < expires := by
  have hbefore : now < seconds (numericDate expires) :=
    of_all (p := fun n => now < seconds n) hexpires (Bool.and_eq_true_iff.mp h).1
  have hround : seconds (numericDate expires) ≤ expires := Nat.div_mul_le_self expires 1000000000
  exact hbefore.trans_le hround

/-- If the token of a request was not forged, whoever passes the guards of a handler acts as a user
whose name and password some login has given, who has one of the roles the guards allow, and for
whom this token was issued less than fifteen minutes ago. -/
theorem actor_logged_in {s : AuthStore} (hempty : s.refreshTokens.rows = []) {ls : List Label}
    {env : Env} (hsigns : EachStep (step svc) (Signs env.jwt) (start s) ls)
    (hrun : run (step svc) (start s) ls = some c) (hnow : env.now = c.store.now)
    {ctx ctx' : Ctx} {roles : List String}
    (hunforged : ∀ token signed, presentedToken ctx = some token →
      env.jwt token = some signed → ∃ e ∈ c.trace, accessTokenOf e = some token)
    (h : guarded env roles ctx = .ok ctx') :
    ∃ user ∈ s.users.rows, LoggedIn c user ∧ HasRole roles user.role ∧
      ctx'.locals = some ⟨user.id, user.username, user.role⟩ ∧
        ∃ token t, presentedToken ctx = some token ∧ IssuedAt env.jwt c user token t ∧
          c.store.now < t + minutes 15 := by
  obtain ⟨claims, ⟨token, htoken, -, hvalid⟩, hrole, rfl⟩ := guarded_iff.mp h
  unfold validateAccessToken at hvalid
  cases hparse : env.jwt token with
  | none => simp [hparse] at hvalid
  | some signed =>
      obtain ⟨e, he, hissue⟩ := hunforged token signed htoken hparse
      obtain ⟨user, t, ⟨u, hu, hprofile, hlogged⟩, hissued⟩ :=
        (vouched_run hempty hsigns hrun).issues e he token hissue
      have hissued := hissued.of_profile hprofile
      rw [hissued.signed] at hvalid
      simp only [Bool.true_and] at hvalid
      split at hvalid
      · rename_i hdates
        obtain rfl := Option.some.inj hvalid
        have hfresh : env.now < t + minutes 15 := before_of_valid rfl hdates
        exact ⟨u, hu, hlogged, hrole, rfl, token, t, htoken, hissued, hnow ▸ hfresh⟩
      · cases hvalid

end

/-! ## A run -/

/-- The executable form of {lit}`Signs`. -/
def signs (jwt : Jwt) (c : Config) : Label → Bool
  | .spawn _ _ => true
  | .step i x =>
      match c.thread i with
      | some (_, .call (.generateAccessToken id username role) _) =>
          x.accessToken.all fun accessToken => jwt accessToken =
            some ⟨true, accessClaims (c.store.now + x.elapsed) id username role⟩
      | _ => true

theorem signs_spec {jwt : Jwt} {c : Config} {l : Label} (h : signs jwt c l = true) :
    Signs jwt c l := by
  cases l with
  | spawn => trivial
  | step i x =>
      intro request id username role k accessToken hthread htoken
      simpa [signs, hthread, htoken] using h

/-- A login, and a refresh of its session. -/
def renewal : List Label :=
  signIn ++ .spawn 1 (.refresh firstToken) :: handles 1 9 32

/-- The token of the renewal, read with the secret. -/
def renewalJwt : Jwt := fun token =>
  if token = "jwt" then some ⟨true, accessClaims 0 0 "admin" "operator"⟩ else none

/-- The environment in which the token is checked. -/
def renewalEnv : Env where
  jwt := renewalJwt
  now := 0

/-- Every token of the run is signed. -/
theorem renewal_signed : EachStep (step tokenService) (Signs renewalJwt) (start adminStore) renewal :=
  EachStep.of_eachStep (fun _ _ => signs_spec) (by decide +kernel)

/-- A login, and a refresh with the token it was given. -/
theorem session_of_login_renewal :
    ∃ c, run (step tokenService) (start adminStore) renewal = some c ∧
      ∃ e ∈ c.trace, e.thread = 1 ∧ ∃ response cookies, sessionOf e = some (response, cookies) ∧
        ∃ user ∈ adminStore.users.rows, LoggedIn c user ∧ response = user.response ∧
          ∃ t, IssuedAt renewalJwt c user cookies.accessToken t := by
  have hend : endsWith (step tokenService) (start adminStore) renewal (fun c =>
      c.trace.any fun e => e.thread = 1 && (sessionOf e).isSome) = true := by
    decide +kernel
  obtain ⟨c, hrun, htest⟩ := endsWith_eq_true hend
  obtain ⟨e, he, htest⟩ := List.any_eq_true.mp htest
  rw [Bool.and_eq_true, decide_eq_true_eq] at htest
  obtain ⟨⟨response, cookies⟩, hsession⟩ := Option.isSome_iff_exists.mp htest.2
  exact ⟨c, hrun, e, he, htest.1, response, cookies, hsession,
    session_of_login rfl renewal_signed hrun he hsession⟩

/-- The user of the session passes the guards of a rollback. -/
theorem actor_logged_in_renewal :
    ∃ c ctx', run (step tokenService) (start adminStore) renewal = some c ∧
      guarded renewalEnv ["admin", "operator"] { accessCookie := "jwt" } = .ok ctx' ∧
        ∃ user ∈ adminStore.users.rows, LoggedIn c user ∧
          HasRole ["admin", "operator"] user.role ∧
            ctx'.locals = some ⟨user.id, user.username, user.role⟩ ∧
              ∃ token t, presentedToken { accessCookie := "jwt" } = some token ∧
                IssuedAt renewalJwt c user token t ∧ c.store.now < t + minutes 15 := by
  have hend : endsWith (step tokenService) (start adminStore) renewal (fun c =>
      c.store.now = 0 && c.trace.any fun e => accessTokenOf e = some "jwt") = true := by
    decide +kernel
  obtain ⟨c, hrun, htest⟩ := endsWith_eq_true hend
  rw [Bool.and_eq_true] at htest
  obtain ⟨e, he, htoken⟩ := List.any_eq_true.mp htest.2
  have hpassed : guarded renewalEnv ["admin", "operator"] { accessCookie := "jwt" } =
      .ok { accessCookie := "jwt", locals := some ⟨0, "admin", "operator"⟩ } := by
    decide +kernel
  have hnow : renewalEnv.now = c.store.now := (of_decide_eq_true htest.1).symm
  refine ⟨c, _, hrun, hpassed, actor_logged_in rfl renewal_signed hrun hnow ?_ hpassed⟩
  intro token signed hpresented _
  obtain rfl : "jwt" = token := Option.some.inj hpresented
  exact ⟨e, he, of_decide_eq_true htoken⟩

end OtaRobot.Auth
