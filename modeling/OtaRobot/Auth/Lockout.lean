import OtaRobot.Auth.Attempts

/-!
# The account lockout

The counter of failed attempts is read with the row of the user, increased by the request and
written back by a second statement.  Between the two any number of other requests may read the
same row.  The counter is exact, and the lock comes after five checks, as long as no request
checks a password against a row that another one is about to replace.

Main results:

- Theorem {lit}`failing_step`: what a step keeps.
- Theorem {lit}`login_lockout`: the lockout in every state, if the checks come in turn.
- Theorem {lit}`login_not_counted`: of two overlapping attempts one is not counted.
-/

namespace OtaRobot.Auth

open Prog Transition

/-! ## The property and the condition -/

/-- The passwords that have been checked. -/
def checks (c : Config) : Nat :=
  c.trace.countP fun e => e.op.isCheck

/-- Request {lit}`i` has checked a password and has not yet written the counter. -/
def Between (c : Config) (i : Nat) : Prop :=
  (∃ e ∈ c.trace, e.thread = i ∧ e.op.isCheck = true) ∧
    ∀ e ∈ c.trace, e.thread = i → e.op.isUpdate = false

/-- The user has a lock in force. -/
def locked (id : UserID) (c : Config) : Bool :=
  match c.store.users.find? id with
  | some user => inForce user.lockedUntil c.store.now
  | none => false

/-- Until the user has been locked, at most five passwords are checked; the attempts are counted
as long as there are no more than five. -/
def LockedInTime (id : UserID) (m : Config × Bool) : Prop :=
  (m.2 = false → checks m.1 ≤ 5) ∧
    (checks m.1 ≤ 5 → (∀ i, ¬ Between m.1 i) →
      ∃ user, m.1.store.users.find? id = some user ∧ user.failedAttempts = checks m.1)

/-- A request that has read a lock in force checks no password. -/
def LockRespected (svc : AuthService) (s : AuthStore) (ls : List Label) : Prop :=
  ∀ pre l post m m' c e user, ls = pre ++ l :: post → run (step svc) (start s) pre = some m →
    step svc m l = some m' → m'.trace = m.trace ++ [e] → readOf e = some user →
      inForce user.lockedUntil m'.store.now = true → run (step svc) m' post = some c →
        ∀ e' ∈ c.trace, e'.thread = e.thread → e'.op.isCheck = false

/-- A login of this user, and of no other one, with a wrong password. -/
def WrongLogin (svc : AuthService) (s : AuthStore) (u : User) (request : Request) : Prop :=
  request.isLogin = true ∧
    (∀ user ∈ s.users.rows, user.named request.username = true ↔ user.id = u.id) ∧
      svc.checkPassword u.passwordHash request.password = false

/-- Only such logins run, and no statement fails. -/
def WrongLogins (svc : AuthService) (s : AuthStore) (u : User) : Label → Prop
  | .spawn _ request => WrongLogin svc s u request
  | .step _ x => x.fault = false

/-- Until the user has been locked, a password is checked against a current row and while no
other request is between its check and its update, and a lock is written before it is over; no
lock ends between the statement that reads it and its test. -/
structure InTurn (id : UserID) (m : Config × Bool) (l : Label) : Prop where
  current : ∀ i x request hash password k, l = .step i x →
    m.1.thread i = some (request, .call (.checkPassword hash password) k) → m.2 = false →
      (∀ j, ¬ Between m.1 j) ∧ ∀ e ∈ m.1.trace, e.thread = i → ∀ read user,
        readOf e = some read → m.1.store.users.find? id = some user →
          read.failedAttempts = user.failedAttempts
  prompt : ∀ i x request p k t, l = .step i x →
    m.1.thread i = some (request, .call (.updateUserFailedAttempts p) k) → m.2 = false →
      p.lockedUntil = some t → m.1.store.now + x.elapsed < t
  lasting : ∀ i x j e read t, l = .step i x → Machine.eventsOf j m.1.trace = [e] →
    readOf e = some read → read.lockedUntil = some t → m.1.store.now < t →
      m.1.store.now + x.elapsed < t

/-! ## The tally -/

/-- How many passwords were checked, which requests are about to write the counter and what it
is, before and after the user was locked. -/
inductive Tally (pending : Nat → Option Int) : Nat → Int → Option Time → Bool → Prop where
  | idle (n : Nat) (hn : n ≤ 4) (hnone : ∀ j, pending j = none) :
      Tally pending n n none false
  | busy (n i : Nat) (hn : n ≤ 4) (hi : pending i = some (n : Int))
      (hnone : ∀ j, j ≠ i → pending j = none) : Tally pending (n + 1) n none false
  | full (lockedUntil : Option Time) (hnone : ∀ j, pending j = none) :
      Tally pending 5 5 lockedUntil true
  | beyond (n : Nat) (attempts : Int) (lockedUntil : Option Time) (hn : 6 ≤ n) :
      Tally pending n attempts lockedUntil true

section

variable {pending pending' : Nat → Option Int} {n : Nat} {attempts : Int}
  {lockedUntil : Option Time} {b : Bool}

/-- A step that neither checks nor writes. -/
theorem Tally.other (h : Tally pending n attempts lockedUntil b) (hsame : pending' = pending)
    (now : Time) : Tally pending' n attempts lockedUntil (b || inForce lockedUntil now) := by
  subst hsame
  cases h with
  | idle n hn hnone => exact .idle n hn hnone
  | busy n i hn hi hnone => exact .busy n i hn hi hnone
  | full lockedUntil hnone => exact .full lockedUntil hnone
  | beyond n attempts lockedUntil hn => exact .beyond n attempts lockedUntil hn

/-- A check of a current row, while nobody is about to write, or after the lock. -/
theorem Tally.check {i : Nat} {read : Int} (h : Tally pending n attempts lockedUntil b)
    (hpending : ∀ j, pending' j = if j = i then some read else pending j)
    (hturn : b = false → (∀ j, pending j = none) ∧ read = attempts) (now : Time) :
    Tally pending' (n + 1) attempts lockedUntil (b || inForce lockedUntil now) := by
  cases h with
  | idle n hn hnone =>
      obtain ⟨-, rfl⟩ := hturn rfl
      apply Tally.busy n i hn
      · rw [hpending, if_pos rfl]
      · intro j hj
        rw [hpending, if_neg hj]
        exact hnone j
  | busy n j hn hj hnone =>
      have hidle : pending j = none := (hturn rfl).1 j
      rw [hidle] at hj
      cases hj
  | full lockedUntil hnone => exact .beyond 6 5 lockedUntil (by omega)
  | beyond n attempts lockedUntil hn => exact .beyond (n + 1) attempts lockedUntil (by omega)

/-- The counter and the lock a failing login writes. -/
def Written (read attempts : Int) (lockedUntil : Option Time) : Prop :=
  attempts = int32 (read + 1) ∧
    ((attempts < 5 ∧ lockedUntil = none) ∨ (5 ≤ attempts ∧ lockedUntil ≠ none))

/-- The write of the request that is about to write. -/
theorem Tally.update {i : Nat} {read attempts' : Int} {lockedUntil' : Option Time} {now : Time}
    (h : Tally pending n attempts lockedUntil b) (hread : pending i = some read)
    (hpending : ∀ j, pending' j = if j = i then none else pending j)
    (hwritten : Written read attempts' lockedUntil')
    (hprompt : b = false → lockedUntil' ≠ none → inForce lockedUntil' now = true) :
    Tally pending' n attempts' lockedUntil' (b || inForce lockedUntil' now) := by
  cases h with
  | idle n hn hnone =>
      rw [hnone i] at hread
      cases hread
  | busy n j hn hj hnone =>
      have hij : i = j := by
        by_contra hne
        rw [hnone i hne] at hread
        cases hread
      subst hij
      have hsame : (n : Int) = read := Option.some.inj (hj.symm.trans hread)
      have hnone' : ∀ j, pending' j = none := by
        intro j
        rw [hpending]
        split
        · rfl
        · rename_i hne
          exact hnone j hne
      obtain ⟨hattempts, hlock⟩ := hwritten
      have hsucc : attempts' = ((n + 1 : Nat) : Int) := by
        rw [hattempts, ← hsame, int32_of_small (by omega) (by omega)]
        omega
      rcases hlock with ⟨hlt, rfl⟩ | ⟨hle, hsome⟩
      · subst hsucc
        exact .idle (n + 1) (by omega) hnone'
      · have hfive : n = 4 := by omega
        subst hfive
        rw [hprompt rfl hsome, Bool.or_true, hsucc]
        exact .full lockedUntil' hnone'
  | full lockedUntil hnone =>
      rw [hnone i] at hread
      cases hread
  | beyond n attempts lockedUntil hn => exact .beyond n attempts' lockedUntil' hn

/-- What the tally says about the counter. -/
theorem Tally.spec (h : Tally pending n attempts lockedUntil b) :
    (b = false → n ≤ 5) ∧ (n ≤ 5 → (∀ j, pending j = none) → attempts = n) := by
  cases h with
  | idle n hn hnone => exact ⟨fun _ => by omega, fun _ _ => rfl⟩
  | busy n i hn hi hnone =>
      refine ⟨fun _ => by omega, fun _ hall => ?_⟩
      rw [hall i] at hi
      cases hi
  | full lockedUntil hnone => exact ⟨fun h => (by cases h), fun _ _ => rfl⟩
  | beyond n attempts lockedUntil hn => exact ⟨fun h => (by cases h), fun h _ => by omega⟩

end

/-! ## The invariant -/

section

variable {svc : AuthService} {s : AuthStore} {u : User}

/-- All requests are failing logins of the user, and the row of the user is what the tally
says. -/
structure Failing (svc : AuthService) (s : AuthStore) (u : User) (m : Config × Bool) : Prop where
  requests : m.1.AllThreads fun request _ => WrongLogin svc s u request
  disciplined : Machine.Disciplined (loginDiscipline u) (fun _ _ => True) (fun _ => .started) m.1
  events : m.1.AllGhosts (loginDiscipline u) (fun _ => .started) fun request stage events =>
    request.isLogin = true → StageEvents stage events
  tally : ∃ attempts lockedUntil,
    m.1.store.users = (s.setAttempts ⟨u.id, attempts, lockedUntil⟩).users ∧
      Tally (fun i => (stageOf i m.1).pending) (checks m.1) attempts lockedUntil m.2

/-- Writing what is there changes nothing. -/
theorem setAttempts_self (hu : s.users.find? u.id = some u) :
    (s.setAttempts ⟨u.id, u.failedAttempts, u.lockedUntil⟩).users = s.users := by
  have hrow : ∀ user, s.users.find? u.id = some user →
      { user with failedAttempts := u.failedAttempts, lockedUntil := u.lockedUntil } = user := by
    intro user huser
    obtain rfl : u = user := Option.some.inj (hu.symm.trans huser)
    rfl
  show s.users.modify u.id (fun user =>
    { user with failedAttempts := u.failedAttempts, lockedUntil := u.lockedUntil })
      (fun _ => rfl) = s.users
  exact Table.modify_eq_self _ hrow

/-- Nobody has tried at the start. -/
theorem failing_start (hu : s.users.find? u.id = some u) (hzero : u.failedAttempts = 0)
    (hfree : u.lockedUntil = none) : Failing svc s u (start s, false) where
  requests := Machine.allThreads_initial _ _
  disciplined := Machine.disciplined_initial _ _ _ _
  events := Machine.allGhosts_initial _ _ _ _
  tally := by
    have hsame := setAttempts_self hu
    rw [hzero, hfree] at hsame
    exact ⟨0, none, hsame.symm, .idle 0 (by omega) fun _ => rfl⟩

variable {c c' : Config} {b : Bool} {l : Label}

/-- The row of the user shows the count. -/
theorem Failing.row (hu : s.users.find? u.id = some u) {attempts : Int}
    {lockedUntil : Option Time}
    (h : c.store.users = (s.setAttempts ⟨u.id, attempts, lockedUntil⟩).users) :
    c.store.users.find? u.id = some { u with failedAttempts := attempts, lockedUntil } := by
  rw [h]
  simp [AuthStore.setAttempts, hu]

/-- The lock is read from the row. -/
theorem locked_of_row {id : UserID} {user : User} (h : c.store.users.find? id = some user) :
    locked id c = inForce user.lockedUntil c.store.now := by
  simp [locked, h]

/-- A request is between its check and its update exactly in the pending stages. -/
theorem Failing.between_iff {m : Config × Bool} (hm : Failing svc s u m) (i : Nat) :
    Between m.1 i ↔ (stageOf i m.1).pending ≠ none := by
  have hhistory : Between m.1 i ↔
      ¬ Unchecked (Machine.eventsOf i m.1.trace) ∧ Unwritten (Machine.eventsOf i m.1.trace) := by
    simp [Between, Unchecked, Unwritten, Machine.eventsOf]
  rw [hhistory]
  cases hi : m.1.thread i with
  | none =>
      have hnil := Machine.eventsOf_eq_nil hm.disciplined.closed hi
      rw [stageOf, hnil]
      simp [Unchecked, Stage.pending]
  | some t =>
      obtain ⟨request, p⟩ := t
      have hlogin := (hm.requests i request p hi).1
      exact (hm.events i request p hi hlogin).pending_iff.symm

/-! ## Steps -/

/-- An operation moves the stage of its own request. -/
theorem stageOf_executed {i : Nat} {x : AuthChoice} {request : Request} {op : AuthOp}
    {k : op.Ret → Handling Unit} {r : op.Ret}
    (hs : (authMachine svc).Executed c c' i x request op k r) (j : Nat) :
    stageOf j c' = if j = i then (stageOf i c).next op r else stageOf j c := by
  rw [stageOf, hs.trace, Machine.eventsOf_append]
  by_cases hj : j = i
  · subst hj
    simp [stageOf]
  · rw [if_neg (fun h => hj h.symm), if_neg hj]
    rfl

/-- An operation counts at most one comparison. -/
theorem checks_executed {i : Nat} {x : AuthChoice} {request : Request} {op : AuthOp}
    {k : op.Ret → Handling Unit} {r : op.Ret}
    (hs : (authMachine svc).Executed c c' i x request op k r) :
    checks c' = if op.isCheck then checks c + 1 else checks c := by
  rw [checks, hs.trace, List.countP_append]
  by_cases hcheck : op.isCheck = true <;> simp [checks, hcheck]

/-- A new token changes no user. -/
theorem createRefreshToken_users (s : AuthStore) (uuid : Nat) (p : CreateRefreshTokenParams) :
    (s.createRefreshToken uuid p).2.users = s.users := by
  unfold AuthStore.createRefreshToken
  split
  · rfl
  · split <;> rfl

/-- Two statements write users, the others do not. -/
theorem exec_users (s : AuthStore) (op : AuthOp) (x : AuthChoice) (hupdate : op.isUpdate = false)
    (hreset : ∀ id, op ≠ .resetUserFailedAttempts id) :
    (AuthStore.exec svc s op x).2.users = s.users := by
  cases op with
  | updateUserFailedAttempts p => cases hupdate
  | resetUserFailedAttempts id => exact absurd rfl (hreset id)
  | createRefreshToken p =>
      simp only [AuthStore.exec, AuthStore.perform]
      cases x.fault with
      | true => rfl
      | false => exact createRefreshToken_users _ _ _
  | deleteRefreshToken tokenHash =>
      simp only [AuthStore.exec, AuthStore.perform]
      cases x.fault <;> rfl
  | _ => rfl

/-- Writing a count looks at the users only. -/
theorem setAttempts_users {s s' : AuthStore} (h : s.users = s'.users)
    (p : UpdateUserFailedAttemptsParams) : (s.setAttempts p).users = (s'.setAttempts p).users := by
  simp only [AuthStore.setAttempts, h]

/-- The second count of a user replaces the first. -/
theorem setAttempts_setAttempts (s : AuthStore) {p q : UpdateUserFailedAttemptsParams}
    (h : p.id = q.id) : ((s.setAttempts p).setAttempts q).users = (s.setAttempts q).users := by
  simp only [AuthStore.setAttempts, h]
  exact Table.modify_modify _ _ _ _ _ _

/-- The only row a failing login can find is the current one of its user. -/
theorem Failing.found (hu : s.users.find? u.id = some u) {attempts : Int}
    {lockedUntil : Option Time}
    (husers : c.store.users = (s.setAttempts ⟨u.id, attempts, lockedUntil⟩).users) {name : String}
    (hname : ∀ user ∈ s.users.rows, user.named name = true ↔ user.id = u.id) (pick : Nat) :
    limitOne (c.store.users.rows.filter fun user => user.named name) pick =
      some { u with failedAttempts := attempts, lockedUntil } := by
  have hrow := Failing.row hu husers
  have honly : ∀ user ∈ c.store.users.rows, user.named name = true →
      user = { u with failedAttempts := attempts, lockedUntil } := by
    intro user huser hnamed
    have hmem := huser
    rw [husers] at hmem
    obtain ⟨user₀, huser₀, heq⟩ := List.mem_map.mp hmem
    have hid : user.id = u.id := by
      by_cases hkey : user₀.id = u.id
      · rw [if_pos hkey] at heq
        rw [← heq]
        exact hkey
      · rw [if_neg hkey] at heq
        subst heq
        exact (hname user₀ huser₀).mp hnamed
    have hfind : c.store.users.find? u.id = some user :=
      Table.find?_some_iff.mpr ⟨huser, hid⟩
    exact Option.some.inj (hfind.symm.trans hrow)
  cases hlimit : limitOne (c.store.users.rows.filter fun user => user.named name) pick with
  | none =>
      have hnamed : u.named name = true := (hname u (Table.mem_of_find? hu)).mpr rfl
      have hmem : { u with failedAttempts := attempts, lockedUntil } ∈
          c.store.users.rows.filter fun user => user.named name :=
        List.mem_filter.mpr ⟨Table.mem_of_find? hrow, hnamed⟩
      rw [limitOne_eq_none hlimit] at hmem
      cases hmem
  | some user =>
      obtain ⟨hmem, hnamed⟩ := List.mem_filter.mp (mem_of_limitOne hlimit)
      rw [honly user hmem hnamed]

variable {i : Nat} {x : AuthChoice} {request : Request} {op : AuthOp}
  {k : op.Ret → Handling Unit} {r : op.Ret}

/-- What a login executes is what its stage allows. -/
theorem Failing.allowed {m : Config × Bool} (hm : Failing svc s u m)
    (hs : (authMachine svc).Executed m.1 c' i x request op k r) :
    (stageOf i m.1).Allowed u request op :=
  hm.disciplined.allowed hs (hm.requests i request _ hs.before).1

/-- The user is found, and the password is wrong. -/
theorem Failing.answer {m : Config × Bool} (hm : Failing svc s u m)
    (hu : s.users.find? u.id = some u)
    (hs : (authMachine svc).Executed m.1 c' i x request op k r) (hfault : x.fault = false) :
    Stage.Answer u op r := by
  obtain ⟨-, hname, hwrong⟩ := hm.requests i request _ hs.before
  have hallowed := hm.allowed hs
  have heffect : AuthStore.exec svc m.1.store op x = (r, c'.store) := hs.effect
  have hr : r = (AuthStore.exec svc m.1.store op x).1 := (congrArg Prod.fst heffect).symm
  cases op with
  | getUserByEmailOrUsername name =>
      obtain ⟨-, rfl⟩ := hallowed
      obtain ⟨attempts, lockedUntil, husers, -⟩ := hm.tally
      have hfound := Failing.found hu husers hname x.pick
      have hanswer : (AuthStore.exec svc m.1.store
          (.getUserByEmailOrUsername request.username) x).1 =
          limitOne (m.1.store.users.rows.filter fun user => user.named request.username) x.pick := by
        simp only [AuthStore.exec, AuthStore.perform, hfault]
        rfl
      exact ⟨_, hr.trans (hanswer.trans hfound), rfl, rfl⟩
  | checkPassword hash password =>
      obtain ⟨-, rfl, rfl⟩ := hallowed
      exact hr.trans hwrong
  | _ => trivial

/-- What a pending request writes. -/
theorem Stage.Writes.spec {stage : Stage} {p : UpdateUserFailedAttemptsParams}
    (h : stage.Writes u.id p) : p.id = u.id ∧
      ∃ read, stage.pending = some read ∧ Written read p.failedAttempts p.lockedUntil := by
  cases stage with
  | checked read =>
      obtain ⟨hlt, rfl⟩ := h
      exact ⟨rfl, read, rfl, rfl, Or.inl ⟨hlt, rfl⟩⟩
  | locking read now =>
      obtain ⟨hle, rfl⟩ := h
      exact ⟨rfl, read, rfl, rfl, Or.inr ⟨hle, by simp⟩⟩
  | _ => exact absurd h id

/-- The tally after an operation. -/
theorem Failing.tally_executed {m : Config × Bool} (hm : Failing svc s u m)
    (hu : s.users.find? u.id = some u) (hturn : InTurn u.id m l) (hl : l = .step i x)
    (hs : (authMachine svc).Executed m.1 c' i x request op k r) (hfault : x.fault = false) :
    ∃ attempts lockedUntil,
      c'.store.users = (s.setAttempts ⟨u.id, attempts, lockedUntil⟩).users ∧
        Tally (fun i => (stageOf i c').pending) (checks c') attempts lockedUntil
          (m.2 || locked u.id c') := by
  obtain ⟨attempts, lockedUntil, husers, htally⟩ := hm.tally
  have hallowed := hm.allowed hs
  have hlogin := (hm.requests i request _ hs.before).1
  have hevents := hm.events i request _ hs.before hlogin
  have heffect : AuthStore.exec svc m.1.store op x = (r, c'.store) := hs.effect
  have hstore : c'.store = (AuthStore.exec svc m.1.store op x).2 := by rw [heffect]
  have hpending : ∀ j, (stageOf j c').pending =
      if j = i then ((stageOf i m.1).next op r).pending else (stageOf j m.1).pending := by
    intro j
    rw [stageOf_executed hs]
    split <;> rfl
  rw [checks_executed hs]
  -- Every operation but an update leaves the users alone.
  have hkept : op.isUpdate = false →
      c'.store.users = (s.setAttempts ⟨u.id, attempts, lockedUntil⟩).users := by
    intro hupdate
    rw [hstore, exec_users _ _ _ hupdate, husers]
    intro id hreset
    subst hreset
    exact hallowed
  rcases next_pending (r := r) hallowed with
    ⟨hcheck, read, hcleared, hnext⟩ | ⟨p, rfl, hwrites, hnext⟩ | ⟨hcheck, hupdate, hnext⟩
  · have husers' := hkept (by cases op <;> first | rfl | cases hcheck)
    refine ⟨attempts, lockedUntil, husers', ?_⟩
    rw [if_pos hcheck, locked_of_row (Failing.row hu husers')]
    have hnow : ∀ j, (stageOf j c').pending =
        if j = i then some read.failedAttempts else (stageOf j m.1).pending := by
      intro j
      rw [hpending, hnext]
    refine htally.check hnow ?_ _
    · intro hb
      cases op with
      | checkPassword hash password =>
          obtain ⟨hnone, hcurrent⟩ := hturn.current i x request hash password k hl hs.before hb
          obtain ⟨e, he, hread⟩ := hevents.cleared read hcleared
          obtain ⟨hmem, hthread⟩ := List.mem_filter.mp he
          constructor
          · intro j
            by_contra hj
            exact hnone j ((hm.between_iff j).mpr hj)
          · exact hcurrent e hmem (of_decide_eq_true hthread) read _ hread (Failing.row hu husers)
      | _ => cases hcheck
  · obtain ⟨hid, read, hread, hwritten⟩ := hwrites.spec
    have hwrite : c'.store = (m.1.store.pass x.elapsed).setAttempts p := by
      rw [hstore]
      simp only [AuthStore.exec, AuthStore.perform, hfault]
      rfl
    have husers' : c'.store.users =
        (s.setAttempts ⟨u.id, p.failedAttempts, p.lockedUntil⟩).users := by
      have hparams : (⟨u.id, p.failedAttempts, p.lockedUntil⟩ :
          UpdateUserFailedAttemptsParams) = p := by rw [← hid]
      have hpassed : (m.1.store.pass x.elapsed).users =
          (s.setAttempts ⟨u.id, attempts, lockedUntil⟩).users := husers
      rw [hwrite, hparams, setAttempts_users hpassed, setAttempts_setAttempts s hid.symm]
    refine ⟨p.failedAttempts, p.lockedUntil, husers', ?_⟩
    rw [if_neg (by simp [AuthOp.isCheck]), locked_of_row (Failing.row hu husers')]
    refine htally.update (i := i) hread ?_ hwritten ?_
    · intro j
      rw [hpending, hnext]
    · intro hb hsome
      obtain ⟨t, ht⟩ := Option.ne_none_iff_exists'.mp hsome
      have hprompt := hturn.prompt i x request p k t hl hs.before hb ht
      have hnow : c'.store.now = m.1.store.now + x.elapsed := by rw [hwrite]; rfl
      simp [inForce, ht, hnow, hprompt]
  · have husers' := hkept hupdate
    refine ⟨attempts, lockedUntil, husers', ?_⟩
    rw [if_neg (by simp [hcheck]), locked_of_row (Failing.row hu husers')]
    refine htally.other ?_ _
    funext j
    rw [hpending]
    split
    · rename_i hj
      rw [hnext, hj]
    · rfl

/-- What a step keeps. -/
theorem failing_step {m m' : Config × Bool} (hu : s.users.find? u.id = some u)
    (hm : Failing svc s u m) (hlogins : WrongLogins svc s u l) (hturn : InTurn u.id m l)
    (h : latched (step svc) (locked u.id) m l = some m') : Failing svc s u m' := by
  obtain ⟨hstep, hlatch⟩ := latched_eq_some.mp h
  constructor
  · apply Machine.step_allThreads hstep hm.requests
    · intro i request hl _
      subst hl
      exact hlogins
    · intro i x request op k r _ _ hrequest
      exact hrequest
  · refine Machine.step_disciplined_of_label hstep hm.disciplined (login_stages u svc) ?_
    intro i x request op k r hl hs _
    subst hl
    exact hm.answer hu hs hlogins
  · apply Machine.step_allGhosts hstep hm.disciplined hm.events
    · intro request _
      exact stageEvents_started
    · intro request stage events e hevents hallowed hlogin
      exact stageEvents_next (hevents hlogin) (hallowed hlogin)
  · rw [hlatch]
    obtain ⟨i, request, hl, hs⟩ | ⟨i, x, request, op, k, r, hl, hs⟩ := Machine.step_cases hstep
    · obtain ⟨attempts, lockedUntil, husers, htally⟩ := hm.tally
      have hstore : m.1.store = m'.1.store := Option.some.inj hs.accepted
      have hstage : (fun i => (stageOf i m'.1).pending) = fun i => (stageOf i m.1).pending := by
        funext j
        rw [stageOf, hs.trace]
        rfl
      have hchecks : checks m'.1 = checks m.1 := by rw [checks, hs.trace]; rfl
      rw [hstore] at husers
      refine ⟨attempts, lockedUntil, husers, ?_⟩
      rw [hchecks, locked_of_row (Failing.row hu husers)]
      exact htally.other hstage _
    · have hfault : x.fault = false := by
        subst hl
        exact hlogins
      exact hm.tally_executed hu hturn hl hs hfault

/-- The account is locked when the count says so. -/
theorem Failing.lockedInTime {m : Config × Bool} (hm : Failing svc s u m)
    (hu : s.users.find? u.id = some u) : LockedInTime u.id m := by
  obtain ⟨attempts, lockedUntil, husers, htally⟩ := hm.tally
  obtain ⟨hchecks, hcount⟩ := htally.spec
  refine ⟨hchecks, fun hle hnone => ⟨_, Failing.row hu husers, ?_⟩⟩
  apply hcount hle
  intro j
  by_contra hj
  exact hnone j ((hm.between_iff j).mpr hj)

/-! ## Requests that have read a lock -/

/-- The request is refused, or is going to be. -/
def Barred (c : Config) (i : Nat) : Prop :=
  (∃ request p, c.thread i = some (request, p)) ∧
    (stageOf i c = .refused ∨
      ∃ user, stageOf i c = .read user ∧ inForce user.lockedUntil c.store.now = true)

theorem exec_now (s : AuthStore) (op : AuthOp) (x : AuthChoice) :
    (AuthStore.exec svc s op x).2.now = s.now + x.elapsed := by
  cases op with
  | createRefreshToken p =>
      simp only [AuthStore.exec, AuthStore.perform]
      cases x.fault with
      | true => rfl
      | false =>
          show ((s.pass x.elapsed).createRefreshToken x.uuid p).2.now = _
          unfold AuthStore.createRefreshToken
          split
          · rfl
          · split <;> rfl
  | updateUserFailedAttempts p =>
      simp only [AuthStore.exec, AuthStore.perform]
      cases x.fault <;> rfl
  | resetUserFailedAttempts id =>
      simp only [AuthStore.exec, AuthStore.perform]
      cases x.fault <;> rfl
  | deleteRefreshToken tokenHash =>
      simp only [AuthStore.exec, AuthStore.perform]
      cases x.fault <;> rfl
  | _ => rfl

/-- A lock that is in force after a step and was read before it. -/
theorem InTurn.inForce {m : Config × Bool} (hturn : InTurn u.id m l) (hl : l = .step i x) {j : Nat}
    {e : Record} {read : User} (hevents : Machine.eventsOf j m.1.trace = [e])
    (hread : readOf e = some read) (hlocked : inForce read.lockedUntil m.1.store.now = true) :
    inForce read.lockedUntil (m.1.store.now + x.elapsed) = true := by
  cases hlock : read.lockedUntil with
  | none => simp [hlock, Auth.inForce] at hlocked
  | some t =>
      simp only [hlock, Auth.inForce, Option.any_some, decide_eq_true_eq] at hlocked ⊢
      exact hturn.lasting i x j e read t hl hevents hread hlock hlocked

/-- A login that is barred stays barred. -/
theorem barred_step {m m' : Config × Bool} (hm : Failing svc s u m) (hturn : InTurn u.id m l)
    (h : latched (step svc) (locked u.id) m l = some m') {j : Nat} (hj : Barred m.1 j) :
    Barred m'.1 j := by
  obtain ⟨hstep, -⟩ := latched_eq_some.mp h
  obtain ⟨⟨request, p, hthread⟩, hstage⟩ := hj
  obtain ⟨p', hthread'⟩ := Machine.step_tag hstep hthread
  refine ⟨⟨request, p', hthread'⟩, ?_⟩
  have hevents := hm.events j request p hthread (hm.requests j request p hthread).1
  obtain ⟨i, request', -, hs⟩ | ⟨i, x, request', op, k, r, hl, hs⟩ := Machine.step_cases hstep
  · have hstore : m.1.store = m'.1.store := Option.some.inj hs.accepted
    have hsame : stageOf j m'.1 = stageOf j m.1 := by rw [stageOf, hs.trace]; rfl
    rwa [hsame, ← hstore]
  · have heffect : AuthStore.exec svc m.1.store op x = (r, m'.1.store) := hs.effect
    have hnow : m'.1.store.now = m.1.store.now + x.elapsed := by
      have hexec : (AuthStore.exec svc m.1.store op x).2.now = m.1.store.now + x.elapsed :=
        exec_now m.1.store op x
      rw [← hexec, heffect]
    rw [stageOf_executed hs]
    rcases hstage with hrefused | ⟨user, hread, hlocked⟩
    · left
      split
      · rename_i hji
        subst hji
        rw [hrefused]
        cases op <;> rfl
      · exact hrefused
    · obtain ⟨e, hone, he⟩ := hevents.read user hread
      have hafter := hturn.inForce hl hone he hlocked
      split
      · rename_i hji
        subst hji
        left
        rw [hread]
        cases op with
        | now =>
            have hr : r = m.1.store.now + x.elapsed := (congrArg Prod.fst heffect).symm
            subst hr
            exact if_pos hafter
        | _ => rfl
      · right
        rw [hnow]
        exact ⟨user, hread, hafter⟩

/-- A barred login compares no password. -/
theorem Barred.unchecked {m : Config × Bool} (hm : Failing svc s u m) {j : Nat}
    (hj : Barred m.1 j) : ∀ e ∈ m.1.trace, e.thread = j → e.op.isCheck = false := by
  obtain ⟨⟨request, p, hthread⟩, hstage⟩ := hj
  have hevents := hm.events j request p hthread (hm.requests j request p hthread).1
  have hunchecked : Unchecked (Machine.eventsOf j m.1.trace) := by
    apply hevents.unchecked.mpr
    rcases hstage with hrefused | ⟨user, hread, -⟩
    · exact congrArg Stage.isUnchecked hrefused
    · exact congrArg Stage.isUnchecked hread
  intro e he hthread
  exact hunchecked e (List.mem_filter.mpr ⟨he, decide_eq_true hthread⟩)

/-- A request that reads a lock in force is barred from then on. -/
theorem barred_of_read {m : Config × Bool} (hm : Failing svc s u m)
    (hstep : step svc m.1 l = some c') {e : Record} (htrace : c'.trace = m.1.trace ++ [e])
    {user : User} (hread : readOf e = some user)
    (hlocked : inForce user.lockedUntil c'.store.now = true) : Barred c' e.thread := by
  obtain ⟨i, request, -, hs⟩ | ⟨i, x, request, op, k, r, -, hs⟩ := Machine.step_cases hstep
  · have hlength := congrArg List.length (hs.trace.symm.trans htrace)
    simp at hlength
  · have he : ⟨i, op, r⟩ = e := by
      have happend := hs.trace.symm.trans htrace
      simpa using happend
    subst he
    refine ⟨⟨request, k r, by rw [hs.threads, if_pos rfl]⟩, Or.inr ⟨user, ?_, hlocked⟩⟩
    have hallowed := hm.allowed hs
    show stageOf i c' = .read user
    rw [stageOf_executed hs, if_pos rfl]
    cases op with
    | getUserByEmailOrUsername name =>
        have hr : r = some user := hread
        subst hr
        rw [hallowed.1]
        refine if_neg fun hnone => ?_
        simp [hnone, inForce] at hlocked
    | _ => cases hread

end

/-! ## Runs -/

section

variable {svc : AuthService} {s : AuthStore} {u : User} {ls : List Label}

/-- The labels of the run are those of wrong logins in turn. -/
theorem labels_and_turns (hlogins : ∀ l ∈ ls, WrongLogins svc s u l)
    (hturn : EachStep (latched (step svc) (locked u.id)) (InTurn u.id) (start s, false) ls) :
    EachStep (latched (step svc) (locked u.id))
      (fun m l => WrongLogins svc s u l ∧ InTurn u.id m l) (start s, false) ls :=
  (EachStep.of_forall_mem hlogins).and hturn

/-- The lockout of a user without failed attempts and without a lock, under any number of logins
with wrong passwords that check their passwords in turn: at most five passwords are checked
before the user is locked, the attempts are counted, and no request that reads the lock while it
is in force checks a password. -/
theorem login_lockout (hu : s.users.find? u.id = some u) (hzero : u.failedAttempts = 0)
    (hfree : u.lockedUntil = none) (hlogins : ∀ l ∈ ls, WrongLogins svc s u l)
    (hturn : EachStep (latched (step svc) (locked u.id)) (InTurn u.id) (start s, false) ls) :
    EveryState (latched (step svc) (locked u.id)) (LockedInTime u.id) (start s, false) ls ∧
      LockRespected svc s ls := by
  have hstart : Failing svc s u (start s, false) := failing_start hu hzero hfree
  have hstep : ∀ m l m', Failing svc s u m → (WrongLogins svc s u l ∧ InTurn u.id m l) →
      latched (step svc) (locked u.id) m l = some m' → Failing svc s u m' :=
    fun _ _ _ hm hl h => failing_step hu hm hl.1 hl.2 h
  have heach := labels_and_turns hlogins hturn
  constructor
  · exact EveryState.of_eachStep hstep (fun _ hm => hm.lockedInTime hu) hstart heach
  · intro pre l post m m' c e user hsplit hpre hl htrace hread hlocked hpost
    subst hsplit
    obtain ⟨b, hpre⟩ := run_latched hpre false
    obtain ⟨b', hpost⟩ := run_latched hpost (b || locked u.id m')
    have hm : Failing svc s u (m, b) :=
      run_invariant_of_eachStep hstep hstart heach.of_append hpre
    have hrest := heach.suffix hpre
    have hlatched : latched (step svc) (locked u.id) (m, b) l =
        some (m', b || locked u.id m') := latched_eq_some.mpr ⟨hl, rfl⟩
    have hm' : Failing svc s u (m', b || locked u.id m') := hstep _ _ _ hm hrest.1 hlatched
    have hbarred : Barred m' e.thread := barred_of_read hm hl htrace hread hlocked
    -- From here on the request stays barred.
    have hboth := run_invariant_of_eachStep
      (I := fun m => Failing svc s u m ∧ Barred m.1 e.thread)
      (fun n l n' hn hl h => ⟨hstep n l n' hn.1 hl h, barred_step hn.1 hl.2 h hn.2⟩)
      ⟨hm', hbarred⟩ (hrest.2 _ hlatched) hpost
    exact hboth.2.unchecked hboth.1

end

/-! ## Concrete runs -/

/-- Whoever has checked a password has written the counter. -/
def noneBetween (c : Config) : Bool :=
  c.trace.all fun e => !e.op.isCheck ||
    c.trace.any fun e' => e'.thread = e.thread && e'.op.isUpdate

theorem noneBetween_spec {c : Config} (h : noneBetween c = true) (i : Nat) : ¬ Between c i := by
  intro hbetween
  obtain ⟨⟨e, he, hthread, hcheck⟩, hunwritten⟩ := hbetween
  have hwritten := List.all_eq_true.mp h e he
  simp only [hcheck, Bool.not_true, Bool.false_or, List.any_eq_true, Bool.and_eq_true,
    decide_eq_true_eq] at hwritten
  obtain ⟨e', he', hthread', hupdate⟩ := hwritten
  rw [hunwritten e' he' (hthread'.trans hthread)] at hupdate
  cases hupdate

/-- What a request has read of the counter is still stored. -/
def readsCurrent (id : UserID) (c : Config) (i : Nat) : Bool :=
  c.trace.all fun e => e.thread ≠ i ||
    match readOf e, c.store.users.find? id with
    | some read, some user => read.failedAttempts = user.failedAttempts
    | _, _ => true

/-- The locks that have been read and not tested last. -/
def locksLast (c : Config) (now : Time) : Bool :=
  c.trace.all fun e => (Machine.eventsOf e.thread c.trace).length ≠ 1 ||
    match readOf e with
    | some read => read.lockedUntil.all fun t => !(c.store.now < t) || now < t
    | none => true

/-- The executable form of {lit}`InTurn`. -/
def inTurn (id : UserID) (m : Config × Bool) : Label → Bool
  | .spawn _ _ => true
  | .step i x =>
      locksLast m.1 (m.1.store.now + x.elapsed) &&
        match m.1.thread i with
        | some (_, .call (.checkPassword _ _) _) =>
            m.2 || (noneBetween m.1 && readsCurrent id m.1 i)
        | some (_, .call (.updateUserFailedAttempts p) _) =>
            m.2 || p.lockedUntil.all fun t => m.1.store.now + x.elapsed < t
        | _ => true

theorem inTurn_spec {id : UserID} {m : Config × Bool} {l : Label} (h : inTurn id m l = true) :
    InTurn id m l := by
  cases l with
  | spawn i request =>
      have hne : ∀ j y, (.spawn i request : Label) ≠ .step j y := by simp
      exact ⟨fun j y _ _ _ _ hl => absurd hl (hne j y), fun j y _ _ _ _ hl => absurd hl (hne j y),
        fun j y _ _ _ _ hl => absurd hl (hne j y)⟩
  | step i x =>
      rw [inTurn, Bool.and_eq_true] at h
      constructor
      · intro j y request hash password k hl hthread hb
        obtain ⟨rfl, rfl⟩ := Machine.Label.step.inj hl
        have htest := h.2
        simp only [hthread, hb, Bool.false_or, Bool.and_eq_true] at htest
        refine ⟨noneBetween_spec htest.1, fun e he hi read user hread huser => ?_⟩
        have hcurrent := List.all_eq_true.mp htest.2 e he
        simpa [hi, hread, huser] using hcurrent
      · intro j y request p k t hl hthread hb ht
        obtain ⟨rfl, rfl⟩ := Machine.Label.step.inj hl
        have htest := h.2
        simpa [hthread, hb, ht] using htest
      · intro j y n e read t hl hevents hread ht hlocked
        obtain ⟨rfl, rfl⟩ := Machine.Label.step.inj hl
        have hmem : e ∈ Machine.eventsOf n m.1.trace := by simp [hevents]
        obtain ⟨he, hn⟩ := List.mem_filter.mp hmem
        have hthread : e.thread = n := of_decide_eq_true hn
        have hlast := List.all_eq_true.mp h.1 e he
        simpa [hthread, hevents, hread, ht, hlocked] using hlast

/-- A bcrypt hash, of the password {lit}`abc123xyz`. -/
def storedHash : String :=
  "$2a$12$R9h/cIPz0gi.URNNX3kh2OPST9/PgBkqquzi.Ss7KIUgO2t0jWMUW"

/-- A service with one password. -/
def passwordService : AuthService where
  checkPassword := fun hash password => hash = storedHash && password = "abc123xyz"
  sum256 := fun data => data
  encodeBase64URL := fun _ => ""

/-- A user with this password. -/
def admin : User where
  id := 0
  username := "admin"
  passwordHash := storedHash

/-- A table with this user. -/
def adminStore : AuthStore where
  users := Table.single admin
  refreshTokens := Table.empty
  now := 0

/-- A login with another password. -/
def guess : Request :=
  .login (some ⟨"admin", "guess"⟩)

/-- Request {lit}`i` executes {lit}`n` operations, a second apart. -/
def proceed (i n : Nat) : List Label :=
  List.replicate n (.step i { elapsed := seconds 1 })

/-- A guess of {lit}`n` operations. -/
def attempt (i n : Nat) : List Label :=
  .spawn i guess :: proceed i n

/-- Five guesses one after the other, and a sixth that finds the lock. -/
def guesses : List Label :=
  attempt 0 4 ++ attempt 1 4 ++ attempt 2 4 ++ attempt 3 4 ++ attempt 4 5 ++ attempt 5 4

/-- Two guesses whose operations alternate. -/
def overlappingGuesses : List Label :=
  [.spawn 0 guess, .spawn 1 guess] ++ proceed 0 1 ++ proceed 1 1 ++ proceed 0 1 ++ proceed 1 1 ++
    proceed 0 2 ++ proceed 1 2

theorem guess_wrong : WrongLogin passwordService adminStore admin guess := by
  refine ⟨rfl, ?_, by decide +kernel⟩
  intro user huser
  obtain rfl := List.mem_singleton.mp huser
  exact iff_of_true (by decide +kernel) rfl

/-- The operations of the login are those of a wrong one. -/
theorem proceed_wrong {i n : Nat} {l : Label} (h : l ∈ proceed i n) :
    WrongLogins passwordService adminStore admin l := by
  rw [List.eq_of_mem_replicate h]
  rfl

/-- The steps of the login are those of a wrong one. -/
theorem attempt_wrong {i n : Nat} {l : Label} (h : l ∈ attempt i n) :
    WrongLogins passwordService adminStore admin l := by
  rcases List.mem_cons.mp h with hl | hl
  · subst hl
    exact guess_wrong
  · exact proceed_wrong hl

/-- Five guesses one after the other lock the user; the sixth is refused. -/
theorem login_lockout_guesses :
    (run (step passwordService) (start adminStore) guesses).isSome = true ∧
      EveryState (latched (step passwordService) (locked admin.id)) (LockedInTime admin.id)
          (start adminStore, false) guesses ∧
        LockRespected passwordService adminStore guesses := by
  have hlogins : ∀ l ∈ guesses, WrongLogins passwordService adminStore admin l := by
    intro l hl
    simp only [guesses, List.mem_append] at hl
    rcases hl with ((((h | h) | h) | h) | h) | h <;> exact attempt_wrong h
  exact ⟨by decide +kernel, login_lockout rfl rfl rfl hlogins
    (EachStep.of_eachStep (fun _ _ => inTurn_spec) (by decide +kernel))⟩

/-- Two guesses are checked against one row, and both write one: the second is not counted. -/
theorem login_not_counted :
    ¬ ∀ (svc : AuthService) (s : AuthStore) (u : User) (ls : List Label),
      s.users.find? u.id = some u → u.failedAttempts = 0 → u.lockedUntil = none →
        (∀ l ∈ ls, WrongLogins svc s u l) →
          EveryState (latched (step svc) (locked u.id)) (LockedInTime u.id) (start s, false) ls ∧
            LockRespected svc s ls := by
  intro h
  have hlogins : ∀ l ∈ overlappingGuesses, WrongLogins passwordService adminStore admin l := by
    intro l hl
    simp only [overlappingGuesses, List.mem_append, List.mem_cons, List.not_mem_nil,
      or_false] at hl
    rcases hl with (((((h | h) | h) | h) | h) | h) | h
    all_goals first
      | exact proceed_wrong h
      | rcases h with h | h <;> (subst h; exact guess_wrong)
  have hend : endsWith (latched (step passwordService) (locked admin.id)) (start adminStore, false)
      overlappingGuesses (fun m => checks m.1 = 2 && noneBetween m.1 &&
        (m.1.store.users.find? admin.id).map User.failedAttempts = some 1) = true := by
    decide +kernel
  obtain ⟨m, hrun, htest⟩ := endsWith_eq_true hend
  simp only [Bool.and_eq_true, decide_eq_true_eq] at htest
  obtain ⟨⟨hchecks, hnone⟩, hstored⟩ := htest
  have hlocked := (h passwordService adminStore admin _ rfl rfl rfl hlogins).1.last hrun
  obtain ⟨user, huser, hattempts⟩ := hlocked.2 (by omega) (noneBetween_spec hnone)
  rw [huser] at hstored
  have hone : user.failedAttempts = 1 := Option.some.inj hstored
  omega

end OtaRobot.Auth
