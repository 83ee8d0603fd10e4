import OtaRobot.Auth.Rotation

/-!
# The chain of refresh tokens

A session is a chain of tokens, each of which was issued in exchange for the one before it.  At
any time its last token is stored, or one request holds it: the login before its first token, or
a refresh between its delete and its answer.  When the holder gives up, the chain ends.

Main results:

- Theorem {lit}`executed_effect`: what one operation of a request does to the chain.
- Theorem {lit}`session_start`: before the login the chain has ended.
-/

namespace OtaRobot.Auth

open Agent (Bytes)
open Prog Transition

/-! ## What the history says about tokens -/

/-- The digests that were inserted, in order. -/
def insertedHashes (trace : List Record) : List String :=
  trace.filterMap insertedHash

/-- The digests of the tokens that were drawn, in order. -/
def drawnHashes (svc : AuthService) (trace : List Record) : List String :=
  trace.filterMap (drawnHash svc)

/-- The tokens that were set as cookies, in order. -/
def issuedTokens (trace : List Record) : List String :=
  trace.filterMap issuedToken

/-- How far a request is. -/
def rotationOf (svc : AuthService) (i : Nat) (c : Config) : Rotation :=
  (Machine.eventsOf i c.trace).foldl (fun stage e => stage.next svc e.op e.ret) .opened

/-- The rows of {lit}`refresh_tokens`. -/
def tokens (c : Config) : List RefreshToken :=
  c.store.refreshTokens.rows

/-- The request has tried to delete the token it was presented. -/
def Deleted (i : Nat) (c : Config) : Prop :=
  ∃ e ∈ c.trace, e.thread = i ∧ ∃ hash, e.op = .deleteRefreshToken hash

/-- The operation deletes a token. -/
def AuthOp.isDelete : AuthOp → Bool
  | .deleteRefreshToken _ => true
  | _ => false

section

variable {svc : AuthService} {c c' : Config} {i : Nat} {x : AuthChoice} {request : Request}
  {op : AuthOp} {k : op.Ret → Handling Unit} {r : op.Ret}

/-- An operation changes the rotation of its own request. -/
theorem rotationOf_executed (hs : (authMachine svc).Executed c c' i x request op k r) (j : Nat) :
    rotationOf svc j c' =
      if i = j then (rotationOf svc j c).next svc op r else rotationOf svc j c := by
  rw [rotationOf, hs.trace]
  exact Machine.ghost_append (rotationDiscipline svc request) .opened j c.trace ⟨i, op, r⟩

/-- The rotation of the others stays. -/
theorem rotationOf_ne (hs : (authMachine svc).Executed c c' i x request op k r) {j : Nat}
    (hne : i ≠ j) : rotationOf svc j c' = rotationOf svc j c := by
  rw [rotationOf_executed hs, if_neg hne]

/-- A request that starts changes no rotation. -/
theorem rotationOf_spawned (hs : (authMachine svc).Spawned c c' i request) (j : Nat) :
    rotationOf svc j c' = rotationOf svc j c := by
  rw [rotationOf, hs.trace]
  rfl

/-- What an operation answers and stores. -/
theorem exec_answer (hs : (authMachine svc).Executed c c' i x request op k r) :
    r = (AuthStore.exec svc c.store op x).1 ∧ c'.store = (AuthStore.exec svc c.store op x).2 := by
  have heffect : AuthStore.exec svc c.store op x = (r, c'.store) := hs.effect
  exact ⟨by rw [heffect], by rw [heffect]⟩

/-! ## The effect of one operation -/

/-- What the history says of tokens is the same. -/
structure SameLists (svc : AuthService) (c c' : Config) : Prop where
  inserted : insertedHashes c'.trace = insertedHashes c.trace
  drawn : drawnHashes svc c'.trace = drawnHashes svc c.trace
  issued : issuedTokens c'.trace = issuedTokens c.trace

/-- What an operation of request {lit}`i` does to the chain. -/
inductive Effect (svc : AuthService) (c c' : Config) (i : Nat) (role : Role) (x : AuthChoice)
    (op : AuthOp) : Prop where
  | kept (hlists : SameLists svc c c') (hrows : tokens c' = tokens c)
      (hstage : rotationOf svc i c' = rotationOf svc i c) (hop : op.isDelete = false)
  | failed (hlists : SameLists svc c c') (hrows : tokens c' = tokens c)
      (hbefore : ∀ hash, rotationOf svc i c ≠ .recorded hash)
      (hstage : rotationOf svc i c' = .closed) (hop : op.isDelete = false)
  | drew (b : Bytes) (hrandom : x.random = some b) (hrows : tokens c' = tokens c)
      (hinserted : insertedHashes c'.trace = insertedHashes c.trace)
      (hdrawn : drawnHashes svc c'.trace = drawnHashes svc c.trace ++ [hashOf svc b])
      (hissued : issuedTokens c'.trace = issuedTokens c.trace)
      (hbefore : (role = .login ∧ rotationOf svc i c = .opened) ∨
        ∃ hash, role = .refresh hash ∧ rotationOf svc i c = .removed)
      (hstage : rotationOf svc i c' = .drawn (hashOf svc b)) (hop : op = .readRandom)
  | recorded (t : RefreshToken) (hrows : tokens c' = tokens c ++ [t])
      (hinserted : insertedHashes c'.trace = insertedHashes c.trace ++ [t.tokenHash])
      (hdrawn : drawnHashes svc c'.trace = drawnHashes svc c.trace)
      (hissued : issuedTokens c'.trace = issuedTokens c.trace)
      (hrole : ∀ hash, role ≠ .logout hash)
      (hbefore : rotationOf svc i c = .drawn t.tokenHash)
      (hstage : rotationOf svc i c' = .recorded t.tokenHash) (hop : op.isDelete = false)
  | issued (token : String) (hrows : tokens c' = tokens c)
      (hinserted : insertedHashes c'.trace = insertedHashes c.trace)
      (hdrawn : drawnHashes svc c'.trace = drawnHashes svc c.trace)
      (hissued : issuedTokens c'.trace = issuedTokens c.trace ++ [token])
      (hbefore : rotationOf svc i c = .recorded (hashRefreshToken svc token))
      (hstage : rotationOf svc i c' = .closed) (hop : op.isDelete = false)
  | deleted (hash : String) (hlists : SameLists svc c c')
      (hrows : tokens c' = if x.fault = true then tokens c
        else (tokens c).filter fun t => t.tokenHash ≠ hash)
      (hrole : role = .refresh hash ∨ role = .logout hash)
      (hbefore : rotationOf svc i c = .opened) (hstage : rotationOf svc i c' = .removed)
      (hop : op = .deleteRefreshToken hash)

/-- An operation that inserts nothing. -/
theorem insertedHashes_of_none (hs : (authMachine svc).Executed c c' i x request op k r)
    (h : insertedHash ⟨i, op, r⟩ = none) : insertedHashes c'.trace = insertedHashes c.trace := by
  rw [insertedHashes, hs.trace, List.filterMap_append]
  simp [insertedHashes, h]

/-- An operation that draws nothing. -/
theorem drawnHashes_of_none (hs : (authMachine svc).Executed c c' i x request op k r)
    (h : drawnHash svc ⟨i, op, r⟩ = none) :
    drawnHashes svc c'.trace = drawnHashes svc c.trace := by
  rw [drawnHashes, hs.trace, List.filterMap_append]
  simp [drawnHashes, h]

/-- An operation that issues nothing. -/
theorem issuedTokens_of_none (hs : (authMachine svc).Executed c c' i x request op k r)
    (h : issuedToken ⟨i, op, r⟩ = none) : issuedTokens c'.trace = issuedTokens c.trace := by
  rw [issuedTokens, hs.trace, List.filterMap_append]
  simp [issuedTokens, h]

/-- An operation that does none of the three. -/
theorem sameLists_of_none (hs : (authMachine svc).Executed c c' i x request op k r)
    (hinserted : insertedHash ⟨i, op, r⟩ = none) (hdrawn : drawnHash svc ⟨i, op, r⟩ = none)
    (hissued : issuedToken ⟨i, op, r⟩ = none) : SameLists svc c c' where
  inserted := insertedHashes_of_none hs hinserted
  drawn := drawnHashes_of_none hs hdrawn
  issued := issuedTokens_of_none hs hissued

/-- Operations other than inserts and deletes of tokens leave the table alone. -/
theorem tokens_of_other (hs : (authMachine svc).Executed c c' i x request op k r)
    (hdelete : op.isDelete = false) (hcreate : ∀ p, op ≠ .createRefreshToken p) :
    tokens c' = tokens c := by
  rw [tokens, (exec_answer hs).2]
  cases op with
  | createRefreshToken p => exact absurd rfl (hcreate p)
  | deleteRefreshToken hash => cases hdelete
  | updateUserFailedAttempts | resetUserFailedAttempts =>
      simp only [AuthStore.exec, AuthStore.perform]
      split <;> rfl
  | _ => rfl

/-- An insert fails without an effect, or appends its row. -/
theorem AuthStore.createRefreshToken_cases (s : AuthStore) (uuid : Nat)
    (p : CreateRefreshTokenParams) :
    ((s.createRefreshToken uuid p).1 = false ∧
        (s.createRefreshToken uuid p).2.refreshTokens.rows = s.refreshTokens.rows) ∨
      ((s.createRefreshToken uuid p).1 = true ∧
        (s.createRefreshToken uuid p).2.refreshTokens.rows =
          s.refreshTokens.rows ++ [p.row uuid]) := by
  unfold AuthStore.createRefreshToken
  split
  · exact Or.inl ⟨rfl, rfl⟩
  · split
    · rename_i refreshTokens hinsert
      exact Or.inr ⟨rfl, Table.insert_rows hinsert⟩
    · exact Or.inl ⟨rfl, rfl⟩

/-- The insertion of a token adds its row. -/
theorem createRefreshToken_rows {p : CreateRefreshTokenParams} {k : Bool → Handling Unit}
    {r : Bool} (hs : (authMachine svc).Executed c c' i x request (.createRefreshToken p) k r) :
    (r = false ∧ tokens c' = tokens c) ∨
      (r = true ∧ ∃ t : RefreshToken, t.tokenHash = p.tokenHash ∧
        tokens c' = tokens c ++ [t]) := by
  have heffect : (if x.fault = true then (false, c.store.pass x.elapsed)
      else (c.store.pass x.elapsed).createRefreshToken x.uuid p) = (r, c'.store) := hs.effect
  by_cases hfault : x.fault = true
  · rw [if_pos hfault, Prod.mk.injEq] at heffect
    refine Or.inl ⟨heffect.1.symm, ?_⟩
    rw [tokens, ← heffect.2]
    rfl
  · rw [if_neg hfault] at heffect
    have hcases := (c.store.pass x.elapsed).createRefreshToken_cases x.uuid p
    rw [heffect] at hcases
    rcases hcases with ⟨hr, hrows⟩ | ⟨hr, hrows⟩
    · exact Or.inl ⟨hr, hrows⟩
    · exact Or.inr ⟨hr, _, rfl, hrows⟩

/-- An operation that leaves the lists and the rows alone keeps the stage, or fails. -/
theorem effect_quiet (hs : (authMachine svc).Executed c c' i x request op k r)
    (hlists : SameLists svc c c') (hrows : tokens c' = tokens c) (hop : op.isDelete = false)
    (hnext : (rotationOf svc i c).next svc op r = rotationOf svc i c ∨
      rotationOf svc i c = .removed ∧ (rotationOf svc i c).next svc op r = .closed) :
    Effect svc c c' i (request.role svc) x op := by
  have hstage : rotationOf svc i c' = (rotationOf svc i c).next svc op r := by
    rw [rotationOf_executed hs, if_pos rfl]
  rcases hnext with hkeep | ⟨hremoved, hclosed⟩
  · exact .kept hlists hrows (hstage.trans hkeep) hop
  · exact .failed hlists hrows (by simp [hremoved]) (hstage.trans hclosed) hop

/-- What one operation of a request does to the chain. -/
theorem executed_effect (hs : (authMachine svc).Executed c c' i x request op k r)
    (hallowed : (rotationOf svc i c).Allowed svc (request.role svc) op)
    (hanswer : Rotation.Answer (request.role svc) op r) :
    Effect svc c c' i (request.role svc) x op := by
  have hstage : rotationOf svc i c' = (rotationOf svc i c).next svc op r := by
    rw [rotationOf_executed hs, if_pos rfl]
  cases op with
  | getUserByEmailOrUsername | updateUserFailedAttempts | resetUserFailedAttempts
  | getRefreshToken | checkPassword | now =>
      apply effect_quiet hs (sameLists_of_none hs rfl rfl rfl) (tokens_of_other hs rfl (by simp)) rfl
      cases rotationOf svc i c <;> exact Or.inl rfl
  | getUserByID id =>
      apply effect_quiet hs (sameLists_of_none hs rfl rfl rfl) (tokens_of_other hs rfl (by simp)) rfl
      cases rotationOf svc i c with
      | removed =>
          cases (r : Option User) with
          | none => exact Or.inr ⟨rfl, rfl⟩
          | some user => exact Or.inl rfl
      | _ => exact Or.inl rfl
  | generateAccessToken id username role =>
      apply effect_quiet hs (sameLists_of_none hs rfl rfl rfl) (tokens_of_other hs rfl (by simp)) rfl
      cases rotationOf svc i c with
      | removed =>
          cases (r : Option String) with
          | none => exact Or.inr ⟨rfl, rfl⟩
          | some accessToken => exact Or.inl rfl
      | _ => exact Or.inl rfl
  | createRefreshToken p =>
      obtain ⟨hdrawn, hrole⟩ := hallowed
      rw [hdrawn] at hstage
      rcases createRefreshToken_rows hs with ⟨hr, hrows⟩ | ⟨hr, t, hhash, hrows⟩
      · subst hr
        exact .failed (sameLists_of_none hs rfl rfl rfl) hrows (by simp [hdrawn]) hstage rfl
      · subst hr
        have hdrawn' : rotationOf svc i c = .drawn t.tokenHash := hhash ▸ hdrawn
        have hstage' : rotationOf svc i c' = .recorded t.tokenHash := hhash ▸ hstage
        refine .recorded t hrows ?_ (drawnHashes_of_none hs rfl) (issuedTokens_of_none hs rfl) hrole
          hdrawn' hstage' rfl
        rw [insertedHashes, hs.trace, List.filterMap_append, hhash]
        rfl
  | readRandom =>
      have hrows : tokens c' = tokens c := tokens_of_other hs rfl (by simp)
      have hrandom : r = x.random := (exec_answer hs).1
      cases hr : (r : Option Bytes) with
      | none =>
          subst hr
          have hlists : SameLists svc c c' := sameLists_of_none hs rfl rfl rfl
          rcases hallowed with ⟨-, hopened⟩ | ⟨hash, -, hremoved⟩
          · rw [hopened] at hstage
            exact .kept hlists hrows (hstage.trans hopened.symm) rfl
          · rw [hremoved] at hstage
            exact .failed hlists hrows (by simp [hremoved]) hstage rfl
      | some b =>
          subst hr
          have hnext : rotationOf svc i c' = .drawn (hashOf svc b) := by
            rcases hallowed with ⟨-, hopened⟩ | ⟨hash, -, hremoved⟩
            · rw [hopened] at hstage
              exact hstage
            · rw [hremoved] at hstage
              exact hstage
          refine .drew b hrandom.symm hrows (insertedHashes_of_none hs rfl) ?_
            (issuedTokens_of_none hs rfl) hallowed hnext rfl
          rw [drawnHashes, hs.trace, List.filterMap_append]
          rfl
  | deleteRefreshToken hash =>
      obtain ⟨hopened, hrole⟩ := hallowed
      rw [hopened] at hstage
      refine .deleted hash (sameLists_of_none hs ?_ rfl rfl) ?_ hrole hopened hstage rfl
      · rfl
      · rw [tokens, (exec_answer hs).2]
        by_cases hfault : x.fault = true
        · simp [AuthStore.exec, AuthStore.perform, hfault, AuthStore.pass, tokens]
        · simp [AuthStore.exec, AuthStore.perform, hfault, AuthStore.pass, tokens,
            AuthStore.deleteRefreshToken, Table.filter]
  | respond reply =>
      have hrows : tokens c' = tokens c := tokens_of_other hs rfl (by simp)
      have hclosed : rotationOf svc i c' = .closed := by
        rw [hstage]
        cases rotationOf svc i c <;> rfl
      cases reply with
      | session user cookies =>
          refine .issued cookies.refreshToken hrows (insertedHashes_of_none hs rfl)
            (drawnHashes_of_none hs rfl) ?_ hallowed hclosed rfl
          rw [issuedTokens, hs.trace, List.filterMap_append]
          rfl
      | error | terminated =>
          exact .failed (sameLists_of_none hs rfl rfl rfl) hrows hallowed hclosed rfl

end

/-! ## The chain -/

/-- Where the last token of a session is: not recorded yet by the login, recorded by a request
that has not answered yet, stored, deleted by a refresh that goes on, or nowhere. -/
inductive Chain where
  | opening (i : Nat)
  | recorded (i : Nat) (hash : String)
  | stored (hash : String)
  | taken (i : Nat)
  | ended
deriving DecidableEq, Repr

/-- The hash that is stored. -/
def Chain.current : Chain → Option String
  | .recorded _ hash | .stored hash => some hash
  | _ => none

/-- The request that may record the next token, or is to answer with the last one. -/
def Chain.holder : Chain → Option Nat
  | .opening i | .recorded i _ | .taken i => some i
  | _ => none

/-- The request of a thread. -/
def requestOf (i : Nat) (c : Config) : Option Request :=
  (c.thread i).map fun t => t.1

/-- A request that is going to record a token, or to answer with the one it has recorded. -/
def Rotation.holds (role : Role) (stage : Rotation) : Bool :=
  match role, stage with
  | _, .drawn _ | _, .recorded _ => true
  | .login, stage => stage ≠ .closed
  | .refresh _, stage => stage = .removed
  | .logout _, _ => false

/-- The request holds the token it was sent. -/
def Holds (svc : AuthService) (i : Nat) (c : Config) : Prop :=
  ∃ request, requestOf i c = some request ∧
    (rotationOf svc i c).holds (request.role svc) = true

/-- What the place of the last token says about the stages. -/
def Chain.Fits (svc : AuthService) (c : Config) : Chain → Prop
  | .opening i | .taken i => ∀ hash, rotationOf svc i c ≠ .recorded hash
  | .recorded i hash => rotationOf svc i c = .recorded hash ∧
      hash ∉ (issuedTokens c.trace).map (hashRefreshToken svc)
  | .stored hash =>
      (issuedTokens c.trace).getLast?.map (hashRefreshToken svc) = some hash
  | .ended => True

/-- One login opens the session, and the other requests present tokens that were issued in it.
No two draws yield tokens with the same hash. -/
structure OneSession (svc : AuthService) (c : Config) (l : Label) : Prop where
  login : ∀ i body, l = .spawn i (.login body) → ∀ j, c.thread j = none
  presented : ∀ i token, l = .spawn i (.refresh token) ∨ l = .spawn i (.logout token) →
    token ∈ issuedTokens c.trace
  fresh : ∀ i x b request k, l = .step i x → c.thread i = some (request, .call .readRandom k) →
    x.random = some b → hashOf svc b ∉ drawnHashes svc c.trace ∧
      ∀ t ∈ tokens c, t.tokenHash ≠ hashOf svc b

/-- A refresh deletes a token that is still stored, and records the next one.  A logout deletes
the last token that was issued when no request is to record the next one or to answer with it. -/
structure InOrder (svc : AuthService) (c : Config) (l : Label) : Prop where
  delete : ∀ i x token hash k, l = .step i x →
    c.thread i = some (.refresh token, .call (.deleteRefreshToken hash) k) →
    x.fault = false ∧ ∃ t ∈ tokens c, t.tokenHash = hash
  insert : ∀ i x token p k, l = .step i x →
    c.thread i = some (.refresh token, .call (.createRefreshToken p) k) →
    (AuthStore.exec svc c.store (.createRefreshToken p) x).1 = true
  logout : ∀ i x token hash k, l = .step i x →
    c.thread i = some (.logout token, .call (.deleteRefreshToken hash) k) →
    (issuedTokens c.trace).getLast? = some token →
    x.fault = false ∧ ∀ j, ¬ Holds svc j c

/-- The last token of the session is where {lit}`chain` says, and nowhere else. -/
structure Session (svc : AuthService) (chain : Chain) (c : Config) : Prop where
  disciplined : Machine.Disciplined (rotationDiscipline svc) (fun _ _ => True)
    (fun _ => .opened) c
  holder : ∀ i, Holds svc i c ↔ chain.holder = some i
  fits : chain.Fits svc c
  rows : ∀ t ∈ tokens c, t.tokenHash ∈ insertedHashes c.trace →
    chain.current = some t.tokenHash
  single : ∀ t ∈ tokens c, ∀ t' ∈ tokens c, t.tokenHash ∈ insertedHashes c.trace →
    t.tokenHash = t'.tokenHash → t = t'
  present : ∀ hash, chain.current = some hash → hash ∈ insertedHashes c.trace ∧
    ∃ t ∈ tokens c, t.tokenHash = hash
  drawn : ∀ i hash, rotationOf svc i c = .drawn hash → hash ∈ drawnHashes svc c.trace ∧
    hash ∉ insertedHashes c.trace ∧ ∀ t ∈ tokens c, t.tokenHash ≠ hash
  inserted : ∀ hash ∈ insertedHashes c.trace, hash ∈ drawnHashes svc c.trace
  issued : ∀ token ∈ issuedTokens c.trace,
    hashRefreshToken svc token ∈ insertedHashes c.trace
  presented : ∀ i request hash, requestOf i c = some request →
    request.role svc = .refresh hash ∨ request.role svc = .logout hash →
    hash ∈ (issuedTokens c.trace).map (hashRefreshToken svc)
  login : ∀ i body, requestOf i c = some (.login body) → rotationOf svc i c ≠ .closed →
    issuedTokens c.trace = []
  departed : ∀ i token, requestOf i c = some (.logout token) → Deleted i c →
    chain = .ended ∨ (issuedTokens c.trace).getLast? ≠ some token

section

variable {svc : AuthService} {chain : Chain} {c c' : Config} {i : Nat} {x : AuthChoice}
  {request : Request} {op : AuthOp} {k : op.Ret → Handling Unit} {r : op.Ret} {l : Label}

/-- An operation changes no request. -/
theorem requestOf_executed (hs : (authMachine svc).Executed c c' i x request op k r) (j : Nat) :
    requestOf j c' = requestOf j c := by
  rw [requestOf, hs.threads]
  split
  · rename_i hji
    rw [hji, requestOf, hs.before]
    rfl
  · rfl

/-- The request of the thread that executes. -/
theorem requestOf_self (hs : (authMachine svc).Executed c c' i x request op k r) :
    requestOf i c = some request := by
  rw [requestOf, hs.before]
  rfl

/-- A request that starts is the one of its thread. -/
theorem requestOf_spawned (hs : (authMachine svc).Spawned c c' i request) (j : Nat) :
    requestOf j c' = if j = i then some request else requestOf j c := by
  rw [requestOf, hs.threads]
  split <;> rfl

/-- A token of the session that is presented has been recorded. -/
theorem Session.presented_inserted (hc : Session svc chain c) {hash : String}
    (hrequest : requestOf i c = some request)
    (hrole : request.role svc = .refresh hash ∨ request.role svc = .logout hash) :
    hash ∈ insertedHashes c.trace := by
  obtain ⟨token, htoken, rfl⟩ := List.mem_map.mp (hc.presented i request hash hrequest hrole)
  exact hc.issued token htoken

/-- No token is in use at the start. -/
theorem session_start (s : AuthStore) : Session svc .ended (start s) where
  disciplined := Machine.disciplined_initial _ _ _ _
  holder i := by
    constructor
    · intro h
      obtain ⟨request, hrequest, -⟩ := h
      simp [requestOf, start, Machine.initial, Machine.Config.thread] at hrequest
    · intro h
      cases h
  fits := trivial
  rows t _ h := by simp [insertedHashes, start, Machine.initial] at h
  single t _ t' _ h := by simp [insertedHashes, start, Machine.initial] at h
  present hash h := by cases h
  drawn i hash h := by simp [rotationOf, start, Machine.initial, Machine.eventsOf] at h
  inserted hash h := by simp [insertedHashes, start, Machine.initial] at h
  issued token h := by simp [issuedTokens, start, Machine.initial] at h
  presented i request hash h := by
    simp [requestOf, start, Machine.initial, Machine.Config.thread] at h
  login i body h := by simp [requestOf, start, Machine.initial, Machine.Config.thread] at h
  departed _ _ _ _ := Or.inl rfl

end

end OtaRobot.Auth
