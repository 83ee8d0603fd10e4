import OtaRobot.Auth.Lockout
import OtaRobot.Auth.Succession
import OtaRobot.Library.Base64

/-!
# Refresh tokens are single use

One session: a login, and any number of refreshes and logouts that present tokens issued in it,
interleaved.  The tokens are single use when every refresh deletes a token that is still stored
and records the next one, and when the last token is deleted while no request holds the chain;
without that they are not: {lit}`Refresh` ignores what its statements answer.

Main results:

- Theorem {lit}`exchange_step`: at most one refresh has deleted a token.
- Theorem {lit}`tokens_single_use`: one stored token, one exchange a token, a stored cookie, and no
  exchange after the logout.
-/

namespace OtaRobot.Auth

open Agent (Bytes)
open Prog Transition

/-! ## The property -/

/-- The request has answered with a new session. -/
def Renewed (i : Nat) (c : Config) : Prop :=
  ∃ e ∈ c.trace, e.thread = i ∧ ∃ token, issuedToken e = some token

/-- At most one token of the session is stored, each token has been exchanged at most once, and
a refresh that is going to answer has stored the token of its cookie. -/
structure SingleUse (svc : AuthService) (c : Config) : Prop where
  single : ∀ t ∈ tokens c, ∀ t' ∈ tokens c, t.tokenHash ∈ insertedHashes c.trace →
    t'.tokenHash ∈ insertedHashes c.trace → t = t'
  once : ∀ i j token, requestOf i c = some (.refresh token) →
    requestOf j c = some (.refresh token) → Renewed i c → Renewed j c → i = j
  stored : ∀ i token user cookies k,
    c.thread i = some (.refresh token, .call (.respond (.session user cookies)) k) →
    ∃ t ∈ tokens c, t.tokenHash = hashRefreshToken svc cookies.refreshToken

/-- Once a logout with the last token that was issued has run to its end, no session is answered
and no token of the session is stored. -/
def LogoutFinal (svc : AuthService) (s : AuthStore) (ls : List Label) : Prop :=
  ∀ pre post m c i token, ls = pre ++ post → run (step svc) (start s) pre = some m →
    run (step svc) m post = some c → m.thread i = some (.logout token, .done ()) →
    token ≠ "" → (issuedTokens m.trace).getLast? = some token →
    issuedTokens c.trace = issuedTokens m.trace ∧
      ∀ t ∈ tokens c, t.tokenHash ∉ insertedHashes c.trace

/-! ## Exchanges -/

/-- A refresh that goes on has deleted its token, and was the only one to do so. -/
structure Exchange (svc : AuthService) (c : Config) : Prop where
  removed : ∀ i token, requestOf i c = some (.refresh token) → rotationOf svc i c ≠ .opened →
    rotationOf svc i c ≠ .closed → Deleted i c
  renewed : ∀ i token, requestOf i c = some (.refresh token) → Renewed i c → Deleted i c
  gone : ∀ i token, requestOf i c = some (.refresh token) → Deleted i c →
    ∀ t ∈ tokens c, t.tokenHash ≠ hashRefreshToken svc token
  once : ∀ i j token, requestOf i c = some (.refresh token) →
    requestOf j c = some (.refresh token) → Deleted i c → Deleted j c → i = j
  departed : ∀ i token p, c.thread i = some (.logout token, p) → token ≠ "" →
    p = logout svc token ∨ Deleted i c

section

variable {svc : AuthService} {chain : Chain} {c c' : Config} {i : Nat} {x : AuthChoice}
  {request : Request} {op : AuthOp} {k : op.Ret → Handling Unit} {r : op.Ret} {l : Label}

/-- Nothing was exchanged at the start. -/
theorem exchange_start (svc : AuthService) (s : AuthStore) : Exchange svc (start s) where
  removed i token h := by simp [requestOf, start, Machine.initial, Machine.Config.thread] at h
  renewed i token h := by simp [requestOf, start, Machine.initial, Machine.Config.thread] at h
  gone i token h := by simp [requestOf, start, Machine.initial, Machine.Config.thread] at h
  once i j token h := by simp [requestOf, start, Machine.initial, Machine.Config.thread] at h
  departed i token p h := by simp [start, Machine.initial, Machine.Config.thread] at h

/-- A request is renewed when it is answered with a token. -/
theorem renewed_executed (hs : (authMachine svc).Executed c c' i x request op k r) {j : Nat}
    (h : Renewed j c') : Renewed j c ∨ (j = i ∧ ∃ token, issuedToken ⟨i, op, r⟩ = some token) := by
  obtain ⟨e, he, hthread, htoken⟩ := h
  rw [hs.trace, List.mem_append, List.mem_singleton] at he
  rcases he with he | rfl
  · exact Or.inl ⟨e, he, hthread, htoken⟩
  · exact Or.inr ⟨hthread.symm, htoken⟩

/-- Whoever answers with a session has recorded its token. -/
theorem recorded_of_issued {token : String}
    (hallowed : (rotationOf svc i c).Allowed svc (request.role svc) op)
    (htoken : issuedToken ⟨i, op, r⟩ = some token) :
    rotationOf svc i c = .recorded (hashRefreshToken svc token) := by
  cases op with
  | respond reply =>
      cases reply with
      | session user cookies =>
          have heq : cookies.refreshToken = token := Option.some.inj htoken
          rw [← heq]
          exact hallowed
      | _ => cases htoken
  | _ => cases htoken

/-- An operation that does not delete keeps the exchanges, if what it adds is new. -/
theorem Exchange.other (he : Exchange svc c)
    (hs : (authMachine svc).Executed c c' i x request op k r)
    (hallowed : (rotationOf svc i c).Allowed svc (request.role svc) op)
    (hop : op.isDelete = false)
    (hstage : ∀ token, requestOf i c = some (.refresh token) → rotationOf svc i c' ≠ .opened →
      rotationOf svc i c' ≠ .closed → Deleted i c)
    (hrows : ∀ j token, requestOf j c = some (.refresh token) → Deleted j c →
      ∀ t ∈ tokens c', t ∈ tokens c ∨ t.tokenHash ≠ hashRefreshToken svc token) :
    Exchange svc c' := by
  have hdeleted : ∀ j, Deleted j c' ↔ Deleted j c := by
    intro j
    rw [deleted_executed hs, hop]
    simp
  constructor
  · intro j token hrequest hopened hclosed
    rw [requestOf_executed hs] at hrequest
    rw [hdeleted]
    by_cases hij : i = j
    · subst hij
      exact hstage token hrequest hopened hclosed
    · rw [rotationOf_ne hs hij] at hopened hclosed
      exact he.removed j token hrequest hopened hclosed
  · intro j token hrequest hrenewed
    rw [requestOf_executed hs] at hrequest
    rw [hdeleted]
    rcases renewed_executed hs hrenewed with h | ⟨hji, token', htoken⟩
    · exact he.renewed j token hrequest h
    · subst hji
      have hrecorded := recorded_of_issued hallowed htoken
      exact he.removed j token hrequest (by simp [hrecorded]) (by simp [hrecorded])
  · intro j token hrequest hj t ht
    rw [requestOf_executed hs] at hrequest
    rw [hdeleted] at hj
    rcases hrows j token hrequest hj t ht with h | h
    · exact he.gone j token hrequest hj t h
    · exact h
  · intro j j' token hrequest hrequest' hj hj'
    rw [requestOf_executed hs] at hrequest hrequest'
    rw [hdeleted] at hj hj'
    exact he.once j j' token hrequest hrequest' hj hj'
  · intro j token p hthread htoken
    rw [hdeleted]
    rw [hs.threads] at hthread
    split at hthread
    · rename_i hji
      subst hji
      have hpair := Option.some.inj hthread
      have hrequest : request = .logout token := congrArg Prod.fst hpair
      subst hrequest
      rcases he.departed j token _ hs.before htoken with h | h
      · -- The first operation of a logout deletes.
        rw [logout, if_neg htoken] at h
        have hcall : op = .deleteRefreshToken (hashRefreshToken svc token) :=
          (Prog.call.inj h).1
        rw [hcall] at hop
        cases hop
      · exact Or.inr h
    · exact he.departed j token p hthread htoken

/-- A refresh that deletes its token was the first to do so. -/
theorem Exchange.delete (he : Exchange svc c)
    (hs : (authMachine svc).Executed c c' i x request op k r) {hash : String}
    (hrows : ∀ t ∈ tokens c', t ∈ tokens c)
    (hrefresh : ∀ token, request = .refresh token →
      hash = hashRefreshToken svc token ∧ (∃ t ∈ tokens c, t.tokenHash = hash) ∧
        ∀ t ∈ tokens c', t.tokenHash ≠ hash)
    (hop : op = .deleteRefreshToken hash) : Exchange svc c' := by
  have hself : Deleted i c' := by
    rw [deleted_executed hs, hop]
    exact Or.inr ⟨rfl, rfl⟩
  have hother : ∀ j, i ≠ j → Deleted j c' → Deleted j c := by
    intro j hij h
    rcases (deleted_executed hs j).mp h with h | ⟨hji, -⟩
    · exact h
    · exact absurd hji.symm hij
  have hrequest_self : ∀ token, requestOf i c' = some (.refresh token) →
      request = .refresh token := by
    intro token h
    rw [requestOf_executed hs, requestOf_self hs] at h
    exact Option.some.inj h
  -- Nobody else has deleted what was stored until now.
  have hfirst : ∀ j token, i ≠ j → requestOf i c' = some (.refresh token) →
      requestOf j c' = some (.refresh token) → ¬ Deleted j c' := by
    intro j token hij hi hj hdeleted
    obtain ⟨hhash, ⟨t, ht, heq⟩, -⟩ := hrefresh token (hrequest_self token hi)
    rw [requestOf_executed hs] at hj
    exact he.gone j token hj (hother j hij hdeleted) t ht (heq.trans hhash)
  constructor
  · intro j token hrequest hopened hclosed
    by_cases hij : i = j
    · exact hij ▸ hself
    · rw [requestOf_executed hs] at hrequest
      rw [rotationOf_ne hs hij] at hopened hclosed
      exact (deleted_executed hs j).mpr (Or.inl (he.removed j token hrequest hopened hclosed))
  · intro j token hrequest hrenewed
    by_cases hij : i = j
    · exact hij ▸ hself
    · rw [requestOf_executed hs] at hrequest
      rcases renewed_executed hs hrenewed with h | ⟨hji, -⟩
      · exact (deleted_executed hs j).mpr (Or.inl (he.renewed j token hrequest h))
      · exact absurd hji.symm hij
  · intro j token hrequest hj t ht
    by_cases hij : i = j
    · subst hij
      obtain ⟨hhash, -, hfiltered⟩ := hrefresh token (hrequest_self token hrequest)
      rw [← hhash]
      exact hfiltered t ht
    · rw [requestOf_executed hs] at hrequest
      exact he.gone j token hrequest (hother j hij hj) t (hrows t ht)
  · intro j j' token hrequest hrequest' hj hj'
    by_cases hij : i = j
    · subst hij
      by_contra hne
      exact hfirst j' token hne hrequest hrequest' hj'
    · by_cases hij' : i = j'
      · subst hij'
        exact absurd hj (hfirst j token hij hrequest' hrequest)
      · rw [requestOf_executed hs] at hrequest hrequest'
        exact he.once j j' token hrequest hrequest' (hother j hij hj) (hother j' hij' hj')
  · intro j token p hthread htoken
    rw [hs.threads] at hthread
    split at hthread
    · rename_i hji
      exact Or.inr (hji ▸ hself)
    · rcases he.departed j token p hthread htoken with h | h
      · exact Or.inl h
      · exact Or.inr ((deleted_executed hs j).mpr (Or.inl h))

/-- A request that starts has exchanged nothing. -/
theorem Exchange.spawned (he : Exchange svc c) (hc : Session svc chain c)
    (hs : (authMachine svc).Spawned c c' i request) : Exchange svc c' := by
  have hnil : Machine.eventsOf i c.trace = [] :=
    Machine.eventsOf_eq_nil hc.disciplined.closed hs.fresh
  have hrows : tokens c' = tokens c := by
    have haccept : some c.store = some c'.store := hs.accepted
    rw [tokens, ← Option.some.inj haccept]
    rfl
  have hdeleted : ∀ j, Deleted j c' ↔ Deleted j c := by
    intro j
    rw [Deleted, hs.trace]
    rfl
  have hrenewed : ∀ j, Renewed j c' ↔ Renewed j c := by
    intro j
    rw [Renewed, hs.trace]
    rfl
  have hsilent : ∀ e ∈ c.trace, e.thread ≠ i := fun e he hthread =>
    hc.disciplined.closed e he (hthread ▸ hs.fresh)
  have hnot : ¬ Deleted i c := by
    intro h
    obtain ⟨e, hmem, hthread, -⟩ := h
    exact hsilent e hmem hthread
  have hbefore : ∀ j request', requestOf j c' = some request' → j ≠ i →
      requestOf j c = some request' := by
    intro j request' h hji
    rwa [requestOf_spawned hs, if_neg hji] at h
  constructor
  · intro j token hrequest hopened hclosed
    rw [rotationOf_spawned hs] at hopened hclosed
    rw [hdeleted]
    by_cases hji : j = i
    · rw [hji, rotationOf, hnil] at hopened
      exact absurd rfl hopened
    · exact he.removed j token (hbefore j _ hrequest hji) hopened hclosed
  · intro j token hrequest h
    rw [hrenewed] at h
    rw [hdeleted]
    by_cases hji : j = i
    · obtain ⟨e, hmem, hthread, -⟩ := h
      exact absurd (hthread.trans hji) (hsilent e hmem)
    · exact he.renewed j token (hbefore j _ hrequest hji) h
  · intro j token hrequest hj
    rw [hdeleted] at hj
    rw [hrows]
    by_cases hji : j = i
    · exact absurd (hji ▸ hj) hnot
    · exact he.gone j token (hbefore j _ hrequest hji) hj
  · intro j j' token hrequest hrequest' hj hj'
    rw [hdeleted] at hj hj'
    have hji : j ≠ i := fun h => hnot (h ▸ hj)
    have hji' : j' ≠ i := fun h => hnot (h ▸ hj')
    exact he.once j j' token (hbefore j _ hrequest hji) (hbefore j' _ hrequest' hji') hj hj'
  · intro j token p hthread htoken
    rw [hdeleted]
    rw [hs.threads] at hthread
    split at hthread
    · have hpair := Option.some.inj hthread
      have hrequest : request = .logout token := congrArg Prod.fst hpair
      subst hrequest
      exact Or.inl (congrArg Prod.snd hpair).symm
    · exact he.departed j token p hthread htoken

/-- At most one refresh has deleted a token. -/
theorem exchange_step (he : Exchange svc c) (hc : Session svc chain c)
    (horder : InOrder svc c l) (h : step svc c l = some c') : Exchange svc c' := by
  obtain ⟨i, request, -, hs⟩ | ⟨i, x, request, op, k, r, hl, hs⟩ := Machine.step_cases h
  · exact he.spawned hc hs
  · have hallowed : (rotationOf svc i c).Allowed svc (request.role svc) op :=
      hc.disciplined.allowed hs
    have heffect := executed_effect hs hallowed (answer_of_inOrder horder hl hs hallowed)
    cases heffect with
    | kept _ hrows hstage hop =>
        apply he.other hs hallowed hop
        · intro token hrequest hopened hclosed
          rw [hstage] at hopened hclosed
          exact he.removed i token hrequest hopened hclosed
        · intro j token _ _ t ht
          exact Or.inl (hrows ▸ ht)
    | failed _ hrows _ hstage hop =>
        apply he.other hs hallowed hop
        · intro token _ _ hclosed
          exact absurd hstage hclosed
        · intro j token _ _ t ht
          exact Or.inl (hrows ▸ ht)
    | drew b _ hrows _ _ _ hbefore hstage hop =>
        apply he.other hs hallowed (by rw [hop]; rfl)
        · intro token hrequest _ _
          rcases hbefore with ⟨hrole, -⟩ | ⟨hash, -, hremoved⟩
          · rw [requestOf_self hs] at hrequest
            obtain rfl := Option.some.inj hrequest
            cases hrole
          · exact he.removed i token hrequest (by simp [hremoved]) (by simp [hremoved])
        · intro j token _ _ t ht
          exact Or.inl (hrows ▸ ht)
    | recorded t hrows _ _ _ _ hbefore _ hop =>
        apply he.other hs hallowed hop
        · intro token hrequest _ _
          exact he.removed i token hrequest (by simp [hbefore]) (by simp [hbefore])
        · intro j token hrequest _ u hu
          rw [hrows, List.mem_append, List.mem_singleton] at hu
          rcases hu with hu | hu
          · exact Or.inl hu
          · right
            intro hhash
            have hin : hashRefreshToken svc token ∈ insertedHashes c.trace :=
              hc.presented_inserted hrequest (Or.inl rfl)
            rw [hu] at hhash
            exact (hc.drawn i _ hbefore).2.1 (hhash ▸ hin)
    | issued token hrows _ _ _ _ hstage hop =>
        apply he.other hs hallowed hop
        · intro token' _ _ hclosed
          exact absurd hstage hclosed
        · intro j token' _ _ t ht
          exact Or.inl (hrows ▸ ht)
    | deleted hash _ hrows hrole _ _ hop =>
        have hsub : ∀ t ∈ tokens c', t ∈ tokens c := by
          intro t ht
          rw [hrows] at ht
          split at ht
          · exact ht
          · exact List.mem_of_mem_filter ht
        apply he.delete hs hsub ?_ hop
        intro token hrequest
        subst hrequest hop
        obtain ⟨hfault, hstored⟩ := horder.delete i x token hash k hl hs.before
        have hhash : hash = hashRefreshToken svc token := by
          rcases hrole with h | h
          · exact (Role.refresh.inj h).symm
          · cases h
        refine ⟨hhash, hstored, ?_⟩
        intro t ht
        rw [hrows, hfault, if_neg Bool.false_ne_true, List.mem_filter] at ht
        simpa using ht.2

/-! ## What the invariants say -/

/-- The invariant gives all that is asked of the tokens. -/
theorem singleUse_of_session (hc : Session svc chain c) (he : Exchange svc c) :
    SingleUse svc c where
  single t ht t' ht' hin hin' := by
    have hcurrent := hc.rows t ht hin
    rw [hc.rows t' ht' hin'] at hcurrent
    exact hc.single t ht t' ht' hin (Option.some.inj hcurrent).symm
  once i j token hrequest hrequest' hi hj :=
    he.once i j token hrequest hrequest' (he.renewed i token hrequest hi)
      (he.renewed j token hrequest' hj)
  stored i token user cookies k hthread := by
    have hstage : rotationOf svc i c = .recorded (hashRefreshToken svc cookies.refreshToken) :=
      (hc.disciplined.obeys i _ _ hthread).1
    have hholds : Holds svc i c := by
      refine ⟨.refresh token, by rw [requestOf, hthread]; rfl, ?_⟩
      rw [hstage]
      rfl
    have hchain := hc.recorded_of_stage hholds hstage
    exact (hc.present _ (by rw [hchain]; rfl)).2

/-- A session that has ended answers with no token. -/
theorem issued_of_ended (hc : Session svc .ended c) (horder : InOrder svc c l)
    (h : step svc c l = some c') : issuedTokens c'.trace = issuedTokens c.trace := by
  obtain ⟨i, request, -, hs⟩ | ⟨i, x, request, op, k, r, hl, hs⟩ := Machine.step_cases h
  · rw [hs.trace]
  · have hallowed : (rotationOf svc i c).Allowed svc (request.role svc) op :=
      hc.disciplined.allowed hs
    have heffect := executed_effect hs hallowed (answer_of_inOrder horder hl hs hallowed)
    cases heffect with
    | kept hlists | failed hlists | deleted _ hlists => exact hlists.issued
    | drew _ _ _ _ _ hissued => exact hissued
    | recorded _ _ _ _ hissued => exact hissued
    | issued token _ _ _ _ hbefore =>
        have hholds : Holds svc i c := by
          rw [holds_self hs, hbefore]
          cases request <;> rfl
        cases (hc.holder i).mp hholds

/-- A session that has ended stays so. -/
theorem ended_step (hc : Session svc .ended c) (hsome : ∃ j, c.thread j ≠ none)
    (hone : OneSession svc c l) (horder : InOrder svc c l) (h : step svc c l = some c') :
    Session svc .ended c' ∧ (∃ j, c'.thread j ≠ none) ∧
      issuedTokens c'.trace = issuedTokens c.trace := by
  obtain ⟨chain', hchain', hended⟩ := chain_step hc hone horder h
  have heq : chain' = .ended := hended hsome rfl
  subst heq
  refine ⟨hchain', ?_, issued_of_ended hc horder h⟩
  obtain ⟨j, hj⟩ := hsome
  exact ⟨j, Machine.step_thread_ne_none h hj⟩

/-- A logout with the last token that has run to its end ends the session. -/
theorem ended_of_logout (hc : Session svc chain c) (he : Exchange svc c) {token : String}
    (hthread : c.thread i = some (.logout token, .done ())) (htoken : token ≠ "")
    (hlast : (issuedTokens c.trace).getLast? = some token) : chain = .ended := by
  have hrequest : requestOf i c = some (.logout token) := by
    rw [requestOf, hthread]
    rfl
  have hdeleted : Deleted i c := by
    rcases he.departed i token _ hthread htoken with h | h
    · rw [logout, if_neg htoken] at h
      cases h
    · exact h
  rcases hc.departed i token hrequest hdeleted with h | h
  · exact h
  · exact absurd hlast h

end

/-! ## Runs -/

section

variable {svc : AuthService} {s : AuthStore} {ls : List Label}

/-- One session whose refreshes delete and record in order, and whose logout of the last token
waits for them: at any time one of its tokens is stored at most, each token is exchanged once at
most, a refresh answers with a token that is stored, and the logout of the last token is final. -/
theorem tokens_single_use (hone : EachStep (step svc) (OneSession svc) (start s) ls)
    (horder : EachStep (step svc) (InOrder svc) (start s) ls) :
    EveryState (step svc) (SingleUse svc) (start s) ls ∧ LogoutFinal svc s ls := by
  have hstart : (∃ chain, Session svc chain (start s)) ∧ Exchange svc (start s) :=
    ⟨⟨.ended, session_start s⟩, exchange_start svc s⟩
  have hstep : ∀ c l c', ((∃ chain, Session svc chain c) ∧ Exchange svc c) →
      (OneSession svc c l ∧ InOrder svc c l) → step svc c l = some c' →
      (∃ chain, Session svc chain c') ∧ Exchange svc c' := by
    intro c l c' hc hl h
    obtain ⟨⟨chain, hchain⟩, he⟩ := hc
    obtain ⟨chain', hchain', -⟩ := chain_step hchain hl.1 hl.2 h
    exact ⟨⟨chain', hchain'⟩, exchange_step he hchain hl.2 h⟩
  have hlabels := hone.and horder
  constructor
  · apply EveryState.of_eachStep hstep ?_ hstart hlabels
    intro c hc
    obtain ⟨⟨chain, hchain⟩, he⟩ := hc
    exact singleUse_of_session hchain he
  · intro pre post m c i token hsplit hpre hpost hthread htoken hlast
    subst hsplit
    obtain ⟨⟨chain, hchain⟩, he⟩ := run_invariant_of_eachStep hstep hstart hlabels.of_append hpre
    have hended : chain = .ended := ended_of_logout hchain he hthread htoken hlast
    subst hended
    -- From here on the session stays ended.
    have hend := run_invariant_of_eachStep
      (I := fun n => Session svc .ended n ∧ (∃ j, n.thread j ≠ none) ∧
        issuedTokens n.trace = issuedTokens m.trace)
      (fun n l n' hn hl h => by
        obtain ⟨hsession, hsome, hissued⟩ := ended_step hn.1 hn.2.1 hl.1 hl.2 h
        exact ⟨hsession, hsome, hissued.trans hn.2.2⟩)
      ⟨hchain, ⟨i, by simp [hthread]⟩, rfl⟩ (hlabels.suffix hpre) hpost
    refine ⟨hend.2.2, fun t ht hin => ?_⟩
    cases hend.1.rows t ht hin

end

/-! ## Concrete runs -/

/-- The executable form of {lit}`OneSession`. -/
def oneSession (svc : AuthService) (c : Config) : Label → Bool
  | .spawn _ (.login _) => c.threads.rows.isEmpty
  | .spawn _ (.refresh token) => token ∈ issuedTokens c.trace
  | .spawn _ (.logout token) => token ∈ issuedTokens c.trace
  | .step i x =>
      match c.thread i, x.random with
      | some (_, .call .readRandom _), some b =>
          hashOf svc b ∉ drawnHashes svc c.trace &&
            (tokens c).all fun t => t.tokenHash ≠ hashOf svc b
      | _, _ => true

theorem oneSession_spec {svc : AuthService} {c : Config} {l : Label}
    (h : oneSession svc c l = true) : OneSession svc c l := by
  constructor
  · intro i body hl j
    subst hl
    have hempty : c.threads.rows = [] := List.isEmpty_iff.mp h
    simp [Machine.Config.thread, Table.find?, hempty]
  · intro i token hl
    rcases hl with hl | hl
    · subst hl
      exact of_decide_eq_true h
    · subst hl
      exact of_decide_eq_true h
  · intro i x b request k hl hthread hrandom
    subst hl
    simp only [oneSession, hthread, hrandom, Bool.and_eq_true] at h
    refine ⟨of_decide_eq_true h.1, fun t ht => ?_⟩
    exact of_decide_eq_true (List.all_eq_true.mp h.2 t ht)

/-- No request holds the chain. -/
def noneHolds (svc : AuthService) (c : Config) : Bool :=
  c.threads.rows.all fun t => !(rotationOf svc t.id c).holds (t.tag.role svc)

theorem noneHolds_spec {svc : AuthService} {c : Config} (h : noneHolds svc c = true) (j : Nat) :
    ¬ Holds svc j c := by
  intro hholds
  obtain ⟨request, hrequest, hstage⟩ := hholds
  rw [requestOf, Machine.Config.thread, Option.map_map] at hrequest
  obtain ⟨t, ht, htag⟩ := Option.map_eq_some_iff.mp hrequest
  have htest := List.all_eq_true.mp h t (Table.mem_of_find? ht)
  have hid : t.id = j := Table.find?_key ht
  have htag' : t.tag = request := htag
  rw [hid, htag', hstage] at htest
  cases htest

/-- The executable form of {lit}`InOrder`. -/
def inOrder (svc : AuthService) (c : Config) : Label → Bool
  | .spawn _ _ => true
  | .step i x =>
      match c.thread i with
      | some (.refresh _, .call (.deleteRefreshToken hash) _) =>
          !x.fault && (tokens c).any fun t => t.tokenHash = hash
      | some (.refresh _, .call (.createRefreshToken p) _) =>
          (AuthStore.exec svc c.store (.createRefreshToken p) x).1
      | some (.logout _, .call (.deleteRefreshToken _) _) => !x.fault && noneHolds svc c
      | _ => true

theorem inOrder_spec {svc : AuthService} {c : Config} {l : Label}
    (h : inOrder svc c l = true) : InOrder svc c l := by
  constructor
  · intro i x token hash k hl hthread
    subst hl
    simp only [inOrder, hthread, Bool.and_eq_true, Bool.not_eq_true'] at h
    obtain ⟨t, ht, hhash⟩ := List.any_eq_true.mp h.2
    exact ⟨h.1, t, ht, of_decide_eq_true hhash⟩
  · intro i x token p k hl hthread
    subst hl
    simp only [inOrder, hthread] at h
    exact h
  · intro i x token hash k hl hthread _
    subst hl
    simp only [inOrder, hthread, Bool.and_eq_true, Bool.not_eq_true'] at h
    exact ⟨h.1, noneHolds_spec h.2⟩

/-- Bytes that {lit}`rand.Read` may have filled in. -/
def randomBytes (offset : Nat) : Bytes :=
  (List.range 32).map fun n => UInt8.ofNat (offset + n)

/-- A token. -/
def firstToken : String :=
  "AAECAwQFBgcICQoLDA0ODxAREhMUFRYXGBkaGxwdHh8="

/-- Another token. -/
def secondToken : String :=
  "ICEiIyQlJicoKSorLC0uLzAxMjM0NTY3ODk6Ozw9Pj8="

/-- A third token. -/
def thirdToken : String :=
  "QEFCQ0RFRkdISUpLTE1OT1BRUlNUVVZXWFlaW1xdXl8="

/-- SHA-256 of the three tokens. -/
def digestOf (data : Bytes) : Bytes :=
  let text :=
    if data = firstToken.toUTF8.data.toList then
      "905f28def18eaac05ae6f12b2c3452744afaf626da1343d57b395b544e0519b6"
    else if data = secondToken.toUTF8.data.toList then
      "b919fd68efaadd92c9f96482c1477a28083e94a93fa7e10be6237ca824c22a06"
    else if data = thirdToken.toUTF8.data.toList then
      "d97d14cfb5bf28ccbb6e8d5651376b753376242452d744938635699be672050a"
    else ""
  (Agent.hexDecode text).getD []

/-- {lit}`base64.URLEncoding`. -/
def encodeURL (data : Bytes) : String :=
  String.ofList <| (Base64.encode data).toList.map fun ch =>
    if ch = '+' then '-' else if ch = '/' then '_' else ch

/-- A service with these tokens. -/
def tokenService : AuthService where
  checkPassword := passwordService.checkPassword
  sum256 := digestOf
  encodeBase64URL := encodeURL

/-- Request {lit}`i` executes {lit}`n` operations; the random source is at {lit}`offset`. -/
def handles (i n offset : Nat) : List Label :=
  List.replicate n (.step i { uuid := i, random := some (randomBytes offset) })

/-- A login. -/
def signIn : List Label :=
  .spawn 0 (.login (some ⟨"admin", "abc123xyz"⟩)) :: handles 0 9 0

/-- A login, a refresh, a logout, and a refresh that finds nothing. -/
def orderly : List Label :=
  signIn ++ .spawn 1 (.refresh firstToken) :: handles 1 9 32 ++
    .spawn 2 (.logout secondToken) :: handles 2 2 0 ++
    .spawn 3 (.refresh secondToken) :: handles 3 2 0

/-- Two refreshes that look up one token before either deletes it. -/
def racing : List Label :=
  signIn ++ [.spawn 1 (.refresh firstToken), .spawn 2 (.refresh firstToken)] ++
    handles 1 1 32 ++ handles 2 1 64 ++ handles 1 8 32 ++ handles 2 8 64

/-- The session of one login that is refreshed once and left. -/
theorem tokens_single_use_orderly :
    (run (step tokenService) (start adminStore) orderly).isSome = true ∧
      EveryState (step tokenService) (SingleUse tokenService) (start adminStore) orderly ∧
        LogoutFinal tokenService adminStore orderly :=
  ⟨by decide +kernel, tokens_single_use
    (EachStep.of_eachStep (fun _ _ => oneSession_spec) (by decide +kernel))
    (EachStep.of_eachStep (fun _ _ => inOrder_spec) (by decide +kernel))⟩

/-- The request has answered with a new session. -/
def renewed (i : Nat) (c : Config) : Bool :=
  c.trace.any fun e => e.thread = i && (issuedToken e).isSome

theorem renewed_spec {i : Nat} {c : Config} (h : renewed i c = true) : Renewed i c := by
  obtain ⟨e, he, htest⟩ := List.any_eq_true.mp h
  rw [Bool.and_eq_true, decide_eq_true_eq] at htest
  exact ⟨e, he, htest.1, Option.isSome_iff_exists.mp htest.2⟩

/-- Two refreshes exchange one token, each for a token of its own. -/
theorem token_exchanged_twice :
    ¬ ∀ (svc : AuthService) (s : AuthStore) (ls : List Label),
      EachStep (step svc) (OneSession svc) (start s) ls →
        EveryState (step svc) (SingleUse svc) (start s) ls ∧ LogoutFinal svc s ls := by
  intro h
  have hone : EachStep (step tokenService) (OneSession tokenService) (start adminStore) racing :=
    EachStep.of_eachStep (fun _ _ => oneSession_spec) (by decide +kernel)
  have hend : endsWith (step tokenService) (start adminStore) racing (fun c =>
      renewed 1 c && renewed 2 c && requestOf 1 c = some (.refresh firstToken) &&
        requestOf 2 c = some (.refresh firstToken)) = true := by
    decide +kernel
  obtain ⟨c, hrun, htest⟩ := endsWith_eq_true hend
  simp only [Bool.and_eq_true, decide_eq_true_eq] at htest
  obtain ⟨⟨⟨hfirst, hsecond⟩, hrequest⟩, hrequest'⟩ := htest
  have hsingle := (h tokenService adminStore racing hone).1.last hrun
  have heq := hsingle.once 1 2 firstToken hrequest hrequest' (renewed_spec hfirst)
    (renewed_spec hsecond)
  omega

end OtaRobot.Auth
