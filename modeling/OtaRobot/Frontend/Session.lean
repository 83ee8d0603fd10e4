import Mathlib.Data.List.Infix
import Mathlib.Logic.Function.Basic
import OtaRobot.Library.Resumption
import OtaRobot.Library.Transition

/-!
# Requests and the refresh of the session

{lit}`fetchJSON` and {lit}`coordinatedRefresh` of {lit}`src/lib/api.ts`.  A call runs from one
{lit}`await` to the next without interruption; what it awaits settles at any time, and the rest of
the call is then queued and resumed at any later time.

Main results:

- Theorem {lit}`fetchJSON_budget`: what one call does at most.
- Theorem {lit}`page_step`: every event keeps one refresh.
- Theorem {lit}`refresh_single_flight`: the refresh is single flight and every call ends.

Current gaps:

- Headers, request bodies and the other options of a request are left out.
-/

namespace OtaRobot.Frontend

open Prog Transition

/-! ## Requests -/

/-- The part of a response the session code looks at. -/
structure Response where
  status : Nat
  statusText : String
deriving DecidableEq, Repr

/-- {lit}`response.ok`. -/
def Response.ok (response : Response) : Bool :=
  200 ≤ response.status && response.status ≤ 299

/-- A parsed body; {lit}`error` is its member of that name, if that is a text other than the empty
one. -/
structure Data where
  error : Option String
  content : String
deriving DecidableEq, Repr

/-- What a call rejects with: an error of the browser, or one of its own. -/
inductive Failure where
  | rejected
  | error (message : String)
deriving DecidableEq, Repr

/-- The data of a call, or how it has failed. -/
abbrev JSONResult := Except Failure Data

/-- What a call awaits. -/
inductive FetchOp where
  | fetch (url : String)
  | coordinatedRefresh
  | json
deriving DecidableEq, Repr

/-- Answers: {lean}`none` is a rejection. -/
def FetchOp.Ret : FetchOp → Type
  | .fetch _ => Option Response
  | .coordinatedRefresh => Bool
  | .json => Option Data

/-- A call, as a program over the browser's operations. -/
abbrev Fetching := Prog FetchOp.Ret

/-- {lit}`fetch`; {lit}`none` stands for a rejected promise. -/
def fetch (url : String) : Fetching (Option Response) :=
  perform (FetchOp.fetch url)

/-- The answer to a call of {lit}`coordinatedRefresh`. -/
def refreshed : Fetching Bool :=
  perform FetchOp.coordinatedRefresh

/-- {lit}`response.json()`; {lit}`none` stands for a body that is no JSON. -/
def json : Fetching (Option Data) :=
  perform FetchOp.json

/-- {lit}`url.includes(part)`. -/
def includes (url part : String) : Bool :=
  part.toList <:+: url.toList

/-- The urls whose 401 starts no refresh. -/
def isAuthMutation (url : String) : Bool :=
  includes url "/login" || includes url "/refresh" || includes url "/logout"

/-- {lit}`fetchJSON` from the response on. -/
def finishResponse (response : Response) : Fetching JSONResult :=
  if !response.ok then do
    let message := "Request failed: " ++ toString response.status ++ " " ++ response.statusText
    let data ← json
    return .error (.error (Option.getD (data.bind fun data => data.error) message))
  else do
    match ← json with
    | some data => return .ok data
    | none => return .error .rejected

/-- {lit}`fetchJSON` without a retry. -/
def fetchOnce (url : String) : Fetching JSONResult := do
  match ← fetch url with
  | none => return .error .rejected
  | some response => finishResponse response

/-- The refresh in {lit}`fetchJSON`; the call it makes of itself has no retry left. -/
def retryResponse (url : String) (retry : Bool) (response : Response) : Fetching JSONResult := do
  if response.status = 401 && retry && !isAuthMutation url then
    match ← refreshed with
    | true => fetchOnce url
    | false => finishResponse response
  else finishResponse response

/-- {lit}`fetchJSON`, with the flag that allows one repetition. -/
def fetchJSON (url : String) (retry : Bool) : Fetching JSONResult := do
  match ← fetch url with
  | none => return .error .rejected
  | some response => retryResponse url retry response

/-! ## What one call does -/

/-- What a call may still do: requests of its own, and other things to await. -/
structure Budget where
  requests : Nat
  others : Nat
deriving DecidableEq, Repr

/-- The operations that are left. -/
def Budget.left (g : Budget) : Nat :=
  g.requests + g.others

/-- Every operation is paid for. -/
def spending : Discipline FetchOp.Ret Budget where
  allowed g op :=
    match op with
    | .fetch _ => 0 < g.requests
    | .coordinatedRefresh | .json => 0 < g.others
  rely _ _ _ := True
  next g op _ :=
    match op with
    | .fetch _ => { g with requests := g.requests - 1 }
    | .coordinatedRefresh | .json => { g with others := g.others - 1 }

/-- The procedure stays within the budget. -/
abbrev Within (g : Budget) (p : Fetching JSONResult) : Prop :=
  Obeys spending (fun _ _ => True) g p

/-- Reading a response takes at most one more operation. -/
theorem finishResponse_within (response : Response) {g : Budget} (hg : 0 < g.others) :
    Within g (finishResponse response) := by
  unfold finishResponse
  split
  · exact ⟨hg, fun _ _ => trivial⟩
  · refine ⟨hg, fun data _ => ?_⟩
    cases data with
    | none => trivial
    | some data => trivial

/-- A call that may not be repeated sends one request. -/
theorem fetchOnce_within (url : String) {g : Budget} (hrequests : 0 < g.requests)
    (hothers : 0 < g.others) : Within g (fetchOnce url) := by
  refine ⟨hrequests, fun response _ => ?_⟩
  cases response with
  | none => trivial
  | some response => exact finishResponse_within response hothers

/-- A call sends two requests at most, and awaits at most one refresh and one body. -/
theorem fetchJSON_budget (url : String) (retry : Bool) : Within ⟨2, 2⟩ (fetchJSON url retry) := by
  refine ⟨Nat.succ_pos 1, fun response _ => ?_⟩
  cases response with
  | none => trivial
  | some response =>
      show Within ⟨1, 2⟩ (retryResponse url retry response)
      unfold retryResponse
      split
      · refine ⟨Nat.succ_pos 1, fun ok _ => ?_⟩
        cases ok with
        | false => exact finishResponse_within response (g := ⟨1, 1⟩) (Nat.succ_pos 0)
        | true => exact fetchOnce_within url (g := ⟨1, 1⟩) (Nat.succ_pos 0) (Nat.succ_pos 0)
      · exact finishResponse_within response (Nat.succ_pos 1)

/-! ## The page -/

/-- Where a call stands; {lit}`running` is the queued rest of one that was awakened. -/
inductive CallState where
  | running (p : Fetching JSONResult)
  | awaitingResponse (k : Option Response → Fetching JSONResult)
  | awaitingBody (k : Option Data → Fetching JSONResult)
  | awaitingRefresh (r : Nat) (k : Bool → Fetching JSONResult)
  | settled (result : JSONResult)

/-- Where a refresh stands; {lit}`responded` is the queued rest with its {lit}`finally` block. -/
inductive RefreshState where
  | requested
  | responded (ok : Bool)
  | finished (ok : Bool)
deriving DecidableEq, Repr

/-- The module variable, the refreshes and the calls that were started, and the calls whose
requests were sent, in order. -/
structure Page where
  activeRefreshPromise : Option Nat := none
  refreshes : Nat → Option RefreshState := fun _ => none
  nextRefresh : Nat := 0
  calls : Nat → Option CallState := fun _ => none
  sent : List Nat := []

namespace Page

/-- A call gets a new state. -/
def setCall (s : Page) (i : Nat) (c : CallState) : Page :=
  { s with calls := Function.update s.calls i (some c) }

/-- A refresh gets a new state. -/
def setRefresh (s : Page) (r : Nat) (state : RefreshState) : Page :=
  { s with refreshes := Function.update s.refreshes r (some state) }

/-- A refresh that sends its request. -/
def startRefresh (s : Page) : Page :=
  { s.setRefresh s.nextRefresh .requested with
    activeRefreshPromise := some s.nextRefresh
    nextRefresh := s.nextRefresh + 1 }

/-- {lit}`coordinatedRefresh` returns the refresh that is active, or starts one. -/
def coordinatedRefresh (s : Page) : Page × Nat :=
  match s.activeRefreshPromise with
  | some r => (s, r)
  | none => (s.startRefresh, s.nextRefresh)

/-- A call runs up to what it awaits next. -/
def proceed (s : Page) (i : Nat) : Fetching JSONResult → Page
  | .done result => s.setCall i (.settled result)
  | .call (.fetch _) k => { s.setCall i (.awaitingResponse k) with sent := s.sent ++ [i] }
  | .call .json k => s.setCall i (.awaitingBody k)
  | .call .coordinatedRefresh k =>
      s.coordinatedRefresh.1.setCall i (.awaitingRefresh s.coordinatedRefresh.2 k)

end Page

/-- What may happen on the page, in any order. -/
inductive PageEvent where
  | call (i : Nat) (url : String)
  | respond (i : Nat) (response : Option Response)
  | parse (i : Nat) (data : Option Data)
  | respondRefresh (r : Nat) (response : Option Response)
  | finishRefresh (r : Nat)
  | wake (i : Nat)
  | resume (i : Nat)
deriving DecidableEq, Repr

/-- A rejected refresh counts as one that failed; the {lit}`finally` block clears the variable. -/
def Page.step (s : Page) : PageEvent → Option Page
  | .call i url =>
      match s.calls i with
      | none => some (s.proceed i (fetchJSON url true))
      | some _ => none
  | .respond i response =>
      match s.calls i with
      | some (.awaitingResponse k) => some (s.setCall i (.running (k response)))
      | _ => none
  | .parse i data =>
      match s.calls i with
      | some (.awaitingBody k) => some (s.setCall i (.running (k data)))
      | _ => none
  | .respondRefresh r response =>
      match s.refreshes r with
      | some .requested => some (s.setRefresh r (.responded (response.any fun res => res.ok)))
      | _ => none
  | .finishRefresh r =>
      match s.refreshes r with
      | some (.responded ok) => some { s.setRefresh r (.finished ok) with activeRefreshPromise := none }
      | _ => none
  | .wake i =>
      match s.calls i with
      | some (.awaitingRefresh r k) =>
          match s.refreshes r with
          | some (.finished ok) => some (s.setCall i (.running (k ok)))
          | _ => none
      | _ => none
  | .resume i =>
      match s.calls i with
      | some (.running p) => some (s.proceed i p)
      | _ => none

/-! ## Steps -/

section

variable {s s' : Page}

/-- A call is started under a new number. -/
theorem step_call {i : Nat} {url : String} (h : s.step (.call i url) = some s') :
    s.calls i = none ∧ s' = s.proceed i (fetchJSON url true) := by
  simp only [Page.step] at h
  split at h
  · next hnone => exact ⟨hnone, (Option.some.inj h).symm⟩
  · cases h

/-- A response reaches the call that waits for it. -/
theorem step_respond {i : Nat} {response : Option Response}
    (h : s.step (.respond i response) = some s') :
    ∃ k, s.calls i = some (.awaitingResponse k) ∧ s' = s.setCall i (.running (k response)) := by
  simp only [Page.step] at h
  split at h
  · next k hk => exact ⟨k, hk, (Option.some.inj h).symm⟩
  · cases h

/-- A body reaches the call that waits for it. -/
theorem step_parse {i : Nat} {data : Option Data} (h : s.step (.parse i data) = some s') :
    ∃ k, s.calls i = some (.awaitingBody k) ∧ s' = s.setCall i (.running (k data)) := by
  simp only [Page.step] at h
  split at h
  · next k hk => exact ⟨k, hk, (Option.some.inj h).symm⟩
  · cases h

/-- The answer of a refresh reaches the one that was requested. -/
theorem step_respondRefresh {r : Nat} {response : Option Response}
    (h : s.step (.respondRefresh r response) = some s') :
    s.refreshes r = some .requested ∧
      s' = s.setRefresh r (.responded (response.any fun res => res.ok)) := by
  simp only [Page.step] at h
  split at h
  · next hrequested => exact ⟨hrequested, (Option.some.inj h).symm⟩
  · cases h

/-- A refresh that was answered is finished, and the page forgets it. -/
theorem step_finishRefresh {r : Nat} (h : s.step (.finishRefresh r) = some s') :
    ∃ ok, s.refreshes r = some (.responded ok) ∧
      s' = { s.setRefresh r (.finished ok) with activeRefreshPromise := none } := by
  simp only [Page.step] at h
  split at h
  · next ok hok => exact ⟨ok, hok, (Option.some.inj h).symm⟩
  · cases h

/-- A call goes on with the result of the refresh it waits for. -/
theorem step_wake {i : Nat} (h : s.step (.wake i) = some s') :
    ∃ r k ok, s.calls i = some (.awaitingRefresh r k) ∧ s.refreshes r = some (.finished ok) ∧
      s' = s.setCall i (.running (k ok)) := by
  simp only [Page.step] at h
  split at h
  · next r k hk =>
      split at h
      · next ok hok => exact ⟨r, k, ok, hk, hok, (Option.some.inj h).symm⟩
      · cases h
  · cases h

/-- A running call goes on. -/
theorem step_resume {i : Nat} (h : s.step (.resume i) = some s') :
    ∃ p, s.calls i = some (.running p) ∧ s' = s.proceed i p := by
  simp only [Page.step] at h
  split at h
  · next p hp => exact ⟨p, hp, (Option.some.inj h).symm⟩
  · cases h

end

/-! ## Parts of a step -/

section

variable {s : Page} {i : Nat}

@[simp]
theorem calls_setCall_self (s : Page) (i : Nat) (c : CallState) :
    (s.setCall i c).calls i = some c := by
  simp [Page.setCall]

theorem calls_setCall_of_ne {j : Nat} (h : j ≠ i) (c : CallState) :
    (s.setCall i c).calls j = s.calls j := by
  simp [Page.setCall, h]

@[simp]
theorem refreshes_setRefresh_self (s : Page) (r : Nat) (state : RefreshState) :
    (s.setRefresh r state).refreshes r = some state := by
  simp [Page.setRefresh]

theorem refreshes_setRefresh_of_ne {r r' : Nat} (h : r' ≠ r) (state : RefreshState) :
    (s.setRefresh r state).refreshes r' = s.refreshes r' := by
  simp [Page.setRefresh, h]

/-- Asking for a refresh changes no call. -/
@[simp]
theorem calls_coordinatedRefresh (s : Page) : s.coordinatedRefresh.1.calls = s.calls := by
  unfold Page.coordinatedRefresh
  split <;> rfl

/-- Asking for a refresh sends no request of a call. -/
@[simp]
theorem sent_coordinatedRefresh (s : Page) : s.coordinatedRefresh.1.sent = s.sent := by
  unfold Page.coordinatedRefresh
  split <;> rfl

/-- A call that goes on changes no other call. -/
theorem calls_proceed_of_ne {j : Nat} (h : j ≠ i) (p : Fetching JSONResult) :
    (s.proceed i p).calls j = s.calls j := by
  cases p with
  | done result => exact calls_setCall_of_ne h _
  | call op k =>
      cases op with
      | fetch url => exact calls_setCall_of_ne h _
      | json => exact calls_setCall_of_ne h _
      | coordinatedRefresh =>
          refine (calls_setCall_of_ne h _).trans ?_
          rw [calls_coordinatedRefresh]

/-- A call that goes on sends requests of its own only. -/
theorem count_sent_proceed_of_ne {j : Nat} (h : j ≠ i) (p : Fetching JSONResult) :
    (s.proceed i p).sent.count j = s.sent.count j := by
  cases p with
  | done result => rfl
  | call op k =>
      cases op with
      | fetch url =>
          show (s.sent ++ [i]).count j = s.sent.count j
          rw [List.count_append, List.count_singleton, if_neg (by simpa using h.symm)]
          rfl
      | json => rfl
      | coordinatedRefresh => exact congrArg (List.count j) (sent_coordinatedRefresh s)

end

/-! ## One refresh -/

/-- The refresh is started and its promise has not settled. -/
def Page.Outstanding (s : Page) (r : Nat) : Prop :=
  s.refreshes r = some .requested ∨ ∃ ok, s.refreshes r = some (.responded ok)

/-- The variable names the outstanding refresh, and every call waits for one that was started. -/
structure Single (s : Page) : Prop where
  fresh : ∀ r, s.nextRefresh ≤ r → s.refreshes r = none
  active : ∀ r, s.activeRefreshPromise = some r ↔ s.Outstanding r
  started : ∀ i r k, s.calls i = some (.awaitingRefresh r k) → s.refreshes r ≠ none

section

variable {s s' : Page} {i r : Nat}

/-- The page starts without a refresh. -/
theorem single_empty : Single {} where
  fresh _ _ := rfl
  active r := by simp [Page.Outstanding]
  started _ _ _ h := by cases h

/-- A call may wait for a refresh that was started. -/
theorem Single.setCall (h : Single s) {c : CallState}
    (hc : ∀ r k, c = .awaitingRefresh r k → s.refreshes r ≠ none) : Single (s.setCall i c) := by
  refine ⟨h.fresh, h.active, fun j r k hj => ?_⟩
  by_cases hji : j = i
  · subst hji
    rw [calls_setCall_self] at hj
    exact hc r k (Option.some.inj hj)
  · rw [calls_setCall_of_ne hji] at hj
    exact h.started j r k hj

/-- A call that runs waits for no refresh. -/
theorem Single.setCall_running (h : Single s) (p : Fetching JSONResult) :
    Single (s.setCall i (.running p)) :=
  h.setCall fun _ _ hc => by cases hc

/-- A refresh is started only while no other one is active. -/
theorem Single.startRefresh (h : Single s) (hidle : s.activeRefreshPromise = none) :
    Single s.startRefresh := by
  refine ⟨fun r hr => ?_, fun r => ?_, fun j r k hj => ?_⟩
  · have hr : s.nextRefresh + 1 ≤ r := hr
    refine (refreshes_setRefresh_of_ne (by omega) _).trans ?_
    exact h.fresh r (by omega)
  · show some s.nextRefresh = some r ↔ _
    by_cases hnext : r = s.nextRefresh
    · subst hnext
      exact iff_of_true rfl (Or.inl (refreshes_setRefresh_self s _ _))
    · refine iff_of_false ?_ ?_
      · intro heq
        exact hnext (Option.some.inj heq).symm
      · have hrefresh : s.startRefresh.refreshes r = s.refreshes r :=
          refreshes_setRefresh_of_ne hnext _
        rw [Page.Outstanding, hrefresh]
        intro hout
        have hactive := (h.active r).mpr hout
        rw [hidle] at hactive
        cases hactive
  · by_cases hnext : r = s.nextRefresh
    · subst hnext
      rw [show s.startRefresh.refreshes s.nextRefresh = some .requested from
        refreshes_setRefresh_self s _ _]
      simp
    · rw [show s.startRefresh.refreshes r = s.refreshes r from refreshes_setRefresh_of_ne hnext _]
      exact h.started j r k hj

/-- The refresh that a call joins or starts is outstanding. -/
theorem Single.coordinatedRefresh (h : Single s) :
    Single s.coordinatedRefresh.1 ∧
      s.coordinatedRefresh.1.refreshes s.coordinatedRefresh.2 ≠ none := by
  cases hactive : s.activeRefreshPromise with
  | some r =>
      have hjoin : s.coordinatedRefresh = (s, r) := by simp [Page.coordinatedRefresh, hactive]
      rw [hjoin]
      refine ⟨h, ?_⟩
      rcases (h.active r).mp hactive with hrequested | ⟨ok, hresponded⟩
      · simp [hrequested]
      · simp [hresponded]
  | none =>
      have hstart : s.coordinatedRefresh = (s.startRefresh, s.nextRefresh) := by
        simp [Page.coordinatedRefresh, hactive]
      rw [hstart]
      refine ⟨h.startRefresh hactive, ?_⟩
      rw [show s.startRefresh.refreshes s.nextRefresh = some .requested from
        refreshes_setRefresh_self s _ _]
      simp

/-- A call that goes on starts a refresh or joins the active one. -/
theorem Single.proceed (h : Single s) (p : Fetching JSONResult) : Single (s.proceed i p) := by
  cases p with
  | done result => exact h.setCall fun _ _ hc => by cases hc
  | call op k =>
      cases op with
      | fetch url =>
          have hset : Single (s.setCall i (.awaitingResponse k)) :=
            h.setCall fun _ _ hc => by cases hc
          exact ⟨hset.fresh, hset.active, hset.started⟩
      | json => exact h.setCall fun _ _ hc => by cases hc
      | coordinatedRefresh =>
          obtain ⟨hsingle, hjoined⟩ := h.coordinatedRefresh
          apply hsingle.setCall
          intro r k' hc
          cases hc
          exact hjoined

/-- A refresh that goes on changes nothing about the others. -/
theorem Single.setRefresh (h : Single s) (hr : s.Outstanding r) (state : RefreshState)
    (active : Option Nat)
    (hactive : ∀ r', active = some r' ↔ (s.setRefresh r state).Outstanding r') :
    Single { s.setRefresh r state with activeRefreshPromise := active } := by
  have hsome : s.refreshes r ≠ none := by
    rcases hr with hrequested | ⟨ok, hresponded⟩
    · simp [hrequested]
    · simp [hresponded]
  refine ⟨fun r' hr' => ?_, hactive, fun j r' k hj => ?_⟩
  · by_cases heq : r' = r
    · subst heq
      exact absurd (h.fresh r' hr') hsome
    · exact (refreshes_setRefresh_of_ne heq _).trans (h.fresh r' hr')
  · by_cases heq : r' = r
    · subst heq
      rw [show (s.setRefresh r' state).refreshes r' = some state from
        refreshes_setRefresh_self s r' state]
      simp
    · rw [show (s.setRefresh r state).refreshes r' = s.refreshes r' from
        refreshes_setRefresh_of_ne heq _]
      exact h.started j r' k hj

/-- The active refresh is answered. -/
theorem Single.responded (h : Single s) (hr : s.refreshes r = some .requested) (ok : Bool) :
    Single (s.setRefresh r (.responded ok)) := by
  refine h.setRefresh (Or.inl hr) (.responded ok) s.activeRefreshPromise fun r' => ?_
  rw [h.active r']
  by_cases heq : r' = r
  · subst heq
    exact iff_of_true (Or.inl hr) (Or.inr ⟨ok, refreshes_setRefresh_self s r' _⟩)
  · rw [Page.Outstanding, Page.Outstanding, refreshes_setRefresh_of_ne heq]

/-- The active refresh is finished, and none is active then. -/
theorem Single.finished (h : Single s) {ok : Bool} (hr : s.refreshes r = some (.responded ok)) :
    Single { s.setRefresh r (.finished ok) with activeRefreshPromise := none } := by
  refine h.setRefresh (Or.inr ⟨ok, hr⟩) (.finished ok) none fun r' => ?_
  refine iff_of_false (by simp) ?_
  by_cases heq : r' = r
  · subst heq
    simp [Page.Outstanding]
  · -- another outstanding refresh would be the active one as well
    rw [Page.Outstanding, refreshes_setRefresh_of_ne heq]
    intro hout
    have hactive := (h.active r').mpr hout
    rw [(h.active r).mpr (Or.inr ⟨ok, hr⟩)] at hactive
    exact heq (Option.some.inj hactive).symm

/-- Every event keeps one refresh. -/
theorem page_step {e : PageEvent} (h : Single s) (hstep : s.step e = some s') : Single s' := by
  cases e with
  | call i url =>
      obtain ⟨-, rfl⟩ := step_call hstep
      exact h.proceed _
  | respond i response =>
      obtain ⟨k, -, rfl⟩ := step_respond hstep
      exact h.setCall_running _
  | parse i data =>
      obtain ⟨k, -, rfl⟩ := step_parse hstep
      exact h.setCall_running _
  | respondRefresh r response =>
      obtain ⟨hr, rfl⟩ := step_respondRefresh hstep
      exact h.responded hr _
  | finishRefresh r =>
      obtain ⟨ok, hr, rfl⟩ := step_finishRefresh hstep
      exact h.finished hr
  | wake i =>
      obtain ⟨r, k, ok, -, -, rfl⟩ := step_wake hstep
      exact h.setCall_running _
  | resume i =>
      obtain ⟨p, -, rfl⟩ := step_resume hstep
      exact h.proceed _

end

/-! ## The result of a refresh -/

/-- The refresh an event is about. -/
def PageEvent.refresh : PageEvent → Option Nat
  | .respondRefresh r _ | .finishRefresh r => some r
  | .call .. | .respond .. | .parse .. | .wake _ | .resume _ => none

/-- What an event does to one refresh; the mark tells the events of the refresh itself. -/
inductive Advances : Bool → Option RefreshState → Option RefreshState → Prop where
  | same (state : Option RefreshState) : Advances false state state
  | start : Advances false none (some .requested)
  | respond (ok : Bool) : Advances true (some .requested) (some (.responded ok))
  | finish (ok : Bool) : Advances true (some (.responded ok)) (some (.finished ok))

section

variable {s s' : Page} {e : PageEvent}

/-- Starting a refresh moves no other one. -/
theorem Single.advances_startRefresh (h : Single s) (r : Nat) :
    Advances false (s.refreshes r) (s.startRefresh.refreshes r) := by
  by_cases hnext : r = s.nextRefresh
  · subst hnext
    rw [h.fresh _ (Nat.le_refl _), show s.startRefresh.refreshes s.nextRefresh = some .requested
      from refreshes_setRefresh_self s _ _]
    exact .start
  · rw [show s.startRefresh.refreshes r = s.refreshes r from refreshes_setRefresh_of_ne hnext _]
    exact .same _

/-- A call that goes on moves no refresh that was started. -/
theorem Single.advances_proceed (h : Single s) (i : Nat) (p : Fetching JSONResult) (r : Nat) :
    Advances false (s.refreshes r) ((s.proceed i p).refreshes r) := by
  cases p with
  | done result => exact .same _
  | call op k =>
      cases op with
      | fetch url => exact .same _
      | json => exact .same _
      | coordinatedRefresh =>
          show Advances false (s.refreshes r) (s.coordinatedRefresh.1.refreshes r)
          unfold Page.coordinatedRefresh
          split
          · exact .same _
          · exact h.advances_startRefresh r

/-- A refresh goes on with its own events only. -/
theorem advances_setRefresh {r r' : Nat} {state : RefreshState}
    (h : Advances true (s.refreshes r) (some state)) :
    Advances (decide (some r = some r')) (s.refreshes r')
      ((s.setRefresh r state).refreshes r') := by
  by_cases heq : r' = r
  · subst heq
    rw [decide_eq_true rfl, refreshes_setRefresh_self]
    exact h
  · rw [decide_eq_false (by simpa using Ne.symm heq), refreshes_setRefresh_of_ne heq]
    exact .same _

/-- An event moves the refresh it is about, and no other one. -/
theorem Single.advances (h : Single s) (hstep : s.step e = some s') (r : Nat) :
    Advances (decide (e.refresh = some r)) (s.refreshes r) (s'.refreshes r) := by
  cases e with
  | call i url =>
      obtain ⟨-, rfl⟩ := step_call hstep
      exact h.advances_proceed i _ r
  | respond i response =>
      obtain ⟨k, -, rfl⟩ := step_respond hstep
      exact .same _
  | parse i data =>
      obtain ⟨k, -, rfl⟩ := step_parse hstep
      exact .same _
  | respondRefresh r' response =>
      obtain ⟨hr, rfl⟩ := step_respondRefresh hstep
      exact advances_setRefresh (hr ▸ .respond _)
  | finishRefresh r' =>
      obtain ⟨ok, hr, rfl⟩ := step_finishRefresh hstep
      exact advances_setRefresh (hr ▸ .finish ok)
  | wake i =>
      obtain ⟨r', k, ok, -, -, rfl⟩ := step_wake hstep
      exact .same _
  | resume i =>
      obtain ⟨p, -, rfl⟩ := step_resume hstep
      exact h.advances_proceed i p r

end

/-- What the promise of a refresh is or will be fulfilled with. -/
def RefreshState.result : RefreshState → Option Bool
  | .requested => none
  | .responded ok | .finished ok => some ok

/-- The events a refresh still causes. -/
def RefreshState.left : Option RefreshState → Nat
  | none | some .requested => 2
  | some (.responded _) => 1
  | some (.finished _) => 0

/-- The result of a refresh stays what it is. -/
theorem Advances.result_eq {own : Bool} {state state' : Option RefreshState}
    (h : Advances own state state') {ok : Bool} (hok : state.bind RefreshState.result = some ok) :
    state'.bind RefreshState.result = some ok := by
  cases h with
  | same => exact hok
  | start => cases hok
  | respond => cases hok
  | finish ok' => exact hok

/-- Every event of a refresh brings it nearer to its end. -/
theorem Advances.left_le {own : Bool} {state state' : Option RefreshState}
    (h : Advances own state state') :
    RefreshState.left state' + (if own then 1 else 0) ≤ RefreshState.left state := by
  cases h with
  | same => exact Nat.le_refl _
  | start => exact Nat.le_refl _
  | respond => exact Nat.le_refl _
  | finish ok => exact Nat.le_refl _

/-- A refresh causes two events at most. -/
theorem count_refresh_le {es : List PageEvent} {s : Page} (h : run Page.step {} es = some s)
    (r : Nat) : es.countP (fun e => e.refresh = some r) ≤ 2 := by
  have hrun := run_countP_le (R := fun s n => Single s ∧ RefreshState.left (s.refreshes r) ≤ n)
    (p := fun e => decide (e.refresh = some r)) (n := 2) ?_ ⟨single_empty, Nat.le_refl 2⟩ h
  · obtain ⟨n, -, hn⟩ := hrun
    omega
  · rintro s e s' n ⟨hsingle, hn⟩ hstep
    have hleft := (hsingle.advances hstep r).left_le
    exact ⟨_, ⟨page_step hsingle hstep, Nat.le_refl _⟩, Nat.le_trans hleft hn⟩

/-! ## The end of a call -/

/-- The call an event is about. -/
def PageEvent.caller : PageEvent → Option Nat
  | .call i _ | .respond i _ | .parse i _ | .wake i | .resume i => some i
  | .respondRefresh .. | .finishRefresh _ => none

/-- The rest of the call stays within the budget. -/
def CallState.Within (g : Budget) : CallState → Prop
  | .running p => Frontend.Within g p
  | .awaitingResponse k => ∀ response, Frontend.Within g (k response)
  | .awaitingBody k => ∀ data, Frontend.Within g (k data)
  | .awaitingRefresh _ k => ∀ ok, Frontend.Within g (k ok)
  | .settled _ => True

/-- The events a call with that budget still causes. -/
def CallState.events (g : Budget) : CallState → Nat
  | .running _ => 2 * g.left + 1
  | .awaitingResponse _ | .awaitingBody _ | .awaitingRefresh .. => 2 * g.left + 2
  | .settled _ => 0

/-- Two requests are the most a call has sent and may send, and at most `n` events are ahead of
it. -/
def Page.Owes (s : Page) (i n : Nat) : Prop :=
  match s.calls i with
  | none => s.sent.count i = 0 ∧ 9 ≤ n
  | some c => ∃ g : Budget, c.Within g ∧ s.sent.count i + g.requests ≤ 2 ∧ c.events g ≤ n

section

variable {s s' : Page} {e : PageEvent} {i n : Nat} {g : Budget}

/-- What a call that was started still owes. -/
theorem owes_of_some {c : CallState} (hc : s.calls i = some c) :
    s.Owes i n ↔ ∃ g : Budget, c.Within g ∧ s.sent.count i + g.requests ≤ 2 ∧ c.events g ≤ n := by
  rw [Page.Owes, hc]

/-- A call that was not started has sent nothing and owes everything. -/
theorem owes_of_none (hc : s.calls i = none) : s.Owes i n ↔ s.sent.count i = 0 ∧ 9 ≤ n := by
  rw [Page.Owes, hc]

/-- A call sends at most two requests. -/
theorem Page.Owes.count_le (h : s.Owes i n) : s.sent.count i ≤ 2 := by
  cases hc : s.calls i with
  | none =>
      rw [owes_of_none hc] at h
      omega
  | some c =>
      obtain ⟨g, -, hsent, -⟩ := (owes_of_some hc).mp h
      omega

/-- What a call owes depends on its state and its requests only. -/
theorem Page.Owes.congr (h : s.Owes i n) (hcalls : s'.calls i = s.calls i)
    (hsent : s'.sent.count i = s.sent.count i) : s'.Owes i n := by
  rw [Page.Owes, hcalls, hsent]
  exact h

/-- An answer leaves one event less. -/
theorem owes_setCall_running {p : Fetching JSONResult} (hp : Within g p)
    (hsent : s.sent.count i + g.requests ≤ 2) :
    (s.setCall i (.running p)).Owes i (2 * g.left + 1) :=
  (owes_of_some (calls_setCall_self s i _)).mpr ⟨g, hp, hsent, Nat.le_refl _⟩

/-- A call that proceeds settles, or spends a part of its budget. -/
theorem owes_proceed {p : Fetching JSONResult} (hp : Within g p)
    (hsent : s.sent.count i + g.requests ≤ 2) : (s.proceed i p).Owes i (2 * g.left) := by
  cases p with
  | done result =>
      exact (owes_of_some (calls_setCall_self s i _)).mpr ⟨g, trivial, hsent, Nat.zero_le _⟩
  | call op k =>
      obtain ⟨hallowed, hk⟩ := hp
      cases op with
      | fetch url =>
          have hpos : 0 < g.requests := hallowed
          have hcount : (s.sent ++ [i]).count i = s.sent.count i + 1 := by simp
          have hcall : (s.proceed i (.call (.fetch url) k)).calls i = some (.awaitingResponse k) :=
            calls_setCall_self s i _
          refine (owes_of_some hcall).mpr
            ⟨{ g with requests := g.requests - 1 }, fun response => hk response trivial, ?_, ?_⟩
          · show (s.sent ++ [i]).count i + (g.requests - 1) ≤ 2
            omega
          · show 2 * (g.requests - 1 + g.others) + 2 ≤ 2 * (g.requests + g.others)
            omega
      | json =>
          have hpos : 0 < g.others := hallowed
          refine (owes_of_some (calls_setCall_self s i _)).mpr
            ⟨{ g with others := g.others - 1 }, fun data => hk data trivial, hsent, ?_⟩
          show 2 * (g.requests + (g.others - 1)) + 2 ≤ 2 * (g.requests + g.others)
          omega
      | coordinatedRefresh =>
          have hpos : 0 < g.others := hallowed
          refine (owes_of_some (calls_setCall_self _ i _)).mpr
            ⟨{ g with others := g.others - 1 }, fun ok => hk ok trivial, ?_, ?_⟩
          · show s.coordinatedRefresh.1.sent.count i + g.requests ≤ 2
            rw [sent_coordinatedRefresh]
            exact hsent
          · show 2 * (g.requests + (g.others - 1)) + 2 ≤ 2 * (g.requests + g.others)
            omega

/-- The events of others change nothing about a call. -/
theorem step_frame (hstep : s.step e = some s') (hne : e.caller ≠ some i) :
    s'.calls i = s.calls i ∧ s'.sent.count i = s.sent.count i := by
  have hne' : ∀ {j}, e.caller = some j → i ≠ j := by
    rintro j hj rfl
    exact hne hj
  cases e with
  | call j url =>
      obtain ⟨-, rfl⟩ := step_call hstep
      exact ⟨calls_proceed_of_ne (hne' rfl) _, count_sent_proceed_of_ne (hne' rfl) _⟩
  | respond j response =>
      obtain ⟨k, -, rfl⟩ := step_respond hstep
      exact ⟨calls_setCall_of_ne (hne' rfl) _, rfl⟩
  | parse j data =>
      obtain ⟨k, -, rfl⟩ := step_parse hstep
      exact ⟨calls_setCall_of_ne (hne' rfl) _, rfl⟩
  | respondRefresh r response =>
      obtain ⟨-, rfl⟩ := step_respondRefresh hstep
      exact ⟨rfl, rfl⟩
  | finishRefresh r =>
      obtain ⟨ok, -, rfl⟩ := step_finishRefresh hstep
      exact ⟨rfl, rfl⟩
  | wake j =>
      obtain ⟨r, k, ok, -, -, rfl⟩ := step_wake hstep
      exact ⟨calls_setCall_of_ne (hne' rfl) _, rfl⟩
  | resume j =>
      obtain ⟨p, -, rfl⟩ := step_resume hstep
      exact ⟨calls_proceed_of_ne (hne' rfl) _, count_sent_proceed_of_ne (hne' rfl) _⟩

/-- An event of the call itself leaves one event less ahead of it. -/
theorem owes_step (h : s.Owes i n) (hstep : s.step e = some s') (hcaller : e.caller = some i) :
    ∃ m, s'.Owes i m ∧ m + 1 ≤ n := by
  cases e with
  | call j url =>
      obtain rfl := Option.some.inj hcaller
      obtain ⟨hnone, rfl⟩ := step_call hstep
      obtain ⟨hsent, hn⟩ := (owes_of_none hnone).mp h
      have hle : s.sent.count j + 2 ≤ 2 := by omega
      exact ⟨8, owes_proceed (fetchJSON_budget url true) hle, hn⟩
  | respond j response =>
      obtain rfl := Option.some.inj hcaller
      obtain ⟨k, hk, rfl⟩ := step_respond hstep
      obtain ⟨g, hwithin, hsent, hn⟩ := (owes_of_some hk).mp h
      exact ⟨_, owes_setCall_running (hwithin response) hsent, hn⟩
  | parse j data =>
      obtain rfl := Option.some.inj hcaller
      obtain ⟨k, hk, rfl⟩ := step_parse hstep
      obtain ⟨g, hwithin, hsent, hn⟩ := (owes_of_some hk).mp h
      exact ⟨_, owes_setCall_running (hwithin data) hsent, hn⟩
  | respondRefresh r response => cases hcaller
  | finishRefresh r => cases hcaller
  | wake j =>
      obtain rfl := Option.some.inj hcaller
      obtain ⟨r, k, ok, hk, -, rfl⟩ := step_wake hstep
      obtain ⟨g, hwithin, hsent, hn⟩ := (owes_of_some hk).mp h
      exact ⟨_, owes_setCall_running (hwithin ok) hsent, hn⟩
  | resume j =>
      obtain rfl := Option.some.inj hcaller
      obtain ⟨p, hp, rfl⟩ := step_resume hstep
      obtain ⟨g, hwithin, hsent, hn⟩ := (owes_of_some hp).mp h
      exact ⟨_, owes_proceed hwithin hsent, hn⟩

end

/-- A call sends two requests at most and causes nine events at most. -/
theorem count_caller_le {es : List PageEvent} {s : Page} (h : run Page.step {} es = some s)
    (i : Nat) : s.sent.count i ≤ 2 ∧ es.countP (fun e => e.caller = some i) ≤ 9 := by
  have hstart : ({} : Page).Owes i 9 := (owes_of_none rfl).mpr ⟨rfl, Nat.le_refl 9⟩
  have hrun := run_countP_le (R := fun s n => s.Owes i n)
    (p := fun e => decide (e.caller = some i)) ?_ hstart h
  · obtain ⟨n, howes, hn⟩ := hrun
    exact ⟨howes.count_le, by omega⟩
  · intro s e s' n howes hstep
    by_cases hcaller : e.caller = some i
    · simpa [hcaller] using owes_step howes hstep hcaller
    · obtain ⟨hcalls, hsent⟩ := step_frame hstep hcaller
      exact ⟨n, howes.congr hcalls hsent, by simp [hcaller]⟩

/-- The call waits for an answer of the server. -/
def Page.AwaitsServer (s : Page) (i : Nat) : Prop :=
  (∃ k, s.calls i = some (.awaitingResponse k)) ∨ (∃ k, s.calls i = some (.awaitingBody k)) ∨
    ∃ r k, s.calls i = some (.awaitingRefresh r k) ∧ s.refreshes r = some .requested

/-- The event runs queued code that the call waits for. -/
def Page.Continues (s : Page) (i : Nat) (e : PageEvent) : Prop :=
  e = .wake i ∨ e = .resume i ∨
    ∃ r k, s.calls i = some (.awaitingRefresh r k) ∧ e = .finishRefresh r

section

variable {s s' : Page} {e : PageEvent} {i r : Nat}

/-- A call that has not settled waits for the server or can go on. -/
theorem Single.progress (h : Single s) {c : CallState} (hc : s.calls i = some c) :
    (∃ result, c = .settled result) ∨ s.AwaitsServer i ∨
      ∃ e s', s.Continues i e ∧ s.step e = some s' := by
  cases c with
  | settled result => exact Or.inl ⟨result, rfl⟩
  | running p =>
      exact Or.inr (Or.inr ⟨.resume i, s.proceed i p, Or.inr (Or.inl rfl), by simp [Page.step, hc]⟩)
  | awaitingResponse k => exact Or.inr (Or.inl (Or.inl ⟨k, hc⟩))
  | awaitingBody k => exact Or.inr (Or.inl (Or.inr (Or.inl ⟨k, hc⟩)))
  | awaitingRefresh r k =>
      right
      cases hr : s.refreshes r with
      | none => exact absurd hr (h.started i r k hc)
      | some state =>
          cases state with
          | requested => exact Or.inl (Or.inr (Or.inr ⟨r, k, hc, hr⟩))
          | responded ok =>
              refine Or.inr ⟨.finishRefresh r,
                { s.setRefresh r (.finished ok) with activeRefreshPromise := none },
                Or.inr (Or.inr ⟨r, k, hc, rfl⟩), ?_⟩
              simp [Page.step, hr]
          | finished ok =>
              refine Or.inr ⟨.wake i, s.setCall i (.running (k ok)), Or.inl rfl, ?_⟩
              simp [Page.step, hc, hr]

/-- The server can answer what a call waits for. -/
theorem Page.AwaitsServer.enabled (h : s.AwaitsServer i) :
    ∃ e s', s.step e = some s' ∧ ∀ j url, e ≠ .call j url := by
  rcases h with ⟨k, hk⟩ | ⟨k, hk⟩ | ⟨r, k, -, hr⟩
  · refine ⟨.respond i none, s.setCall i (.running (k none)), ?_, fun _ _ he => by cases he⟩
    simp only [Page.step, hk]
  · refine ⟨.parse i none, s.setCall i (.running (k none)), ?_, fun _ _ he => by cases he⟩
    simp only [Page.step, hk]
  · refine ⟨.respondRefresh r none, s.setRefresh r (.responded false), ?_,
      fun _ _ he => by cases he⟩
    simp only [Page.step, hr]
    rfl

/-- A call that was started is not started again. -/
theorem Page.Continues.not_call (h : s.Continues i e) (j : Nat) (url : String) :
    e ≠ .call j url := by
  rintro rfl
  rcases h with hwake | hresume | ⟨r, k, -, hfinish⟩
  · cases hwake
  · cases hresume
  · cases hfinish

/-- Where nothing but a new call is possible, every call has settled. -/
theorem Single.settled_of_exhausted (h : Single s)
    (hend : ∀ e s', s.step e = some s' → ∃ j url, e = .call j url) {c : CallState}
    (hc : s.calls i = some c) : ∃ result, c = .settled result := by
  rcases h.progress hc with hsettled | hserver | ⟨e, s', hcontinues, hstep⟩
  · exact hsettled
  · obtain ⟨e, s', hstep, hcall⟩ := hserver.enabled
    obtain ⟨j, url, he⟩ := hend e s' hstep
    exact absurd he (hcall j url)
  · obtain ⟨j, url, he⟩ := hend e s' hstep
    exact absurd he (hcontinues.not_call j url)

/-- A call waits until it gets what its refresh was fulfilled with. -/
theorem step_awaitingRefresh {k : Bool → Fetching JSONResult}
    (hc : s.calls i = some (.awaitingRefresh r k)) (hstep : s.step e = some s') :
    s'.calls i = some (.awaitingRefresh r k) ∨
      ∃ ok, s.refreshes r = some (.finished ok) ∧ s'.calls i = some (.running (k ok)) := by
  by_cases hcaller : e.caller = some i
  · cases e with
    | call j url =>
        obtain rfl := Option.some.inj hcaller
        obtain ⟨hnone, -⟩ := step_call hstep
        rw [hc] at hnone
        cases hnone
    | respond j response =>
        obtain rfl := Option.some.inj hcaller
        obtain ⟨k', hk', -⟩ := step_respond hstep
        rw [hc] at hk'
        cases hk'
    | parse j data =>
        obtain rfl := Option.some.inj hcaller
        obtain ⟨k', hk', -⟩ := step_parse hstep
        rw [hc] at hk'
        cases hk'
    | respondRefresh r' response => cases hcaller
    | finishRefresh r' => cases hcaller
    | wake j =>
        obtain rfl := Option.some.inj hcaller
        obtain ⟨r', k', ok, hk', hr', rfl⟩ := step_wake hstep
        rw [hc] at hk'
        cases hk'
        exact Or.inr ⟨ok, hr', calls_setCall_self s _ _⟩
    | resume j =>
        obtain rfl := Option.some.inj hcaller
        obtain ⟨p, hp, -⟩ := step_resume hstep
        rw [hc] at hp
        cases hp
  · exact Or.inl ((step_frame hstep hcaller).1.trans hc)

end

/-- What holds of a page at any time. -/
structure SingleFlight (s : Page) : Prop where
  one : ∀ r r', s.Outstanding r → s.Outstanding r' → r = r'
  active : ∀ r, s.activeRefreshPromise = some r ↔ s.Outstanding r
  idle : s.activeRefreshPromise = none ↔ ∀ r, ¬ s.Outstanding r
  kept : ∀ r ok e s', (s.refreshes r).bind RefreshState.result = some ok → s.step e = some s' →
    (s'.refreshes r).bind RefreshState.result = some ok
  delivered : ∀ i r k e s', s.calls i = some (.awaitingRefresh r k) → s.step e = some s' →
    s'.calls i = some (.awaitingRefresh r k) ∨
      ∃ ok, s.refreshes r = some (.finished ok) ∧ s'.calls i = some (.running (k ok))
  twice : ∀ i, s.sent.count i ≤ 2
  settles : ∀ i c, s.calls i = some c → (∃ result, c = .settled result) ∨ s.AwaitsServer i ∨
    ∃ e s', s.Continues i e ∧ s.step e = some s'
  ends : (∀ e s', s.step e = some s' → ∃ i url, e = .call i url) →
    ∀ i c, s.calls i = some c → ∃ result, c = .settled result

/-- The invariant gives all that is asked of the page. -/
theorem Single.singleFlight {s : Page} (h : Single s) (hsent : ∀ i, s.sent.count i ≤ 2) :
    SingleFlight s where
  one r r' hr hr' := by
    have heq : some r = some r' := ((h.active r).mpr hr).symm.trans ((h.active r').mpr hr')
    exact Option.some.inj heq
  active := h.active
  idle := by
    constructor
    · intro hnone r hr
      rw [(h.active r).mpr hr] at hnone
      cases hnone
    · intro hnone
      cases hactive : s.activeRefreshPromise with
      | none => rfl
      | some r => exact absurd ((h.active r).mp hactive) (hnone r)
  kept r ok e s' hok hstep := (h.advances hstep r).result_eq hok
  delivered i r k e s' hc hstep := step_awaitingRefresh hc hstep
  twice := hsent
  settles i c hc := h.progress hc
  ends hend i c hc := h.settled_of_exhausted hend hc

/-- One refresh at a time, shared by the calls that wait for it; and every call settles, since it
waits for the server or can go on, and neither the call nor a refresh goes on for ever. -/
theorem refresh_single_flight {es : List PageEvent} {s : Page}
    (h : run Page.step {} es = some s) :
    SingleFlight s ∧ (∀ i, es.countP (fun e => e.caller = some i) ≤ 9) ∧
      ∀ r, es.countP (fun e => e.refresh = some r) ≤ 2 := by
  have hsingle : Single s :=
    run_invariant (I := Single) (fun _ _ _ hm hstep => page_step hm hstep) single_empty h
  exact ⟨hsingle.singleFlight fun i => (count_caller_le h i).1,
    fun i => (count_caller_le h i).2, count_refresh_le h⟩

/-- Two calls are refused, share one refresh and send their requests again; one of these is
rejected. -/
def sharedRefresh : List PageEvent :=
  [.call 0 "/api/v1/devices", .call 1 "/api/v1/firmware",
    .respond 1 (some ⟨401, "Unauthorized"⟩), .respond 0 (some ⟨401, "Unauthorized"⟩),
    .resume 1, .resume 0, .respondRefresh 0 (some ⟨200, "OK"⟩), .finishRefresh 0,
    .wake 0, .wake 1, .resume 0, .resume 1, .respond 1 none, .resume 1,
    .respond 0 (some ⟨200, "OK"⟩), .resume 0, .parse 0 (some ⟨none, "[]"⟩), .resume 0]

/-- Two calls that answer 401 share one refresh, and each is sent again. -/
theorem refresh_single_flight_shared :
    ∃ s, run Page.step {} sharedRefresh = some s ∧ s.sent = [0, 1, 0, 1] ∧
      s.activeRefreshPromise = none ∧ s.nextRefresh = 1 ∧ SingleFlight s := by
  have hend : endsWith Page.step {} sharedRefresh
      (fun s => s.sent = [0, 1, 0, 1] && s.activeRefreshPromise.isNone && s.nextRefresh = 1) =
        true := by
    decide +kernel
  obtain ⟨s, hs, htest⟩ := endsWith_eq_true hend
  simp only [Bool.and_eq_true, decide_eq_true_eq, Option.isNone_iff_eq_none] at htest
  obtain ⟨⟨hsent, hidle⟩, hnext⟩ := htest
  exact ⟨s, hs, hsent, hidle, hnext, (refresh_single_flight hs).1⟩

end OtaRobot.Frontend
