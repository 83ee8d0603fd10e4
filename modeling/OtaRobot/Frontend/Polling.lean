import OtaRobot.Library.Transition

/-!
# Polling while the page is visible

One mounted instance of {lit}`useVisibilityPolling` of {lit}`src/hooks/useVisibilityPolling.ts`,
with a fixed interval.  A timer, the visibility listener and the end of a callback each go on with
the loop; the cleanup function of the effect ends it.

Main results:

- Theorem {lit}`polling_step`: every event keeps one activity.
- Theorem {lit}`polling_sequential`: callbacks never overlap, polling never stops before the
  unmount, and stops with it.

Current gaps:

- A callback that returns no promise settles later, as if it had returned one.
-/

namespace OtaRobot.Frontend

open Transition

/-! ## The hook -/

/-- The variables of the effect, the browser's timers for {lit}`run`, and the callbacks that were
started and have not settled. -/
structure Hook where
  cancelled : Bool := false
  running : Bool := false
  timer : Option Nat := none
  pending : List Nat := []
  nextTimer : Nat := 0
  visible : Bool
  listening : Bool := false
  inFlight : List Nat := []
  starts : Nat := 0
deriving DecidableEq, Repr

/-- What a call of the callback does before it returns. -/
inductive Outcome where
  | promise
  | throws
deriving DecidableEq, Repr

namespace Hook

/-- {lit}`clearTimeout`. -/
def clearTimeout (s : Hook) (t : Nat) : Hook :=
  { s with pending := s.pending.filter fun t' => t' ≠ t }

/-- {lit}`schedule`: a new timer, unless the hook is unmounted. -/
def schedule (s : Hook) : Hook :=
  if s.cancelled then s
  else
    { s with
      timer := some s.nextTimer
      pending := s.pending ++ [s.nextTimer]
      nextTimer := s.nextTimer + 1 }

/-- The {lit}`finally` block. -/
def finish (s : Hook) : Hook :=
  { s with running := false }.schedule

/-- The call of the callback in {lit}`run`. -/
def call (s : Hook) (outcome : Outcome) : Hook :=
  let s := { s with running := true, starts := s.starts + 1 }
  match outcome with
  | .promise => { s with inFlight := s.inFlight ++ [s.starts] }
  | .throws => s.finish

/-- {lit}`run`: a call, unless one is under way or the page is hidden. -/
def run (s : Hook) (outcome : Outcome) : Hook :=
  if s.cancelled || s.running then s
  else if !s.visible then s.schedule
  else s.call outcome

/-- The timer is cleared if there is one. -/
def clearTimer (s : Hook) : Hook :=
  match s.timer with
  | some t => s.clearTimeout t
  | none => s

/-- Clearing the timer unmounts nothing. -/
theorem cancelled_clearTimer (s : Hook) : s.clearTimer.cancelled = s.cancelled := by
  unfold clearTimer
  split <;> rfl

/-- Clearing the timer ends no call. -/
theorem running_clearTimer (s : Hook) : s.clearTimer.running = s.running := by
  unfold clearTimer
  split <;> rfl

/-- Clearing the timer settles no call. -/
theorem inFlight_clearTimer (s : Hook) : s.clearTimer.inFlight = s.inFlight := by
  unfold clearTimer
  split <;> rfl

/-- A timer that the variable names does not stay. -/
theorem pending_clearTimer {s : Hook}
    (h : s.pending = [] ∨ ∃ t, s.timer = some t ∧ s.pending = [t]) : s.clearTimer.pending = [] := by
  unfold clearTimer
  rcases h with hnone | ⟨t, htimer, hpending⟩
  · cases s.timer with
    | none => exact hnone
    | some t => simp [clearTimeout, hnone]
  · simp [clearTimeout, htimer, hpending]

/-- {lit}`handleVisibilityChange`: a page that is shown polls at once. -/
def handleVisibilityChange (s : Hook) (outcome : Outcome) : Hook :=
  if !s.visible || s.running then s else s.clearTimer.run outcome

/-- The effect. -/
def mount (visible : Bool) : Hook :=
  { visible, listening := true : Hook }.schedule

/-- The cleanup function of the effect. -/
def unmount (s : Hook) : Hook :=
  { { s with cancelled := true }.clearTimer with listening := false }

end Hook

/-! ## Events -/

/-- What may happen to the hook. -/
inductive HookEvent where
  | fire (timer : Nat) (outcome : Outcome)
  | visibilityChange (visible : Bool) (outcome : Outcome)
  | settle (call : Nat) (rejected : Bool)
  | unmount
deriving DecidableEq, Repr

/-- A timer that has fired is not pending any more; a settled callback, fulfilled or rejected,
goes on with the {lit}`finally` block. -/
def Hook.step (s : Hook) : HookEvent → Option Hook
  | .fire t outcome => if t ∈ s.pending then some ((s.clearTimeout t).run outcome) else none
  | .visibilityChange visible outcome =>
      let s := { s with visible }
      some (if s.listening then s.handleVisibilityChange outcome else s)
  | .settle call _ =>
      if call ∈ s.inFlight then
        some { s with inFlight := s.inFlight.filter fun call' => call' ≠ call }.finish
      else none
  | .unmount => if s.listening then some s.unmount else none

/-! ## One activity -/

/-- Until the unmount there is a timer, which the variable names, or a callback in flight. -/
structure Polls (s : Hook) : Prop where
  calling : s.running = true → ∃ call, s.inFlight = [call]
  idle : s.running = false → s.inFlight = []
  mounted : s.cancelled = false →
    s.listening = true ∧ (s.running = true → s.pending = []) ∧
      (s.running = false → ∃ t, s.timer = some t ∧ s.pending = [t])
  unmounted : s.cancelled = true → s.listening = false ∧ s.pending = []

/-- Between two events of the loop: nothing is pending and nothing runs. -/
structure Resting (s : Hook) : Prop where
  cancelled : s.cancelled = false
  listening : s.listening = true
  running : s.running = false
  pending : s.pending = []
  inFlight : s.inFlight = []

/-- A hook at rest schedules its one timer. -/
theorem Resting.polls_schedule {s : Hook} (h : Resting s) : Polls s.schedule := by
  have hschedule : s.schedule = { s with
      timer := some s.nextTimer, pending := [s.nextTimer], nextTimer := s.nextTimer + 1 } := by
    simp [Hook.schedule, h.cancelled, h.pending]
  rw [hschedule]
  refine ⟨?_, fun _ => h.inFlight, fun _ => ⟨h.listening, ?_, fun _ => ⟨_, rfl, rfl⟩⟩, ?_⟩
  · intro hrunning
    rw [h.running] at hrunning
    cases hrunning
  · intro hrunning
    rw [h.running] at hrunning
    cases hrunning
  · intro hcancelled
    rw [h.cancelled] at hcancelled
    cases hcancelled

/-- A resting loop that runs starts a callback or sets a timer. -/
theorem Resting.polls_run {s : Hook} (h : Resting s) (outcome : Outcome) :
    Polls (s.run outcome) := by
  by_cases hvisible : s.visible = true
  · have hrun : s.run outcome = s.call outcome := by
      simp [Hook.run, h.cancelled, h.running, hvisible]
    rw [hrun]
    cases outcome with
    | promise =>
        refine ⟨fun _ => ⟨s.starts + 1, ?_⟩, ?_, fun _ => ⟨h.listening, fun _ => h.pending, ?_⟩, ?_⟩
        · show s.inFlight ++ [s.starts + 1] = [s.starts + 1]
          rw [h.inFlight]
          rfl
        · intro hrunning
          cases hrunning
        · intro hrunning
          cases hrunning
        · intro hcancelled
          exact absurd (hcancelled.symm.trans h.cancelled) (by decide)
    | throws => exact Resting.polls_schedule ⟨h.cancelled, h.listening, rfl, h.pending, h.inFlight⟩
  · have hrun : s.run outcome = s.schedule := by
      simp [Hook.run, h.cancelled, h.running, hvisible]
    rw [hrun]
    exact h.polls_schedule

section

variable {s s' : Hook}

/-- A mounted loop that runs no callback has one timer; without it the loop rests. -/
theorem Polls.resting_clear (h : Polls s) (hmounted : s.cancelled = false)
    (hrunning : s.running = false) {t : Nat} (ht : s.pending = [t]) (visible : Bool) :
    Resting { s.clearTimeout t with visible } where
  cancelled := hmounted
  listening := (h.mounted hmounted).1
  running := hrunning
  pending := by simp [Hook.clearTimeout, ht]
  inFlight := h.idle hrunning

/-- A hook that listens is mounted. -/
theorem Polls.mounted_of_listening (h : Polls s) (hlistening : s.listening = true) :
    s.cancelled = false := by
  by_contra hcancelled
  have hdeaf := (h.unmounted (by simpa using hcancelled)).1
  exact absurd (hlistening.symm.trans hdeaf) (by decide)

/-- A timer fires only in a mounted loop that runs no callback. -/
theorem Polls.of_mem_pending (h : Polls s) {t : Nat} (ht : t ∈ s.pending) :
    s.cancelled = false ∧ s.running = false ∧ s.pending = [t] := by
  cases hcancelled : s.cancelled with
  | true =>
      rw [(h.unmounted hcancelled).2] at ht
      cases ht
  | false =>
      obtain ⟨-, hcalling, hidle⟩ := h.mounted hcancelled
      cases hrunning : s.running with
      | true =>
          rw [hcalling hrunning] at ht
          cases ht
      | false =>
          obtain ⟨t', -, hpending⟩ := hidle hrunning
          rw [hpending] at ht
          obtain rfl := List.mem_singleton.mp ht
          exact ⟨rfl, rfl, hpending⟩

theorem Polls.fire (h : Polls s) {t : Nat} (ht : t ∈ s.pending) (outcome : Outcome) :
    Polls ((s.clearTimeout t).run outcome) := by
  obtain ⟨hmounted, hrunning, hpending⟩ := h.of_mem_pending ht
  exact (h.resting_clear hmounted hrunning hpending s.visible).polls_run outcome

/-- Only the visibility has changed. -/
theorem Polls.withVisible (h : Polls s) (visible : Bool) : Polls { s with visible } :=
  ⟨h.calling, h.idle, h.mounted, h.unmounted⟩

/-- The page is shown or hidden. -/
theorem Polls.visibilityChange (h : Polls s) (hmounted : s.cancelled = false)
    (visible : Bool) (outcome : Outcome) :
    Polls (({ s with visible } : Hook).handleVisibilityChange outcome) := by
  unfold Hook.handleVisibilityChange
  split
  · exact h.withVisible visible
  · next hgo =>
      have hrunning : s.running = false := by
        simp only [Bool.or_eq_true, not_or] at hgo
        simpa using hgo.2
      obtain ⟨t, htimer, hpending⟩ := (h.mounted hmounted).2.2 hrunning
      have hclear : ({ s with visible } : Hook).clearTimer = { s.clearTimeout t with visible } := by
        simp [Hook.clearTimer, htimer, Hook.clearTimeout]
      rw [hclear]
      exact (h.resting_clear hmounted hrunning hpending visible).polls_run outcome

/-- A settled callback was the only one. -/
theorem Polls.settle (h : Polls s) {call : Nat} (hcall : call ∈ s.inFlight) :
    Polls ({ s with inFlight := s.inFlight.filter fun call' => call' ≠ call } : Hook).finish := by
  have hrunning : s.running = true := by
    by_contra hnot
    rw [h.idle (by simpa using hnot)] at hcall
    cases hcall
  obtain ⟨call', hflight⟩ := h.calling hrunning
  have hempty : (s.inFlight.filter fun call' => call' ≠ call) = [] := by
    rw [hflight] at hcall ⊢
    obtain rfl := List.mem_singleton.mp hcall
    simp
  by_cases hcancelled : s.cancelled = true
  · have hfinish : ({ s with
          inFlight := s.inFlight.filter fun call' => call' ≠ call } : Hook).finish =
        { s with inFlight := s.inFlight.filter fun call' => call' ≠ call, running := false } := by
      simp [Hook.finish, Hook.schedule, hcancelled]
    rw [hfinish]
    refine ⟨?_, fun _ => hempty, ?_, fun _ => h.unmounted hcancelled⟩
    · intro hfalse
      cases hfalse
    · intro hmounted
      exact absurd (hcancelled.symm.trans hmounted) (by decide)
  · have hmounted := h.mounted (by simpa using hcancelled)
    exact Resting.polls_schedule
      ⟨by simpa using hcancelled, hmounted.1, rfl, hmounted.2.1 hrunning, hempty⟩

theorem Polls.unmount (h : Polls s) (hmounted : s.cancelled = false) : Polls s.unmount := by
  obtain ⟨-, hcalling, hidle⟩ := h.mounted hmounted
  have hpending : ({ s with cancelled := true } : Hook).clearTimer.pending = [] := by
    apply Hook.pending_clearTimer
    cases hrunning : s.running with
    | true => exact Or.inl (hcalling hrunning)
    | false => exact Or.inr (hidle hrunning)
  refine ⟨?_, ?_, ?_, fun _ => ⟨rfl, hpending⟩⟩
  · intro hrunning
    simp only [Hook.unmount, Hook.running_clearTimer, Hook.inFlight_clearTimer] at hrunning ⊢
    exact h.calling hrunning
  · intro hrunning
    simp only [Hook.unmount, Hook.running_clearTimer, Hook.inFlight_clearTimer] at hrunning ⊢
    exact h.idle hrunning
  · intro hfalse
    simp [Hook.unmount, Hook.cancelled_clearTimer] at hfalse

/-- Every event keeps one activity. -/
theorem polling_step {e : HookEvent} (h : Polls s) (hstep : s.step e = some s') : Polls s' := by
  cases e with
  | fire t outcome =>
      simp only [Hook.step] at hstep
      split at hstep
      · next ht =>
          obtain rfl := Option.some.inj hstep
          exact h.fire ht outcome
      · cases hstep
  | visibilityChange visible outcome =>
      obtain rfl := Option.some.inj hstep
      split
      · next hlistening =>
          exact h.visibilityChange (h.mounted_of_listening hlistening) visible outcome
      · exact h.withVisible visible
  | settle call rejected =>
      simp only [Hook.step] at hstep
      split at hstep
      · next hcall =>
          obtain rfl := Option.some.inj hstep
          exact h.settle hcall
      · cases hstep
  | unmount =>
      simp only [Hook.step] at hstep
      split at hstep
      · next hlistening =>
          obtain rfl := Option.some.inj hstep
          exact h.unmount (h.mounted_of_listening hlistening)
      · cases hstep

end

theorem polls_mount (visible : Bool) : Polls (Hook.mount visible) :=
  Resting.polls_schedule ⟨rfl, rfl, rfl, rfl, rfl⟩

/-! ## Starts -/

section

variable {s s' : Hook} {e : HookEvent}

/-- The end of a call starts none. -/
theorem starts_finish (s : Hook) : s.finish.starts = s.starts := by
  unfold Hook.finish Hook.schedule
  split <;> rfl

/-- Clearing the timer starts no call. -/
theorem starts_clearTimer (s : Hook) : s.clearTimer.starts = s.starts := by
  unfold Hook.clearTimer
  split <;> rfl

/-- A callback starts only when none is in flight. -/
theorem Polls.start_alone (h : Polls s) (hstep : s.step e = some s')
    (hstart : s'.starts ≠ s.starts) : s.inFlight = [] := by
  cases e with
  | fire t outcome =>
      simp only [Hook.step] at hstep
      split at hstep
      · next ht => exact h.idle (h.of_mem_pending ht).2.1
      · cases hstep
  | visibilityChange visible outcome =>
      apply h.idle
      by_contra hrunning
      have hrunning : s.running = true := by simpa using hrunning
      obtain rfl := Option.some.inj hstep
      apply hstart
      simp [Hook.handleVisibilityChange, hrunning]
  | settle call rejected =>
      simp only [Hook.step] at hstep
      split at hstep
      · obtain rfl := Option.some.inj hstep
        exact absurd (starts_finish _) hstart
      · cases hstep
  | unmount =>
      simp only [Hook.step] at hstep
      split at hstep
      · obtain rfl := Option.some.inj hstep
        exact absurd (starts_clearTimer _) hstart
      · cases hstep

/-- After the unmount no event starts a callback. -/
theorem Polls.step_unmounted (h : Polls s) (hcancelled : s.cancelled = true)
    (hstep : s.step e = some s') : s'.cancelled = true ∧ s'.starts = s.starts := by
  obtain ⟨hdeaf, hnone⟩ := h.unmounted hcancelled
  cases e with
  | fire t outcome => simp [Hook.step, hnone] at hstep
  | visibilityChange visible outcome =>
      simp only [Hook.step, hdeaf, Bool.false_eq_true, if_false, Option.some.injEq] at hstep
      subst hstep
      exact ⟨hcancelled, rfl⟩
  | settle call rejected =>
      simp only [Hook.step] at hstep
      split at hstep
      · obtain rfl := Option.some.inj hstep
        refine ⟨?_, starts_finish _⟩
        simp [Hook.finish, Hook.schedule, hcancelled]
      · cases hstep
  | unmount => simp [Hook.step, hdeaf] at hstep

end

/-- Callbacks never overlap; until the unmount there is exactly one pending timer or callback in
flight; afterwards there is no timer, and nothing starts. -/
theorem polling_sequential {visible : Bool} {es : List HookEvent} {s : Hook}
    (h : run Hook.step (Hook.mount visible) es = some s) :
    s.inFlight.length ≤ 1 ∧
      (s.cancelled = false → s.pending.length + s.inFlight.length = 1) ∧
      (∀ e s', s.step e = some s' → s'.starts ≠ s.starts → s.inFlight = []) ∧
      (s.cancelled = true → ∀ es' s', run Hook.step s es' = some s' →
        s'.pending = [] ∧ s'.starts = s.starts) := by
  have hpolls : Polls s :=
    run_invariant (I := Polls) (fun _ _ _ hm hstep => polling_step hm hstep)
      (polls_mount visible) h
  refine ⟨?_, ?_, fun e s' hstep => hpolls.start_alone hstep, ?_⟩
  · cases hrunning : s.running with
    | false => simp [hpolls.idle hrunning]
    | true =>
        obtain ⟨call, hflight⟩ := hpolls.calling hrunning
        simp [hflight]
  · intro hmounted
    obtain ⟨-, hcalling, hidle⟩ := hpolls.mounted hmounted
    cases hrunning : s.running with
    | false =>
        obtain ⟨t, -, hpending⟩ := hidle hrunning
        simp [hpending, hpolls.idle hrunning]
    | true =>
        obtain ⟨call, hflight⟩ := hpolls.calling hrunning
        simp [hcalling hrunning, hflight]
  · intro hcancelled es' s' hrun
    obtain ⟨hpolls', hcancelled', hstarts⟩ := run_invariant
      (I := fun m => Polls m ∧ m.cancelled = true ∧ m.starts = s.starts)
      (fun m e m' hm hstep =>
        ⟨polling_step hm.1 hstep, (hm.1.step_unmounted hm.2.1 hstep).1,
          (hm.1.step_unmounted hm.2.1 hstep).2.trans hm.2.2⟩)
      ⟨hpolls, hcancelled, rfl⟩ hrun
    exact ⟨(hpolls'.unmounted hcancelled').2, hstarts⟩

/-- A page that is hidden during a callback, and left while the next one is in flight. -/
theorem polling_sequential_hidden :
    ∃ s, run Hook.step (Hook.mount true)
        [.fire 0 .promise, .visibilityChange false .promise, .settle 1 true, .fire 1 .throws,
          .visibilityChange true .promise, .unmount] = some s ∧
      s.cancelled = true ∧ s.inFlight.length ≤ 1 ∧
        ∀ es' s', run Hook.step s es' = some s' → s'.pending = [] ∧ s'.starts = s.starts := by
  have hend : endsWith Hook.step (Hook.mount true)
      [.fire 0 .promise, .visibilityChange false .promise, .settle 1 true, .fire 1 .throws,
        .visibilityChange true .promise, .unmount] (fun s => s.cancelled) = true := by
    decide
  obtain ⟨s, hrun, hcancelled⟩ := endsWith_eq_true hend
  have hall := polling_sequential hrun
  exact ⟨s, hrun, hcancelled, hall.1, hall.2.2.2 hcancelled⟩

end OtaRobot.Frontend
