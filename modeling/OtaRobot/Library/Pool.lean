import OtaRobot.Library.Resumption
import OtaRobot.Library.Table
import OtaRobot.Library.Transition

/-!
# Pools of interleaved procedures

A machine runs any number of procedures against one shared store.  A label either
starts a procedure or lets one running procedure issue its next operation; an
operation is atomic.  The choice carried by a label resolves what the environment
decides: whether the operation fails, which value it answers with.

The trace records every operation with its answer.  It is history only: no step
reads it.

Main results:

- Theorem {lit}`Machine.step_cases`: everything one step can do.
- Theorem {lit}`Machine.step_disciplined`: a discipline obeyed by every procedure
  body is obeyed, along the trace, by every running procedure.
- Theorem {lit}`Machine.Disciplined.allowed`: the operation a disciplined thread
  executes is allowed where it is executed.
-/

open Transition

/-- Programs, admission of new procedures and meaning of the operations. -/
structure Machine {Op : Type} (Ret : Op → Type) (σ τ χ : Type) where
  body : τ → Prog Ret Unit
  accept : σ → τ → Option σ
  exec : σ → (op : Op) → χ → Ret op × σ

namespace Machine

variable {Op : Type} {Ret : Op → Type} {σ τ χ γ : Type}

/-- A procedure started for {lit}`tag`, with what is left of it to run. -/
structure Thread {Op : Type} (Ret : Op → Type) (τ : Type) where
  id : Nat
  tag : τ
  prog : Prog Ret Unit

/-- One operation a thread has executed, with its answer. -/
structure Event {Op : Type} (Ret : Op → Type) where
  thread : Nat
  op : Op
  ret : Ret op

/-- The shared store, the threads and the history. -/
structure Config {Op : Type} (Ret : Op → Type) (σ τ : Type) where
  store : σ
  threads : Table (@Thread.id Op Ret τ)
  trace : List (Event Ret)

/-- A thread starts, or executes its next operation. -/
inductive Label (τ χ : Type) where
  | spawn (id : Nat) (tag : τ)
  | step (id : Nat) (choice : χ)
deriving DecidableEq, Repr

/-- No thread has been started. -/
def initial (s : σ) : Config Ret σ τ where
  store := s
  threads := Table.empty
  trace := []

/-- Tag and residual program of a thread. -/
def Config.thread (c : Config Ret σ τ) (id : Nat) : Option (τ × Prog Ret Unit) :=
  (c.threads.find? id).map fun t => (t.tag, t.prog)

/-- The next operation of a thread with the choice made for it. -/
def stepThread (M : Machine Ret σ τ χ) (c : Config Ret σ τ) (id : Nat) (x : χ) :
    Prog Ret Unit → Option (Config Ret σ τ)
  | .done _ => none
  | .call op k =>
      let answer := M.exec c.store op x
      some
        { store := answer.2
          threads := c.threads.modify id (fun t => { t with prog := k answer.1 }) fun _ => rfl
          trace := c.trace ++ [⟨id, op, answer.1⟩] }

/-- One step of the pool. -/
def step (M : Machine Ret σ τ χ) (c : Config Ret σ τ) :
    Label τ χ → Option (Config Ret σ τ)
  | .spawn id tag =>
      match M.accept c.store tag with
      | none => none
      | some s' =>
          match c.threads.insert ⟨id, tag, M.body tag⟩ with
          | none => none
          | some threads => some { c with store := s', threads }
  | .step id x =>
      match c.threads.find? id with
      | none => none
      | some t => M.stepThread c id x t.prog

/-! ## What a step does -/

/-- A new thread was accepted and starts at the beginning of its body. -/
structure Spawned (M : Machine Ret σ τ χ) (c c' : Config Ret σ τ) (id : Nat) (tag : τ) :
    Prop where
  fresh : c.thread id = none
  accepted : M.accept c.store tag = some c'.store
  threads : ∀ j, c'.thread j = if j = id then some (tag, M.body tag) else c.thread j
  trace : c'.trace = c.trace

/-- A thread has executed one operation. -/
structure Executed (M : Machine Ret σ τ χ) (c c' : Config Ret σ τ) (id : Nat) (x : χ)
    (tag : τ) (op : Op) (k : Ret op → Prog Ret Unit) (r : Ret op) : Prop where
  before : c.thread id = some (tag, .call op k)
  effect : M.exec c.store op x = (r, c'.store)
  threads : ∀ j, c'.thread j = if j = id then some (tag, k r) else c.thread j
  trace : c'.trace = c.trace ++ [⟨id, op, r⟩]

/-- A step either starts a thread or executes one operation of one. -/
theorem step_cases {M : Machine Ret σ τ χ} {c c' : Config Ret σ τ} {l : Label τ χ}
    (h : M.step c l = some c') :
    (∃ id tag, l = .spawn id tag ∧ M.Spawned c c' id tag) ∨
      ∃ id x tag op k r, l = .step id x ∧ M.Executed c c' id x tag op k r := by
  cases l with
  | spawn id tag =>
      left
      simp only [step] at h
      split at h
      · simp at h
      · rename_i s' haccept
        split at h
        · simp at h
        · rename_i threads hinsert
          obtain rfl := Option.some.inj h
          refine ⟨id, tag, rfl, ?_, haccept, ?_, rfl⟩
          · simp [Config.thread, Table.insert_fresh hinsert]
          · intro j
            simp only [Config.thread, Table.find?_insert hinsert]
            by_cases hj : j = id <;> simp [hj]
  | step id x =>
      right
      simp only [step] at h
      split at h
      · simp at h
      · rename_i t ht
        have hid : t.id = id := Table.find?_key ht
        rcases t with ⟨tid, tag, prog⟩
        obtain rfl : tid = id := hid
        cases prog with
        | done a => simp [stepThread] at h
        | call op k =>
            obtain rfl := Option.some.inj h
            refine ⟨tid, x, tag, op, k, _, rfl, ?_, rfl, ?_, rfl⟩
            · simp [Config.thread, ht]
            · intro j
              simp only [Config.thread, Table.find?_modify]
              by_cases hj : j = tid <;> simp [hj, ht]

/-- What the start of a thread is. -/
theorem spawned_of_step {M : Machine Ret σ τ χ} {c c' : Config Ret σ τ} {id : Nat} {tag : τ}
    (h : M.step c (.spawn id tag) = some c') : M.Spawned c c' id tag := by
  obtain ⟨j, tag', hl, hs⟩ | ⟨j, x, tag', op, k, r, hl, -⟩ := step_cases h
  · obtain ⟨rfl, rfl⟩ := Label.spawn.inj hl
    exact hs
  · cases hl

/-- What the execution of an operation is. -/
theorem executed_of_step {M : Machine Ret σ τ χ} {c c' : Config Ret σ τ} {id : Nat} {x : χ}
    (h : M.step c (.step id x) = some c') : ∃ tag op k r, M.Executed c c' id x tag op k r := by
  obtain ⟨j, tag, hl, -⟩ | ⟨j, y, tag, op, k, r, hl, hs⟩ := step_cases h
  · cases hl
  · obtain ⟨rfl, rfl⟩ := Label.step.inj hl
    exact ⟨tag, op, k, r, hs⟩

/-- A thread keeps its tag. -/
theorem step_tag {M : Machine Ret σ τ χ} {c c' : Config Ret σ τ} {l : Label τ χ} {j : Nat}
    {tag : τ} {p : Prog Ret Unit} (h : M.step c l = some c')
    (hj : c.thread j = some (tag, p)) : ∃ p', c'.thread j = some (tag, p') := by
  obtain ⟨id, tag', -, hs⟩ | ⟨id, x, tag', op, k, r, -, hs⟩ := step_cases h
  · have hne : j ≠ id := by
      rintro rfl
      simp [hs.fresh] at hj
    exact ⟨p, by rw [hs.threads, if_neg hne, hj]⟩
  · by_cases hji : j = id
    · subst hji
      obtain ⟨rfl, -⟩ : tag' = tag ∧ _ := by simpa [hs.before] using hj
      exact ⟨k r, by rw [hs.threads, if_pos rfl]⟩
    · exact ⟨p, by rw [hs.threads, if_neg hji, hj]⟩

/-- A thread keeps its tag along a run. -/
theorem run_tag {M : Machine Ret σ τ χ} {c c' : Config Ret σ τ} {ls : List (Label τ χ)}
    {j : Nat} {tag : τ} {p : Prog Ret Unit} (h : run M.step c ls = some c')
    (hj : c.thread j = some (tag, p)) : ∃ p', c'.thread j = some (tag, p') := by
  refine run_invariant (I := fun c => ∃ p', c.thread j = some (tag, p')) ?_ ⟨p, hj⟩ h
  intro m l m' hm hstep
  obtain ⟨p', hp'⟩ := hm
  exact step_tag hstep hp'

/-- A thread that has been started stays. -/
theorem step_thread_ne_none {M : Machine Ret σ τ χ} {c c' : Config Ret σ τ} {l : Label τ χ}
    {j : Nat} (h : M.step c l = some c') (hj : c.thread j ≠ none) : c'.thread j ≠ none := by
  obtain ⟨t, ht⟩ := Option.ne_none_iff_exists'.mp hj
  obtain ⟨p', hp'⟩ := step_tag h ht
  simp [hp']

/-- The history only grows. -/
theorem step_trace {M : Machine Ret σ τ χ} {c c' : Config Ret σ τ} {l : Label τ χ}
    (h : M.step c l = some c') : c.trace <+: c'.trace := by
  obtain ⟨id, tag, -, hs⟩ | ⟨id, x, tag, op, k, r, -, hs⟩ := step_cases h
  · exact hs.trace ▸ List.prefix_rfl
  · exact hs.trace ▸ List.prefix_append _ _

theorem run_trace {M : Machine Ret σ τ χ} {c c' : Config Ret σ τ} {ls : List (Label τ χ)}
    (h : run M.step c ls = some c') : c.trace <+: c'.trace :=
  run_invariant (I := fun m => c.trace <+: m.trace)
    (fun _ _ _ hm hstep => hm.trans (step_trace hstep)) List.prefix_rfl h

/-! ## Executable tests on threads -/

/-- Nothing is left to run. -/
def isDone {α : Type} : Prog Ret α → Bool
  | .done _ => true
  | .call _ _ => false

/-- Every thread but {lit}`i` has run to its end. -/
def Config.restDone (c : Config Ret σ τ) (i : Nat) : Bool :=
  c.threads.rows.all fun t => t.id == i || isDone t.prog

theorem Config.restDone_spec {c : Config Ret σ τ} {i j : Nat} {tag : τ}
    {p : Prog Ret Unit} (h : c.restDone i = true) (hj : c.thread j = some (tag, p))
    (hne : j ≠ i) : p = .done () := by
  obtain ⟨t, ht, heq⟩ : ∃ t, c.threads.find? j = some t ∧ (t.tag, t.prog) = (tag, p) := by
    simpa [Config.thread] using hj
  obtain ⟨rfl, rfl⟩ : t.tag = tag ∧ t.prog = p := by simpa using heq
  have hid : t.id = j := Table.find?_key ht
  have hdone := List.all_eq_true.mp h t (Table.mem_of_find? ht)
  cases hprog : t.prog with
  | done a => rfl
  | call op k => simp [hprog, isDone, hid, hne] at hdone

/-! ## Stateless disciplines of all threads -/

/-- Every thread satisfies {lit}`P` of its tag and residual program. -/
def Config.AllThreads (c : Config Ret σ τ) (P : τ → Prog Ret Unit → Prop) : Prop :=
  ∀ id tag p, c.thread id = some (tag, p) → P tag p

theorem allThreads_initial (s : σ) (P : τ → Prog Ret Unit → Prop) :
    (initial s : Config Ret σ τ).AllThreads P := by
  intro id tag p h
  simp [initial, Config.thread] at h

/-- A property of residual programs is kept if bodies have it and answers keep it. -/
theorem step_allThreads {M : Machine Ret σ τ χ} {c c' : Config Ret σ τ} {l : Label τ χ}
    {P : τ → Prog Ret Unit → Prop} (h : M.step c l = some c') (hc : c.AllThreads P)
    (hbody : ∀ id tag, l = .spawn id tag → M.Spawned c c' id tag → P tag (M.body tag))
    (hans : ∀ id x tag op k r, l = .step id x → M.Executed c c' id x tag op k r →
      P tag (.call op k) → P tag (k r)) : c'.AllThreads P := by
  intro j tag p hj
  obtain ⟨id, tag', hl, hs⟩ | ⟨id, x, tag', op, k, r, hl, hs⟩ := step_cases h
  · rw [hs.threads] at hj
    split at hj
    · obtain ⟨rfl, rfl⟩ : tag' = tag ∧ M.body tag' = p := by simpa using hj
      exact hbody id tag' hl hs
    · exact hc j tag p hj
  · rw [hs.threads] at hj
    split at hj
    · obtain ⟨rfl, rfl⟩ : tag' = tag ∧ k r = p := by simpa using hj
      exact hans id x tag' op k r hl hs (hc id tag' _ hs.before)
    · exact hc j tag p hj

/-- Every recorded operation satisfies {lit}`Q` of the tag of its thread. -/
def Config.AllOps (c : Config Ret σ τ) (Q : τ → Op → Prop) : Prop :=
  ∀ e ∈ c.trace, ∃ tag p, c.thread e.thread = some (tag, p) ∧ Q tag e.op

/-- What every body issues on the answers it got, every thread has issued. -/
theorem run_allOps_of_answers {M : Machine Ret σ τ χ} {s : σ} {c : Config Ret σ τ}
    {ls : List (Label τ χ)} {Ok : (op : Op) → Ret op → Prop} {Q : τ → Op → Prop}
    (hbody : ∀ tag, Prog.Always Ok (Q tag) (M.body tag))
    (h : run M.step (initial s) ls = some c) (hok : ∀ e ∈ c.trace, Ok e.op e.ret) :
    c.AllOps Q := by
  have hstep : ∀ m l m',
      ((∀ e ∈ m.trace, Ok e.op e.ret) →
        (m.AllThreads fun tag p => Prog.Always Ok (Q tag) p) ∧ m.AllOps Q) →
        M.step m l = some m' → (∀ e ∈ m'.trace, Ok e.op e.ret) →
          (m'.AllThreads fun tag p => Prog.Always Ok (Q tag) p) ∧ m'.AllOps Q := by
    intro m l m' hm hl hok'
    obtain ⟨hthreads, hops⟩ := hm fun e he => hok' e ((step_trace hl).subset he)
    have hkeep : ∀ e ∈ m.trace, ∃ tag p, m'.thread e.thread = some (tag, p) ∧ Q tag e.op := by
      intro e he
      obtain ⟨tag, p, he, hQ⟩ := hops e he
      obtain ⟨p', he'⟩ := step_tag hl he
      exact ⟨tag, p', he', hQ⟩
    constructor
    · apply step_allThreads hl hthreads
      · intro id tag _ _
        exact hbody tag
      · intro id x tag op k r _ hs hcall
        apply hcall.2 r
        apply hok' ⟨id, op, r⟩
        rw [hs.trace]
        exact List.mem_append_right _ (List.mem_singleton_self _)
    · obtain ⟨id, tag, -, hs⟩ | ⟨id, x, tag, op, k, r, -, hs⟩ := step_cases hl
      · intro e he
        rw [hs.trace] at he
        exact hkeep e he
      · intro e he
        rw [hs.trace, List.mem_append, List.mem_singleton] at he
        rcases he with he | rfl
        · exact hkeep e he
        · have hcall := hthreads id tag _ hs.before
          exact ⟨tag, k r, by rw [hs.threads, if_pos rfl], hcall.1⟩
  have hinitial : (∀ e ∈ (initial s : Config Ret σ τ).trace, Ok e.op e.ret) →
      ((initial s : Config Ret σ τ).AllThreads fun tag p => Prog.Always Ok (Q tag) p) ∧
        (initial s : Config Ret σ τ).AllOps Q := by
    intro _
    refine ⟨allThreads_initial s _, fun e he => ?_⟩
    simp [initial] at he
  exact (run_invariant hstep hinitial h hok).2

/-- What every body always issues, every thread has issued. -/
theorem run_allOps {M : Machine Ret σ τ χ} {s : σ} {c : Config Ret σ τ}
    {ls : List (Label τ χ)} {Q : τ → Op → Prop}
    (hbody : ∀ tag, Prog.Always (fun _ _ => True) (Q tag) (M.body tag))
    (h : run M.step (initial s) ls = some c) : c.AllOps Q :=
  run_allOps_of_answers hbody h fun _ _ => trivial

/-! ## Disciplines along the trace -/

/-- The operations of one thread, in order. -/
def eventsOf (id : Nat) (trace : List (Event Ret)) : List (Event Ret) :=
  trace.filter fun e => e.thread = id

/-- The automaton state a thread's own operations lead to. -/
def ghost (A : Prog.Discipline Ret γ) (g₀ : γ) (id : Nat) (trace : List (Event Ret)) : γ :=
  (eventsOf id trace).foldl (fun g e => A.next g e.op e.ret) g₀

theorem eventsOf_append (id : Nat) (trace : List (Event Ret)) (e : Event Ret) :
    eventsOf id (trace ++ [e]) =
      if e.thread = id then eventsOf id trace ++ [e] else eventsOf id trace := by
  by_cases h : e.thread = id <;> simp [eventsOf, h]

/-- The automaton after one more event. -/
theorem ghost_append (A : Prog.Discipline Ret γ) (g₀ : γ) (id : Nat)
    (trace : List (Event Ret)) (e : Event Ret) :
    ghost A g₀ id (trace ++ [e]) =
      if e.thread = id then A.next (ghost A g₀ id trace) e.op e.ret
      else ghost A g₀ id trace := by
  unfold ghost
  rw [eventsOf_append]
  split <;> simp

/-- The automaton after an event of its thread. -/
theorem ghost_append_self (A : Prog.Discipline Ret γ) (g₀ : γ) (id : Nat)
    (trace : List (Event Ret)) (op : Op) (r : Ret op) :
    ghost A g₀ id (trace ++ [⟨id, op, r⟩]) = A.next (ghost A g₀ id trace) op r := by
  simp [ghost_append]

/-- The automaton after an event of another thread. -/
theorem ghost_append_ne (A : Prog.Discipline Ret γ) (g₀ : γ) {id : Nat}
    (trace : List (Event Ret)) {e : Event Ret} (h : e.thread ≠ id) :
    ghost A g₀ id (trace ++ [e]) = ghost A g₀ id trace := by
  simp [ghost_append, h]

/-- Every thread obeys the discipline of its tag, started in {lit}`g₀` and moved on
by the thread's own part of the trace, and returns with {lit}`post`; only threads
have events. -/
structure Disciplined (A : τ → Prog.Discipline Ret γ) (post : τ → γ → Prop) (g₀ : τ → γ)
    (c : Config Ret σ τ) : Prop where
  obeys : ∀ id tag p, c.thread id = some (tag, p) →
    Prog.Obeys (A tag) (fun g _ => post tag g) (ghost (A tag) (g₀ tag) id c.trace) p
  closed : ∀ e ∈ c.trace, c.thread e.thread ≠ none

theorem disciplined_initial (A : τ → Prog.Discipline Ret γ) (post : τ → γ → Prop)
    (g₀ : τ → γ) (s : σ) : Disciplined A post g₀ (initial s : Config Ret σ τ) where
  obeys id tag p h := by simp [initial, Config.thread] at h
  closed e he := by simp [initial] at he

/-- A thread that has not started has no events. -/
theorem eventsOf_eq_nil {c : Config Ret σ τ} {id : Nat}
    (hclosed : ∀ e ∈ c.trace, c.thread e.thread ≠ none) (hid : c.thread id = none) :
    eventsOf id c.trace = [] := by
  apply List.filter_eq_nil_iff.mpr
  intro e he heq
  have : e.thread = id := by simpa using heq
  exact hclosed e he (this ▸ hid)

/-- A discipline of all bodies is kept along every step whose answer the
discipline relies on. -/
theorem step_disciplined_of_label {M : Machine Ret σ τ χ} {A : τ → Prog.Discipline Ret γ}
    {post : τ → γ → Prop} {g₀ : τ → γ} {c c' : Config Ret σ τ} {l : Label τ χ}
    (h : M.step c l = some c') (hc : Disciplined A post g₀ c)
    (hbody : ∀ tag, Prog.Obeys (A tag) (fun g _ => post tag g) (g₀ tag) (M.body tag))
    (hrely : ∀ id x tag op k r, l = .step id x → M.Executed c c' id x tag op k r →
      (A tag).rely (ghost (A tag) (g₀ tag) id c.trace) op r) :
    Disciplined A post g₀ c' := by
  obtain ⟨id, tag', -, hs⟩ | ⟨id, x, tag', op, k, r, hl, hs⟩ := step_cases h
  · constructor
    · intro j tag p hj
      rw [hs.threads] at hj
      rw [hs.trace]
      split at hj
      · rename_i hji
        obtain ⟨rfl, rfl⟩ : tag' = tag ∧ M.body tag' = p := by simpa using hj
        rw [ghost, hji, eventsOf_eq_nil hc.closed hs.fresh]
        exact hbody tag'
      · exact hc.obeys j tag p hj
    · intro e he
      rw [hs.trace] at he
      rw [hs.threads]
      split
      · simp
      · exact hc.closed e he
  · constructor
    · intro j tag p hj
      rw [hs.threads] at hj
      rw [hs.trace]
      split at hj
      · rename_i hji
        subst hji
        obtain ⟨rfl, rfl⟩ : tag' = tag ∧ k r = p := by simpa using hj
        rw [ghost_append_self]
        exact (hc.obeys j tag' _ hs.before).2 r (hrely j x tag' op k r hl hs)
      · rename_i hji
        rw [ghost_append_ne _ _ _ (Ne.symm hji)]
        exact hc.obeys j tag p hj
    · intro e he
      rw [hs.trace, List.mem_append, List.mem_singleton] at he
      rw [hs.threads]
      split
      · simp
      · rename_i hne
        rcases he with he | rfl
        · exact hc.closed e he
        · exact absurd rfl hne

/-- A step keeps every thread to its discipline. -/
theorem step_disciplined {M : Machine Ret σ τ χ} {A : τ → Prog.Discipline Ret γ}
    {post : τ → γ → Prop} {g₀ : τ → γ} {c c' : Config Ret σ τ} {l : Label τ χ}
    (h : M.step c l = some c') (hc : Disciplined A post g₀ c)
    (hbody : ∀ tag, Prog.Obeys (A tag) (fun g _ => post tag g) (g₀ tag) (M.body tag))
    (hrely : ∀ id x tag op k r, M.Executed c c' id x tag op k r →
      (A tag).rely (ghost (A tag) (g₀ tag) id c.trace) op r) :
    Disciplined A post g₀ c' :=
  step_disciplined_of_label h hc hbody fun id x tag op k r _ hs => hrely id x tag op k r hs

/-- The operation a disciplined thread executes next is allowed. -/
theorem Disciplined.allowed {M : Machine Ret σ τ χ} {A : τ → Prog.Discipline Ret γ}
    {post : τ → γ → Prop} {g₀ : τ → γ} {c c' : Config Ret σ τ} {id : Nat} {x : χ} {tag : τ}
    {op : Op} {k : Ret op → Prog Ret Unit} {r : Ret op} (hc : Disciplined A post g₀ c)
    (hs : M.Executed c c' id x tag op k r) :
    (A tag).allowed (ghost (A tag) (g₀ tag) id c.trace) op :=
  (hc.obeys id tag _ hs.before).1

/-- Every thread satisfies {lit}`I` of its tag, its automaton state and its own part
of the trace. -/
def Config.AllGhosts (c : Config Ret σ τ) (A : τ → Prog.Discipline Ret γ) (g₀ : τ → γ)
    (I : τ → γ → List (Event Ret) → Prop) : Prop :=
  ∀ id tag p, c.thread id = some (tag, p) →
    I tag (ghost (A tag) (g₀ tag) id c.trace) (eventsOf id c.trace)

theorem allGhosts_initial (s : σ) (A : τ → Prog.Discipline Ret γ) (g₀ : τ → γ)
    (I : τ → γ → List (Event Ret) → Prop) :
    (initial s : Config Ret σ τ).AllGhosts A g₀ I := by
  intro id tag p h
  simp [initial, Config.thread] at h

/-- What the allowed operations of a discipline keep, every disciplined thread keeps. -/
theorem step_allGhosts {M : Machine Ret σ τ χ} {A : τ → Prog.Discipline Ret γ}
    {post : τ → γ → Prop} {g₀ : τ → γ} {I : τ → γ → List (Event Ret) → Prop}
    {c c' : Config Ret σ τ} {l : Label τ χ} (h : M.step c l = some c')
    (hc : Disciplined A post g₀ c) (hI : c.AllGhosts A g₀ I) (hinit : ∀ tag, I tag (g₀ tag) [])
    (hnext : ∀ tag g events e, I tag g events → (A tag).allowed g e.op →
      I tag ((A tag).next g e.op e.ret) (events ++ [e])) :
    c'.AllGhosts A g₀ I := by
  intro j tag p hj
  obtain ⟨id, tag', -, hs⟩ | ⟨id, x, tag', op, k, r, -, hs⟩ := step_cases h
  · rw [hs.threads] at hj
    rw [hs.trace]
    split at hj
    · rename_i hji
      have hnil : eventsOf id c.trace = [] := eventsOf_eq_nil hc.closed hs.fresh
      rw [ghost, hji, hnil]
      exact hinit tag
    · exact hI j tag p hj
  · rw [hs.threads] at hj
    rw [hs.trace]
    split at hj
    · rename_i hji
      subst hji
      obtain ⟨rfl, rfl⟩ : tag' = tag ∧ k r = p := by simpa using hj
      rw [ghost_append_self, eventsOf_append, if_pos rfl]
      exact hnext tag' _ _ ⟨j, op, r⟩ (hI j tag' _ hs.before) (hc.allowed hs)
    · rename_i hji
      have hne : id ≠ j := Ne.symm hji
      rw [ghost_append_ne _ _ _ hne, eventsOf_append, if_neg hne]
      exact hI j tag p hj

end Machine
