import Mathlib.Tactic.Common

/-!
# Resumptions

A procedure that talks to its environment through operations is a tree: a leaf is
a returned value, a node is an operation with one subtree for each answer.  The
same tree is executed in one go ({lit}`Prog.run`) or, one operation at a time,
interleaved with other procedures.

Properties of such a procedure that do not depend on the schedule are stated as
*disciplines*: an automaton reads the operations the procedure issues and the
answers it gets, and says in each of its states which operation may come next.

Main results:

- Theorem {lit}`Prog.Obeys.bind`: disciplines compose along sequencing.
- Theorem {lit}`Prog.Obeys.not_pending`: what a discipline forbids until the next
  check cannot be pending.
- Theorem {lit}`Prog.obeys_tracking`: an execution is followed by its own automaton.
- Theorem {lit}`Prog.run_bind`: running a sequence runs its parts in order.
-/

/-- Procedures over operations {lit}`Op`, answered in {lit}`Ret`, returning {lit}`α`. -/
inductive Prog {Op : Type} (Ret : Op → Type) (α : Type) : Type where
  | done (a : α) : Prog Ret α
  | call (op : Op) (k : Ret op → Prog Ret α) : Prog Ret α

namespace Prog

variable {Op : Type} {Ret : Op → Type} {α β γ σ : Type}

/-! ## Sequencing -/

/-- Run {lit}`f` on the value the procedure returns. -/
def bind : Prog Ret α → (α → Prog Ret β) → Prog Ret β
  | done a, f => f a
  | call op k, f => call op fun r => (k r).bind f

instance : Monad (Prog Ret) where
  pure := done
  bind := bind

/-- The procedure that issues one operation and returns its answer. -/
def perform (op : Op) : Prog Ret (Ret op) :=
  call op done

@[simp]
theorem pure_eq (a : α) : (pure a : Prog Ret α) = done a :=
  rfl

@[simp]
theorem done_bind (a : α) (f : α → Prog Ret β) : (done a >>= f) = f a :=
  rfl

@[simp]
theorem call_bind (op : Op) (k : Ret op → Prog Ret α) (f : α → Prog Ret β) :
    (call op k >>= f) = call op fun r => k r >>= f :=
  rfl

@[simp]
theorem perform_bind (op : Op) (f : Ret op → Prog Ret β) :
    (perform op >>= f) = call op f :=
  rfl

theorem bind_assoc (p : Prog Ret α) (f : α → Prog Ret β) (g : β → Prog Ret γ) :
    (p >>= f >>= g) = p >>= fun a => f a >>= g := by
  induction p with
  | done a => rfl
  | call op k ih => simp [ih]

/-- Returning the result changes nothing. -/
theorem bind_done (p : Prog Ret α) : (p >>= done) = p := by
  induction p with
  | done a => rfl
  | call op k ih => simp [ih]

instance : LawfulMonad (Prog Ret) :=
  LawfulMonad.mk' _ bind_done (fun _ _ => rfl) bind_assoc

/-! ## Running without interleaving -/

/-- Execute the whole procedure against a state. -/
def run (exec : σ → (op : Op) → Ret op × σ) : Prog Ret α → σ → α × σ
  | done a, s => (a, s)
  | call op k, s => (k (exec s op).1).run exec (exec s op).2

/-- A program that has ended. -/
@[simp]
theorem run_done (exec : σ → (op : Op) → Ret op × σ) (a : α) (s : σ) :
    (done a : Prog Ret α).run exec s = (a, s) :=
  rfl

theorem run_call (exec : σ → (op : Op) → Ret op × σ) (op : Op)
    (k : Ret op → Prog Ret α) (s : σ) :
    (call op k).run exec s = (k (exec s op).1).run exec (exec s op).2 :=
  rfl

/-- A program whose question was answered. -/
theorem run_call_of_answer {exec : σ → (op : Op) → Ret op × σ} {op : Op}
    {k : Ret op → Prog Ret α} {s : σ} {r : Ret op} (h : (exec s op).1 = r) :
    (call op k).run exec s = (k r).run exec (exec s op).2 := by
  subst h
  rfl

/-- One program after the other. -/
theorem run_bind (exec : σ → (op : Op) → Ret op × σ) (p : Prog Ret α)
    (f : α → Prog Ret β) (s : σ) :
    (p >>= f).run exec s = (f (p.run exec s).1).run exec (p.run exec s).2 := by
  induction p generalizing s with
  | done a => rfl
  | call op k ih => simpa [run_call] using ih _ _

/-- An operation with the answer it got. -/
structure Answered {Op : Type} (Ret : Op → Type) where
  op : Op
  ret : Ret op

/-- Execution that keeps a log of the operations. -/
def logged (exec : σ → (op : Op) → Ret op × σ) (s : σ × List (Answered Ret)) (op : Op) :
    Ret op × (σ × List (Answered Ret)) :=
  ((exec s.1 op).1, ((exec s.1 op).2, s.2 ++ [⟨op, (exec s.1 op).1⟩]))

/-- The log is history only. -/
theorem run_logged (exec : σ → (op : Op) → Ret op × σ) (p : Prog Ret α)
    (s : σ × List (Answered Ret)) :
    (p.run (logged exec) s).1 = (p.run exec s.1).1 ∧
      (p.run (logged exec) s).2.1 = (p.run exec s.1).2 := by
  induction p generalizing s with
  | done a => exact ⟨rfl, rfl⟩
  | call op k ih => exact ih _ _

/-- The log only grows. -/
theorem run_logged_append (exec : σ → (op : Op) → Ret op × σ) (p : Prog Ret α)
    (s : σ × List (Answered Ret)) : ∃ more, (p.run (logged exec) s).2.2 = s.2 ++ more := by
  induction p generalizing s with
  | done a => exact ⟨[], (List.append_nil _).symm⟩
  | call op k ih =>
      obtain ⟨more, hmore⟩ := ih (exec s.1 op).1 (logged exec s op).2
      refine ⟨⟨op, (exec s.1 op).1⟩ :: more, ?_⟩
      rw [run_call]
      refine hmore.trans ?_
      simp [logged]

/-! ## Disciplines -/

/-- An automaton over the operations of a procedure: {lit}`allowed g op` says that
{lit}`op` may be issued in state {lit}`g`, {lit}`rely g op r` that {lit}`r` is an
answer the procedure has to cope with there, and {lit}`next` moves on. -/
structure Discipline {Op : Type} (Ret : Op → Type) (γ : Type) where
  allowed : γ → Op → Prop
  rely : γ → (op : Op) → Ret op → Prop
  next : γ → (op : Op) → Ret op → γ

/-- Every operation the procedure can issue is allowed where it is issued, and
{lit}`post` holds wherever it returns. -/
def Obeys (A : Discipline Ret γ) (post : γ → α → Prop) : γ → Prog Ret α → Prop
  | g, done a => post g a
  | g, call op k => A.allowed g op ∧ ∀ r, A.rely g op r → Obeys A post (A.next g op r) (k r)

/-- A program that has ended obeys its postcondition. -/
@[simp]
theorem obeys_done (A : Discipline Ret γ) (post : γ → α → Prop) (g : γ) (a : α) :
    Obeys A post g (done a : Prog Ret α) ↔ post g a :=
  Iff.rfl

/-- Start in an equal automaton state. -/
theorem Obeys.of_eq {A : Discipline Ret γ} {post : γ → α → Prop} {g g' : γ} {p : Prog Ret α}
    (h : g = g') (hp : Obeys A post g' p) : Obeys A post g p :=
  h ▸ hp

/-- A sequence obeys a discipline if its second part takes over wherever its first
part can return. -/
theorem Obeys.bind {A : Discipline Ret γ} {M : γ → α → Prop} {post : γ → β → Prop}
    {p : Prog Ret α} {f : α → Prog Ret β} {g : γ} (hp : Obeys A M g p)
    (hf : ∀ g' a, M g' a → Obeys A post g' (f a)) : Obeys A post g (p >>= f) := by
  induction p generalizing g with
  | done a => exact hf g a hp
  | call op k ih => exact ⟨hp.1, fun r hr => ih r (hp.2 r hr)⟩

theorem Obeys.mono {A : Discipline Ret γ} {post post' : γ → α → Prop} {p : Prog Ret α}
    {g : γ} (hp : Obeys A post g p) (h : ∀ g' a, post g' a → post' g' a) :
    Obeys A post' g p := by
  induction p generalizing g with
  | done a => exact h g a hp
  | call op k ih => exact ⟨hp.1, fun r hr => ih r (hp.2 r hr)⟩

/-- A discipline that allows everything is obeyed by every procedure. -/
theorem obeys_of_forall {A : Discipline Ret γ} {post : γ → α → Prop}
    (hallowed : ∀ g op, A.allowed g op) (hpost : ∀ g a, post g a) (g : γ)
    (p : Prog Ret α) : Obeys A post g p := by
  induction p generalizing g with
  | done a => exact hpost g a
  | call op k ih => exact ⟨hallowed g op, fun r _ => ih r _⟩

/-! ## Stateless disciplines -/

/-- Every operation the procedure can issue, on answers in {lit}`Ok`, satisfies
{lit}`Q`. -/
def Always (Ok : (op : Op) → Ret op → Prop) (Q : Op → Prop) : Prog Ret α → Prop
  | done _ => True
  | call op k => Q op ∧ ∀ r, Ok op r → Always Ok Q (k r)

/-- A program that has ended executes nothing. -/
@[simp]
theorem always_done (Ok : (op : Op) → Ret op → Prop) (Q : Op → Prop) (a : α) :
    Always Ok Q (done a : Prog Ret α) :=
  trivial

/-- One program after the other. -/
theorem Always.bind {Ok : (op : Op) → Ret op → Prop} {Q : Op → Prop} {p : Prog Ret α}
    {f : α → Prog Ret β} (hp : Always Ok Q p) (hf : ∀ a, Always Ok Q (f a)) :
    Always Ok Q (p >>= f) := by
  induction p with
  | done a => exact hf a
  | call op k ih => exact ⟨hp.1, fun r hr => ih r (hp.2 r hr)⟩

/-- Stronger assumptions, a weaker property. -/
theorem Always.mono {Ok Ok' : (op : Op) → Ret op → Prop} {Q Q' : Op → Prop}
    {p : Prog Ret α} (hOk : ∀ op r, Ok' op r → Ok op r) (hQ : ∀ op, Q op → Q' op)
    (hp : Always Ok Q p) : Always Ok' Q' p := by
  induction p with
  | done a => trivial
  | call op k ih => exact ⟨hQ op hp.1, fun r hr => ih r (hp.2 r (hOk op r hr))⟩

theorem Always.and {Ok : (op : Op) → Ret op → Prop} {Q Q' : Op → Prop} {p : Prog Ret α}
    (hp : Always Ok Q p) (hp' : Always Ok Q' p) : Always Ok (fun op => Q op ∧ Q' op) p := by
  induction p with
  | done a => trivial
  | call op k ih => exact ⟨⟨hp.1, hp'.1⟩, fun r hr => ih r (hp.2 r hr) (hp'.2 r hr)⟩

/-- A stateless discipline is an automaton with one state. -/
theorem always_iff_obeys {Ok : (op : Op) → Ret op → Prop} {Q : Op → Prop} {p : Prog Ret α} :
    Always Ok Q p ↔
      Obeys (γ := Unit) ⟨fun _ => Q, fun _ => Ok, fun _ _ _ => ()⟩ (fun _ _ => True) () p := by
  induction p with
  | done a => exact Iff.rfl
  | call op k ih => exact and_congr_right fun _ => forall₂_congr fun r _ => ih r

/-- A set of automaton states in which everything the procedure does is allowed,
and which it does not leave, makes it obey the discipline. -/
theorem Always.obeys {A : Discipline Ret γ} {Ok : (op : Op) → Ret op → Prop}
    {Q : Op → Prop} {G : γ → Prop} {p : Prog Ret α} {g : γ} (hp : Always Ok Q p)
    (hrely : ∀ g op r, A.rely g op r → Ok op r)
    (hallowed : ∀ g op, G g → Q op → A.allowed g op)
    (hnext : ∀ g op r, G g → Q op → G (A.next g op r)) (hg : G g) :
    Obeys A (fun g' _ => G g') g p := by
  induction p generalizing g with
  | done a => exact hg
  | call op k ih =>
      exact ⟨hallowed g op hg hp.1, fun r hr =>
        ih r (hp.2 r (hrely g op r hr)) (hnext g op r hg hp.1)⟩

/-- A procedure that does nothing the automaton state notices may stand in front. -/
theorem Always.obeys_bind {A : Discipline Ret γ} {Ok : (op : Op) → Ret op → Prop}
    {Q : Op → Prop} {post : γ → β → Prop} {p : Prog Ret α} {f : α → Prog Ret β} {g : γ}
    (hp : Always Ok Q p) (hrely : ∀ op r, A.rely g op r → Ok op r)
    (hallowed : ∀ op, Q op → A.allowed g op) (hnext : ∀ op r, Q op → A.next g op r = g)
    (hf : ∀ a, Obeys A post g (f a)) : Obeys A post g (p >>= f) := by
  induction p with
  | done a => exact hf a
  | call op k ih =>
      refine ⟨hallowed op hp.1, fun r hr => ?_⟩
      exact Obeys.of_eq (hnext op r hp.1) (ih r (hp.2 r (hrely op r hr)))

/-- In a set of automaton states that the procedure cannot leave, the procedure
only does what is allowed there. -/
theorem Obeys.always {A : Discipline Ret γ} {post : γ → α → Prop}
    {Ok : (op : Op) → Ret op → Prop} {Q : Op → Prop} {G : γ → Prop} {p : Prog Ret α} {g : γ}
    (hp : Obeys A post g p) (hrely : ∀ g op r, Ok op r → A.rely g op r)
    (hallowed : ∀ g op, G g → A.allowed g op → Q op)
    (hnext : ∀ g op r, G g → G (A.next g op r)) (hg : G g) : Always Ok Q p := by
  induction p generalizing g with
  | done a => trivial
  | call op k ih =>
      exact ⟨hallowed g op hg hp.1, fun r hr =>
        ih r (hp.2 r (hrely g op r hr)) (hnext g op r hg)⟩

/-- Execution against a state that stays related to the automaton state ends where the
discipline says. -/
theorem Obeys.run {A : Discipline Ret γ} {post : γ → α → Prop} {R : σ → γ → Prop}
    {exec : σ → (op : Op) → Ret op × σ}
    (hexec : ∀ s g op, R s g → A.allowed g op →
      A.rely g op (exec s op).1 ∧ R (exec s op).2 (A.next g op (exec s op).1))
    {p : Prog Ret α} {g : γ} {s : σ} (hp : Obeys A post g p) (hs : R s g) :
    ∃ g', R (p.run exec s).2 g' ∧ post g' (p.run exec s).1 := by
  induction p generalizing g s with
  | done a => exact ⟨g, hs, hp⟩
  | call op k ih =>
      obtain ⟨hrely, hnext⟩ := hexec s g op hs hp.1
      exact ih _ (hp.2 _ hrely) hnext

/-- A property of the state that every operation keeps is kept by the execution. -/
theorem Always.run {Ok : (op : Op) → Ret op → Prop} {Q : Op → Prop} {R : σ → Prop}
    {exec : σ → (op : Op) → Ret op × σ}
    (hexec : ∀ s op, R s → Q op → Ok op (exec s op).1 ∧ R (exec s op).2)
    {p : Prog Ret α} {s : σ} (hp : Always Ok Q p) (hs : R s) : R (p.run exec s).2 := by
  obtain ⟨_, hR, -⟩ := (always_iff_obeys.mp hp).run (R := fun s _ => R s)
    (fun s _ op hs hop => hexec s op hs hop) hs
  exact hR

/-- The automaton whose state is the state of an execution. -/
def tracking (exec : σ → (op : Op) → Ret op × σ) : Discipline Ret σ where
  allowed _ _ := True
  rely s op r := r = (exec s op).1
  next s op _ := (exec s op).2

/-- What the automaton of an execution says of a procedure is true of the execution. -/
theorem obeys_tracking {exec : σ → (op : Op) → Ret op × σ} {post : σ → α → Prop} {s : σ}
    {p : Prog Ret α} : Obeys (tracking exec) post s p ↔ post (p.run exec s).2 (p.run exec s).1 := by
  induction p generalizing s with
  | done a => exact Iff.rfl
  | call op k ih =>
      rw [run_call, ← ih]
      constructor
      · intro h
        exact h.2 _ rfl
      · intro h
        refine ⟨trivial, fun r hr => ?_⟩
        cases hr
        exact h

/-- One operation of an execution, with its answer. -/
theorem tracking_call {exec : σ → (op : Op) → Ret op × σ} {post : σ → α → Prop} {s s' : σ}
    {op : Op} {k : Ret op → Prog Ret α} {r : Ret op} (h : exec s op = (r, s'))
    (hk : Obeys (tracking exec) post s' (k r)) : Obeys (tracking exec) post s (call op k) := by
  refine ⟨trivial, fun r' hr' => ?_⟩
  have hr : r' = r := hr'.trans (congrArg Prod.fst h)
  subst hr
  exact Obeys.of_eq (congrArg Prod.snd h) hk

/-! ## Larger sets of operations -/

section

variable {Op' : Type} {Ret' : Op' → Type} {f : Op → Op'} {back : ∀ op, Ret' (f op) → Ret op}

/-- The same procedure among others, over a larger set of operations. -/
def embed (p : Prog Ret α) (f : Op → Op') (back : ∀ op, Ret' (f op) → Ret op) : Prog Ret' α :=
  match p with
  | done a => done a
  | call op k => call (f op) fun r => (k (back op r)).embed f back

theorem embed_bind (p : Prog Ret α) (g : α → Prog Ret β) :
    (p >>= g).embed f back = p.embed f back >>= fun a => (g a).embed f back := by
  induction p with
  | done a => rfl
  | call op k ih =>
      rw [call_bind, embed, embed, call_bind]
      congr 1
      funext r
      exact ih _

/-- What is allowed everywhere is always done. -/
theorem always_embed {Ok' : (op' : Op') → Ret' op' → Prop} {Q' : Op' → Prop}
    (hQ : ∀ op, Q' (f op)) (p : Prog Ret α) : Always Ok' Q' (p.embed f back) := by
  induction p with
  | done a => trivial
  | call op k ih => exact ⟨hQ op, fun r _ => ih _⟩

/-- A property of the operations, seen from the larger set. -/
theorem Always.embed {Ok : (op : Op) → Ret op → Prop} {Q : Op → Prop}
    {Ok' : (op' : Op') → Ret' op' → Prop} {Q' : Op' → Prop} {p : Prog Ret α}
    (hp : Always Ok Q p) (hOk : ∀ op r, Ok' (f op) r → Ok op (back op r))
    (hQ : ∀ op, Q op → Q' (f op)) : Always Ok' Q' (p.embed f back) := by
  induction p with
  | done a => trivial
  | call op k ih => exact ⟨hQ op hp.1, fun r hr => ih _ (hp.2 _ (hOk op r hr))⟩

end

/-! ## Pending operations -/

/-- On some answers the procedure issues a {lit}`target` operation before it issues
its next {lit}`check`. -/
def Pending (Ok : (op : Op) → Ret op → Prop) (check target : Op → Prop) :
    Prog Ret α → Prop
  | done _ => False
  | call op k => target op ∨ (¬ check op ∧ ∃ r, Ok op r ∧ Pending Ok check target (k r))

/-- Nothing is pending at the end. -/
@[simp]
theorem not_pending_done (Ok : (op : Op) → Ret op → Prop) (check target : Op → Prop)
    (a : α) : ¬ Pending Ok check target (done a : Prog Ret α) :=
  id

/-- An operation other than a check leaves nothing pending that was not pending
before it. -/
theorem Pending.of_answer {Ok : (op : Op) → Ret op → Prop} {check target : Op → Prop}
    {op : Op} {k : Ret op → Prog Ret α} {r : Ret op} (hcheck : ¬ check op) (hr : Ok op r)
    (h : Pending Ok check target (k r)) : Pending Ok check target (call op k) :=
  Or.inr ⟨hcheck, r, hr, h⟩

/-- Nothing is pending in a program without the target. -/
theorem Always.not_pending {Ok : (op : Op) → Ret op → Prop} {check target Q : Op → Prop}
    {p : Prog Ret α} (hp : Always Ok Q p) (hQ : ∀ op, Q op → ¬ target op) :
    ¬ Pending Ok check target p := by
  induction p with
  | done a => exact id
  | call op k ih =>
      rintro (htarget | ⟨-, r, hr, hpend⟩)
      · exact hQ op hp.1 htarget
      · exact ih r (hp.2 r hr) hpend

/-- A set of automaton states that only a check can leave, and in which the target
is forbidden, has no pending target. -/
theorem Obeys.not_pending {A : Discipline Ret γ} {Ok : (op : Op) → Ret op → Prop}
    {post : γ → α → Prop} {check target : Op → Prop} {G : γ → Prop}
    (hrely : ∀ g op r, Ok op r → A.rely g op r)
    (hclosed : ∀ g op r, G g → A.allowed g op → ¬ check op → G (A.next g op r))
    (hforbid : ∀ g op, G g → A.allowed g op → ¬ target op)
    {p : Prog Ret α} {g : γ} (hp : Obeys A post g p) (hg : G g) :
    ¬ Pending Ok check target p := by
  induction p generalizing g with
  | done a => exact id
  | call op k ih =>
      rintro (htarget | ⟨hcheck, r, hr, hpend⟩)
      · exact hforbid g op hg hp.1 htarget
      · exact ih r (hp.2 r (hrely g op r hr)) (hclosed g op r hg hp.1 hcheck) hpend

end Prog
