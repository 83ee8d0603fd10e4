import OtaRobot.Planning
import OtaRobot.Rollout.Canary

/-!
# The phases of a canary

The ends of the three phases are the ceilings of one fifth, three fifths and the whole of the
target list.  A canary that is never halted goes through all of them.  The percentage in its row is never
more than the share of the phases up to the recorded one; before a phase is recorded it is that of
the first one.

Main results:

- Theorem {lit}`canaryPhases_partition`: the slices partition the target list.
- Theorem {lit}`runCanary_covers`: a canary is halted or reaches the end of its list.
- Theorem {lit}`body_phaseWrites`: the phases that anyone records.
- Theorem {lit}`recordInvariant_run`: what the row of a canary shows.
- Theorem {lit}`canary_partitions_fleet`: all of this, and the counts of the dashboard.
-/

namespace OtaRobot

open Prog Transition

/-! ## Phase ends -/

/-- The ceiling of a quotient. -/
theorem ceil_div_toNat (m d : Nat) (hd : 0 < d) :
    ⌈(m : ℚ) / (d : ℚ)⌉.toNat = (m + d - 1) / d := by
  have hpos : (0 : ℚ) < (d : ℚ) := Nat.cast_pos.mpr hd
  have hceil : ⌈(m : ℚ) / (d : ℚ)⌉ = (((m + d - 1) / d : Nat) : ℤ) := by
    have hlower : d * ((m + d - 1) / d) ≤ m + d - 1 := Nat.mul_div_le _ _
    have hupper : m + d - 1 < d * ((m + d - 1) / d + 1) := Nat.lt_mul_div_succ _ hd
    rw [Nat.mul_add, Nat.mul_one] at hupper
    generalize (m + d - 1) / d = q at hlower hupper
    have hle : m ≤ d * q := by omega
    have hlt : d * q < m + d := by omega
    have hle' : (m : ℚ) ≤ d * q := by exact_mod_cast hle
    have hlt' : (d * q : ℚ) < m + d := by exact_mod_cast hlt
    rw [Int.ceil_eq_iff]
    constructor
    · rw [lt_div_iff₀ hpos]
      push_cast
      linarith
    · rw [div_le_iff₀ hpos]
      push_cast
      linarith
  rw [hceil, Int.toNat_natCast]

/-- The end of the first slice, in natural numbers. -/
theorem p1End_eq (n : Nat) : p1End n = (n + 4) / 5 := by
  have hfraction : (n : ℚ) * (1 / 5) = (n : ℚ) / ((5 : Nat) : ℚ) := by
    push_cast
    ring
  rw [p1End, clampPhaseEnd_eq, hfraction, ceil_div_toNat n 5 (by omega)]
  omega

/-- The second end never has to be moved behind the first one. -/
theorem p2End_eq (n : Nat) : p2End n = (3 * n + 4) / 5 := by
  have hfraction : (n : ℚ) * (3 / 5) = ((3 * n : Nat) : ℚ) / ((5 : Nat) : ℚ) := by
    push_cast
    ring
  have hclamp : clampPhaseEnd n (3 / 5) = (3 * n + 4) / 5 := by
    rw [clampPhaseEnd_eq, hfraction, ceil_div_toNat (3 * n) 5 (by omega)]
    omega
  simp only [p2End, hclamp, p1End_eq]
  split <;> omega

/-- The planned sentinels are the first slice. -/
theorem sentinels_eq {n : Nat} (hn : 0 < n) : Planning.sentinels n = p1End n := by
  have hceil : ((n : ℚ) * (1 / 5)).ceil = ⌈(n : ℚ) * (1 / 5)⌉ := by
    apply le_antisymm
    · exact Rat.ceil_le_iff.mpr (Int.le_ceil _)
    · exact Int.ceil_le.mpr (Rat.ceil_le_iff.mp le_rfl)
  have hfraction : (n : ℚ) * (1 / 5) = (n : ℚ) / ((5 : Nat) : ℚ) := by
    push_cast
    ring
  rw [Planning.sentinels, hceil, hfraction, ceil_div_toNat n 5 (by omega), p1End_eq]
  omega

/-! ## The slices -/

/-- The slices of {lit}`runCanary` partition a target list: a position is in the phase whose
ends enclose it. -/
structure Partitions (devs : List Device) : Prop where
  inRange : p1End devs.length ≤ p2End devs.length ∧ p2End devs.length ≤ devs.length
  ends : (phaseEnd devs.length 1 : ℤ) = ⌈(devs.length : ℚ) / 5⌉ ∧
    (phaseEnd devs.length 2 : ℤ) = ⌈3 * (devs.length : ℚ) / 5⌉ ∧
      phaseEnd devs.length 3 = devs.length
  numbers : (canaryPhases devs).map (fun p => p.phaseNum) = [1, 2, 3]
  slices : ∀ p ∈ canaryPhases devs, ∀ k, p.devices[k]? =
    if phaseEnd devs.length (p.phaseNum - 1) + k < phaseEnd devs.length p.phaseNum then
      devs[phaseEnd devs.length (p.phaseNum - 1) + k]?
    else none
  covers : ∀ k < devs.length, ∃! p, p ∈ canaryPhases devs ∧
    phaseEnd devs.length (p.phaseNum - 1) ≤ k ∧ k < phaseEnd devs.length p.phaseNum
  whole : ((canaryPhases devs).map fun p => p.devices).flatten = devs
  sentinels : phaseEnd devs.length 0 = 0 ∧ 0 < phaseEnd devs.length 1

/-- The rounded up fifth, in natural numbers. -/
theorem natCast_ceil_div (m : Nat) : ((((m + 4) / 5 : Nat)) : ℤ) = ⌈(m : ℚ) / 5⌉ := by
  have hnonneg : 0 ≤ ⌈(m : ℚ) / ((5 : Nat) : ℚ)⌉ :=
    Int.ceil_nonneg (div_nonneg (Nat.cast_nonneg m) (Nat.cast_nonneg 5))
  have htoNat := ceil_div_toNat m 5 (by omega)
  push_cast at hnonneg htoNat
  rw [← htoNat, Int.toNat_of_nonneg hnonneg]

/-- The slices partition the devices. -/
theorem canaryPhases_partition {devs : List Device} (hne : devs ≠ []) : Partitions devs := by
  have hpos : 0 < devs.length := List.length_pos_iff.mpr hne
  have h₁ : p1End devs.length = (devs.length + 4) / 5 := p1End_eq _
  have h₂ : p2End devs.length = (3 * devs.length + 4) / 5 := p2End_eq _
  have h₁₂ : p1End devs.length ≤ p2End devs.length := p1End_le_p2End _
  have h₂n : p2End devs.length ≤ devs.length := p2End_le _
  constructor
  · exact ⟨h₁₂, h₂n⟩
  · refine ⟨?_, ?_, rfl⟩
    · show (p1End devs.length : ℤ) = _
      rw [h₁, natCast_ceil_div]
    · show (p2End devs.length : ℤ) = _
      rw [h₂, natCast_ceil_div]
      push_cast
      rfl
  · rfl
  · intro p hp k
    simp only [canaryPhases, List.mem_cons, List.not_mem_nil, or_false] at hp
    rcases hp with rfl | rfl | rfl
    · simp [phaseEnd, List.getElem?_take]
    · simp [phaseEnd, List.getElem?_take, List.getElem?_drop]
    · rw [List.getElem?_drop]
      by_cases hinside : p2End devs.length + k < devs.length
      · exact (if_pos hinside).symm
      · rw [List.getElem?_eq_none_iff.mpr (not_lt.mp hinside)]
        exact (if_neg hinside).symm
  · intro k hk
    simp only [canaryPhases, List.mem_cons, List.not_mem_nil, or_false]
    by_cases hfirst : k < p1End devs.length
    · refine ⟨_, ⟨Or.inl rfl, Nat.zero_le k, hfirst⟩, ?_⟩
      rintro q ⟨rfl | rfl | rfl, hlower, hupper⟩
      · rfl
      · simp only [phaseEnd] at hlower
        omega
      · simp only [phaseEnd] at hlower
        omega
    · by_cases hsecond : k < p2End devs.length
      · refine ⟨_, ⟨Or.inr (Or.inl rfl), not_lt.mp hfirst, hsecond⟩, ?_⟩
        rintro q ⟨rfl | rfl | rfl, hlower, hupper⟩
        · simp only [phaseEnd] at hupper
          omega
        · rfl
        · simp only [phaseEnd] at hlower
          omega
      · refine ⟨_, ⟨Or.inr (Or.inr rfl), not_lt.mp hsecond, hk⟩, ?_⟩
        rintro q ⟨rfl | rfl | rfl, hlower, hupper⟩
        · simp only [phaseEnd] at hupper
          omega
        · simp only [phaseEnd] at hupper
          omega
        · rfl
  · exact canaryPhases_devices devs
  · exact ⟨rfl, p1End_pos hpos⟩

/-! ## A canary that is not halted -/

/-- The answer with which a canary stops before the end of its list. -/
def halts : (op : Op) → op.Ret → Bool
  | .sql (.getDeployment _ (.phaseCheck _)), r => !ControlPlane.readsRunning r
  | .sql (.getDeployment _ (.observeWindow _)), r => !ControlPlane.readsRunning r
  | _, _ => false

/-- How much of the list is dispatched, and whether the canary was halted. -/
structure Coverage where
  sent : Nat := 0
  halted : Bool := false
deriving DecidableEq, Repr

/-- The automaton counts the commands and whether the canary has stopped. -/
def coverage : Discipline Op.Ret Coverage where
  allowed _ _ := True
  rely _ _ _ := True
  next g op r := ⟨ControlPlane.sentAfter g.sent op, g.halted || halts op r⟩

/-- After the last phase that is dispatched, and after the phases that are left, the end of the
list is reached. -/
def ReachesEnd (n : Nat) : Nat → List Phase → Prop
  | sent, [] => sent = n
  | sent, p :: ps =>
      (p.phaseNum = 3 ∨ (p2End n = n ∧ p.phaseNum = 2) → sent + p.devices.length = n) ∧
        ReachesEnd n (sent + p.devices.length) ps

/-- The phases reach the last device. -/
theorem reachesEnd_canaryPhases (devs : List Device) :
    ReachesEnd devs.length 0 (canaryPhases devs) := by
  have h₁ : p1End devs.length ≤ devs.length := p1End_le _
  have h₂ : p2End devs.length ≤ devs.length := p2End_le _
  have h₁₂ : p1End devs.length ≤ p2End devs.length := p1End_le_p2End _
  simp only [ReachesEnd, canaryPhases, List.length_take, List.length_drop]
  omega

/-- A command is sent for every device of a slice. -/
theorem dispatch_covers (depID : DeploymentID) (cmd : UpdateCommand) (devs : List Device)
    (g : Coverage) :
    Obeys coverage (fun g' _ => g'.sent = g.sent + devs.length) g (dispatch depID cmd devs) := by
  induction devs generalizing g with
  | nil => rfl
  | cons dev devs ih =>
      refine ⟨trivial, fun _ _ => ?_⟩
      apply (ih _).mono
      intro g' _ hsent
      rw [hsent, List.length_cons]
      simp only [coverage, ControlPlane.sentAfter]
      omega

/-- The polls stop the canary or send nothing. -/
theorem pollStatus_covers (depID : DeploymentID) (phaseNum ticks : Nat) {sent : Nat}
    {g : Coverage} (hg : g.sent = sent) :
    Obeys coverage (fun g' aborted => g'.sent = sent ∧ (aborted = true → g'.halted = true)) g
      (pollStatus depID phaseNum ticks) := by
  induction ticks generalizing g with
  | zero => exact ⟨trivial, fun _ _ => ⟨hg, fun h => by cases h⟩⟩
  | succ ticks ih =>
      rw [pollStatus, getDeployment_bind]
      refine ⟨trivial, fun (r : Option Deployment) _ => ?_⟩
      cases r with
      | none => exact ⟨hg, fun _ => by simp [coverage, halts]⟩
      | some dep =>
          dsimp only
          split
          · rename_i hstatus
            exact ⟨hg, fun _ => by simp [coverage, halts, hstatus]⟩
          · exact ih hg

/-- The phases send a command for every device, or the canary stops. -/
theorem runPhases_covers (depID : DeploymentID) (cmd : UpdateCommand) (n : Nat)
    (ps : List Phase) (g : Coverage) (hps : ReachesEnd n g.sent ps) :
    Obeys coverage (fun g' finished => (finished = true → g'.sent = n) ∧
      (finished = false → g'.halted = true)) g (runPhases depID cmd n ps) := by
  induction ps generalizing g with
  | nil => exact ⟨fun _ => hps, fun h => (by cases h)⟩
  | cons p ps ih =>
      obtain ⟨hlast, hrest⟩ := hps
      rw [runPhases, getDeployment_bind]
      split
      · rename_i hempty
        rw [hempty, Nat.add_zero] at hrest
        exact ih g hrest
      · refine ⟨trivial, fun (r : Option Deployment) _ => ?_⟩
        cases r with
        | none => exact ⟨fun h => (by cases h), fun _ => by simp [coverage, halts]⟩
        | some cur =>
            dsimp only
            split
            · rename_i hstatus
              exact ⟨fun h => (by cases h), fun _ => by simp [coverage, halts, hstatus]⟩
            · rw [query_bind]
              refine ⟨trivial, fun _ _ => ?_⟩
              refine (dispatch_covers depID cmd p.devices _).bind fun g' _ hsent => ?_
              have hsent' : g'.sent = g.sent + p.devices.length := hsent
              split
              · rename_i hend
                exact ⟨fun _ => hsent'.trans (hlast hend), fun h => (by cases h)⟩
              · have hobserve : Obeys coverage (fun g'' aborted => g''.sent = g'.sent ∧
                    (aborted = true → g''.halted = true)) g' (observeWindow depID p.phaseNum) :=
                  ⟨trivial, fun ticks _ => pollStatus_covers depID p.phaseNum ticks rfl⟩
                refine hobserve.bind fun g'' aborted hobserved => ?_
                split
                · rename_i haborted
                  exact ⟨fun h => (by cases h), fun _ => hobserved.2 haborted⟩
                · apply ih
                  rw [hobserved.1, hsent']
                  exact hrest

/-- A canary is halted or reaches the end of its list. -/
theorem runCanary_covers (depID : DeploymentID) (devs : List Device) (cmd : UpdateCommand) :
    Obeys coverage (fun g _ => g.halted = true ∨ g.sent = devs.length) {}
      (runCanary depID devs cmd) := by
  have hfinish : ∀ g : Coverage, g.sent = devs.length →
      Obeys coverage (fun g _ => g.halted = true ∨ g.sent = devs.length) g
        (finishCanary depID) := by
    intro g hsent
    rw [finishCanary, getDeployment_bind]
    refine ⟨trivial, fun (r : Option Deployment) _ => ?_⟩
    cases r with
    | none => exact Or.inr hsent
    | some cur =>
        dsimp only
        split
        · exact ⟨trivial, fun _ _ => Or.inr hsent⟩
        · exact Or.inr hsent
  unfold runCanary
  split
  · rename_i hempty
    exact Or.inr hempty.symm
  · have hphases := runPhases_covers depID cmd devs.length (canaryPhases devs) {}
      (reachesEnd_canaryPhases devs)
    refine hphases.bind fun g finished hfinished => ?_
    split
    · rename_i hend
      exact hfinish g (hfinished.1 hend)
    · rename_i hhalted
      exact Or.inl (hfinished.2 (by simpa using hhalted))

/-! ## The phases that are recorded -/

/-- The three records of a phase. -/
def phaseRecords : List (Nat × Nat) :=
  [(1, 20), (2, 60), (3, 100)]

/-- A deployment is created with the percentage of its strategy, and a phase is recorded with its
own one. -/
structure RecordsPhase (op : Op) : Prop where
  created : ∀ p, op = .sql (.createDeployment p) → p.canaryPercentage = initPercentage p.strategy
  recorded : ∀ id phaseNum percentage,
    op = .sql (.updateDeploymentPhase id phaseNum percentage) →
      (phaseNum, percentage) ∈ phaseRecords

/-- Two statements write the columns, the others do not. -/
theorem recordsPhase_of_ne {op : Op} (hcreate : ∀ p, op ≠ .sql (.createDeployment p))
    (hrecord : ∀ id phaseNum percentage,
      op ≠ .sql (.updateDeploymentPhase id phaseNum percentage)) : RecordsPhase op where
  created p hop := absurd hop (hcreate p)
  recorded id phaseNum percentage hop := absurd hop (hrecord id phaseNum percentage)

/-- The pairs that are written. -/
theorem recordsPhase_update (id : DeploymentID) {phaseNum percentage : Nat}
    (h : (phaseNum, percentage) ∈ phaseRecords) :
    RecordsPhase (.sql (.updateDeploymentPhase id phaseNum percentage)) := by
  constructor
  · simp
  · intro id' phaseNum' percentage' hop
    cases hop
    exact h

/-- The polls write no phase. -/
theorem pollStatus_recordsPhase (depID : DeploymentID) (phaseNum ticks : Nat) :
    Always AnyAnswer RecordsPhase (pollStatus depID phaseNum ticks) := by
  induction ticks with
  | zero => exact ⟨recordsPhase_of_ne (by simp) (by simp), fun _ _ => trivial⟩
  | succ ticks ih =>
      rw [pollStatus, getDeployment_bind]
      refine ⟨recordsPhase_of_ne (by simp) (by simp), fun (r : Option Deployment) _ => ?_⟩
      cases r with
      | none => trivial
      | some dep =>
          dsimp only
          split
          · trivial
          · exact ih

/-- The phases write their own pairs. -/
theorem runPhases_recordsPhase (depID : DeploymentID) (cmd : UpdateCommand) (n : Nat)
    (ps : List Phase) (hps : ∀ p ∈ ps, (p.phaseNum, p.percentage) ∈ phaseRecords) :
    Always AnyAnswer RecordsPhase (runPhases depID cmd n ps) := by
  induction ps with
  | nil => trivial
  | cons p ps ih =>
      have ih' := ih fun q hq => hps q (List.mem_cons_of_mem p hq)
      rw [runPhases, getDeployment_bind]
      split
      · exact ih'
      · refine ⟨recordsPhase_of_ne (by simp) (by simp), fun (r : Option Deployment) _ => ?_⟩
        cases r with
        | none => trivial
        | some cur =>
            dsimp only
            split
            · trivial
            · rw [query_bind]
              refine ⟨recordsPhase_update _ (hps p List.mem_cons_self), fun _ _ => ?_⟩
              refine Always.bind ?_ fun _ => ?_
              · exact (dispatch_ops depID cmd p.devices).mono (fun _ _ h => h)
                  fun op hop => by cases hop; exact recordsPhase_of_ne (by simp) (by simp)
              · split
                · trivial
                · refine Always.bind ⟨recordsPhase_of_ne (by simp) (by simp), fun ticks _ => ?_⟩
                    fun aborted => ?_
                  · exact pollStatus_recordsPhase depID p.phaseNum ticks
                  · split
                    · trivial
                    · exact ih'

/-- A canary writes pairs of the list. -/
theorem runCanary_recordsPhase (depID : DeploymentID) (devs : List Device)
    (cmd : UpdateCommand) : Always AnyAnswer RecordsPhase (runCanary depID devs cmd) := by
  unfold runCanary
  split
  · trivial
  · refine Always.bind (runPhases_recordsPhase depID cmd _ _ ?_) fun finished => ?_
    · simp [canaryPhases, phaseRecords]
    · split
      · rw [finishCanary, getDeployment_bind]
        refine ⟨recordsPhase_of_ne (by simp) (by simp), fun (r : Option Deployment) _ => ?_⟩
        cases r with
        | none => trivial
        | some cur =>
            dsimp only
            split
            · exact ⟨recordsPhase_update _ (by decide), fun _ _ => trivial⟩
            · trivial
      · trivial

/-- A deployment is created with its first percentage. -/
theorem launchDeployment_recordsPhase (fw : FirmwareVersion) (url : String)
    (strategy : Strategy) (threshold : ℚ) (targetHw : String) (devs : List Device) :
    Always AnyAnswer RecordsPhase
      (launchDeployment fw url strategy threshold targetHw devs) := by
  have hcreate : ∀ p : CreateDeploymentParams, p.canaryPercentage = initPercentage p.strategy →
      RecordsPhase (.sql (.createDeployment p)) := by
    intro p hp
    constructor
    · intro p' hop
      cases hop
      exact hp
    · simp
  rw [launchDeployment, query_bind]
  refine ⟨hcreate _ rfl, fun (r : Option Deployment) _ => ?_⟩
  cases r with
  | none => exact ⟨recordsPhase_of_ne (by simp) (by simp), fun _ _ => trivial⟩
  | some dep =>
      dsimp only
      rw [query_bind]
      refine ⟨recordsPhase_of_ne (by simp) (by simp), fun _ _ => Always.bind ?_ fun _ => Always.bind ?_ ?_⟩
      · exact (createDeploymentDevices_ops dep.id devs).mono (fun _ _ h => h)
          fun op hop => by cases hop; exact recordsPhase_of_ne (by simp) (by simp)
      · rw [OtaRobot.startRollout, markStartRollout_bind]
        refine ⟨recordsPhase_of_ne (by simp) (by simp), fun _ _ => ?_⟩
        split
        · trivial
        · split
          · exact ⟨recordsPhase_of_ne (by simp) (by simp), fun _ _ => trivial⟩
          · refine Always.bind ?_ fun _ => ?_
            · exact (dispatch_ops dep.id _ devs).mono (fun _ _ h => h)
                fun op hop => by cases hop; exact recordsPhase_of_ne (by simp) (by simp)
            · exact ⟨recordsPhase_update _ (by decide), fun _ _ => trivial⟩
      · intro outcome
        cases outcome <;> exact ⟨recordsPhase_of_ne (by simp) (by simp), fun _ _ => trivial⟩

/-- The phases that anyone records. -/
theorem body_phaseWrites (call : Call) :
    Always AnyAnswer RecordsPhase (ControlPlane.body call) := by
  have hhandler : ∀ op, HandlerOp op → RecordsPhase op := by
    intro op hop
    cases hop with
    | phase id => exact recordsPhase_update id (by decide)
    | _ => exact recordsPhase_of_ne (by simp) (by simp)
  cases call with
  | createDeployment req =>
      apply createDeployment_always
      · intro op hop
        cases hop <;> exact recordsPhase_of_ne (by simp) (by simp)
      · exact launchDeployment_recordsPhase
  | runCanary depID devs cmd => exact runCanary_recordsPhase depID devs cmd
  | progress | error | getDeployment | rollback =>
      exact (handler_ops rfl).mono (fun _ _ h => h) hhandler

/-- No more is recorded than what is in the phases up to the recorded one. -/
theorem percentage_le_phaseEnd (n : Nat) {phaseNum percentage : Nat}
    (h : (phaseNum, percentage) ∈ phaseRecords) :
    percentage * n ≤ 100 * phaseEnd n phaseNum := by
  simp only [phaseRecords, List.mem_cons, Prod.mk.injEq, List.not_mem_nil, or_false] at h
  rcases h with ⟨rfl, rfl⟩ | ⟨rfl, rfl⟩ | ⟨rfl, rfl⟩
  · simp only [phaseEnd, p1End_eq]
    omega
  · simp only [phaseEnd, p2End_eq]
    omega
  · exact Nat.le_refl _

/-! ## The stored row -/

/-- The stored phase is the initial one or one of the records. -/
def InRecords (dep : Deployment) : Prop :=
  (dep.currentPhase = 0 ∧ dep.canaryPercentage = 20) ∨
    (dep.currentPhase, dep.canaryPercentage) ∈ phaseRecords

/-- A recorded phase is 3 at most. -/
theorem InRecords.phase_le {dep : Deployment} (h : InRecords dep) : dep.currentPhase ≤ 3 := by
  simp only [InRecords, phaseRecords, List.mem_cons, Prod.mk.injEq, List.not_mem_nil,
    or_false] at h
  omega

/-- Of two records, the one of the later phase has the larger percentage. -/
theorem InRecords.percentage_le {dep dep' : Deployment} (h : InRecords dep)
    (h' : InRecords dep') (hle : dep.currentPhase ≤ dep'.currentPhase) :
    dep.canaryPercentage ≤ dep'.canaryPercentage := by
  simp only [InRecords, phaseRecords, List.mem_cons, Prod.mk.injEq, List.not_mem_nil,
    or_false] at h h'
  omega

/-- The phase the dashboard shows: the first one before a phase is recorded. -/
def Deployment.shownPhase (dep : Deployment) : Nat :=
  if dep.currentPhase = 0 then 1 else dep.currentPhase

/-- A row in which the percentage of its phase is recorded says no more than the phases up to the
one it shows hold. -/
theorem InRecords.percentage_le_phaseEnd {dep : Deployment} (h : InRecords dep) (n : Nat) :
    dep.canaryPercentage * n ≤ 100 * phaseEnd n dep.shownPhase := by
  rcases h with ⟨hphase, hpercentage⟩ | hrecord
  · rw [Deployment.shownPhase, if_pos hphase, hpercentage]
    exact OtaRobot.percentage_le_phaseEnd n (by decide)
  · have hphase : dep.currentPhase ≠ 0 := by
      simp only [phaseRecords, List.mem_cons, Prod.mk.injEq, List.not_mem_nil, or_false] at hrecord
      omega
    rw [Deployment.shownPhase, if_neg hphase]
    exact OtaRobot.percentage_le_phaseEnd n hrecord

/-- What a statement does to the phase. -/
theorem onDeployment_phase (q : Query) (d : Deployment) :
    ((q.onDeployment d).currentPhase = d.currentPhase ∧
        (q.onDeployment d).canaryPercentage = d.canaryPercentage) ∨
      q = .updateDeploymentPhase d.id (q.onDeployment d).currentPhase
        (q.onDeployment d).canaryPercentage := by
  cases q with
  | updateDeploymentPhase id' phaseNum percentage =>
      simp only [Query.onDeployment]
      split
      · rename_i hid
        exact Or.inr (by rw [hid])
      · exact Or.inl ⟨rfl, rfl⟩
  | updateDeploymentStatus | incrementDeploymentSuccess | incrementDeploymentFailure =>
      simp only [Query.onDeployment]
      split <;> exact Or.inl ⟨rfl, rfl⟩
  | _ => exact Or.inl ⟨rfl, rfl⟩

namespace ControlPlane

section

variable {id : DeploymentID} {c c' : Config}

/-- A row appears by the insert that names its columns. -/
theorem executed_inserted {i : Nat} {x : Choice} {call : Call} {op : Op}
    {k : op.Ret → Rollout Unit} {r : op.Ret} (hs : machine.Executed c c' i x call op k r)
    {dep : Deployment} (hbefore : deployment c id = none) (hafter : deployment c' id = some dep) :
    ∃ p, op = .sql (.createDeployment p) ∧ dep = p.row id := by
  obtain ⟨-, hstore⟩ := executed_answer hs
  rw [deployment, hstore] at hafter
  cases op with
  | sql q =>
      rcases exec_sql_db c.store q x with hsame | hexec
      · rw [hsame] at hafter
        exact absurd (hbefore.symm.trans hafter) (by simp)
      · rw [hexec] at hafter
        obtain ⟨-, p, rfl⟩ := Db.deployment_exec_none hbefore hafter
        rcases c.store.db.deployment_createDeployment x.uuid p id with
          ⟨hsame, -⟩ | ⟨-, hid, d, hanswer, -, -, hrow⟩
        · rw [Db.exec, hsame] at hafter
          exact absurd (hbefore.symm.trans hafter) (by simp)
        · obtain rfl : d = dep := Option.some.inj (hrow.symm.trans hafter)
          refine ⟨p, rfl, ?_⟩
          rw [hid]
          exact (Db.createDeployment_eq_some hanswer).1
  | _ => exact absurd (hbefore.symm.trans hafter) (by simp)

/-- Every thread records phases with their percentages, and the row of a canary shows them. -/
structure RecordInvariant (id : DeploymentID) (c : Config) : Prop where
  threads : c.AllThreads fun _ p => Always AnyAnswer RecordsPhase p
  row : ∀ dep, deployment c id = some dep → dep.strategy = .canary → InRecords dep

/-- A step leaves a row in the records, or inserts one that is in them. -/
theorem recordInvariant_step {l : Label} (hc : RecordInvariant id c) (h : step c l = some c') :
    RecordInvariant id c' where
  threads := by
    apply Machine.step_allThreads h hc.threads
    · intro i call _ _
      exact body_phaseWrites call
    · intro i x call op k r _ _ hcall
      exact hcall.2 r trivial
  row := by
    intro dep hdep hstrategy
    cases hbefore : deployment c id with
    | none =>
        obtain ⟨i, call, -, hs⟩ | ⟨i, x, call, op, k, r, -, hs⟩ := Machine.step_cases h
        · rw [deployment, accept_db hs.accepted] at hdep
          exact absurd (hbefore.symm.trans hdep) (by simp)
        · obtain ⟨p, hop, rfl⟩ := executed_inserted hs hbefore hdep
          have hpercentage := (hc.threads i call _ hs.before).1.created p hop
          rw [show p.strategy = .canary from hstrategy] at hpercentage
          exact Or.inl ⟨rfl, hpercentage⟩
    | some d =>
        rcases deployment_step h hbefore with hkeep | ⟨i, x, call, op, k, r, -, hs, hchange⟩
        · obtain rfl : d = dep := Option.some.inj (hkeep.symm.trans hdep)
          exact hc.row d hbefore hstrategy
        · obtain rfl : Op.onDeployment op d = dep := Option.some.inj (hchange.symm.trans hdep)
          cases op with
          | sql q =>
              have hcanary : d.strategy = .canary :=
                (q.onDeployment_fixed d).2.2.2.1.symm.trans hstrategy
              rcases onDeployment_phase q d with ⟨hphase, hpercentage⟩ | hwrite
              · show InRecords (q.onDeployment d)
                rw [InRecords, hphase, hpercentage]
                exact hc.row d hbefore hcanary
              · have hrecords := (hc.threads i call _ hs.before).1
                exact Or.inr (hrecords.recorded _ _ _ (congrArg Op.sql hwrite))
          | _ => exact hc.row d hbefore hstrategy

/-- The rows of the start are as they were. -/
theorem recordInvariant_start {db : Db}
    (hold : ∀ dep, db.deployment id = some dep → dep.strategy = .canary → InRecords dep) :
    RecordInvariant id (start db) :=
  ⟨Machine.allThreads_initial _ _, hold⟩

theorem recordInvariant_run {db : Db} {ls : List Label} (h : run step (start db) ls = some c)
    (hold : ∀ dep, db.deployment id = some dep → dep.strategy = .canary → InRecords dep) :
    RecordInvariant id c :=
  run_invariant (fun _ _ _ hc hstep => recordInvariant_step hc hstep)
    (recordInvariant_start hold) h

end

end ControlPlane

namespace ControlPlane

/-! ## Canary threads along a run -/

/-- The coverage of a canary; the other threads have none. -/
def coverageDiscipline (_ : Call) : Discipline Op.Ret Coverage :=
  coverage

/-- Where a canary ends. -/
def Covers (call : Call) (g : Coverage) : Prop :=
  match call with
  | .runCanary _ devs _ => g.halted = true ∨ g.sent = devs.length
  | _ => True

/-- Every canary covers its devices. -/
theorem body_covers (call : Call) :
    Obeys (coverageDiscipline call) (fun g _ => Covers call g) {} (body call) := by
  cases call with
  | runCanary id devs cmd => exact runCanary_covers id devs cmd
  | progress | error | createDeployment | getDeployment | rollback =>
      exact obeys_of_forall (fun _ _ => trivial) (fun _ _ => trivial) _ _

/-- The coverage of a thread is what its events say. -/
def CoverageCounted (_ : Call) (g : Coverage) (events : List Event) : Prop :=
  g.sent = (published events).length ∧ g.halted = events.any fun e => halts e.op e.ret

/-- The automaton counts what is in the trace. -/
theorem counted_next (call : Call) (g : Coverage) (events : List Event) (e : Event)
    (h : CoverageCounted call g events) :
    CoverageCounted call ((coverageDiscipline call).next g e.op e.ret) (events ++ [e]) := by
  obtain ⟨hsent, hhalted⟩ := h
  obtain ⟨i, op, r⟩ := e
  constructor
  · show sentAfter g.sent op = _
    have happend : published (events ++ [⟨i, op, r⟩]) =
        published events ++ published [⟨i, op, r⟩] := List.filterMap_append
    rw [hsent, happend, List.length_append]
    cases op <;> rfl
  · show (g.halted || halts op r) = _
    rw [hhalted, List.any_append]
    simp

/-- Every thread covers its devices, and the trace shows it. -/
structure CoverageInvariant (c : Config) : Prop where
  disciplined : Machine.Disciplined coverageDiscipline Covers (fun _ => {}) c
  counted : c.AllGhosts coverageDiscipline (fun _ => {}) CoverageCounted

theorem coverageInvariant_run {db : Db} {ls : List Label} {c : Config}
    (h : run step (start db) ls = some c) : CoverageInvariant c := by
  refine run_invariant (I := CoverageInvariant) ?_
    ⟨Machine.disciplined_initial _ _ _ _, Machine.allGhosts_initial _ _ _ _⟩ h
  intro m l m' hm hstep
  constructor
  · exact Machine.step_disciplined hstep hm.disciplined body_covers fun _ _ _ _ _ _ _ => trivial
  · exact Machine.step_allGhosts hstep hm.disciplined hm.counted (fun _ => ⟨rfl, rfl⟩)
      fun call g events e hcounted _ => counted_next call g events e hcounted

/-- No check of the status by thread {lit}`i` has stopped it. -/
def NeverHalted (i : Nat) (c : Config) : Prop :=
  ∀ e ∈ c.trace, e.thread = i → halts e.op e.ret = false

/-- A canary that has ended without being halted has sent its command to every position of its
list, once. -/
theorem publishedBy_of_neverHalted {db : Db} {ls : List Label} {c : Config} {i : Nat}
    {id : DeploymentID} {devs : List Device} {cmd : UpdateCommand}
    (h : run step (start db) ls = some c)
    (hi : c.thread i = some (.runCanary id devs cmd, .done ())) (hhalted : NeverHalted i c) :
    publishedBy i c = updateCommands id cmd devs := by
  have hcover := coverageInvariant_run h
  obtain ⟨m, -, hpublished⟩ := (dispatchInvariant_run h).publishedBy_eq hi
  obtain ⟨hsent, hany⟩ := hcover.counted i _ _ hi
  have hend := hcover.disciplined.obeys i _ _ hi
  have hnever : (Machine.eventsOf i c.trace).any (fun e => halts e.op e.ret) = false := by
    rw [List.any_eq_false]
    intro e he
    obtain ⟨hmem, hthread⟩ := List.mem_filter.mp he
    simp [hhalted e hmem (of_decide_eq_true hthread)]
  rcases hend with hhalt | hall
  · rw [hany, hnever] at hhalt
    cases hhalt
  · have hlength : (publishedBy i c).length = devs.length := hsent.symm.trans hall
    rw [hpublished, updateCommands, List.length_map, List.length_take] at hlength
    rw [hpublished, List.take_of_length_le (by omega)]

/-! ## All of a canary -/

/-- The phases of a canary partition a target list: the slices do; a canary that is never halted
sends its update to every position once; the row of a canary never says more than the phases up to
the one it shows hold; and the dashboard counts the first phase and the rest. -/
theorem canary_partitions_fleet {devs : List Device} (hne : devs ≠ []) :
    Partitions devs ∧
      (∀ (db : Db) (ls : List Label) (c : Config) (i : Nat) (id : DeploymentID)
        (cmd : UpdateCommand), run step (start db) ls = some c →
          c.thread i = some (.runCanary id devs cmd, .done ()) → NeverHalted i c →
            publishedBy i c = updateCommands id cmd devs) ∧
      (∀ (db : Db) (ls : List Label) (c : Config) (id : DeploymentID) (dep : Deployment),
        run step (start db) ls = some c →
          (∀ old, db.deployment id = some old → old.strategy = .canary → InRecords old) →
            deployment c id = some dep → dep.strategy = .canary →
              dep.canaryPercentage * devs.length ≤ 100 * phaseEnd devs.length dep.shownPhase) ∧
      ∀ (draft : Planning.RolloutDraft) (targets : List Planning.PlanDevice)
        (firmware : Option Planning.PlanFirmware), draft.strategy = .canary →
          targets.length = devs.length →
            (Planning.evaluateRolloutPlan draft targets firmware).sentinelCount =
                phaseEnd devs.length 1 ∧
              (Planning.evaluateRolloutPlan draft targets firmware).subsequentCount =
                devs.length - phaseEnd devs.length 1 := by
  have hpos : 0 < devs.length := List.length_pos_iff.mpr hne
  refine ⟨canaryPhases_partition hne, ?_, ?_, ?_⟩
  · intro db ls c i id cmd h hi hhalted
    exact publishedBy_of_neverHalted h hi hhalted
  · intro db ls c id dep h hold hdep hcanary
    exact ((recordInvariant_run h hold).row dep hdep hcanary).percentage_le_phaseEnd devs.length
  · intro draft targets firmware hstrategy hlength
    simp only [Planning.evaluateRolloutPlan, hstrategy, hlength, hpos, and_self, if_true]
    rw [sentinels_eq hpos]
    exact ⟨rfl, rfl⟩

/-- A canary over five robots that nothing halts. -/
private def undisturbedCanary : List Label :=
  startCall 0 (.createDeployment (rolloutRequest "canary")) 13 ++
    startCall 1 (.runCanary 0 fiveTargets { version := "2.0.0" }) 17

/-- Five robots: each of them gets the update, and the row shows no more than that. -/
theorem canary_partitions_fleet_of_five :
    Partitions fiveTargets ∧ ∃ c,
      run step (start (fleetDb ["r1", "r2", "r3", "r4", "r5"] (by decide))) undisturbedCanary =
          some c ∧
        publishedBy 1 c = updateCommands 0 { version := "2.0.0" } fiveTargets ∧
          ∃ dep, deployment c 0 = some dep ∧
            dep.canaryPercentage * fiveTargets.length ≤
              100 * phaseEnd fiveTargets.length dep.shownPhase := by
  obtain ⟨c, h, hend⟩ := endsWith_eq_true
    (show endsWith step (start (fleetDb ["r1", "r2", "r3", "r4", "r5"] (by decide)))
      undisturbedCanary
      (fun c => ((c.thread 1).any fun t =>
        t.1 = .runCanary 0 fiveTargets { version := "2.0.0" } && Machine.isDone t.2) &&
          (c.trace.all (fun e => e.thread ≠ 1 || !halts e.op e.ret) &&
            (deployment c 0).any fun dep => dep.strategy = .canary)) = true by decide +kernel)
  obtain ⟨hdone, hnever, hrow⟩ : _ ∧ _ ∧ _ := by
    simpa only [Bool.and_eq_true] using hend
  obtain ⟨dep, hdep, hcanary⟩ := (Option.any_eq_true _ _).mp hrow
  obtain ⟨⟨tag, p⟩, hi, htag⟩ := (Option.any_eq_true _ _).mp hdone
  obtain ⟨rfl, hp⟩ : tag = .runCanary 0 fiveTargets { version := "2.0.0" } ∧
      Machine.isDone p = true := by simpa using htag
  have hne : fiveTargets ≠ [] := by decide
  obtain ⟨hpartitions, hcovers, hshows, -⟩ := canary_partitions_fleet hne
  refine ⟨hpartitions, c, h, hcovers _ _ c 1 0 _ h ?_ ?_, dep, hdep,
    hshows _ _ c 0 dep h (fun old hold => ?_) hdep (of_decide_eq_true hcanary)⟩
  · cases p with
    | done a => exact hi
    | call op k => cases hp
  · intro e he hthread
    have hevent := List.all_eq_true.mp hnever e he
    simpa [hthread] using hevent
  · cases hold

/-- A canary that has just been created shows the percentage of its first phase, although it has
recorded no phase. -/
theorem canary_share_before_first_phase :
    ∃ c dep,
      run step (start (fleetDb ["r1", "r2", "r3", "r4", "r5"] (by decide)))
          (startCall 0 (.createDeployment (rolloutRequest "canary")) 13) = some c ∧
        deployment c 0 = some dep ∧ dep.strategy = .canary ∧
          dep.totalDevices = fiveTargets.length ∧
            100 * phaseEnd fiveTargets.length dep.currentPhase <
              dep.canaryPercentage * fiveTargets.length := by
  obtain ⟨c, h, hend⟩ := endsWith_eq_true
    (show endsWith step (start (fleetDb ["r1", "r2", "r3", "r4", "r5"] (by decide)))
      (startCall 0 (.createDeployment (rolloutRequest "canary")) 13)
      (fun c => (deployment c 0).any fun dep => dep.strategy = .canary &&
        (dep.totalDevices = fiveTargets.length &&
          100 * phaseEnd fiveTargets.length dep.currentPhase <
            dep.canaryPercentage * fiveTargets.length)) = true by decide +kernel)
  obtain ⟨dep, hdep, hrow⟩ := (Option.any_eq_true _ _).mp hend
  simp only [Bool.and_eq_true, decide_eq_true_eq] at hrow
  exact ⟨c, dep, h, hdep, hrow⟩

end ControlPlane

end OtaRobot
