import OtaRobot.Rollout.Launch
import OtaRobot.Rollout.StatusColumn

/-!
# Is a rollback final?

A rolled-back deployment can become {lit}`completed` again in two ways.
{lit}`HandleDeviceError` completes a deployment without looking at its status, so a
late error report reopens it.  And every completion branch decides on a row it has
read earlier: a rollback between the read and the write is overwritten.

Main results:

- Theorem {lit}`rolledBack_not_absorbing`: a late error report completes a
  rolled-back deployment.
- Theorem {lit}`rolledBack_absorbing`: in every run that avoids the two cases, a
  rolled-back deployment stays rolled back.
-/

namespace OtaRobot

open Prog Transition

namespace ControlPlane

/-- The thread can complete the deployment before it reads it again. -/
def CompletionPending (id : DeploymentID) (p : Rollout Unit) : Prop :=
  Pending Keyed (ReadsDeployment id) (CompletesDeployment id) p

/-- The two ways in which a step can put a rollback at risk do not occur: the
rollback is not written while another thread is between its read and its completion
of the deployment, and no error report passes the completion test on the rolled-back
row. -/
structure KeepsRollback (id : DeploymentID) (c : Config) (l : Label) : Prop where
  write : ∀ i x tag k, l = .step i x →
    c.thread i = some (tag, .call (.sql (.updateDeploymentStatus id .rolledBack)) k) →
    ∀ j tag' p, j ≠ i → c.thread j = some (tag', p) → ¬ CompletionPending id p
  read : ∀ i x event site k d, l = .step i x →
    c.thread i = some (.error event, .call (.sql (.getDeployment id site)) k) →
    deployment c id = some d → d.status = .rolledBack →
    d.successCount + d.failureCount + 1 < d.totalDevices

/-! ## The invariant -/

/-- While the deployment is rolled back nobody is about to complete it. -/
structure RollbackInvariant (id : DeploymentID) (c : Config) : Prop where
  disciplined : Machine.Disciplined (statusDiscipline id) (fun _ _ => True) (fun _ => none) c
  quiet : status c id = some .rolledBack → c.AllThreads fun _ p => ¬ CompletionPending id p

/-- Nothing is rolled back at the start. -/
theorem rollbackInvariant_start (id : DeploymentID) (db : Db) :
    RollbackInvariant id (start db) :=
  ⟨Machine.disciplined_initial _ _ _ _, fun _ => Machine.allThreads_initial _ _⟩

/-- A thread whose last read, if any, does not back a completion completes nothing
before its next read. -/
theorem not_completionPending_of_read {id : DeploymentID} {call : Call}
    {g : Option Deployment} {p : Rollout Unit}
    (hp : Obeys (statusDiscipline id call) (fun _ _ => True) g p)
    (hg : ∀ d, g = some d → ¬ BacksCompletion call d) : ¬ CompletionPending id p := by
  refine hp.not_pending (G := fun g => ∀ d, g = some d → ¬ BacksCompletion call d)
    (fun _ _ _ h => h) ?_ ?_ hg
  · intro g' op r hg' _ hread
    cases op with
    | sql q =>
        cases q with
        | getDeployment id' site =>
            have hne : id' ≠ id := fun h => hread ⟨site, by rw [h]⟩
            simpa [statusDiscipline, lastRead, hne] using hg'
        | updateDeploymentStatus id' st =>
            cases st with
            | rolledBack =>
                by_cases hid : id' = id
                · simp [statusDiscipline, lastRead, hid]
                · simpa [statusDiscipline, lastRead, hid] using hg'
            | _ => exact hg'
        | _ => exact hg'
    | _ => exact hg'
  · intro g' op hg' hallowed hcompletes
    obtain ⟨d, hd, hbacks⟩ := hallowed hcompletes
    exact hg' d hd hbacks

/-- A call has decided nothing when it starts. -/
theorem body_not_completionPending (id : DeploymentID) (call : Call) :
    ¬ CompletionPending id (body call) :=
  not_completionPending_of_read (body_status id call) (by simp)

/-- The answer to a {lit}`GetDeployment` is the row as it is, or nothing. -/
theorem executed_getDeployment {c c' : Config} {i : Nat} {x : Choice} {tag : Call}
    {id : DeploymentID} {site : ReadSite}
    {k : Option Deployment → Rollout Unit} {r : Option Deployment}
    (hs : machine.Executed c c' i x tag (.sql (.getDeployment id site)) k r) :
    r = none ∨ r = deployment c id := by
  rw [(executed_answer hs).1, exec_sql]
  split
  · exact Or.inl rfl
  · exact Or.inr rfl

/-- While the deployment is rolled back, no step makes the thread it belongs to
about to complete the deployment. -/
theorem executed_not_completionPending {id : DeploymentID} {c c' : Config} {l : Label}
    {i : Nat} {x : Choice} {call : Call} {op : Op} {k : op.Ret → Rollout Unit} {r : op.Ret}
    (hc : RollbackInvariant id c) (hl : l = .step i x)
    (hs : machine.Executed c c' i x call op k r) (hrolled : status c id = some .rolledBack)
    (hok : KeepsRollback id c l) : ¬ CompletionPending id (k r) := by
  by_cases hread : ReadsDeployment id op
  · obtain ⟨site, rfl⟩ := hread
    have hobeys := (hc.disciplined.obeys i call _ hs.before).2 r (executed_keyed hs)
    refine not_completionPending_of_read hobeys fun d hd hbacks => ?_
    have hrd : r = some d := by
      rw [← hd]
      exact (if_pos rfl).symm
    have hrow : deployment c id = some d := by
      rcases executed_getDeployment hs with hnone | hsame
      · rw [hnone] at hrd
        simp at hrd
      · rw [← hsame, hrd]
    have hstatus : d.status = .rolledBack := by simpa [status, hrow] using hrolled
    obtain ⟨herror, hcounted⟩ := hbacks hstatus
    cases call with
    | error event =>
        have hlt := hok.read i x event site k d hl hs.before hrow hstatus
        simp only [Deployment.countedOut] at hcounted
        omega
    | _ => simp [Call.isErrorReport] at herror
  · intro hpending
    exact hc.quiet hrolled i call _ hs.before
      (Pending.of_answer hread (executed_keyed hs) hpending)

/-- Once the rollback is written nobody is about to complete the deployment: the
others by assumption, the writer because it has not read the row since. -/
theorem quiet_of_rollback {id : DeploymentID} {c c' : Config} {i : Nat} {x : Choice}
    {call : Call} {k : Option Deployment → Rollout Unit} {r : Option Deployment}
    (hc : RollbackInvariant id c)
    (hs : machine.Executed c c' i x call (.sql (.updateDeploymentStatus id .rolledBack)) k r)
    (hok : KeepsRollback id c (.step i x)) :
    c'.AllThreads fun _ p => ¬ CompletionPending id p := by
  intro j tag p hj
  rw [hs.threads] at hj
  split at hj
  · obtain ⟨rfl, rfl⟩ : call = tag ∧ k r = p := by simpa using hj
    have hobeys := (hc.disciplined.obeys i call _ hs.before).2 r (executed_keyed hs)
    refine not_completionPending_of_read hobeys fun d hd => ?_
    simp [statusDiscipline, lastRead] at hd
  · rename_i hne
    exact hok.write i x call k rfl hs.before j tag p hne hj

/-- A deployment is rolled back because it was before, or by the update that says so. -/
theorem status_rolledBack_step {id : DeploymentID} {c c' : Config} {l : Label}
    (h : step c l = some c') (hrolled : status c' id = some .rolledBack) :
    status c id = some .rolledBack ∨
      ∃ i x tag k r, l = .step i x ∧
        machine.Executed c c' i x tag (.sql (.updateDeploymentStatus id .rolledBack)) k r := by
  cases hd : deployment c id with
  | none =>
      obtain ⟨d, hd', hpending⟩ := deployment_step_new h hd (by
        intro hnone
        simp [status, hnone] at hrolled)
      simp [status, hd', hpending] at hrolled
  | some d =>
      rcases deployment_step h hd with hkeep | ⟨i, x, tag, op, k, r, hl, hs, hchange⟩
      · left
        rw [← hrolled, status, status, hkeep, hd]
      · cases op with
        | sql q =>
            have hid : d.id = id := Db.deployment_id hd
            have hafter : (q.onDeployment d).status = .rolledBack := by
              simpa [status, hchange, Op.onDeployment] using hrolled
            rcases q.onDeployment_status d with hsame | hwrite
            · left
              simp [status, hd, ← hsame, hafter]
            · right
              rw [hid, hafter] at hwrite
              subst hwrite
              exact ⟨i, x, tag, k, r, hl, hs⟩
        | _ => exact Or.inl (by simpa [status, hchange, hd, Op.onDeployment] using hrolled)

/-- A step that keeps a rollback keeps the invariant. -/
theorem rollbackInvariant_step {id : DeploymentID} {c c' : Config} {l : Label}
    (hc : RollbackInvariant id c) (hok : KeepsRollback id c l)
    (h : step c l = some c') : RollbackInvariant id c' := by
  refine ⟨Machine.step_disciplined h hc.disciplined (body_status id)
    fun _ _ _ _ _ _ hs => executed_keyed hs, fun hrolled => ?_⟩
  obtain hbefore | ⟨i, x, tag, k, r, rfl, hs⟩ := status_rolledBack_step h hrolled
  · exact Machine.step_allThreads h (hc.quiet hbefore)
      (fun _ tag _ _ => body_not_completionPending id tag)
      fun _ _ _ _ _ _ hl hs _ => executed_not_completionPending hc hl hs hbefore hok
  · exact quiet_of_rollback hc hs hok

/-! ## Rolled back for good -/

/-- A rolled-back deployment that was launched stays rolled back along every run that
avoids the two cases. -/
theorem rolledBack_kept {id : DeploymentID} {c c' : Config} {ls : List Label}
    (hc : RollbackInvariant id c) (hlaunched : Launched id c)
    (hrolled : status c id = some .rolledBack) (hok : EachStep step (KeepsRollback id) c ls)
    (h : run step c ls = some c') : status c' id = some .rolledBack := by
  have hinv : (RollbackInvariant id c' ∧ Launched id c') ∧
      status c' id = some .rolledBack := by
    refine run_invariant_of_eachStep
      (I := fun c => (RollbackInvariant id c ∧ Launched id c) ∧
        status c id = some .rolledBack) ?_ ⟨⟨hc, hlaunched⟩, hrolled⟩ hok h
    rintro c l c' ⟨⟨hc, hlaunched⟩, hrolled⟩ hok hstep
    refine ⟨⟨rollbackInvariant_step hc hok hstep, launched_step hlaunched hstep⟩, ?_⟩
    obtain hsame | ⟨i, x, tag, st, k, r, rfl, hs, hst | hst, hafter⟩ :=
      hlaunched.status_step hstep
    · rw [hsame, hrolled]
    · -- Completing the row is pending in the thread that does it.
      subst hst
      exact absurd (Or.inl rfl) (hc.quiet hrolled i tag _ hs.before)
    · rw [hafter, hst]
  exact hinv.2

/-- From {lit}`StartRollout` on, a deployment that is rolled back stays rolled back,
if no step of the run is one of the two cases. -/
theorem rolledBack_absorbing {id : DeploymentID} {db : Db} {ls₁ ls₂ : List Label}
    {c₁ c₂ : Config} (h₁ : run step (start db) ls₁ = some c₁)
    (hcalled : StartRolloutCalled id c₁) (hrolled : status c₁ id = some .rolledBack)
    (h₂ : run step c₁ ls₂ = some c₂)
    (hok : EachStep step (KeepsRollback id) (start db) (ls₁ ++ ls₂)) :
    status c₂ id = some .rolledBack := by
  have hinv : RollbackInvariant id c₁ :=
    run_invariant_of_eachStep (fun _ _ _ hc hok hstep => rollbackInvariant_step hc hok hstep)
      (rollbackInvariant_start id db) hok.of_append h₁
  exact rolledBack_kept hinv (launched_of_startRollout h₁ hcalled) hrolled
    (hok.suffix h₁) h₂

/-- A step that {lean}`KeepsRollback` has nothing to say about: it neither writes a
rollback while another procedure is running, nor reads the row for an error report
that passes the completion test on it. -/
def keepsRollback (id : DeploymentID) (c : Config) : Label → Bool
  | .spawn _ _ => true
  | .step i _ =>
      match c.thread i with
      | some (_, .call (.sql (.updateDeploymentStatus _ .rolledBack)) _) => c.restDone i
      | some (.error _, .call (.sql (.getDeployment _ _)) _) =>
          match deployment c id with
          | some d => d.successCount + d.failureCount + 1 < d.totalDevices
          | none => true
      | _ => true

theorem keepsRollback_spec {id : DeploymentID} {c : Config} {l : Label}
    (h : keepsRollback id c l = true) : KeepsRollback id c l where
  write := by
    rintro i x tag k rfl hi j tag' p hne hj hpending
    have hrest : c.restDone i = true := by simpa [keepsRollback, hi] using h
    obtain rfl := Machine.Config.restDone_spec hrest hj hne
    exact hpending
  read := by
    rintro i x event site k d rfl hi hd -
    simpa [keepsRollback, hi, hd] using h

/-- A rollout to a fleet, rolled back by the operator. -/
private def operatorRollback (fleetSize : Nat) : List Label :=
  startCall 0 (.createDeployment (rolloutRequest "full")) (8 + 2 * fleetSize) ++
    startCall 1 (.rollback 0) (4 + 2 * fleetSize)

/-- The deployment is launched and rolled back. -/
private def launchedAndRolledBack (c : Config) : Bool :=
  status c 0 = some .rolledBack && c.trace.any fun e => e.op = .startRollout 0

private theorem launchedAndRolledBack_spec {c : Config} (h : launchedAndRolledBack c = true) :
    StartRolloutCalled 0 c ∧ status c 0 = some .rolledBack := by
  rw [launchedAndRolledBack, Bool.and_eq_true, List.any_eq_true] at h
  obtain ⟨hstatus, e, he, hop⟩ := h
  exact ⟨⟨e, he, by simpa using hop⟩, by simpa using hstatus⟩

/-- Two of three robots report after the rollback, one of them an error; the third
one is still expected, so the deployment stays rolled back. -/
theorem rolledBack_absorbing_late_reports :
    ∃ c, run step (start (fleetDb ["r1", "r2", "r3"] (by decide)))
      (operatorRollback 3 ++ (startCall 2 (.progress ⟨"r1", "success", 100⟩) 4 ++
        startCall 3 (.error ⟨"r2", "checksum mismatch"⟩) 5)) = some c ∧
      status c 0 = some .rolledBack := by
  obtain ⟨c₁, h₁, hc₁⟩ := endsWith_eq_true
    (show endsWith step (start (fleetDb ["r1", "r2", "r3"] (by decide))) (operatorRollback 3)
      launchedAndRolledBack = true by decide +kernel)
  obtain ⟨c₂, h, -⟩ := endsWith_eq_true
    (show endsWith step (start (fleetDb ["r1", "r2", "r3"] (by decide)))
      (operatorRollback 3 ++ (startCall 2 (.progress ⟨"r1", "success", 100⟩) 4 ++
        startCall 3 (.error ⟨"r2", "checksum mismatch"⟩) 5)) (fun _ => true) = true by
      decide +kernel)
  obtain ⟨m, hm, h₂⟩ := run_append_eq_some h
  obtain rfl : c₁ = m := Option.some.inj (h₁.symm.trans hm)
  obtain ⟨hcalled, hrolled⟩ := launchedAndRolledBack_spec hc₁
  refine ⟨c₂, h, rolledBack_absorbing h₁ hcalled hrolled h₂ ?_⟩
  exact EachStep.of_eachStep (fun _ _ => keepsRollback_spec) (by decide +kernel)

/-- An error report that arrives after the rollback completes the deployment. -/
theorem rolledBack_not_absorbing :
    ¬ ∀ (id : DeploymentID) (db : Db) (ls₁ ls₂ : List Label) (c₁ c₂ : Config),
      run step (start db) ls₁ = some c₁ → StartRolloutCalled id c₁ →
      status c₁ id = some .rolledBack → run step c₁ ls₂ = some c₂ →
      status c₂ id = some .rolledBack := by
  intro h
  obtain ⟨c₁, h₁, hc₁⟩ := endsWith_eq_true
    (show endsWith step (start (fleetDb ["r1", "r2"] (by decide))) (operatorRollback 2)
      launchedAndRolledBack = true by decide +kernel)
  obtain ⟨c₂, hrun, hcompleted⟩ := endsWith_eq_true
    (show endsWith step (start (fleetDb ["r1", "r2"] (by decide)))
      (operatorRollback 2 ++ startCall 2 (.error ⟨"r1", "checksum mismatch"⟩) 6)
      (fun c => status c 0 = some .completed) = true by decide +kernel)
  obtain ⟨m, hm, h₂⟩ := run_append_eq_some hrun
  obtain rfl : c₁ = m := Option.some.inj (h₁.symm.trans hm)
  obtain ⟨hcalled, hrolled⟩ := launchedAndRolledBack_spec hc₁
  have hstays := h 0 _ _ _ c₁ c₂ h₁ hcalled hrolled h₂
  simp [hstays] at hcompleted

end ControlPlane

end OtaRobot
