import OtaRobot.Rollout.FailureCount

/-!
# Does a failing canary stop?

The failure rate of {lit}`HandleDeviceError` is taken over the whole fleet, so the
errors of the first phase breach the threshold only if the phase is a large enough
part of the fleet.

Main results:

- Theorem {lit}`failing_canary_goes_on`: with five robots and a threshold of one half
  the canary goes on although its whole first phase has failed.
- Theorem {lit}`failing_canary_stops`: it stops whenever the first phase alone is at
  least the threshold part of the fleet.
-/

namespace OtaRobot

open Prog Transition

namespace ControlPlane

/-! ## The target list of a canary -/

/-- The deployment exists and counts on this many devices. -/
def HasTotal (id : DeploymentID) (n : Nat) (c : Config) : Prop :=
  ∃ dep, deployment c id = some dep ∧ dep.totalDevices = n

/-- The number of devices of a deployment stays. -/
theorem hasTotal_step {id : DeploymentID} {n : Nat} {c c' : Config} {l : Label}
    (hc : HasTotal id n c) (h : step c l = some c') : HasTotal id n c' := by
  obtain ⟨dep, hdep, htotal⟩ := hc
  obtain ⟨dep', hdep', htotal', -, -⟩ := deployment_step_fixed h hdep
  exact ⟨dep', hdep', htotal'.trans htotal⟩

/-- The deployment the operation has created, with its number of devices. -/
def createdBy : (op : Op) → op.Ret → Option (DeploymentID × Nat)
  | .sql (.createDeployment _), (r : Option Deployment) => r.map fun dep => (dep.id, dep.totalDevices)
  | _, _ => none

/-- A canary is started for the deployment the thread has created, with as many
devices as it counts on. -/
def targetDiscipline : Discipline Op.Ret (Option (DeploymentID × Nat)) where
  allowed g op := ∀ depID devs cmd, op = .goRunCanary depID devs cmd →
    g = some (depID, devs.length)
  rely _ op r := ∀ p, op = .sql (.createDeployment p) →
    ∀ created, createdBy op r = some created → created.2 = p.totalDevices
  next g op r := (createdBy op r).or g

/-- The rest of the call launches what it has created. -/
private abbrev TargetOk {α : Type} (g : Option (DeploymentID × Nat)) (p : Rollout α) : Prop :=
  Obeys targetDiscipline (fun _ _ => True) g p

/-- Procedures that start no canary are unconstrained. -/
private theorem targetOk_of_ops {α : Type} {Q : Op → Prop} {p : Rollout α}
    (g : Option (DeploymentID × Nat)) (hp : Always AnyAnswer Q p)
    (hQ : ∀ op, Q op → ∀ depID devs cmd, op ≠ .goRunCanary depID devs cmd) : TargetOk g p :=
  hp.obeys (G := fun _ => True) (fun _ _ _ _ => trivial)
    (fun _ op _ hop depID devs cmd heq => absurd heq (hQ op hop depID devs cmd))
    (fun _ _ _ _ _ => trivial) trivial

/-- A rollout is started for the targets of its deployment. -/
theorem startRollout_target (depID : DeploymentID) (strategy : Strategy) (devs : List Device)
    (cmd : UpdateCommand) :
    TargetOk (some (depID, devs.length)) (OtaRobot.startRollout depID strategy devs cmd) := by
  rw [OtaRobot.startRollout, markStartRollout_bind]
  refine ⟨by rintro _ _ _ ⟨⟩, fun _ _ => ?_⟩
  split
  · trivial
  · split
    · rw [goRunCanary_bind]
      refine ⟨?_, fun _ _ => trivial⟩
      intro depID' devs' cmd' heq
      obtain ⟨rfl, rfl, -⟩ : depID = depID' ∧ devs = devs' ∧ cmd = cmd' := by simpa using heq
      rfl
    · refine Obeys.bind (M := fun _ _ => True) ?_ fun _ _ _ => ⟨by rintro _ _ _ ⟨⟩, fun _ _ => trivial⟩
      refine targetOk_of_ops _ (dispatch_ops depID cmd devs) ?_
      intro op hop
      cases hop
      simp

/-- A deployment is created with the number of its targets. -/
theorem launchDeployment_target (fw : FirmwareVersion) (url : String) (strategy : Strategy)
    (threshold : ℚ) (targetHw : String) (devs : List Device) :
    TargetOk none (launchDeployment fw url strategy threshold targetHw devs) := by
  rw [launchDeployment, query_bind]
  refine ⟨by rintro _ _ _ ⟨⟩, fun (r : Option Deployment) hrely => ?_⟩
  rcases r with _ | dep
  · exact ⟨by rintro _ _ _ ⟨⟩, fun _ _ => trivial⟩
  · have htotal : dep.totalDevices = devs.length := hrely _ rfl _ rfl
    have hcreated : targetDiscipline.next none (.sql (.createDeployment
        { firmwareVersionID := fw.id
          strategy := strategy
          canaryPercentage := initPercentage strategy
          totalDevices := devs.length
          rollbackThreshold := threshold
          createdBy := some "operator" })) (some dep) = some (dep.id, devs.length) := by
      rw [← htotal]
      rfl
    refine Obeys.of_eq hcreated ?_
    dsimp only
    rw [query_bind]
    refine ⟨by rintro _ _ _ ⟨⟩, fun _ _ => ?_⟩
    refine Obeys.bind (M := fun g _ => g = some (dep.id, devs.length)) ?_ ?_
    · refine (createDeploymentDevices_ops dep.id devs).obeys (fun _ _ _ _ => trivial) ?_ ?_ rfl
      · intro g op _ hop
        cases hop
        rintro _ _ _ ⟨⟩
      · intro g op r hg hop
        cases hop
        exact hg
    · intro g _ hg
      subst hg
      refine (startRollout_target dep.id strategy devs _).bind fun _ outcome _ => ?_
      cases outcome <;> exact ⟨by rintro _ _ _ ⟨⟩, fun _ _ => trivial⟩

/-- Every call launches what it has created. -/
theorem body_target (call : Call) : TargetOk none (body call) := by
  cases call with
  | createDeployment req =>
      refine createDeployment_obeys ?_ launchDeployment_target req
      intro op hop
      cases hop <;> exact ⟨by simp [targetDiscipline], fun _ => rfl⟩
  | runCanary depID devices cmd =>
      refine targetOk_of_ops _ (runCanary_ops depID devices cmd) ?_
      intro op hop
      cases hop <;> simp
  | progress | error | getDeployment | rollback =>
      refine targetOk_of_ops _ (handler_ops rfl) ?_
      intro op hop
      cases hop <;> simp

/-- What a thread has created counts on as many devices as it has recorded, and so does
every canary that was started. -/
structure TargetInvariant (c : Config) : Prop where
  disciplined : Machine.Disciplined (fun _ => targetDiscipline) (fun _ _ => True)
    (fun _ => none) c
  created : ∀ i id n, Machine.ghost targetDiscipline none i c.trace = some (id, n) →
    HasTotal id n c
  goroutines : ∀ id devs cmd, Call.runCanary id devs cmd ∈ c.store.goroutines →
    HasTotal id devs.length c
  threads : ∀ i id devs cmd p, c.thread i = some (.runCanary id devs cmd, p) →
    HasTotal id devs.length c

/-- Nothing is created at the start. -/
theorem targetInvariant_start (db : Db) : TargetInvariant (start db) where
  disciplined := Machine.disciplined_initial _ _ _ _
  created i id n h := by simp [start, Machine.initial, Machine.ghost, Machine.eventsOf] at h
  goroutines id devs cmd h := by simp [start, Machine.initial] at h
  threads i id devs cmd p h := by simp [start, Machine.initial, Machine.Config.thread] at h

/-- A created deployment exists from then on. -/
theorem executed_created {c c' : Config} {i : Nat} {x : Choice} {call : Call} {op : Op}
    {k : op.Ret → Rollout Unit} {r : op.Ret} (hs : machine.Executed c c' i x call op k r)
    {id : DeploymentID} {n : Nat} (hcreated : createdBy op r = some (id, n)) :
    HasTotal id n c' ∧ ∀ p, op = .sql (.createDeployment p) → n = p.totalDevices := by
  cases op with
  | sql q =>
      cases q with
      | createDeployment p =>
          have hanswer : ∃ dep : Deployment, r = some dep ∧ (dep.id, dep.totalDevices) = (id, n) :=
            Option.map_eq_some_iff.mp hcreated
          obtain ⟨dep, rfl, heq⟩ := hanswer
          obtain ⟨rfl, rfl⟩ : dep.id = id ∧ dep.totalDevices = n := by simpa using heq
          obtain ⟨hexec, hdb⟩ := executed_some hs
          obtain ⟨hrow, hinserted⟩ := Db.createDeployment_eq_some hexec
          refine ⟨⟨dep, ?_, rfl⟩, ?_⟩
          · rw [deployment, hdb]
            exact hinserted
          · intro p' hp'
            obtain rfl : p = p' := by simpa using hp'
            rw [hrow]
            rfl
      | _ => cases hcreated
  | _ => cases hcreated

/-- The goroutines after an operation. -/
theorem executed_goroutines {c c' : Config} {i : Nat} {x : Choice} {call : Call} {op : Op}
    {k : op.Ret → Rollout Unit} {r : op.Ret} (hs : machine.Executed c c' i x call op k r)
    {started : Call} (hmem : started ∈ c'.store.goroutines) :
    started ∈ c.store.goroutines ∨
      ∃ depID devs cmd, op = .goRunCanary depID devs cmd ∧
        started = .runCanary depID devs cmd := by
  rw [(executed_answer hs).2] at hmem
  cases op with
  | goRunCanary depID devs cmd =>
      have hmem' : started ∈ c.store.goroutines ++ [.runCanary depID devs cmd] := hmem
      rw [List.mem_append, List.mem_singleton] at hmem'
      exact hmem'.imp_right fun h => ⟨depID, devs, cmd, rfl, h⟩
  | sql q =>
      left
      rw [exec_sql] at hmem
      split at hmem <;> exact hmem
  | publishCommand | presignedGetObject | startRollout | newTicker | windowOver | respond
  | callbackReturn => exact Or.inl hmem

/-- A canary that is started was waiting, and starting a procedure makes none wait. -/
theorem accept_goroutines {s s' : Store} {call : Call} (h : accept s call = some s') :
    (∀ started ∈ s'.goroutines, started ∈ s.goroutines) ∧
      ∀ id devs cmd, call = .runCanary id devs cmd → call ∈ s.goroutines := by
  cases call with
  | runCanary id devs cmd =>
      simp only [accept] at h
      split at h
      · rename_i hmem
        obtain rfl := Option.some.inj h
        exact ⟨fun started hstarted => List.mem_of_mem_erase hstarted, fun _ _ _ _ => hmem⟩
      · cases h
  | progress | error =>
      simp only [accept] at h
      split at h
      · cases h
      · obtain rfl := Option.some.inj h
        exact ⟨fun _ h => h, by simp⟩
  | createDeployment | getDeployment | rollback =>
      obtain rfl : s = s' := by simpa [accept] using h
      exact ⟨fun _ h => h, by simp⟩

/-- A step keeps the targets of every canary. -/
theorem targetInvariant_step {c c' : Config} {l : Label} (hc : TargetInvariant c)
    (h : step c l = some c') : TargetInvariant c' := by
  have hkept : ∀ {id n}, HasTotal id n c → HasTotal id n c' := fun ht => hasTotal_step ht h
  have hdisciplined := Machine.step_disciplined h hc.disciplined body_target
    fun i x call op k r hs p hp (id, n) hcreated => (executed_created hs hcreated).2 p hp
  obtain ⟨i, call, -, hs⟩ | ⟨i, x, call, op, k, r, -, hs⟩ := Machine.step_cases h
  · obtain ⟨hsubset, hwaiting⟩ := accept_goroutines hs.accepted
    refine ⟨hdisciplined, ?_, ?_, ?_⟩
    · intro j id n hghost
      rw [hs.trace] at hghost
      exact hkept (hc.created j id n hghost)
    · intro id devs cmd hmem
      exact hkept (hc.goroutines id devs cmd (hsubset _ hmem))
    · intro j id devs cmd p hj
      rw [hs.threads] at hj
      split at hj
      · obtain ⟨rfl, -⟩ : call = .runCanary id devs cmd ∧ _ = p := by simpa using hj
        exact hkept (hc.goroutines id devs cmd (hwaiting id devs cmd rfl))
      · exact hkept (hc.threads j id devs cmd p hj)
  · refine ⟨hdisciplined, ?_, ?_, ?_⟩
    · intro j id n hghost
      rw [hs.trace, Machine.ghost_append] at hghost
      split at hghost
      · rcases Option.or_eq_some_iff.mp hghost with hcreated | ⟨-, hbefore⟩
        · exact (executed_created hs hcreated).1
        · exact hkept (hc.created j id n hbefore)
      · exact hkept (hc.created j id n hghost)
    · intro id devs cmd hmem
      obtain hbefore | ⟨depID, devs', cmd', rfl, heq⟩ := executed_goroutines hs hmem
      · exact hkept (hc.goroutines id devs cmd hbefore)
      · obtain ⟨rfl, rfl, rfl⟩ : id = depID ∧ devs = devs' ∧ cmd = cmd' := by simpa using heq
        exact hkept (hc.created i id devs.length
          (hc.disciplined.allowed hs id devs cmd rfl))
    · intro j id devs cmd p hj
      rw [hs.threads] at hj
      split at hj
      · obtain ⟨rfl, -⟩ : call = .runCanary id devs cmd ∧ _ = p := by simpa using hj
        exact hkept (hc.threads i id devs cmd _ hs.before)
      · exact hkept (hc.threads j id devs cmd p hj)

/-! ## The end of the first observation window -/

/-- The reports about the deployment are errors, and when the window of its first phase
ends, every device of the phase has reported one and all of them are processed. -/
structure FailingPhaseOne (id : DeploymentID) (devs : List Device) (i : Nat) (c : Config)
    (l : Label) : Prop where
  noOther : NoProgressReport id c l
  window : ∀ x call k, l = .step i x → c.thread i = some (call, .call (.windowOver id 1) k) →
    ErrorsProcessed id (devs.take (p1End devs.length)) c

/-- The canary has not left its first phase, and once that is observed the deployment
is launched and not running. -/
structure StopsAtPhaseOne (id : DeploymentID) (i : Nat) (c : Config) : Prop where
  phase : openPhase id i c ≤ 1
  stopped : observedPhase i c ≠ 0 → Launched id c ∧ status c id ≠ some .running

section

variable {id : DeploymentID} {devs : List Device} {cmd : UpdateCommand} {c c' : Config}
  {i : Nat}

/-- The first phase of a nonempty fleet is not empty. -/
theorem phaseOne_ne_nil (hne : devs ≠ []) : devs.take (p1End devs.length) ≠ [] := by
  have hpos : 0 < p1End devs.length := p1End_pos (List.length_pos_of_ne_nil hne)
  simp [List.take_eq_nil_iff, hne]
  omega

/-- A deployment whose robots have failed was launched. -/
theorem launched_of_errors (hall : ErrorsProcessed id devs c) (hc : FailureInvariant id c)
    (hne : devs ≠ []) : Launched id c := by
  obtain ⟨dev, hdev⟩ := List.exists_mem_of_ne_nil devs hne
  obtain ⟨j, text, p, hj, hrow⟩ := hall.reported dev hdev
  obtain ⟨row, hfound⟩ := Option.ne_none_iff_exists'.mp hrow
  exact hc.launch.launched (hc.found j row hfound).marked

/-- At the end of the first observation window the deployment is not running. -/
theorem not_running_after_window (hfailure : FailureInvariant id c)
    (htotal : HasTotal id devs.length c) (hne : devs ≠ [])
    (hdistinct : (devs.map fun dev => dev.id).Nodup)
    (hthreshold : ∀ dep, deployment c id = some dep →
      dep.rollbackThreshold ≤ (p1End devs.length : ℚ) / devs.length)
    (hall : ErrorsProcessed id (devs.take (p1End devs.length)) c) :
    Launched id c ∧ status c id ≠ some .running := by
  have hlength : (devs.take (p1End devs.length)).length = p1End devs.length := by
    rw [List.length_take, Nat.min_eq_left (p1End_le _)]
  refine ⟨launched_of_errors hall hfailure (phaseOne_ne_nil hne), ?_⟩
  apply not_running_of_errors hall hfailure (phaseOne_ne_nil hne)
  · rw [List.map_take]
    exact hdistinct.sublist (List.take_sublist _ _)
  · intro dep hdep
    obtain ⟨dep', hdep', hn⟩ := htotal
    obtain rfl : dep' = dep := Option.some.inj (hdep'.symm.trans hdep)
    rw [hlength, hn]
    exact hthreshold dep' hdep

/-- A canary that may open a phase opens the first one, or has observed the phase
before. -/
theorem canaryAllowed_phaseCheck {g : Dispatched} {id' : DeploymentID} {phaseNum : Nat}
    (hne : devs ≠ [])
    (hallowed : CanaryAllowed id devs cmd g (.sql (.getDeployment id' (.phaseCheck phaseNum)))) :
    phaseNum ≤ 1 ∨ g.observed ≠ 0 := by
  obtain ⟨hsent, hobserved, -, hstart⟩ := hallowed
  by_cases hzero : g.phase = 0
  · left
    rw [hzero] at hsent
    have hpos : 0 < p1End devs.length := p1End_pos (List.length_pos_of_ne_nil hne)
    by_contra hlt
    have hmono : phaseEnd devs.length 1 ≤ phaseEnd devs.length (phaseNum - 1) :=
      phaseEnd_mono _ (by omega)
    rw [← hstart, hsent] at hmono
    have hle : p1End devs.length ≤ 0 := hmono
    omega
  · right
    omega

/-- A step of a failing canary keeps it in its first phase. -/
theorem stopsAtPhaseOne_step {l : Label} {p : Rollout Unit} (hdispatch : DispatchInvariant c)
    (hfailure : FailureInvariant id c) (htarget : HasTotal id devs.length c)
    (hne : devs ≠ []) (hdistinct : (devs.map fun dev => dev.id).Nodup)
    (hi : c.thread i = some (.runCanary id devs cmd, p))
    (hthreshold : ∀ dep, deployment c id = some dep →
      dep.rollbackThreshold ≤ (p1End devs.length : ℚ) / devs.length)
    (hok : FailingPhaseOne id devs i c l) (hc : StopsAtPhaseOne id i c)
    (h : step c l = some c') : StopsAtPhaseOne id i c' := by
  have hkept : Launched id c ∧ status c id ≠ some .running →
      Launched id c' ∧ status c' id ≠ some .running := fun hstopped =>
    ⟨launched_step hstopped.1 h, hstopped.1.not_running_step hstopped.2 h⟩
  obtain ⟨j, call, -, hs⟩ | ⟨j, x, call, op, k, r, rfl, hs⟩ := Machine.step_cases h
  · have hphase : openPhase id i c' = openPhase id i c := by rw [openPhase, hs.trace]; rfl
    have hobserved : observedPhase i c' = observedPhase i c := by
      rw [observedPhase, hs.trace]
      rfl
    exact ⟨hphase ▸ hc.phase, fun hne => hkept (hc.stopped (hobserved ▸ hne))⟩
  · by_cases hji : j = i
    · subst hji
      obtain ⟨rfl, rfl⟩ : call = .runCanary id devs cmd ∧ .call op k = p := by
        simpa [hs.before] using hi
      have hphase' : openPhase id j c' = phaseAfter id (openPhase id j c) op r := by
        rw [openPhase, hs.trace, Machine.eventsOf_append, if_pos rfl, List.foldl_append]
        rfl
      have hobserved' : observedPhase j c' = observedAfter (observedPhase j c) op := by
        rw [observedPhase, hs.trace, Machine.eventsOf_append, if_pos rfl, List.foldl_append]
        rfl
      obtain ⟨-, hphase, hobserved, -⟩ := hdispatch.issues j _ _ hi
      have hallowed := hdispatch.disciplined.allowed hs
      generalize Machine.ghost (dispatchDiscipline (.runCanary id devs cmd)) {} j c.trace = g
        at hphase hobserved hallowed
      have hphase : g.phase = openPhase id j c := hphase
      have hobserved : g.observed = observedPhase j c := hobserved
      have hopen := hc.phase
      have hstopped : observedPhase j c ≠ 0 → Launched id c' ∧ status c' id ≠ some .running :=
        fun hne => hkept (hc.stopped hne)
      cases op with
      | windowOver id' phaseNum =>
          obtain ⟨rfl, hsame, hpos⟩ := hallowed
          obtain rfl : phaseNum = 1 := by omega
          have hall := hok.window x _ k rfl hs.before
          refine ⟨hphase' ▸ hopen, fun _ => hkept ?_⟩
          exact not_running_after_window hfailure htarget hne hdistinct hthreshold hall
      | sql q =>
          cases q with
          | getDeployment id' site =>
              cases site with
              | phaseCheck phaseNum =>
                  have hcheck : CanaryAllowed id devs cmd g
                      (.sql (.getDeployment id' (.phaseCheck phaseNum))) := hallowed
                  refine ⟨?_, hobserved' ▸ hstopped⟩
                  rw [hphase']
                  rcases canaryAllowed_phaseCheck hne hcheck with hfirst | hwindow
                  · simp only [phaseAfter]
                    split
                    · exact hfirst
                    · exact hopen
                  · rw [hobserved] at hwindow
                    rw [phaseAfter_executed hs (hc.stopped hwindow).2]
                    exact hopen
              | _ => exact ⟨hphase' ▸ hopen, hobserved' ▸ hstopped⟩
          | _ => exact ⟨hphase' ▸ hopen, hobserved' ▸ hstopped⟩
      | _ => exact ⟨hphase' ▸ hopen, hobserved' ▸ hstopped⟩
    · have hphase : openPhase id i c' = openPhase id i c := by
        rw [openPhase, hs.trace, Machine.eventsOf_append, if_neg hji]
        rfl
      have hobserved : observedPhase i c' = observedPhase i c := by
        rw [observedPhase, hs.trace, Machine.eventsOf_append, if_neg hji]
        rfl
      exact ⟨hphase ▸ hc.phase, fun hne => hkept (hc.stopped (hobserved ▸ hne))⟩

/-- A thread without a history has opened and observed nothing. -/
theorem stopsAtPhaseOne_of_nil (hnil : Machine.eventsOf i c.trace = []) :
    StopsAtPhaseOne id i c := by
  constructor
  · rw [openPhase, hnil]
    exact Nat.zero_le _
  · intro hne
    rw [observedPhase, hnil] at hne
    exact absurd rfl hne

end

/-! ## No second phase -/

/-- The facts about one canary along a run in which its first phase fails. -/
structure FailingCanary (id : DeploymentID) (devs : List Device) (cmd : UpdateCommand) (i : Nat)
    (c : Config) : Prop where
  dispatch : DispatchInvariant c
  failure : FailureInvariant id c
  target : TargetInvariant c
  stops : ∀ p, c.thread i = some (.runCanary id devs cmd, p) → StopsAtPhaseOne id i c

/-- A step of the whole control plane keeps the canary in its first phase. -/
theorem failingCanary_step {id : DeploymentID} {devs : List Device} {cmd : UpdateCommand}
    {i : Nat} {c c' : Config} {l : Label} (hne : devs ≠ [])
    (hdistinct : (devs.map fun dev => dev.id).Nodup)
    (hthreshold : ∀ dep, deployment c id = some dep →
      dep.rollbackThreshold ≤ (p1End devs.length : ℚ) / devs.length)
    (hok : FailingPhaseOne id devs i c l) (hc : FailingCanary id devs cmd i c)
    (h : step c l = some c') : FailingCanary id devs cmd i c' where
  dispatch := dispatchInvariant_step hc.dispatch h
  failure := failureInvariant_step hc.failure hok.noOther h
  target := targetInvariant_step hc.target h
  stops := by
    intro p' hp'
    cases hthread : c.thread i with
    | none =>
        -- The canary starts with this step, and has done nothing yet.
        obtain ⟨j, call, -, hs⟩ | ⟨j, x, call, op, k, r, -, hs⟩ := Machine.step_cases h
        · apply stopsAtPhaseOne_of_nil
          rw [hs.trace]
          exact Machine.eventsOf_eq_nil hc.dispatch.disciplined.closed hthread
        · exfalso
          rw [hs.threads] at hp'
          split at hp'
          · rename_i hij
            subst hij
            simp [hs.before] at hthread
          · simp [hthread] at hp'
    | some t =>
        obtain ⟨tag, p⟩ := t
        obtain ⟨p'', hp''⟩ := Machine.step_tag h hthread
        obtain ⟨rfl, -⟩ : tag = .runCanary id devs cmd ∧ p'' = p' := by simpa [hp''] using hp'
        exact stopsAtPhaseOne_step hc.dispatch hc.failure (hc.target.threads i id devs cmd p hthread)
          hne hdistinct hthread hthreshold hok (hc.stops p hthread) h

/-- If every device of the first phase reports an error and all of them are processed
before its observation window ends, and no other report arrives, the canary issues no
command outside the phase, provided that the phase is at least the threshold part of the
fleet. -/
theorem failing_canary_stops {id : DeploymentID} {db : Db} {ls : List Label} {c : Config}
    {i : Nat} {devs : List Device} {cmd : UpdateCommand} {p : Rollout Unit}
    (hnew : ∀ row ∈ db.deploymentDevices, row.deploymentID ≠ id)
    (h : run step (start db) ls = some c)
    (hi : c.thread i = some (.runCanary id devs cmd, p))
    (hdistinct : (devs.map fun dev => dev.id).Nodup)
    (hthreshold : ∀ dep, deployment c id = some dep →
      dep.rollbackThreshold ≤ (p1End devs.length : ℚ) / devs.length)
    (hok : EachStep step (FailingPhaseOne id devs i) (start db) ls) :
    ∃ m ≤ p1End devs.length, publishedBy i c = updateCommands id cmd (devs.take m) := by
  have hdispatch : DispatchInvariant c := dispatchInvariant_run h
  obtain ⟨m, hwithin, hpublished⟩ := hdispatch.publishedBy_eq hi
  by_cases hne : devs = []
  · subst hne
    exact ⟨0, Nat.zero_le _, by simpa using hpublished⟩
  · have hfixed : EachStep step (fun m _ => ∀ dep, deployment m id = some dep →
        dep.rollbackThreshold ≤ (p1End devs.length : ℚ) / devs.length) (start db) ls := by
      apply EachStep.of_run h
      intro m l rest hrest dep hdep
      obtain ⟨dep', hdep', hsame⟩ : ∃ dep', deployment c id = some dep' ∧
          dep'.rollbackThreshold = dep.rollbackThreshold := by
        refine run_invariant (I := fun m => ∃ dep', deployment m id = some dep' ∧
          dep'.rollbackThreshold = dep.rollbackThreshold) ?_ ⟨dep, hdep, rfl⟩ hrest
        intro m l m' hm hstep
        obtain ⟨dep', hdep', hsame⟩ := hm
        obtain ⟨dep'', hdep'', -, hsame', -⟩ := deployment_step_fixed hstep hdep'
        exact ⟨dep'', hdep'', hsame'.trans hsame⟩
      rw [← hsame]
      exact hthreshold dep' hdep'
    have hstart : FailingCanary id devs cmd i (start db) :=
      ⟨dispatchInvariant_start db, failureInvariant_start hnew, targetInvariant_start db,
        fun _ h => by simp [start, Machine.initial, Machine.Config.thread] at h⟩
    have hend : FailingCanary id devs cmd i c :=
      run_invariant_of_eachStep
        (fun _ _ _ hc hok hstep => failingCanary_step hne hdistinct hok.1 hok.2 hc hstep)
        hstart (hfixed.and hok) h
    have hphase := (hend.stops p hi).phase
    exact ⟨m, hwithin.inside.trans (phaseEnd_mono _ hphase), hpublished⟩

/-! ## Concrete canaries -/

/-- The executable form of {lean}`ErrorsProcessed`. -/
def errorsProcessed (id : DeploymentID) (devs : List Device) (c : Config) : Bool :=
  devs.all (fun dev => c.threads.rows.any fun t =>
    (match t.tag with
      | .error event => event.deviceID = dev.id
      | _ => false) && (handled id t.id c).row.isSome) &&
    c.threads.rows.all fun t =>
      (handled id t.id c).row.isNone ||
        (Machine.isDone t.prog && !(handled id t.id c).failed)

theorem errorsProcessed_spec {id : DeploymentID} {devs : List Device} {c : Config}
    (h : errorsProcessed id devs c = true) : ErrorsProcessed id devs c := by
  rw [errorsProcessed, Bool.and_eq_true, List.all_eq_true, List.all_eq_true] at h
  obtain ⟨hreported, hfinished⟩ := h
  constructor
  · intro dev hdev
    obtain ⟨t, ht, hboth⟩ := List.any_eq_true.mp (hreported dev hdev)
    obtain ⟨j, tag, p⟩ := t
    rw [Bool.and_eq_true] at hboth
    obtain ⟨htag, hrow⟩ := hboth
    have hthread : c.thread j = some (tag, p) := by
      rw [Machine.Config.thread, Table.find?_some_iff.mpr ⟨ht, rfl⟩]
      rfl
    cases tag with
    | error event =>
        obtain ⟨deviceID, text⟩ := event
        obtain rfl : deviceID = dev.id := by simpa using htag
        exact ⟨j, text, p, hthread, Option.isSome_iff_ne_none.mp hrow⟩
    | progress | createDeployment | getDeployment | rollback | runCanary => simp at htag
  · intro j call p hj hrow
    obtain ⟨t, ht, heq⟩ : ∃ t, c.threads.find? j = some t ∧ (t.tag, t.prog) = (call, p) := by
      simpa [Machine.Config.thread] using hj
    obtain ⟨rfl, rfl⟩ : t.tag = call ∧ t.prog = p := by simpa using heq
    have hid : t.id = j := Table.find?_key ht
    have hdone := hfinished t (Table.mem_of_find? ht)
    rw [hid] at hdone
    cases hprog : t.prog with
    | done a => simpa [hprog, Machine.isDone, hrow] using hdone
    | call op k => simp [hprog, Machine.isDone, hrow] at hdone

/-- A step that {lean}`FailingPhaseOne` has nothing to say about. -/
def failingPhaseOne (id : DeploymentID) (devs : List Device) (i : Nat) (c : Config) :
    Label → Bool
  | .spawn _ _ => true
  | .step j _ =>
      match c.thread j with
      | some (.progress _, .call (.sql (.getActiveDeploymentDeviceByDevice _)) _) => false
      | some (_, .call (.windowOver _ _) _) =>
          j ≠ i || errorsProcessed id (devs.take (p1End devs.length)) c
      | _ => true

theorem failingPhaseOne_spec {id : DeploymentID} {devs : List Device} {i : Nat} {c : Config}
    {l : Label} (h : failingPhaseOne id devs i c l = true) : FailingPhaseOne id devs i c l where
  noOther := by
    intro j x event deviceID k row hl hj
    subst hl
    simp [failingPhaseOne, hj] at h
  window := by
    intro x call k hl hi
    subst hl
    have hprocessed : errorsProcessed id (devs.take (p1End devs.length)) c = true := by
      cases call <;> simpa [failingPhaseOne, hi] using h
    exact errorsProcessed_spec hprocessed

/-- A canary over five robots whose first phase fails: the robot of the phase reports an
error inside the observation window, then the window ends. -/
private def failingCanaryRun (threshold : ℚ) (errorOps canaryOps : Nat) : List Label :=
  startCall 0 (.createDeployment { rolloutRequest "canary" with rollbackThreshold := threshold })
      13 ++
    startCall 1 (.runCanary 0 fiveTargets { version := "2.0.0" }) 4 ++
    startCall 2 (.error ⟨"r5", "checksum mismatch"⟩) errorOps ++ resumeCall 1 canaryOps

/-- With the default threshold the canary stops. -/
theorem failing_canary_stops_default_threshold :
    ∃ c, run step (start (fleetDb ["r1", "r2", "r3", "r4", "r5"] (by decide)))
      (failingCanaryRun (1 / 5) 18 2) = some c ∧
      ∃ m ≤ 1, publishedBy 1 c = updateCommands 0 { version := "2.0.0" } (fiveTargets.take m) := by
  obtain ⟨c, h, hend⟩ := endsWith_eq_true
    (show endsWith step (start (fleetDb ["r1", "r2", "r3", "r4", "r5"] (by decide)))
      (failingCanaryRun (1 / 5) 18 2)
      (fun c => (c.thread 1).any (fun t =>
        t.1 = .runCanary 0 fiveTargets { version := "2.0.0" } && Machine.isDone t.2) &&
          (deployment c 0).any fun dep => dep.rollbackThreshold = 1 / 5) = true by decide +kernel)
  rw [Bool.and_eq_true, Option.any_eq_true, Option.any_eq_true] at hend
  obtain ⟨⟨⟨tag, p⟩, hi, htag⟩, dep, hdep, hthreshold⟩ := hend
  obtain ⟨rfl, -⟩ : tag = .runCanary 0 fiveTargets { version := "2.0.0" } ∧ _ := by
    simpa using htag
  have hphase : p1End fiveTargets.length = 1 := by decide +kernel
  obtain ⟨m, hm, hpublished⟩ := failing_canary_stops (by simp [fleetDb]) h hi
    (by decide) (by
      intro dep' hdep'
      obtain rfl : dep = dep' := Option.some.inj (hdep.symm.trans hdep')
      rw [of_decide_eq_true hthreshold, hphase]
      norm_num [fiveTargets])
    (EachStep.of_eachStep (fun _ _ => failingPhaseOne_spec) (by decide +kernel))
  exact ⟨c, h, m, hphase ▸ hm, hpublished⟩

/-- With a threshold of one half the canary goes on to its second phase. -/
theorem failing_canary_goes_on :
    ¬ ∀ (id : DeploymentID) (db : Db) (ls : List Label) (c : Config) (i : Nat)
      (devs : List Device) (cmd : UpdateCommand) (p : Rollout Unit),
      (∀ row ∈ db.deploymentDevices, row.deploymentID ≠ id) →
      run step (start db) ls = some c → c.thread i = some (.runCanary id devs cmd, p) →
      (devs.map fun dev => dev.id).Nodup →
      (∀ dep, deployment c id = some dep → AdmissibleThreshold dep.rollbackThreshold) →
      EachStep step (FailingPhaseOne id devs i) (start db) ls →
      ∃ m ≤ p1End devs.length, publishedBy i c = updateCommands id cmd (devs.take m) := by
  intro hall
  obtain ⟨c, h, hend⟩ := endsWith_eq_true
    (show endsWith step (start (fleetDb ["r1", "r2", "r3", "r4", "r5"] (by decide)))
      (failingCanaryRun (1 / 2) 5 4)
      (fun c => (c.thread 1).any (fun t => t.1 = .runCanary 0 fiveTargets { version := "2.0.0" }) &&
        ((deployment c 0).any (fun dep => dep.rollbackThreshold = 1 / 2) &&
          (publishedBy 1 c).length = 2)) = true by decide +kernel)
  rw [Bool.and_eq_true, Bool.and_eq_true, Option.any_eq_true, Option.any_eq_true] at hend
  obtain ⟨⟨⟨tag, p⟩, hi, htag⟩, ⟨dep, hdep, hthreshold⟩, hlength⟩ := hend
  obtain rfl : tag = .runCanary 0 fiveTargets { version := "2.0.0" } := of_decide_eq_true htag
  obtain ⟨m, hm, hpublished⟩ := hall 0 _ _ c 1 _ _ p (by simp [fleetDb]) h hi (by decide) (by
      intro dep' hdep'
      obtain rfl : dep = dep' := Option.some.inj (hdep.symm.trans hdep')
      rw [of_decide_eq_true hthreshold]
      decide +kernel)
    (EachStep.of_eachStep (fun _ _ => failingPhaseOne_spec) (by decide +kernel))
  have hphase : p1End fiveTargets.length = 1 := by decide +kernel
  rw [hpublished, updateCommands, List.length_map, List.length_take, decide_eq_true_eq] at hlength
  omega

end ControlPlane

end OtaRobot
