import OtaRobot.Mqtt.Status

/-!
# The end of a connection

A robot registers its will before it connects, reports its status while it runs, and ends its
connection in one of two ways: a graceful shutdown publishes an offline message and disconnects,
which makes the broker forget the will; an abrupt end makes the broker publish the will.

Between the shutdown message and the disconnection the goroutines of the agent go on.  The
broker passes the messages on in the order in which it gets them.

Main results:

- Theorem {lit}`last_status_current`: when the last message carries the version of the robot.
- Theorem {lit}`will_outdated`: an update, and then an abrupt disconnection.
-/

namespace OtaRobot.Connection

open Prog Transition Agent

/-- How far the shutdown has come; a message that is built is published next. -/
inductive Phase where
  | connected
  | stopping (offlineUpdate : StatusMessage)
  | draining
  | closed
deriving DecidableEq, Repr

/-- The agent, the will the broker keeps, and the status messages the broker has got. -/
structure State where
  agent : Agent.Config
  will : StatusMessage
  sent : List StatusMessage
  phase : Phase

/-- A step of the agent, of its shutdown, or of the network. -/
inductive Label where
  | agent (l : Agent.Label)
  | stop (now : String)
  | publishOffline
  | disconnect
  | drop
deriving DecidableEq, Repr

/-- {lit}`main` up to the established connection; {lit}`now` is the time at which the will is
written. -/
def connect (p : Process) (r : Robot) (now : String) : State where
  agent := Agent.start p r
  will := p.offlineUpdate r.currentVersion now
  sent := []
  phase := .connected

/-- The status messages a step of the agent publishes. -/
def published (p : Process) (c : Agent.Config) : Agent.Label → List StatusMessage
  | .spawn _ _ => []
  | .step i _ =>
      match c.thread i with
      | some (_, .call (.publishStatus update) _) => [update.message p.deviceID]
      | _ => []

/-- One step; a closed connection has none. -/
def step (p : Process) (s : State) : Label → Option State
  | .agent l =>
      if s.phase = .closed then none
      else (Agent.step p s.agent l).map fun c =>
        { s with agent := c, sent := s.sent ++ published p s.agent l }
  | .stop now =>
      match s.phase with
      | .connected =>
          some { s with phase := .stopping (p.offlineUpdate s.agent.store.currentVersion now) }
      | _ => none
  | .publishOffline =>
      match s.phase with
      | .stopping offlineUpdate =>
          some { s with sent := s.sent ++ [offlineUpdate], phase := .draining }
      | _ => none
  | .disconnect =>
      match s.phase with
      | .draining => some { s with phase := .closed }
      | _ => none
  | .drop =>
      if s.phase = .closed then none
      else some { s with sent := s.sent ++ [s.will], phase := .closed }

/-- The last message carries the version the robot runs, and so does the registry once the
backend has processed the messages, if the upsert of the last one does not fail. -/
structure Reported (p : Process) (s : State) : Prop where
  last : ∃ m, s.sent.getLast? = some m ∧ m.version = s.agent.store.currentVersion
  registry : ∀ (rolloutMgr : Bool) (env : Nat → Nat → Reading) (store : ReportStore),
    (env (s.sent.length - 1) 0).fault = false →
      (receiveAll rolloutMgr env store s.sent).currentVersion p.deviceID =
        some s.agent.store.currentVersion

/-- The connection is dropped only while the robot runs the version of its will.  Once the
shutdown message is built the robot switches to no other version, and once it is published no
heartbeat with another version is. -/
structure Orderly (s : State) (l : Label) : Prop where
  drop : l = .drop → s.agent.store.currentVersion = s.will.version
  switch : ∀ i x t version k, l = .agent (.step i x) → s.phase ≠ .connected →
    s.agent.thread i = some (t, .call (.setCurrentVersion version) k) →
      version = s.agent.store.currentVersion
  heartbeat : ∀ i x t update k, l = .agent (.step i x) → s.phase = .draining →
    s.agent.thread i = some (t, .call (.publishStatus update) k) →
      update.version = s.agent.store.currentVersion

/-! ## What a step does -/

/-- What a step can do. -/
theorem step_cases {p : Process} {s s' : State} {l : Label} (h : step p s l = some s') :
    (∃ la c, l = .agent la ∧ s.phase ≠ .closed ∧ Agent.step p s.agent la = some c ∧
        s' = { s with agent := c, sent := s.sent ++ published p s.agent la }) ∨
      (∃ now, l = .stop now ∧ s.phase = .connected ∧
        s' = { s with phase := .stopping (p.offlineUpdate s.agent.store.currentVersion now) }) ∨
      (∃ m, l = .publishOffline ∧ s.phase = .stopping m ∧
        s' = { s with sent := s.sent ++ [m], phase := .draining }) ∨
      (l = .disconnect ∧ s.phase = .draining ∧ s' = { s with phase := .closed }) ∨
      (l = .drop ∧ s.phase ≠ .closed ∧
        s' = { s with sent := s.sent ++ [s.will], phase := .closed }) := by
  cases l with
  | agent la =>
      simp only [step] at h
      split at h
      · cases h
      · rename_i hopen
        obtain ⟨c, hc, rfl⟩ := Option.map_eq_some_iff.mp h
        exact Or.inl ⟨la, c, rfl, hopen, hc, rfl⟩
  | stop now =>
      simp only [step] at h
      split at h
      · rename_i hphase
        cases h
        exact Or.inr (Or.inl ⟨now, rfl, hphase, rfl⟩)
      · cases h
  | publishOffline =>
      simp only [step] at h
      split at h
      · rename_i m hphase
        cases h
        exact Or.inr (Or.inr (Or.inl ⟨m, rfl, hphase, rfl⟩))
      · cases h
  | disconnect =>
      simp only [step] at h
      split at h
      · rename_i hphase
        cases h
        exact Or.inr (Or.inr (Or.inr (Or.inl ⟨rfl, hphase, rfl⟩)))
      · cases h
  | drop =>
      simp only [step] at h
      split at h
      · cases h
      · rename_i hopen
        cases h
        exact Or.inr (Or.inr (Or.inr (Or.inr ⟨rfl, hopen, rfl⟩)))

/-- A step of the agent keeps the version, or is a switch. -/
theorem agent_version {p : Process} {c c' : Agent.Config} {l : Agent.Label}
    (h : Agent.step p c l = some c') :
    c'.store.currentVersion = c.store.currentVersion ∨
      ∃ i x t version k, l = .step i x ∧
        c.thread i = some (t, .call (.setCurrentVersion version) k) ∧ published p c l = [] ∧
        c'.store.currentVersion = version := by
  obtain ⟨i, t, rfl, hs⟩ | ⟨i, x, t, op, k, r, rfl, hs⟩ := Machine.step_cases h
  · left
    have hstore : c.store = c'.store := Option.some.inj hs.accepted
    rw [hstore]
  · have hstore : c'.store = (exec c.store op x).2 := (congrArg Prod.snd hs.effect).symm
    rw [hstore]
    cases op with
    | setCurrentVersion version =>
        right
        refine ⟨i, x, t, version, k, rfl, hs.before, ?_, rfl⟩
        simp [published, hs.before]
    | _ => exact Or.inl rfl

/-! ## Messages -/

/-- All messages name the robot, and the will is the one registered when it connected. -/
structure Named (p : Process) (r : Robot) (now : String) (s : State) : Prop where
  will : s.will = p.offlineUpdate r.currentVersion now
  sent : ∀ m ∈ s.sent, m.deviceID = p.deviceID
  built : ∀ m, s.phase = .stopping m → m.deviceID = p.deviceID

/-- The will names its robot. -/
theorem named_connect (p : Process) (r : Robot) (now : String) :
    Named p r now (connect p r now) where
  will := rfl
  sent := by
    intro m hm
    cases hm
  built := by
    intro m hm
    cases hm

/-- A heartbeat names its robot. -/
theorem published_deviceID {p : Process} {c : Agent.Config} {l : Agent.Label} {m : StatusMessage}
    (h : m ∈ published p c l) : m.deviceID = p.deviceID := by
  unfold published at h
  split at h
  · cases h
  · split at h
    · rw [List.mem_singleton] at h
      rw [h]
      rfl
    · cases h

/-- A step publishes messages that name their robot. -/
theorem named_step {p : Process} {r : Robot} {now : String} {s s' : State} {l : Label}
    (hs : Named p r now s) (h : step p s l = some s') : Named p r now s' := by
  obtain ⟨la, c, -, -, -, rfl⟩ | ⟨now, -, -, rfl⟩ | ⟨m₀, -, hphase, rfl⟩ | ⟨-, -, rfl⟩ | ⟨-, -, rfl⟩ :=
    step_cases h
  · refine ⟨hs.will, ?_, hs.built⟩
    intro m hm
    rcases List.mem_append.mp hm with hold | hnew
    · exact hs.sent m hold
    · exact published_deviceID hnew
  · refine ⟨hs.will, hs.sent, ?_⟩
    intro m hm
    cases hm
    rfl
  · refine ⟨hs.will, ?_, fun m hm => (by cases hm)⟩
    intro m hm
    rcases List.mem_append.mp hm with hold | hnew
    · exact hs.sent m hold
    · rw [List.mem_singleton.mp hnew]
      exact hs.built m₀ hphase
  · exact ⟨hs.will, hs.sent, fun m hm => (by cases hm)⟩
  · refine ⟨hs.will, ?_, fun m hm => (by cases hm)⟩
    intro m hm
    rcases List.mem_append.mp hm with hold | hnew
    · exact hs.sent m hold
    · rw [List.mem_singleton.mp hnew, hs.will]
      rfl

theorem named_run {p : Process} {r : Robot} {now : String} {s : State} {ls : List Label}
    (h : run (step p) (connect p r now) ls = some s) : Named p r now s :=
  run_invariant (fun _ _ _ hs hstep => named_step hs hstep) (named_connect p r now) h

/-- The registry shows what the last message says. -/
theorem reported_of_last {p : Process} {r : Robot} {now : String} {s : State} {m : StatusMessage}
    (hs : Named p r now s) (hlast : s.sent.getLast? = some m)
    (hversion : m.version = s.agent.store.currentVersion) : Reported p s where
  last := ⟨m, hlast, hversion⟩
  registry := by
    intro rolloutMgr env store hfault
    obtain ⟨messages, hsent⟩ := List.getLast?_eq_some_iff.mp hlast
    have hdevice : m.deviceID = p.deviceID := by
      apply hs.sent m
      rw [hsent]
      exact List.mem_append_right _ (List.mem_singleton_self m)
    rw [hsent, List.length_append] at hfault
    have hregistry := registry_after rolloutMgr store messages m hfault
    rw [← hsent, hdevice, hversion] at hregistry
    exact hregistry

/-! ## Graceful shutdowns -/

/-- The message that is built, or the last one that is published, is up to date. -/
structure Fresh (s : State) : Prop where
  built : ∀ m, s.phase = .stopping m → m.version = s.agent.store.currentVersion
  last : s.phase = .draining ∨ s.phase = .closed →
    ∃ m, s.sent.getLast? = some m ∧ m.version = s.agent.store.currentVersion

/-- The will has the version the robot runs. -/
theorem fresh_connect (p : Process) (r : Robot) (now : String) : Fresh (connect p r now) where
  built := by
    intro m hm
    cases hm
  last := by
    intro h
    rcases h with h | h <;> cases h

/-- From the shutdown message on an orderly step of the agent keeps the version. -/
theorem orderly_version {p : Process} {s : State} {la : Agent.Label} {c : Agent.Config}
    (hok : Orderly s (.agent la)) (hphase : s.phase ≠ .connected)
    (h : Agent.step p s.agent la = some c) :
    c.store.currentVersion = s.agent.store.currentVersion := by
  rcases agent_version h with hsame | ⟨i, x, t, version, k, rfl, hi, -, hversion⟩
  · exact hsame
  · rw [hversion]
    exact hok.switch i x t version k rfl hphase hi

/-- A heartbeat of an orderly step after the shutdown message is up to date. -/
theorem orderly_published {p : Process} {s : State} {la : Agent.Label}
    (hok : Orderly s (.agent la)) (hphase : s.phase = .draining) :
    ∀ m ∈ published p s.agent la, m.version = s.agent.store.currentVersion := by
  intro m hm
  unfold published at hm
  split at hm
  · cases hm
  · rename_i i x
    split at hm
    · rename_i t update k hi
      rw [List.mem_singleton.mp hm]
      exact hok.heartbeat i x t update k rfl hphase hi
    · cases hm

/-- An orderly step keeps the version of the will. -/
theorem fresh_step {p : Process} {s s' : State} {l : Label} (hs : Fresh s) (hok : Orderly s l)
    (h : step p s l = some s') : Fresh s' := by
  obtain ⟨la, c, rfl, hopen, hc, rfl⟩ | ⟨now, -, -, rfl⟩ | ⟨m₀, -, hphase, rfl⟩ | ⟨-, hphase, rfl⟩ |
    ⟨rfl, -, rfl⟩ := step_cases h
  · constructor
    · intro m hm
      have hne : s.phase ≠ .connected := by
        intro hconnected
        cases hconnected.symm.trans hm
      exact (hs.built m hm).trans (orderly_version hok hne hc).symm
    · intro hphase
      have hdraining : s.phase = .draining := hphase.resolve_right hopen
      have hne : s.phase ≠ .connected := by
        intro hconnected
        cases hconnected.symm.trans hdraining
      have hversion := orderly_version hok hne hc
      obtain ⟨m, hlast, hm⟩ := hs.last (Or.inl hdraining)
      cases hpublished : (published p s.agent la).getLast? with
      | none =>
          refine ⟨m, ?_, hm.trans hversion.symm⟩
          rw [List.getLast?_append, hpublished, hlast]
          rfl
      | some update =>
          refine ⟨update, ?_, ?_⟩
          · rw [List.getLast?_append, hpublished]
            rfl
          · have hupdate := orderly_published hok hdraining update
              (List.mem_of_getLast? hpublished)
            exact hupdate.trans hversion.symm
  · constructor
    · intro m hm
      cases hm
      rfl
    · intro hphase
      rcases hphase with hphase | hphase <;> cases hphase
  · constructor
    · intro m hm
      cases hm
    · intro _
      exact ⟨m₀, List.getLast?_concat, hs.built m₀ hphase⟩
  · constructor
    · intro m hm
      cases hm
    · intro _
      exact hs.last (Or.inl hphase)
  · constructor
    · intro m hm
      cases hm
    · intro _
      exact ⟨s.will, List.getLast?_concat, (hok.drop rfl).symm⟩

/-! ## The last message -/

/-- After an abrupt disconnection the last message is the will. -/
theorem drop_last {p : Process} {r : Robot} {now : String} {s : State} {ls : List Label}
    (h : run (step p) (connect p r now) (ls ++ [.drop]) = some s) :
    s.sent.getLast? = some (p.offlineUpdate r.currentVersion now) := by
  obtain ⟨m, hm, hlast⟩ := run_append_eq_some h
  obtain ⟨s', hstep, hnil⟩ := run_cons_eq_some hlast
  cases hnil
  have hwill := (named_run hm).will
  obtain ⟨la, c, hl, -⟩ | ⟨now, hl, -⟩ | ⟨m₀, hl, -⟩ | ⟨hl, -⟩ | ⟨-, -, rfl⟩ := step_cases hstep
  · cases hl
  · cases hl
  · cases hl
  · cases hl
  · rw [← hwill]
    exact List.getLast?_concat

/-- The last status message carries the version the robot runs, and so does the registry: after
an abrupt disconnection exactly if the robot runs the version it connected with, and at the end
of every orderly run. -/
theorem last_status_current {p : Process} {r : Robot} {now : String} {s : State} {ls : List Label}
    {l : Label} (h : run (step p) (connect p r now) (ls ++ [l]) = some s)
    (hclosed : s.phase = .closed) :
    (l = .drop → (Reported p s ↔ r.currentVersion = s.agent.store.currentVersion)) ∧
      (EachStep (step p) Orderly (connect p r now) (ls ++ [l]) → Reported p s) := by
  have hnamed := named_run h
  constructor
  · intro hl
    subst hl
    have hlast := drop_last h
    constructor
    · intro hreported
      obtain ⟨m, hm, hversion⟩ := hreported.last
      cases hlast.symm.trans hm
      exact hversion
    · intro hversion
      exact reported_of_last hnamed hlast hversion
  · intro hok
    have hfresh : Fresh s := by
      apply run_invariant_of_eachStep ?_ (fresh_connect p r now) hok h
      intro m l m' hm hok hstep
      exact fresh_step hm hok hstep
    obtain ⟨m, hlast, hversion⟩ := hfresh.last (Or.inr hclosed)
    exact reported_of_last hnamed hlast hversion

/-- A test for {lean}`Orderly`. -/
def orderly (s : State) : Label → Bool
  | .drop => s.agent.store.currentVersion = s.will.version
  | .agent (.step i _) =>
      match s.agent.thread i with
      | some (_, .call (.setCurrentVersion version) _) =>
          s.phase = .connected || version = s.agent.store.currentVersion
      | some (_, .call (.publishStatus update) _) =>
          s.phase ≠ .draining || update.version = s.agent.store.currentVersion
      | _ => true
  | _ => true

theorem orderly_spec {s : State} {l : Label} (h : orderly s l = true) : Orderly s l where
  drop := by
    intro hl
    subst hl
    simpa [orderly] using h
  switch := by
    intro i x t version k hl hphase hi
    subst hl
    simpa [orderly, hi, hphase] using h
  heartbeat := by
    intro i x t update k hl hphase hi
    subst hl
    simpa [orderly, hi, hphase] using h

/-- A robot that shuts down after an update. -/
theorem last_status_current_of_shutdown :
    ∃ s, run (step (robotProcess "r1"))
      (connect (robotProcess "r1") (robot "r1") "2026-07-01T08:00:00Z")
      ((receive 0 (updateTo "2.0.0") 27).map .agent ++
        [.stop "2026-07-01T09:00:00Z", .publishOffline] ++
        [.disconnect]) = some s ∧
      s.agent.store.currentVersion = "2.0.0" ∧ Reported (robotProcess "r1") s := by
  obtain ⟨s, h, hend⟩ := endsWith_eq_true
    (show endsWith (step (robotProcess "r1"))
      (connect (robotProcess "r1") (robot "r1") "2026-07-01T08:00:00Z")
      ((receive 0 (updateTo "2.0.0") 27).map .agent ++
        [.stop "2026-07-01T09:00:00Z", .publishOffline] ++ [.disconnect])
      (fun s => s.phase = .closed && s.agent.store.currentVersion = "2.0.0") = true by
        decide +kernel)
  simp only [Bool.and_eq_true, decide_eq_true_eq] at hend
  refine ⟨s, h, hend.2, (last_status_current h hend.1).2 ?_⟩
  exact EachStep.of_eachStep (fun _ _ => orderly_spec) (by decide +kernel)

/-- The robot loses its connection after an update.  The will names the version it connected
with, and so does the registry. -/
theorem will_outdated :
    ∃ s, run (step (robotProcess "r1"))
      (connect (robotProcess "r1") (robot "r1") "2026-07-01T08:00:00Z")
      ((receive 0 (updateTo "2.0.0") 27).map .agent ++ [.drop]) = some s ∧ s.phase = .closed ∧
      s.agent.store.currentVersion = "2.0.0" ∧
      (∀ j t q, s.agent.thread j = some (t, q) → q = .done ()) ∧
      s.sent.getLast?.map StatusMessage.version = some "1.0.0" ∧
      ∀ store, (receiveAll true (fun _ _ => {}) store s.sent).currentVersion "r1" =
        some "1.0.0" := by
  obtain ⟨s, h, hend⟩ := endsWith_eq_true
    (show endsWith (step (robotProcess "r1"))
      (connect (robotProcess "r1") (robot "r1") "2026-07-01T08:00:00Z")
      ((receive 0 (updateTo "2.0.0") 27).map .agent ++ [.drop])
      (fun s => s.phase = .closed && (s.agent.store.currentVersion = "2.0.0" &&
        (s.sent = [(robotProcess "r1").offlineUpdate "1.0.0" "2026-07-01T08:00:00Z"] &&
          (s.agent.restDone 1 && (s.agent.thread 1).isNone)))) = true by decide +kernel)
  simp only [Bool.and_eq_true, decide_eq_true_eq, Option.isNone_iff_eq_none] at hend
  obtain ⟨hclosed, hversion, hsent, hdone, hfresh⟩ := hend
  refine ⟨s, h, hclosed, hversion, ?_, ?_, ?_⟩
  · intro j t q hj
    apply Machine.Config.restDone_spec hdone hj
    intro hj1
    rw [hj1, hfresh] at hj
    cases hj
  · rw [hsent]
    rfl
  · intro store
    rw [hsent]
    exact registry_after true store []
      ((robotProcess "r1").offlineUpdate "1.0.0" "2026-07-01T08:00:00Z") rfl

end OtaRobot.Connection
