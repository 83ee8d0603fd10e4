import OtaRobot.Agent.Commands
import OtaRobot.Agent.Pipeline
import OtaRobot.Library.Rest
import Mathlib.Logic.Function.Iterate

/-!
# The battery of an AGV

The heartbeat charges the battery up to 98 and then drains it down to 15.  Nothing but a telemetry
command starts the charger again, and an update needs a level of 50: an AGV that is left alone
refuses every update from some heartbeat on.

Main results:

- Theorem {lit}`drained_of_patience`: after how many heartbeats the battery is too low for good.
- Theorem {lit}`agv_refuses`: from then on no update is downloaded or installed.
-/

namespace OtaRobot.Agent

open Prog Transition

/-! ## The battery -/

/-- The two battery variables. -/
structure Battery where
  level : Int
  charging : Bool
deriving DecidableEq, Repr

/-- The battery of a robot. -/
def Robot.battery (r : Robot) : Battery :=
  ⟨r.currentBattery, r.isCharging⟩

/-- One iteration of the heartbeat. -/
def Battery.beat (b : Battery) : Battery :=
  if b.charging then ⟨b.level + 1, decide (b.level + 1 < 98)⟩
  else if 15 < b.level then ⟨b.level - 1, false⟩
  else b

/-- Too low for an update, and not charging. -/
def Battery.Drained (b : Battery) : Prop :=
  b.level < 50 ∧ b.charging = false

/-- A number of heartbeats that leaves the battery drained. -/
def Battery.patience (b : Battery) : Nat :=
  if b.charging then
    let rest := (max 1 (98 - b.level)).toNat
    rest + (b.level + rest - 49).toNat
  else (b.level - 49).toNat

/-- A battery without patience is drained. -/
theorem Battery.drained_of_patience_eq_zero {b : Battery} (h : b.patience = 0) : b.Drained := by
  obtain ⟨level, charging⟩ := b
  cases charging with
  | true =>
      simp only [patience, if_true] at h
      omega
  | false =>
      simp only [patience, Bool.false_eq_true, if_false] at h
      exact ⟨by show level < 50; omega, rfl⟩

/-- A heartbeat brings the end nearer. -/
theorem Battery.patience_beat (b : Battery) : b.beat.patience ≤ b.patience - 1 := by
  obtain ⟨level, charging⟩ := b
  cases charging with
  | true =>
      by_cases hfull : level + 1 < 98
      · simp only [beat, patience, hfull, if_true, decide_true]
        omega
      · simp only [beat, patience, hfull, if_true, decide_false, Bool.false_eq_true, if_false]
        omega
  | false =>
      by_cases hempty : 15 < level
      · simp only [beat, patience, hempty, Bool.false_eq_true, if_true, if_false]
        omega
      · simp only [beat, patience, hempty, Bool.false_eq_true, if_false]
        omega

/-- A battery is drained after as many heartbeats as its patience. -/
theorem Battery.drained_of_patience {b : Battery} {n : Nat} (h : b.patience ≤ n) :
    (beat^[n] b).Drained := by
  induction n generalizing b with
  | zero => exact drained_of_patience_eq_zero (Nat.le_zero.mp h)
  | succ n ih =>
      rw [Function.iterate_succ_apply]
      have hbeat := b.patience_beat
      exact ih (by omega)

/-! ## The heartbeat -/

/-- The message at the end of an iteration. -/
def Op.isHeartbeat : Op → Bool
  | .publishStatus _ => true
  | _ => false

/-- The operation is one on which the battery depends. -/
def Op.isBattery : Op → Bool
  | .setBattery _ | .setCharging _ | .publishStatus _ => true
  | _ => false

/-- The battery as one iteration of the heartbeat sees and sets it, up to its message, which is
the end of the iteration; the battery is {lit}`target` then. -/
def beatDiscipline (target : Battery) : Discipline Op.Ret (Option Battery) where
  allowed g op :=
    match g, op with
    | none, _ => False
    | some b, .setBattery level => b.Drained → Battery.Drained ⟨level, b.charging⟩
    | some b, .setCharging charging => b.Drained → Battery.Drained ⟨b.level, charging⟩
    | some b, .publishStatus _ => b = target
    | some _, _ => True
  rely g op r :=
    match op with
    | .readIsAGV => r = true
    | .readBattery => ∀ b, g = some b → r = b.level
    | .readCharging => ∀ b, g = some b → r = b.charging
    | _ => True
  next g op _ :=
    match op with
    | .setBattery level => g.map fun b => ⟨level, b.charging⟩
    | .setCharging charging => g.map fun b => ⟨b.level, charging⟩
    | .publishStatus _ => none
    | _ => g

/-- The procedure goes through an iteration from {lit}`b` to {lit}`b'`. -/
abbrev Leads {α : Type} (target b b' : Battery) (m : Handler α) : Prop :=
  Obeys (beatDiscipline target) (fun g _ => g = some b') (some b) m

/-- The procedure ends the iteration. -/
abbrev Beats (target b : Battery) (m : Handler Unit) : Prop :=
  Obeys (beatDiscipline target) (fun g _ => g = none) (some b) m

section

variable (target : Battery)

/-- A charging heartbeat makes one beat. -/
theorem chargeBattery_leads (level : Int) :
    Leads target ⟨level, true⟩ (Battery.beat ⟨level, true⟩) chargeBattery := by
  refine ⟨trivial, fun (l : Int) hl => ?_⟩
  obtain rfl : l = level := hl _ rfl
  refine ⟨fun hdrained => by simp [Battery.Drained] at hdrained, fun _ _ => ?_⟩
  refine ⟨trivial, fun (l' : Int) hl' => ?_⟩
  obtain rfl : l' = l + 1 := hl' _ rfl
  show Obeys _ _ _ (if l + 1 ≥ 98 then setCharging false else return ())
  by_cases hfull : l + 1 ≥ 98
  · rw [if_pos hfull]
    have hbeat : Battery.beat ⟨l, true⟩ = ⟨l + 1, false⟩ := by
      simp [Battery.beat]
      omega
    refine ⟨fun hdrained => by simp [Battery.Drained] at hdrained, fun _ _ => ?_⟩
    rw [hbeat]
    rfl
  · rw [if_neg hfull]
    have hbeat : Battery.beat ⟨l, true⟩ = ⟨l + 1, true⟩ := by
      simp [Battery.beat]
      omega
    rw [hbeat]
    rfl

/-- A draining heartbeat makes one beat. -/
theorem drainBattery_leads (level : Int) :
    Leads target ⟨level, false⟩ (Battery.beat ⟨level, false⟩) drainBattery := by
  refine ⟨trivial, fun (l : Int) hl => ?_⟩
  obtain rfl : l = level := hl _ rfl
  show Obeys _ _ _ (if l > 15 then readBattery >>= fun l' => setBattery (l' - 1) else return ())
  by_cases hempty : l > 15
  · rw [if_pos hempty]
    refine ⟨trivial, fun (l' : Int) hl' => ?_⟩
    obtain rfl : l' = l := hl' _ rfl
    refine ⟨fun hdrained => ⟨?_, rfl⟩, fun _ _ => ?_⟩
    · have hlow : l' < 50 := hdrained.1
      show l' - 1 < 50
      omega
    · have hbeat : Battery.beat ⟨l', false⟩ = ⟨l' - 1, false⟩ := by
        simp [Battery.beat, hempty]
      rw [hbeat]
      rfl
  · rw [if_neg hempty]
    have hbeat : Battery.beat ⟨l, false⟩ = ⟨l, false⟩ := by
      simp [Battery.beat, hempty]
    rw [hbeat]
    rfl

/-- The battery part of a heartbeat makes one beat. -/
theorem runBattery_leads (b : Battery) : Leads target b b.beat runBattery := by
  obtain ⟨level, charging⟩ := b
  refine ⟨trivial, fun (c : Bool) hc => ?_⟩
  obtain rfl : c = charging := hc _ rfl
  cases c with
  | true => exact chargeBattery_leads target level
  | false => exact drainBattery_leads target level

/-- The telemetry of an AGV makes one beat. -/
theorem batteryTelemetry_leads (b : Battery) : Leads target b b.beat batteryTelemetry := by
  refine ⟨trivial, fun (isAGV : Bool) hAGV => ?_⟩
  obtain rfl : isAGV = true := hAGV
  apply Obeys.bind (runBattery_leads target b)
  rintro g _ rfl
  exact ⟨trivial, fun _ _ => ⟨trivial, fun _ _ => rfl⟩⟩

end

/-- An iteration of the heartbeat moves the battery on by one. -/
theorem heartbeat_beats (p : Process) (b : Battery) : Beats b.beat b (heartbeat p) := by
  apply Obeys.bind (batteryTelemetry_leads b.beat b)
  rintro g battery rfl
  refine ⟨trivial, fun noise _ => ?_⟩
  refine ⟨trivial, fun activity _ => ?_⟩
  refine ⟨trivial, fun version _ => ?_⟩
  refine ⟨trivial, fun status _ => ?_⟩
  refine ⟨trivial, fun fsmState _ => ?_⟩
  refine ⟨trivial, fun timestamp _ => ?_⟩
  exact ⟨rfl, fun _ _ => rfl⟩

/-- After its message an iteration is over. -/
theorem done_of_obeys_none {target : Battery} {m : Handler Unit}
    (h : Obeys (beatDiscipline target) (fun g _ => g = none) none m) : m = .done () := by
  cases m with
  | done a => rfl
  | call op k => exact absurd h.1 id

/-! ## Everything else -/

/-- The procedure leaves the battery alone. -/
abbrev Steady {α : Type} (m : Handler α) : Prop :=
  Always (fun _ _ => True) (fun op => op.isBattery = false) m

/-- The command is no telemetry command, or one that leaves the battery out. -/
def Command.sparesBattery (cmd : Command) : Bool :=
  (cmd.action ≠ "simulate" && cmd.action ≠ "set_telemetry") ||
    (cmd.batteryLevel.isNone && cmd.isCharging.isNone)

/-- A handler of a command leaves the battery alone. -/
theorem Commanded.steady {α : Type} {m : Handler α} (h : Commanded m) : Steady m := by
  apply Always.mono (fun _ _ _ => trivial) ?_ h
  intro op hop
  cases op <;> first | rfl | simp [Op.isCommandOp] at hop

/-- Settings without a level and a charging state leave the battery alone. -/
theorem applySettings_steady {cmd : Command} (hlevel : cmd.batteryLevel = none)
    (hcharging : cmd.isCharging = none) : Steady (applySettings cmd) := by
  unfold applySettings
  rw [hlevel, hcharging]
  apply Always.bind
  · unfold applyActivity
    split
    · exact perform_always rfl
    · trivial
  · intro _
    trivial

/-- A command that spares the battery leaves it alone. -/
theorem messagePubHandler_steady (p : Process) {cmd : Command} (h : cmd.sparesBattery = true) :
    Steady (messagePubHandler p cmd) := by
  by_cases hupdate : cmd.action = "update"
  · exact (command_ops p cmd (Or.inl hupdate)).steady
  by_cases hrollback : cmd.action = "rollback"
  · exact (command_ops p cmd (Or.inr hrollback)).steady
  unfold messagePubHandler
  rw [if_neg hupdate, if_neg hrollback]
  split
  · rename_i hsettings
    have hnone : cmd.batteryLevel = none ∧ cmd.isCharging = none := by
      rcases hsettings with hsettings | hsettings <;>
        simpa [Command.sparesBattery, hsettings] using h
    exact applySettings_steady hnone.1 hnone.2
  · trivial

/-! ## What an operation does to the battery -/

/-- An operation that is no write of the battery leaves it alone. -/
theorem exec_steady {r : Robot} {op : Op} (x : Choice) (h : op.isBattery = false) :
    (exec r op x).2.battery = r.battery := by
  cases op <;> first | rfl | simp [Op.isBattery] at h

/-- The model of a robot does not change. -/
theorem exec_isAGV (r : Robot) (op : Op) (x : Choice) : (exec r op x).2.isAGV = r.isAGV := by
  cases op <;> rfl

/-- The battery is read as it is. -/
theorem exec_rely {r : Robot} (target : Battery) (op : Op) (x : Choice) (h : r.isAGV = true) :
    (beatDiscipline target).rely (some r.battery) op (exec r op x).1 := by
  cases op with
  | readIsAGV => exact h
  | readBattery =>
      rintro b hb
      obtain rfl := Option.some.inj hb
      rfl
  | readCharging =>
      rintro b hb
      obtain rfl := Option.some.inj hb
      rfl
  | _ => trivial

/-- Within an iteration the discipline knows the battery. -/
theorem exec_next {r : Robot} (target : Battery) {op : Op} (x : Choice)
    (h : op.isHeartbeat = false) :
    (beatDiscipline target).next (some r.battery) op (exec r op x).1 =
      some (exec r op x).2.battery := by
  cases op <;> first | rfl | simp [Op.isHeartbeat] at h

/-- A drained battery stays drained. -/
theorem exec_drained {r : Robot} {target : Battery} {op : Op} (x : Choice)
    (hallowed : (beatDiscipline target).allowed (some r.battery) op) (h : r.battery.Drained) :
    (exec r op x).2.battery.Drained := by
  cases op with
  | setBattery level => exact hallowed h
  | setCharging charging => exact hallowed h
  | _ => exact h

/-! ## The invariant -/

/-- The iterations of the heartbeat that have come to their message. -/
def beats (c : Config) : Nat :=
  c.trace.countP fun e => e.op.isHeartbeat

/-- No iteration of the heartbeat is running. -/
def BetweenBeats (c : Config) : Prop :=
  ∀ i q, c.thread i = some (.heartbeat, q) → q = .done ()

/-- The battery is where the heartbeats have led it, or one iteration is running and leads it to
the next. -/
inductive Clocked (b : Battery) (c : Config) : Prop where
  | between (hidle : BetweenBeats c) (hbattery : c.store.battery = Battery.beat^[beats c] b)
  | beating (i : Nat) (q : Handler Unit) (hi : c.thread i = some (.heartbeat, q))
      (hbeats : Beats (Battery.beat^[beats c + 1] b) c.store.battery q)
      (hother : ∀ j q', j ≠ i → c.thread j = some (.heartbeat, q') → q' = .done ())

/-- Only heartbeats change the battery, one after the other. -/
structure BatteryInvariant (b : Battery) (c : Config) : Prop where
  model : c.store.isAGV = true
  commands : ∀ i cmd q, c.thread i = some (.command cmd, q) → Steady q
  clocked : Clocked b c
  drained : b.patience ≤ beats c → c.store.battery.Drained

/-- No command sets the battery, and an iteration of the heartbeat begins when the one before it
has ended. -/
def Undriven (c : Config) : Label → Prop
  | .spawn _ (.command cmd) => cmd.sparesBattery = true
  | .spawn _ .heartbeat => BetweenBeats c
  | .step _ _ => True

/-- Nobody runs at the start. -/
theorem thread_start (p : Process) (r : Robot) (i : Nat) : (start p r).thread i = none :=
  rfl

/-- The battery is what the robot has at the start. -/
theorem batteryInvariant_start (p : Process) {r : Robot} (hr : r.isAGV = true) :
    BatteryInvariant r.battery (start p r) where
  model := hr
  commands i cmd q hi := by simp [thread_start] at hi
  clocked := .between (fun i q hi => by simp [thread_start] at hi) rfl
  drained h := Battery.drained_of_patience_eq_zero (Nat.le_zero.mp h)

section

variable {p : Process} {b : Battery} {c c' : Config}

/-- A goroutine starts. -/
theorem batteryInvariant_spawn {i : Nat} {t : Routine} (hc : BatteryInvariant b c)
    (hs : (machine p).Spawned c c' i t) (hl : Undriven c (.spawn i t)) :
    BatteryInvariant b c' := by
  have hstore : c.store = c'.store := Option.some.inj hs.accepted
  have hcount : beats c' = beats c := by rw [beats, hs.trace, beats]
  constructor
  · rw [← hstore]
    exact hc.model
  · intro j cmd q hj
    rw [hs.threads] at hj
    split at hj
    · obtain ⟨rfl, rfl⟩ : t = .command cmd ∧ (machine p).body t = q := by simpa using hj
      exact messagePubHandler_steady p hl
    · exact hc.commands j cmd q hj
  · cases t with
    | command cmd =>
        have hkeep : ∀ j q, c'.thread j = some (.heartbeat, q) →
            c.thread j = some (.heartbeat, q) := by
          intro j q hj
          rw [hs.threads] at hj
          split at hj
          · simp at hj
          · exact hj
        cases hc.clocked with
        | between hidle hbattery =>
            refine .between (fun j q hj => hidle j q (hkeep j q hj)) ?_
            rw [hcount, ← hstore]
            exact hbattery
        | beating j q hj hbeats hother =>
            have hne : j ≠ i := by
              rintro rfl
              simp [hs.fresh] at hj
            refine .beating j q (by rw [hs.threads, if_neg hne, hj]) ?_
              fun j' q' hne' hj' => hother j' q' hne' (hkeep j' q' hj')
            rw [hcount, ← hstore]
            exact hbeats
    | heartbeat =>
        have hidle : BetweenBeats c := hl
        refine .beating i (heartbeat p) (by rw [hs.threads, if_pos rfl]; rfl) ?_ ?_
        · cases hc.clocked with
          | between _ hbattery =>
              rw [hcount, ← hstore, hbattery, Function.iterate_succ_apply']
              exact heartbeat_beats p _
          | beating j q hj hbeats _ =>
              obtain rfl := hidle j q hj
              cases hbeats
        · intro j q hne hj
          rw [hs.threads, if_neg hne] at hj
          exact hidle j q hj
  · rw [hcount, ← hstore]
    exact hc.drained

/-- The goroutine of a command issues an operation. -/
theorem batteryInvariant_command {i : Nat} {x : Choice} {cmd : Command} {op : Op}
    {k : op.Ret → Handler Unit} {answer : op.Ret} (hc : BatteryInvariant b c)
    (hs : (machine p).Executed c c' i x (.command cmd) op k answer) : BatteryInvariant b c' := by
  have heffect : exec c.store op x = (answer, c'.store) := hs.effect
  have hsteady := hc.commands i cmd _ hs.before
  have hbattery : c'.store.battery = c.store.battery := by
    have hexec := exec_steady (r := c.store) x hsteady.1
    rwa [heffect] at hexec
  have hcount : beats c' = beats c := by
    have hquiet : op.isHeartbeat = false := by
      have hop := hsteady.1
      cases op <;> first | rfl | simp [Op.isBattery] at hop
    rw [beats, hs.trace, List.countP_append, List.countP_singleton, beats]
    simp [hquiet]
  have hkeep : ∀ j q, c'.thread j = some (.heartbeat, q) →
      c.thread j = some (.heartbeat, q) := by
    intro j q hj
    rw [hs.threads] at hj
    split at hj
    · simp at hj
    · exact hj
  constructor
  · have hmodel := exec_isAGV c.store op x
    rw [heffect] at hmodel
    exact hmodel.trans hc.model
  · intro j cmd' q hj
    rw [hs.threads] at hj
    split at hj
    · obtain ⟨-, rfl⟩ : cmd = cmd' ∧ k answer = q := by simpa using hj
      exact hsteady.2 answer trivial
    · exact hc.commands j cmd' q hj
  · cases hc.clocked with
    | between hidle hclock =>
        refine .between (fun j q hj => hidle j q (hkeep j q hj)) ?_
        rw [hcount, hbattery, hclock]
    | beating j q hj hbeats hother =>
        have hne : j ≠ i := by
          rintro rfl
          simp [hs.before] at hj
        refine .beating j q (by rw [hs.threads, if_neg hne, hj]) ?_
          fun j' q' hne' hj' => hother j' q' hne' (hkeep j' q' hj')
        rw [hcount, hbattery]
        exact hbeats
  · rw [hcount, hbattery]
    exact hc.drained

/-- The heartbeat issues an operation. -/
theorem batteryInvariant_heartbeat {i : Nat} {x : Choice} {op : Op} {k : op.Ret → Handler Unit}
    {answer : op.Ret} (hc : BatteryInvariant b c)
    (hs : (machine p).Executed c c' i x .heartbeat op k answer) : BatteryInvariant b c' := by
  have heffect : exec c.store op x = (answer, c'.store) := hs.effect
  have hmodel : c'.store.isAGV = true := by
    have hexec := exec_isAGV c.store op x
    rw [heffect] at hexec
    exact hexec.trans hc.model
  have hcommands : ∀ j cmd q, c'.thread j = some (.command cmd, q) → Steady q := by
    intro j cmd q hj
    rw [hs.threads] at hj
    split at hj
    · simp at hj
    · exact hc.commands j cmd q hj
  cases hc.clocked with
  | between hidle _ => cases hidle i _ hs.before
  | beating j q hj hbeats hother =>
      have hij : i = j := by
        by_contra hne
        cases hother i _ hne hs.before
      subst hij
      obtain rfl : Prog.call op k = q := by simpa [hs.before] using hj
      have hrely := exec_rely (Battery.beat^[beats c + 1] b) op x hc.model
      rw [heffect] at hrely
      have hrest := hbeats.2 answer hrely
      have hdone : ∀ j q', j ≠ i → c'.thread j = some (.heartbeat, q') → q' = .done () := by
        intro j q' hne hj'
        rw [hs.threads, if_neg hne] at hj'
        exact hother j q' hne hj'
      have hcount : beats c' = beats c + if op.isHeartbeat then 1 else 0 := by
        rw [beats, hs.trace, List.countP_append, List.countP_singleton, beats]
      cases hop : op.isHeartbeat with
      | false =>
          rw [hop] at hcount
          have hnext := exec_next (r := c.store) (Battery.beat^[beats c + 1] b) x hop
          rw [heffect] at hnext
          have hcount' : beats c' = beats c := hcount
          refine ⟨hmodel, hcommands, .beating i (k answer) (by rw [hs.threads, if_pos rfl]) ?_ hdone,
            fun hpatience => ?_⟩
          · rw [hcount']
            exact Obeys.of_eq hnext.symm hrest
          · rw [hcount'] at hpatience
            have hdrained := exec_drained x hbeats.1 (hc.drained hpatience)
            rwa [heffect] at hdrained
      | true =>
          rw [hop] at hcount
          cases op with
          | publishStatus update =>
              have hcount' : beats c' = beats c + 1 := hcount
              have hstore : c.store = c'.store := congrArg Prod.snd heffect
              have htarget : c'.store.battery = Battery.beat^[beats c'] b := by
                rw [← hstore, hcount']
                exact hbeats.1
              refine ⟨hmodel, hcommands, .between ?_ htarget, fun hpatience => ?_⟩
              · intro j q' hj'
                by_cases hji : j = i
                · rw [hs.threads, if_pos hji] at hj'
                  obtain rfl : k answer = q' := by simpa using hj'
                  exact done_of_obeys_none hrest
                · exact hdone j q' hji hj'
              · rw [htarget]
                exact Battery.drained_of_patience hpatience
          | _ => simp [Op.isHeartbeat] at hop

/-- A step of an undriven robot keeps the battery to the beats. -/
theorem batteryInvariant_step {l : Label} (hc : BatteryInvariant b c) (hl : Undriven c l)
    (h : step p c l = some c') : BatteryInvariant b c' := by
  obtain ⟨i, t, rfl, hs⟩ | ⟨i, x, t, op, k, answer, rfl, hs⟩ := Machine.step_cases h
  · exact batteryInvariant_spawn hc hs hl
  · cases t with
    | command cmd => exact batteryInvariant_command hc hs
    | heartbeat => exact batteryInvariant_heartbeat hc hs

end

/-! ## The refusals -/

/-- The operation belongs to an update that has passed the interlocks. -/
def Op.isUpdating : Op → Bool
  | .httpGet _ | .setCurrentVersion _ => true
  | .setStatus status => status = "updating"
  | _ => false

/-- The answers of an AGV whose battery is too low. -/
def LowAnswer : (op : Op) → op.Ret → Prop
  | .readIsAGV, (isAGV : Bool) => isAGV = true
  | .readBattery, (level : Int) => level < 50
  | _, _ => True

/-- The procedure does nothing of an update on these answers. -/
abbrev Refuses {α : Type} (m : Handler α) : Prop :=
  Always LowAnswer (fun op => op.isUpdating = false) m

/-- A refused update writes no status of an update. -/
theorem abortUpdate_lowBattery {text : Handler String}
    (htext : Always (fun _ _ => True) (fun op => op.isUpdating = false) text) :
    Refuses (abortUpdate .verifyFail text) :=
  Always.mono (fun _ _ _ => trivial) (fun _ h => h)
    (abortUpdate_always rfl htext (fun _ => rfl) rfl (by decide))

/-- An update handler refuses when it reads a low level. -/
theorem handleUpdate_lowBattery (p : Process) (cmd : Command) : Refuses (handleUpdate p cmd) := by
  refine ⟨rfl, fun (r : Except String Change) _ => ?_⟩
  cases r with
  | error text => exact ⟨rfl, fun _ _ => ⟨rfl, fun _ _ => trivial⟩⟩
  | ok change =>
      refine ⟨rfl, fun (activity : String) _ => ?_⟩
      show Refuses (if activity ≠ "idle" then _ else _)
      split
      · exact abortUpdate_lowBattery (busyText_always rfl)
      · refine ⟨rfl, fun (isAGV : Bool) hAGV => ?_⟩
        obtain rfl : isAGV = true := hAGV
        refine ⟨rfl, fun (battery : Int) hlow => ?_⟩
        have hlow : battery < 50 := hlow
        show Refuses (if decide (battery < 50) = true then _ else _)
        rw [if_pos (decide_eq_true hlow)]
        exact abortUpdate_lowBattery (lowBatteryText_always rfl)

/-- A drained battery is read as low. -/
theorem exec_lowAnswer {r : Robot} (op : Op) (x : Choice) (hmodel : r.isAGV = true)
    (hdrained : r.battery.Drained) : LowAnswer op (exec r op x).1 := by
  cases op with
  | readIsAGV => exact hmodel
  | readBattery => exact hdrained.1
  | _ => trivial

/-- The handlers of updates that have been started since {lit}`c₀` refuse them. -/
structure RefusalInvariant (b : Battery) (c₀ c : Config) : Prop where
  battery : BatteryInvariant b c
  late : b.patience ≤ beats c
  refuses : ∀ i t q, c₀.thread i = none → c.thread i = some (t, q) → t.isUpdate = true →
    Refuses q
  refused : ∀ e ∈ c.trace, c₀.thread e.thread ≠ none ∨
    ∃ t q, c.thread e.thread = some (t, q) ∧ (t.isUpdate = true → e.op.isUpdating = false)

/-- The number of heartbeats does not fall. -/
theorem beats_step {p : Process} {c c' : Config} {l : Label} (h : step p c l = some c') :
    beats c ≤ beats c' :=
  (Machine.step_trace h).sublist.countP_le

/-- The goroutine of an update refuses when it reads a low level. -/
theorem body_lowBattery {p : Process} {t : Routine} (h : t.isUpdate = true) :
    Refuses (body p t) := by
  cases t with
  | heartbeat => simp [Routine.isUpdate] at h
  | command cmd =>
      have hupdate : cmd.action = "update" := of_decide_eq_true h
      show Refuses (messagePubHandler p cmd)
      rw [messagePubHandler, if_pos hupdate]
      exact handleUpdate_lowBattery p cmd

/-- A step after the last beat starts no update that installs. -/
theorem refusalInvariant_step {p : Process} {b : Battery} {c₀ c c' : Config} {l : Label}
    (hc : RefusalInvariant b c₀ c) (hl : Undriven c l) (h : step p c l = some c') :
    RefusalInvariant b c₀ c' := by
  have hbattery := batteryInvariant_step hc.battery hl h
  have hlate := hc.late.trans (beats_step h)
  have hkeep : ∀ e ∈ c.trace, c₀.thread e.thread ≠ none ∨
      ∃ t q, c'.thread e.thread = some (t, q) ∧
        (t.isUpdate = true → e.op.isUpdating = false) := by
    intro e he
    rcases hc.refused e he with hold | ⟨t, q, hthread, hop⟩
    · exact Or.inl hold
    · obtain ⟨q', hq'⟩ := Machine.step_tag h hthread
      exact Or.inr ⟨t, q', hq', hop⟩
  obtain ⟨i, t, rfl, hs⟩ | ⟨i, x, t, op, k, answer, rfl, hs⟩ := Machine.step_cases h
  · refine ⟨hbattery, hlate, ?_, ?_⟩
    · intro j t' q hnew hj hupdate
      rw [hs.threads] at hj
      split at hj
      · obtain ⟨rfl, rfl⟩ : t = t' ∧ (machine p).body t = q := by simpa using hj
        exact body_lowBattery hupdate
      · exact hc.refuses j t' q hnew hj hupdate
    · rw [hs.trace]
      exact hkeep
  · have heffect : exec c.store op x = (answer, c'.store) := hs.effect
    have hanswer : LowAnswer op answer := by
      have hexec := exec_lowAnswer op x hc.battery.model (hc.battery.drained hc.late)
      rwa [heffect] at hexec
    refine ⟨hbattery, hlate, ?_, ?_⟩
    · intro j t' q hnew hj hupdate
      rw [hs.threads] at hj
      split at hj
      · rename_i hji
        subst hji
        obtain ⟨rfl, rfl⟩ : t = t' ∧ k answer = q := by simpa using hj
        exact (hc.refuses j t _ hnew hs.before hupdate).2 answer hanswer
      · exact hc.refuses j t' q hnew hj hupdate
    · intro e he
      rw [hs.trace, List.mem_append, List.mem_singleton] at he
      rcases he with he | rfl
      · exact hkeep e he
      · by_cases hnew : c₀.thread i = none
        · exact Or.inr ⟨t, k answer, by rw [hs.threads, if_pos rfl],
            fun hupdate => (hc.refuses i t _ hnew hs.before hupdate).1⟩
        · exact Or.inl hnew

/-- An AGV whose battery nobody sets refuses every update from some heartbeat on: whatever else
its goroutines do, no update that arrives then is downloaded, announced or installed. -/
theorem agv_refuses {p : Process} {r : Robot} {ls ls' : List Label} {c c' : Config}
    (hr : r.isAGV = true) (h : run (step p) (start p r) ls = some c)
    (h' : run (step p) c ls' = some c')
    (hundriven : EachStep (step p) Undriven (start p r) (ls ++ ls'))
    (hpatience : r.battery.patience ≤ beats c) :
    ∀ e ∈ c'.trace, c.thread e.thread = none → ∀ cmd q,
      c'.thread e.thread = some (.command cmd, q) → cmd.action = "update" →
        e.op.isUpdating = false := by
  have hc : BatteryInvariant r.battery c :=
    run_invariant_of_eachStep (fun _ _ _ hm hl hstep => batteryInvariant_step hm hl hstep)
      (batteryInvariant_start p hr) hundriven.of_append h
  have hclosed := (pipelineInvariant_run h).disciplined.closed
  have hstart : RefusalInvariant r.battery c c := by
    refine ⟨hc, hpatience, ?_, fun e he => Or.inl (hclosed e he)⟩
    intro i t q hnew hi
    rw [hnew] at hi
    cases hi
  have hend : RefusalInvariant r.battery c c' :=
    run_invariant_of_eachStep (fun _ _ _ hm hl hstep => refusalInvariant_step hm hl hstep)
      hstart (hundriven.suffix h) h'
  intro e he hnew cmd q hthread hupdate
  rcases hend.refused e he with hold | ⟨t, q', ht, hop⟩
  · exact absurd hnew hold
  · obtain ⟨rfl, -⟩ : t = .command cmd ∧ q' = q := by simpa [ht] using hthread
    exact hop (decide_eq_true hupdate)

/-- The executable form of {lean}`Undriven`. -/
def undriven (c : Config) : Label → Bool
  | .spawn _ (.command cmd) => cmd.sparesBattery
  | .spawn _ .heartbeat =>
      c.threads.rows.all fun t => t.tag ≠ .heartbeat || Machine.isDone t.prog
  | .step _ _ => true

theorem undriven_spec {c : Config} {l : Label} (h : undriven c l = true) : Undriven c l := by
  cases l with
  | step i x => trivial
  | spawn i t =>
      cases t with
      | command cmd => exact h
      | heartbeat =>
          intro j q hj
          obtain ⟨t, ht, heq⟩ := Option.map_eq_some_iff.mp hj
          obtain ⟨htag, rfl⟩ : t.tag = .heartbeat ∧ t.prog = q := by simpa using heq
          have hall := List.all_eq_true.mp h t (Table.mem_of_find? ht)
          cases hprog : t.prog with
          | done a => rfl
          | call op k => simp [htag, hprog, Machine.isDone] at hall

/-- An AGV on its way, with a battery of 51. -/
def agv : Robot :=
  { robot "r1" with isAGV := true, currentBattery := 51, isCharging := false }

/-- Two iterations of the heartbeat. -/
def twoHeartbeats : List Label :=
  .spawn 0 .heartbeat :: resume 0 14 ++ .spawn 1 .heartbeat :: resume 1 14

/-- Two heartbeats take the battery below 50; the update that arrives then has run to its end. -/
theorem agv_refuses_after_two_heartbeats :
    ∃ c c', run (step (robotProcess "r1")) (start (robotProcess "r1") agv) twoHeartbeats = some c ∧
      run (step (robotProcess "r1")) c (receive 2 (updateTo "2.0.0") 9) = some c' ∧
      c'.atRest = true ∧
      ∀ e ∈ c'.trace, c.thread e.thread = none → ∀ cmd q,
        c'.thread e.thread = some (.command cmd, q) → cmd.action = "update" →
          e.op.isUpdating = false := by
  obtain ⟨c, h, hbeats⟩ := endsWith_eq_true
    (show endsWith (step (robotProcess "r1")) (start (robotProcess "r1") agv) twoHeartbeats
      (fun c => beats c = 2) = true by decide +kernel)
  obtain ⟨c', hboth, hrest⟩ := endsWith_eq_true
    (show endsWith (step (robotProcess "r1")) (start (robotProcess "r1") agv)
      (twoHeartbeats ++ receive 2 (updateTo "2.0.0") 9) (fun c => c.atRest) = true
      by decide +kernel)
  obtain ⟨m, hm, h'⟩ := run_append_eq_some hboth
  obtain rfl : c = m := Option.some.inj (h.symm.trans hm)
  refine ⟨c, c', h, h', hrest, ?_⟩
  refine agv_refuses rfl h h' (EachStep.of_eachStep (fun _ _ => undriven_spec) ?_) ?_
  · decide +kernel
  · rw [of_decide_eq_true hbeats]
    decide

end OtaRobot.Agent
