import OtaRobot.Agent.Reports
import OtaRobot.Fleet
import OtaRobot.Library.Topics
import OtaRobot.Mqtt.Wire

/-!
# The broker

The fleet one level below: a message is a topic and a text.  The broker puts a message into the
queue of every subscriber whose filter accepts the topic; a robot subscribes to its own command
topic, the control plane to one topic of all robots for each kind of report.  A subscriber takes
the messages of one topic in order, those of different topics in any order, and drops what it
cannot parse.

Main results:

- Theorem {lit}`accepts_subscription`: which reports reach the control plane.
- Theorem {lit}`refines`: a run with the broker is a run of the fleet.

Current gaps:

- The settings sent by a test tool are not published here.
-/

namespace OtaRobot.Broker

open Topics Transition

/-! ## Topics -/

/-- The last level of the topic. -/
def Channel.text : Channel → Text
  | .status => ['s', 't', 'a', 't', 'u', 's']
  | .progress => ['p', 'r', 'o', 'g', 'r', 'e', 's', 's']
  | .error => ['e', 'r', 'r', 'o', 'r']

/-- The last level of a command topic. -/
def commandLevel : Text :=
  ['c', 'o', 'm', 'm', 'a', 'n', 'd']

/-- The two levels all topics start with. -/
def topicRoot : Text :=
  ['o', 't', 'a', '/', 'd', 'e', 'v', 'i', 'c', 'e']

/-- {lit}`ota/device/<name>/<level>`. -/
def deviceTopic (name level : Text) : Text :=
  topicRoot ++ '/' :: (name ++ '/' :: level)

/-- Who subscribes to a topic: every robot, and the control plane three times. -/
inductive Subscriber where
  | robot (d : DeviceID)
  | backend (channel : Channel)
deriving DecidableEq, Repr

/-- The filters of the two calls of {lit}`Subscribe`. -/
def Subscriber.filter (procs : DeviceID → Agent.Process) : Subscriber → Text
  | .robot d => deviceTopic (procs d).deviceID.toList commandLevel
  | .backend channel => deviceTopic ['+'] (Channel.text channel)

/-! ## States -/

/-- A message of the broker. -/
structure Publication where
  topic : Text
  payload : Text
deriving DecidableEq, Repr

/-- The control plane, the robots, and what waits for each subscriber. -/
structure State where
  plane : ControlPlane.Config
  agents : DeviceID → Agent.Config
  queue : Subscriber → List Publication
  handling : DeviceID → Nat → Option Text
  handlers : DeviceHandlers.Config

/-- A step of the control plane, of a robot, or the delivery of a message. -/
inductive Label where
  | plane (l : ControlPlane.Label)
  | command (d : DeviceID) (i : Nat)
  | repeated (d : DeviceID) (j i : Nat)
  | agent (d : DeviceID) (i : Nat) (x : Agent.Choice)
  | report (channel : Channel) (topic : Text) (i : Nat)
  | heartbeat (d : DeviceID) (i : Nat)
  | offline (d : DeviceID) (graceful : Bool) (now : String)
  | status (topic : Text) (reading : Reading)
  | handler (l : DeviceHandlers.Label)
deriving DecidableEq, Repr

/-- All robots have booted, and no message is under way. -/
def start (procs : DeviceID → Agent.Process) (robots : DeviceID → Agent.Robot) (db : Db) :
    State where
  plane := ControlPlane.start db
  agents d := Agent.start (procs d) (robots d)
  queue _ := []
  handling _ _ := none
  handlers := Machine.initial db

/-! ## Steps -/

section

variable (procs : DeviceID → Agent.Process) (robots : DeviceID → Agent.Robot)
  (fleet : DeviceID → Bool) (reasonText : RollbackReason → String)

/-- The subscriber is there: the control plane always is. -/
def Subscriber.exists : Subscriber → Bool
  | .robot d => fleet d
  | .backend _ => true

/-- A message reaches the subscribers whose filters accept its topic. -/
def publish (queue : Subscriber → List Publication) : Option Publication →
    Subscriber → List Publication
  | none, q => queue q
  | some m, q =>
      if q.exists fleet && accepts (q.filter procs) m.topic then queue q ++ [m] else queue q

/-- {lit}`PublishCommand`. -/
def commandPublication (d : DeviceID) (cmd : Command) : Publication where
  topic := deviceTopic d.toList commandLevel
  payload := cmd.payload reasonText

/-- What a step of the control plane publishes. -/
def planePublication (c : ControlPlane.Config) (l : ControlPlane.Label) : Option Publication :=
  (System.sentCommand c l).map fun sent => commandPublication reasonText sent.1 sent.2.cmd

/-- A status message on the topic of its robot. -/
def statusPublication (p : Agent.Process) (m : StatusMessage) : Publication where
  topic := deviceTopic p.deviceID.toList (Channel.text .status)
  payload := m.marshal.text

/-- What an operation of an agent publishes. -/
def agentPublication (p : Agent.Process) : Agent.Op → Option Publication
  | .publishProgress update =>
      some ⟨deviceTopic p.deviceID.toList (Channel.text .progress), update.payload p.deviceID⟩
  | .publishError text =>
      some ⟨deviceTopic p.deviceID.toList (Channel.text .error),
        Agent.errorPayload p.deviceID text⟩
  | .publishStatus update => some (statusPublication p (update.message p.deviceID))
  | _ => none

/-- What takes a robot offline: its own message has the version it runs, the will the broker keeps
has the one it connected with. -/
def offlineMessage (s : State) (d : DeviceID) (graceful : Bool) (now : String) : StatusMessage :=
  (procs d).offlineUpdate
    (if graceful then (s.agents d).store.currentVersion else (robots d).currentVersion) now

/-- A robot starts a handler for a payload; what it cannot parse is logged only. -/
def receive (s : State) (d : DeviceID) (i : Nat) (payload : Text) : Option State :=
  match Agent.Command.ofText payload with
  | none => some s
  | some cmd =>
      (Agent.step (procs d) (s.agents d) (.spawn i (.command cmd))).map fun c =>
        { s with
          agents := Function.update s.agents d c
          handling := Function.update s.handling d
            (Function.update (s.handling d) i (some payload)) }

/-- The callback of a report. -/
def callbackFor (channel : Channel) (payload : Text) : Option Call :=
  match channel with
  | .status => none
  | .progress => (ProgressPayload.ofText payload).map fun p => .progress p.event
  | .error => (ErrorPayload.ofText payload).map fun p => .error p.event

/-- The control plane starts a callback for a payload. -/
def callback (s : State) (channel : Channel) (i : Nat) (payload : Text) : Option State :=
  match callbackFor channel payload with
  | none => some s
  | some call => (ControlPlane.step s.plane (.spawn i call)).map fun plane => { s with plane }

/-- {lit}`handleStatus` on the tables. -/
def receiveStatus (reading : Reading) (db : Db) (payload : Text) : Db :=
  (process true (fun _ => reading) { db } ⟨"", .status, Json.ofText payload⟩).1.db

/-- The oldest message of a topic is taken from a queue of the control plane. -/
def take (s : State) (channel : Channel) (topic : Text) : State :=
  { s with
    queue := Function.update s.queue (.backend channel)
      ((s.queue (.backend channel)).eraseP fun m => m.topic = topic) }

/-- One step; who publishes a message does not wait for its delivery. -/
def step (s : State) : Label → Option State
  | .plane l =>
      if System.startsCallback l then none
      else
        (ControlPlane.step s.plane l).map fun plane =>
          { s with
            plane
            queue := publish procs fleet s.queue (planePublication reasonText s.plane l) }
  | .command d i =>
      if fleet d then
        match s.queue (.robot d) with
        | [] => none
        | m :: rest =>
            receive procs { s with queue := Function.update s.queue (.robot d) rest } d i m.payload
      else none
  | .repeated d j i =>
      match s.handling d j with
      | none => none
      | some payload =>
          if fleet d && System.unfinished (s.agents d) j then receive procs s d i payload
          else none
  | .agent d i x =>
      if fleet d then
        (Agent.step (procs d) (s.agents d) (.step i x)).map fun c =>
          { s with
            agents := Function.update s.agents d c
            queue := publish procs fleet s.queue
              ((System.nextOp (s.agents d) i).bind (agentPublication (procs d))) }
      else none
  | .report channel topic i =>
      if channel = .status then none
      else
        match (s.queue (.backend channel)).find? fun m => m.topic = topic with
        | none => none
        | some m => callback (take s channel topic) channel i m.payload
  | .heartbeat d i =>
      if fleet d then
        (Agent.step (procs d) (s.agents d) (.spawn i .heartbeat)).map fun c =>
          { s with agents := Function.update s.agents d c }
      else none
  | .offline d graceful now =>
      if fleet d then
        some
          { s with
            queue := publish procs fleet s.queue
              (some (statusPublication (procs d) (offlineMessage procs robots s d graceful now))) }
      else none
  | .status topic reading =>
      match (s.queue (.backend .status)).find? fun m => m.topic = topic with
      | none => none
      | some m =>
          if s.plane.store.mqttBusy then none
          else
            some
              { take s .status topic with
                plane :=
                  Registry.withDb s.plane (receiveStatus reading s.plane.store.db m.payload) }
  | .handler l =>
      (DeviceHandlers.machine.step { s.handlers with store := s.plane.store.db } l).map
        fun handlers =>
          { s with plane := Registry.withDb s.plane handlers.store, handlers }

end

/-! ## Routing -/

/-- The common levels have no wildcard. -/
theorem plain_topicRoot : Plain (levels topicRoot) := by
  apply plain_levels <;> decide

/-- What follows the common levels decides. -/
theorem accepts_deviceTopic (name level name' level' : Text) :
    accepts (deviceTopic name level) (deviceTopic name' level') =
      accepts (name ++ '/' :: level) (name' ++ '/' :: level') :=
  accepts_append plain_topicRoot _ _

/-- Different names have different topics. -/
theorem deviceTopic_injective {name name' level : Text}
    (h : deviceTopic name level = deviceTopic name' level) : name = name' := by
  have hrest := List.cons.inj (List.append_cancel_left h)
  exact List.append_cancel_right hrest.2

/-- A robot receives what is published on its own topic. -/
theorem accepts_command {name name' : Text} (hplus : '+' ∉ name) (hhash : '#' ∉ name) :
    accepts (deviceTopic name commandLevel) (deviceTopic name' commandLevel) = true ↔
      name = name' := by
  have hplain : Plain (levels (deviceTopic name commandLevel)) := by
    apply plain_levels
    · simp [deviceTopic, topicRoot, commandLevel, hplus]
    · simp [deviceTopic, topicRoot, commandLevel, hhash]
  rw [accepts_iff_eq hplain]
  exact ⟨deviceTopic_injective, fun h => h ▸ rfl⟩

/-- The levels of a topic. -/
theorem levels_deviceTopic (name : Text) {level : Text} (hslash : '/' ∉ level) :
    levels (deviceTopic name level) = levels topicRoot ++ (levels name ++ [level]) := by
  rw [deviceTopic, levels_append, levels_append, levels_of_notMem hslash]

/-- No report reaches a robot. -/
theorem accepts_command_ne {name name' level : Text} (hplus : '+' ∉ name) (hhash : '#' ∉ name)
    (hslash : '/' ∉ level) (hlevel : level ≠ commandLevel) :
    accepts (deviceTopic name commandLevel) (deviceTopic name' level) = false := by
  have hplain : Plain (levels (deviceTopic name commandLevel)) := by
    apply plain_levels
    · simp [deviceTopic, topicRoot, commandLevel, hplus]
    · simp [deviceTopic, topicRoot, commandLevel, hhash]
  rw [Bool.eq_false_iff, Ne, accepts_iff_eq hplain]
  intro heq
  have hlevels := congrArg levels heq
  rw [levels_deviceTopic name (by decide), levels_deviceTopic name' hslash] at hlevels
  have hlast := List.append_cancel_left hlevels
  exact hlevel (List.append_inj_right' hlast rfl |> List.singleton_inj.mp).symm

/-- The last level is one level. -/
theorem slash_notMem_text (channel : Channel) : '/' ∉ Channel.text channel := by
  cases channel <;> decide

/-- A report reaches the control plane if the name of the robot is one level, and then the
callback of its channel. -/
theorem accepts_subscription {name level : Text} (channel : Channel) (hslash : '/' ∉ level) :
    accepts (deviceTopic ['+'] (Channel.text channel)) (deviceTopic name level) = true ↔
      '/' ∉ name ∧ level = Channel.text channel := by
  have hplain : Plain [Channel.text channel] := by
    cases channel <;> simp [Plain, Channel.text]
  have hfilter : levels (['+'] ++ '/' :: Channel.text channel) =
      [['+'], Channel.text channel] := by
    rw [levels_append, levels_of_notMem (slash_notMem_text channel)]
    rfl
  rw [accepts_deviceTopic, accepts, hfilter, levels_append, levels_of_notMem hslash,
    acceptsLevels_wildcard hplain]
  constructor
  · rintro ⟨t, ht⟩
    have hsplit : levels name ++ [level] = [t] ++ [Channel.text channel] := ht
    obtain ⟨hname, hlevel⟩ := List.append_inj' hsplit rfl
    exact ⟨levels_eq_singleton hname, List.singleton_inj.mp hlevel⟩
  · rintro ⟨hname, rfl⟩
    exact ⟨name, by rw [levels_of_notMem hname]; rfl⟩

/-! ## What a publication changes -/

/-- Every robot of the fleet goes by its name, which is one level without wildcards. -/
structure Named (procs : DeviceID → Agent.Process) (fleet : DeviceID → Bool) : Prop where
  name : ∀ d, fleet d = true → (procs d).deviceID = d
  level : ∀ d, fleet d = true → ∀ c ∈ d.toList, c ≠ '/' ∧ c ≠ '+' ∧ c ≠ '#'

/-- The channels have different levels. -/
theorem text_injective {channel channel' : Channel}
    (h : Channel.text channel = Channel.text channel') : channel = channel' := by
  cases channel <;> cases channel' <;> first | rfl | simp [Channel.text] at h

/-- No report has the level of a command. -/
theorem text_ne_commandLevel (channel : Channel) : Channel.text channel ≠ commandLevel := by
  cases channel <;> simp [Channel.text, commandLevel]

section

variable {procs : DeviceID → Agent.Process} {fleet : DeviceID → Bool}
  {reasonText : RollbackReason → String} {queue : Subscriber → List Publication} {d : DeviceID}

/-- A name of the fleet has no special character. -/
theorem Named.notMem (h : Named procs fleet) (hd : fleet d = true) :
    '/' ∉ d.toList ∧ '+' ∉ d.toList ∧ '#' ∉ d.toList :=
  ⟨fun hc => (h.level d hd _ hc).1 rfl, fun hc => (h.level d hd _ hc).2.1 rfl,
    fun hc => (h.level d hd _ hc).2.2 rfl⟩

/-- A command reaches its robot and no other one. -/
theorem publish_command_robot (h : Named procs fleet) (hd : fleet d = true) (d' : DeviceID)
    (cmd : Command) :
    publish procs fleet queue (some (commandPublication reasonText d' cmd)) (.robot d) =
      if d' = d then queue (.robot d) ++ [commandPublication reasonText d' cmd]
      else queue (.robot d) := by
  obtain ⟨-, hplus, hhash⟩ := h.notMem hd
  have haccepts := @accepts_command _ d'.toList hplus hhash
  by_cases hdd : d' = d
  · subst hdd
    simp [publish, Subscriber.exists, Subscriber.filter, h.name _ hd, hd, commandPublication,
      haccepts.mpr rfl]
  · have hne : ¬ d.toList = d'.toList := fun heq => hdd (String.toList_inj.mp heq).symm
    simp [publish, Subscriber.filter, h.name _ hd, commandPublication, haccepts, hne, hdd]

/-- No command reaches the control plane. -/
theorem publish_command_backend (d' : DeviceID) (cmd : Command) (channel : Channel) :
    publish procs fleet queue (some (commandPublication reasonText d' cmd)) (.backend channel) =
      queue (.backend channel) := by
  have haccepts : accepts (deviceTopic ['+'] (Channel.text channel))
      (deviceTopic d'.toList commandLevel) = false := by
    rw [Bool.eq_false_iff, Ne, accepts_subscription channel (by decide)]
    exact fun hlevel => text_ne_commandLevel channel hlevel.2.symm
  simp [publish, Subscriber.filter, commandPublication, haccepts]

/-- No report reaches a robot. -/
theorem publish_report_robot (h : Named procs fleet) (hd : fleet d = true) (name payload : Text)
    (channel : Channel) :
    publish procs fleet queue (some ⟨deviceTopic name (Channel.text channel), payload⟩)
      (.robot d) = queue (.robot d) := by
  obtain ⟨-, hplus, hhash⟩ := h.notMem hd
  have haccepts := @accepts_command_ne _ name _ hplus hhash (slash_notMem_text channel)
    (text_ne_commandLevel channel)
  simp [publish, Subscriber.filter, h.name _ hd, haccepts]

/-- A report reaches its subscription and no other one. -/
theorem publish_report_backend {name : Text} (hname : '/' ∉ name) (payload : Text)
    (channel channel' : Channel) :
    publish procs fleet queue (some ⟨deviceTopic name (Channel.text channel), payload⟩)
      (.backend channel') =
      if channel = channel' then
        queue (.backend channel') ++ [⟨deviceTopic name (Channel.text channel), payload⟩]
      else queue (.backend channel') := by
  have haccepts := @accepts_subscription name _ channel' (slash_notMem_text channel)
  by_cases hchannel : channel = channel'
  · subst hchannel
    simp [publish, Subscriber.exists, Subscriber.filter, haccepts.mpr ⟨hname, rfl⟩]
  · have hne : ¬ Channel.text channel = Channel.text channel' :=
      fun heq => hchannel (text_injective heq)
    simp [publish, Subscriber.filter, haccepts, hname, hne, hchannel]

end

/-! ## The refinement -/

/-- The payload of a packet, as the agent reads it. -/
def ReadsCommand (payload : Text) (packet : System.Packet) : Prop :=
  Agent.Command.ofText payload = some packet.parsed

/-- The payload of a progress report, as the control plane reads it. -/
def ReadsProgress (payload : Text) (report : System.Report DeviceProgressEvent) : Prop :=
  (ProgressPayload.ofText payload).map ProgressPayload.event = some report.event

/-- The payload of an error report, as the control plane reads it. -/
def ReadsError (payload : Text) (report : System.Report DeviceErrorEvent) : Prop :=
  (ErrorPayload.ofText payload).map ErrorPayload.event = some report.event

/-- The payload of a status message is the one that was marshalled. -/
def ReadsStatus (payload : Text) (m : StatusMessage) : Prop :=
  Json.ofText payload = some m.marshal

/-- The payloads of one topic, in order. -/
def payloadsOn (topic : Text) (ms : List Publication) : List Text :=
  (ms.filter fun m => m.topic = topic).map Publication.payload

/-- The topic of the reports of a robot. -/
def reportTopic (d : DeviceID) (channel : Channel) : Text :=
  deviceTopic d.toList (Channel.text channel)

/-- The queues hold the texts of what is in the topics of the fleet. -/
structure Refines (fleet : DeviceID → Bool) (b : State) (s : Fleet.State) : Prop where
  plane : b.plane = s.system.plane
  agents : b.agents = s.system.agents
  handlers : b.handlers = s.handlers
  handling : ∀ d j, Option.Rel ReadsCommand (b.handling d j) (s.system.packets d j)
  commands : ∀ d, fleet d = true →
    List.Forall₂ ReadsCommand ((b.queue (.robot d)).map Publication.payload) (s.system.commands d)
  progress : ∀ d, fleet d = true →
    List.Forall₂ ReadsProgress
      (payloadsOn (reportTopic d .progress) (b.queue (.backend .progress))) (s.system.progress d)
  errors : ∀ d, fleet d = true →
    List.Forall₂ ReadsError
      (payloadsOn (reportTopic d .error) (b.queue (.backend .error))) (s.system.errors d)
  statuses : ∀ d, fleet d = true →
    List.Forall₂ ReadsStatus
      (payloadsOn (reportTopic d .status) (b.queue (.backend .status))) (s.statuses d)
  origin : ∀ channel, ∀ m ∈ b.queue (.backend channel),
    ∃ d, fleet d = true ∧ m.topic = reportTopic d channel
  staged : ∀ d, (b.agents d).Staged

/-- Nothing is under way at the start. -/
theorem refines_start (fleet : DeviceID → Bool) (procs : DeviceID → Agent.Process)
    (robots : DeviceID → Agent.Robot) (db : Db) :
    Refines fleet (start procs robots db) (Fleet.start procs robots db) where
  plane := rfl
  agents := rfl
  handlers := rfl
  handling _ _ := Option.Rel.none
  commands _ _ := List.Forall₂.nil
  progress _ _ := List.Forall₂.nil
  errors _ _ := List.Forall₂.nil
  statuses _ _ := List.Forall₂.nil
  origin _ m hm := by simp [start] at hm
  staged d := Agent.start_staged (procs d) (robots d)

section

variable {procs : DeviceID → Agent.Process} {robots : DeviceID → Agent.Robot}
  {fleet : DeviceID → Bool} {reasonText : RollbackReason → String} {b b' : State}
  {s : Fleet.State}

/-- A step of the composed system that publishes no heartbeat. -/
theorem fleet_step {l : System.Label} {system : System.State}
    (h : System.step procs s.system l = some system)
    (hpublished : Fleet.published s.system l = none) :
    Fleet.step procs robots s (.system l) = some { s with system } := by
  simp only [Fleet.step, h, Option.map_some, hpublished, System.send]

/-- A message that is put into a queue on one side and into a topic on the other. -/
theorem forall₂_snoc {α β : Type} {R : α → β → Prop} {as : List α} {bs : List β} {a : α} {b : β}
    (h : List.Forall₂ R as bs) (hab : R a b) : List.Forall₂ R (as ++ [a]) (bs ++ [b]) :=
  List.rel_append h (.cons hab .nil)

/-- A step of the control plane. -/
theorem refines_plane (hnamed : Named procs fleet) {l : ControlPlane.Label}
    (hR : Refines fleet b s) (h : step procs robots fleet reasonText b (.plane l) = some b') :
    ∃ s', Fleet.step procs robots s (.system (.plane l)) = some s' ∧ Refines fleet b' s' := by
  simp only [step] at h
  split at h
  · cases h
  · rename_i hcallback
    obtain ⟨plane, hplane, rfl⟩ := Option.map_eq_some_iff.mp h
    have hstep : System.step procs s.system (.plane l) =
        some { s.system with
          plane
          commands := System.send s.system.commands (System.sentCommand s.system.plane l) } := by
      simp only [System.step, if_neg hcallback]
      rw [← hR.plane, hplane]
      rfl
    refine ⟨_, fleet_step hstep rfl, ?_⟩
    rw [planePublication, hR.plane]
    cases hsent : System.sentCommand s.system.plane l with
    | none => exact { hR with plane := rfl }
    | some sent =>
        obtain ⟨d', packet⟩ := sent
        have hbackend : ∀ channel, publish procs fleet b.queue
            (some (commandPublication reasonText d' packet.cmd)) (.backend channel) =
              b.queue (.backend channel) :=
          publish_command_backend d' packet.cmd
        refine { hR with
          plane := rfl, commands := fun d hd => ?_, progress := fun d hd => ?_
          errors := fun d hd => ?_, statuses := fun d hd => ?_
          origin := fun channel m hm => ?_ }
        · dsimp only [Option.map_some]
          rw [publish_command_robot hnamed hd]
          by_cases hdd : d' = d
          · subst hdd
            rw [if_pos rfl, System.send, Function.update_self, List.map_append]
            exact forall₂_snoc (hR.commands d' hd) (packet.ofText_payload reasonText)
          · rw [if_neg hdd, System.send, Function.update_of_ne (Ne.symm hdd)]
            exact hR.commands d hd
        · exact (congrArg (payloadsOn _) (hbackend .progress)).symm ▸ hR.progress d hd
        · exact (congrArg (payloadsOn _) (hbackend .error)).symm ▸ hR.errors d hd
        · exact (congrArg (payloadsOn _) (hbackend .status)).symm ▸ hR.statuses d hd
        · exact hR.origin channel m ((hbackend channel) ▸ hm)

/-- A robot parses what it receives, and starts the handler of the packet. -/
theorem receive_eq {d : DeviceID} {i : Nat} {payload : Text} {packet : System.Packet}
    (hreads : ReadsCommand payload packet) :
    receive procs b d i payload =
      (Agent.step (procs d) (b.agents d) (.spawn i (.command packet.parsed))).map fun c =>
        { b with
          agents := Function.update b.agents d c
          handling := Function.update b.handling d
            (Function.update (b.handling d) i (some payload)) } := by
  have hparse : Agent.Command.ofText payload = some packet.parsed := hreads
  rw [receive, hparse]

/-- What a started handler changes on both sides. -/
theorem refines_handling {d : DeviceID} {i : Nat} {payload : Text} {packet : System.Packet}
    (hR : ∀ d j, Option.Rel ReadsCommand (b.handling d j) (s.system.packets d j))
    (hreads : ReadsCommand payload packet) (d' : DeviceID) (j : Nat) :
    Option.Rel ReadsCommand
      (Function.update b.handling d (Function.update (b.handling d) i (some payload)) d' j)
      (Function.update s.system.packets d
        (Function.update (s.system.packets d) i (some packet)) d' j) := by
  by_cases hd : d' = d
  · subst hd
    rw [Function.update_self, Function.update_self]
    by_cases hj : j = i
    · subst hj
      rw [Function.update_self, Function.update_self]
      exact Option.Rel.some hreads
    · rw [Function.update_of_ne hj, Function.update_of_ne hj]
      exact hR d' j
  · rw [Function.update_of_ne hd, Function.update_of_ne hd]
    exact hR d' j

/-- An agent that takes a step goes on reporting stages. -/
theorem staged_update {d : DeviceID} {l : Agent.Label} {c : Agent.Config}
    (hstaged : ∀ d, (b.agents d).Staged) (h : Agent.step (procs d) (b.agents d) l = some c)
    (d' : DeviceID) : (Function.update b.agents d c d').Staged := by
  by_cases hd : d' = d
  · subst hd
    rw [Function.update_self]
    exact Agent.step_staged h (hstaged d')
  · rw [Function.update_of_ne hd]
    exact hstaged d'

theorem refines_command {d : DeviceID} {i : Nat} (hR : Refines fleet b s)
    (h : step procs robots fleet reasonText b (.command d i) = some b') :
    ∃ s', Fleet.step procs robots s (.system (.deliver d i)) = some s' ∧ Refines fleet b' s' := by
  simp only [step] at h
  split at h
  · rename_i hd
    split at h
    · cases h
    · rename_i m rest hqueue
      have hcommands := hR.commands d hd
      rw [hqueue, List.map_cons] at hcommands
      obtain ⟨packet, packets, hreads, hrest, hpackets⟩ := List.forall₂_cons_left_iff.mp hcommands
      rw [receive_eq hreads] at h
      obtain ⟨c, hc, rfl⟩ := Option.map_eq_some_iff.mp h
      have hc' : Agent.step (procs d) (s.system.agents d) (.spawn i (.command packet.parsed)) =
          some c := by
        rw [← hR.agents]
        exact hc
      have hstep : System.step procs s.system (.deliver d i) =
          some { s.system with
            agents := Function.update s.system.agents d c
            packets := Function.update s.system.packets d
              (Function.update (s.system.packets d) i (some packet))
            commands := Function.update s.system.commands d packets } := by
        simp only [System.step, hpackets, System.startHandler, hc', Option.map_some]
      refine ⟨_, fleet_step hstep rfl, { hR with
        agents := congrArg (Function.update · d c) hR.agents
        handling := refines_handling hR.handling hreads
        commands := fun d' hd' => ?_
        staged := staged_update hR.staged hc }⟩
      by_cases hdd : d' = d
      · subst hdd
        simpa using hrest
      · have hne : Subscriber.robot d' ≠ .robot d := fun heq => hdd (Subscriber.robot.inj heq)
        simpa [Function.update_of_ne hne, Function.update_of_ne hdd] using hR.commands d' hd'
  · cases h

/-- A command is delivered once more. -/
theorem refines_repeated {d : DeviceID} {j i : Nat} (hR : Refines fleet b s)
    (h : step procs robots fleet reasonText b (.repeated d j i) = some b') :
    ∃ s', Fleet.step procs robots s (.system (.redeliver d j i)) = some s' ∧
      Refines fleet b' s' := by
  simp only [step] at h
  split at h
  · cases h
  · rename_i payload hpayload
    split at h
    · rename_i hrunning
      have hrel := hR.handling d j
      rw [hpayload] at hrel
      obtain ⟨packet, hpacket, hreads⟩ : ∃ packet, s.system.packets d j = some packet ∧
          ReadsCommand payload packet := by
        cases hpacket : s.system.packets d j with
        | none => rw [hpacket] at hrel; cases hrel
        | some packet =>
            rw [hpacket] at hrel
            cases hrel with
            | some hreads => exact ⟨packet, rfl, hreads⟩
      rw [receive_eq hreads] at h
      obtain ⟨c, hc, rfl⟩ := Option.map_eq_some_iff.mp h
      rw [Bool.and_eq_true, hR.agents] at hrunning
      rw [hR.agents] at hc
      have hstep : System.step procs s.system (.redeliver d j i) =
          some { s.system with
            agents := Function.update s.system.agents d c
            packets := Function.update s.system.packets d
              (Function.update (s.system.packets d) i (some packet))
            copies := Function.update s.system.copies d
              (Function.update (s.system.copies d) i true) } := by
        simp only [System.step, hpacket, hrunning.2, if_true, System.startHandler, hc,
          Option.map_some]
      refine ⟨_, fleet_step hstep rfl, { hR with
        agents := congrArg (Function.update · d c) hR.agents
        handling := refines_handling hR.handling hreads
        staged := staged_update hR.staged (by rw [hR.agents]; exact hc) }⟩
    · cases h

theorem payloadsOn_snoc (topic : Text) (ms : List Publication) (m : Publication) :
    payloadsOn topic (ms ++ [m]) =
      if m.topic = topic then payloadsOn topic ms ++ [m.payload] else payloadsOn topic ms := by
  by_cases hm : m.topic = topic <;> simp [payloadsOn, hm]

/-- Different robots have different topics. -/
theorem reportTopic_inj {d d' : DeviceID} {channel : Channel} :
    reportTopic d channel = reportTopic d' channel ↔ d = d' := by
  constructor
  · intro h
    exact String.toList_inj.mp (deviceTopic_injective h)
  · rintro rfl
    rfl

/-- A report of a robot of the fleet is put into the queue of its channel, and stands last
among the reports of this robot. -/
theorem publish_report (hnamed : Named procs fleet) {d : DeviceID} (hd : fleet d = true)
    (payload : Text) (channel : Channel) (queue : Subscriber → List Publication) :
    (∀ d', fleet d' = true →
      publish procs fleet queue (some ⟨reportTopic d channel, payload⟩) (.robot d') =
        queue (.robot d')) ∧
    (∀ d', payloadsOn (reportTopic d' channel)
      (publish procs fleet queue (some ⟨reportTopic d channel, payload⟩) (.backend channel)) =
        if d = d' then payloadsOn (reportTopic d' channel) (queue (.backend channel)) ++ [payload]
        else payloadsOn (reportTopic d' channel) (queue (.backend channel))) ∧
    (∀ channel', channel' ≠ channel →
      publish procs fleet queue (some ⟨reportTopic d channel, payload⟩) (.backend channel') =
        queue (.backend channel')) ∧
    ∀ m ∈ publish procs fleet queue (some ⟨reportTopic d channel, payload⟩) (.backend channel),
      m ∈ queue (.backend channel) ∨ m.topic = reportTopic d channel := by
  have hslash := (hnamed.notMem hd).1
  have hself : publish procs fleet queue (some ⟨reportTopic d channel, payload⟩)
      (.backend channel) = queue (.backend channel) ++ [⟨reportTopic d channel, payload⟩] := by
    rw [reportTopic, publish_report_backend hslash, if_pos rfl]
  refine ⟨fun d' hd' => publish_report_robot hnamed hd' _ _ _, fun d' => ?_,
    fun channel' hne => ?_, fun m hm => ?_⟩
  · rw [hself, payloadsOn_snoc]
    simp only [reportTopic_inj]
  · rw [reportTopic, publish_report_backend hslash, if_neg (Ne.symm hne)]
  · rw [hself, List.mem_append, List.mem_singleton] at hm
    rcases hm with hm | rfl
    · exact Or.inl hm
    · exact Or.inr rfl

/-- Both sides have one message more. -/
theorem send_message {β : Type} {R : Text → β → Prop} {d d' : DeviceID}
    {payloads payloads' : List Text} {topics : DeviceID → List β} {m : β} {payload : Text}
    (h : List.Forall₂ R payloads (topics d')) (hreads : R payload m)
    (hpayloads : payloads' = if d = d' then payloads ++ [payload] else payloads) :
    List.Forall₂ R payloads' (System.send topics (some (d, m)) d') := by
  rw [hpayloads]
  by_cases hd : d = d'
  · subst hd
    rw [if_pos rfl, System.send, Function.update_self]
    exact forall₂_snoc h hreads
  · rw [if_neg hd, System.send, Function.update_of_ne (Ne.symm hd)]
    exact h

/-- What waits for the control plane has been sent by robots of the fleet. -/
theorem origin_publish (hnamed : Named procs fleet) {d : DeviceID} (hd : fleet d = true)
    (payload : Text) {channel : Channel} {queue : Subscriber → List Publication}
    (h : ∀ channel', ∀ m ∈ queue (.backend channel'),
      ∃ d, fleet d = true ∧ m.topic = reportTopic d channel') (channel' : Channel) :
    ∀ m ∈ publish procs fleet queue (some ⟨reportTopic d channel, payload⟩) (.backend channel'),
      ∃ d, fleet d = true ∧ m.topic = reportTopic d channel' := by
  obtain ⟨-, -, hother, hmem⟩ := publish_report hnamed hd payload channel queue
  intro m hm
  by_cases hchannel : channel' = channel
  · subst hchannel
    rcases hmem m hm with hm | htopic
    · exact h channel' m hm
    · exact ⟨d, hd, htopic⟩
  · exact h channel' m (hother channel' hchannel ▸ hm)

/-- A progress report of a robot of the fleet, on both sides. -/
theorem refines_send_progress (hnamed : Named procs fleet) {d : DeviceID} (hd : fleet d = true)
    (i : Nat) {update : Agent.ProgressUpdate} (hbound : update.progress ≤ 2147483647)
    (hR : Refines fleet b s) :
    Refines fleet
      { b with
        queue := publish procs fleet b.queue
          (some ⟨reportTopic d .progress, update.payload d⟩) }
      { s with
        system := { s.system with
          progress := System.send s.system.progress
            (some (d, ⟨i,
              { deviceID := d, status := update.status, progress := update.progress }⟩)) } } := by
  obtain ⟨hrobots, hself, hother, -⟩ :=
    publish_report hnamed hd (update.payload d) .progress b.queue
  have hreads : ReadsProgress (update.payload d)
      ⟨i, { deviceID := d, status := update.status, progress := update.progress }⟩ :=
    update.ofText_progressPayload d hbound
  refine { hR with
    commands := fun d' hd' => ?_
    progress := fun d' hd' => send_message (hR.progress d' hd') hreads (hself d')
    errors := fun d' hd' => ?_
    statuses := fun d' hd' => ?_
    origin := origin_publish hnamed hd _ hR.origin }
  · exact (congrArg (List.map Publication.payload) (hrobots d' hd')).symm ▸ hR.commands d' hd'
  · exact (congrArg (payloadsOn _) (hother .error (by simp))).symm ▸ hR.errors d' hd'
  · exact (congrArg (payloadsOn _) (hother .status (by simp))).symm ▸ hR.statuses d' hd'

/-- An error report of a robot of the fleet, on both sides. -/
theorem refines_send_error (hnamed : Named procs fleet) {d : DeviceID} (hd : fleet d = true)
    (i : Nat) (text : String) (hR : Refines fleet b s) :
    Refines fleet
      { b with
        queue := publish procs fleet b.queue
          (some ⟨reportTopic d .error, Agent.errorPayload d text⟩) }
      { s with
        system := { s.system with
          errors := System.send s.system.errors
            (some (d, ⟨i, { deviceID := d, error := text }⟩)) } } := by
  obtain ⟨hrobots, hself, hother, -⟩ :=
    publish_report hnamed hd (Agent.errorPayload d text) .error b.queue
  have hreads : ReadsError (Agent.errorPayload d text) ⟨i, { deviceID := d, error := text }⟩ :=
    Agent.ofText_errorPayload d text
  refine { hR with
    commands := fun d' hd' => ?_
    progress := fun d' hd' => ?_
    errors := fun d' hd' => send_message (hR.errors d' hd') hreads (hself d')
    statuses := fun d' hd' => ?_
    origin := origin_publish hnamed hd _ hR.origin }
  · exact (congrArg (List.map Publication.payload) (hrobots d' hd')).symm ▸ hR.commands d' hd'
  · exact (congrArg (payloadsOn _) (hother .progress (by simp))).symm ▸ hR.progress d' hd'
  · exact (congrArg (payloadsOn _) (hother .status (by simp))).symm ▸ hR.statuses d' hd'

/-- A status message of a robot of the fleet, on both sides. -/
theorem refines_send_status (hnamed : Named procs fleet) {d : DeviceID} (hd : fleet d = true)
    (m : StatusMessage) (hR : Refines fleet b s) :
    Refines fleet
      { b with
        queue := publish procs fleet b.queue
          (some ⟨reportTopic d .status, m.marshal.text⟩) }
      { s with statuses := System.send s.statuses (some (d, m)) } := by
  obtain ⟨hrobots, hself, hother, -⟩ :=
    publish_report hnamed hd m.marshal.text .status b.queue
  have hreads : ReadsStatus m.marshal.text m := Json.ofText_text m.written_marshal
  refine { hR with
    commands := fun d' hd' => ?_
    progress := fun d' hd' => ?_
    errors := fun d' hd' => ?_
    statuses := fun d' hd' => send_message (hR.statuses d' hd') hreads (hself d')
    origin := origin_publish hnamed hd _ hR.origin }
  · exact (congrArg (List.map Publication.payload) (hrobots d' hd')).symm ▸ hR.commands d' hd'
  · exact (congrArg (payloadsOn _) (hother .progress (by simp))).symm ▸ hR.progress d' hd'
  · exact (congrArg (payloadsOn _) (hother .error (by simp))).symm ▸ hR.errors d' hd'

/-- A goroutine that executes an operation has not ended. -/
theorem exists_thread_of_nextOp {c : Agent.Config} {i : Nat} {op : Agent.Op}
    (h : System.nextOp c i = some op) :
    ∃ routine k, c.thread i = some (routine, .call op k) := by
  unfold System.nextOp at h
  split at h
  · rename_i routine op' k hthread
    obtain rfl := Option.some.inj h
    exact ⟨routine, k, hthread⟩
  · cases h

/-- A step of a robot, with what it publishes. -/
theorem refines_agent (hnamed : Named procs fleet) {d : DeviceID} {i : Nat} {x : Agent.Choice}
    (hR : Refines fleet b s) (h : step procs robots fleet reasonText b (.agent d i x) = some b') :
    ∃ s', Fleet.step procs robots s (.system (.agent d i x)) = some s' ∧ Refines fleet b' s' := by
  simp only [step] at h
  split at h
  · rename_i hd
    obtain ⟨c, hc, rfl⟩ := Option.map_eq_some_iff.mp h
    have hstep : Fleet.step procs robots s (.system (.agent d i x)) =
        some { s with
          system := { s.system with
            agents := Function.update s.system.agents d c
            progress := System.send s.system.progress
              ((System.sentProgress d i (System.nextOp (s.system.agents d) i)).map fun m => (d, m))
            errors := System.send s.system.errors
              ((System.sentError d i (System.nextOp (s.system.agents d) i)).map fun m => (d, m)) }
          statuses := System.send s.statuses
            ((Fleet.sentStatus d (System.nextOp (s.system.agents d) i)).map fun m => (d, m)) } := by
      simp only [Fleet.step, System.step, Fleet.published, ← hR.agents, hc, Option.map_some]
    refine ⟨_, hstep, ?_⟩
    have hstaged := staged_update hR.staged hc
    rw [← hR.agents]
    have hname := hnamed.name d hd
    have hmoved : Refines fleet { b with agents := Function.update b.agents d c }
        { s with system := { s.system with agents := Function.update b.agents d c } } :=
      { hR with agents := rfl, staged := hstaged }
    -- what is published depends on the operation alone
    cases hop : System.nextOp (b.agents d) i with
    | none => exact hmoved
    | some op =>
        cases op with
        | publishProgress update =>
            obtain ⟨routine, k, hthread⟩ := exists_thread_of_nextOp hop
            have hmem := (hR.staged d).report hthread
            have hbound : update.progress ≤ 2147483647 := by
              simp only [Agent.reportedStages, List.mem_cons, Prod.mk.injEq, List.not_mem_nil,
                or_false] at hmem
              omega
            have hpublished : agentPublication (procs d) (.publishProgress update) =
                some ⟨reportTopic d .progress, update.payload d⟩ := by
              rw [agentPublication, hname]
              rfl
            rw [Option.bind_some, hpublished]
            exact refines_send_progress hnamed hd i hbound hmoved
        | publishError text =>
            have hpublished : agentPublication (procs d) (.publishError text) =
                some ⟨reportTopic d .error, Agent.errorPayload d text⟩ := by
              rw [agentPublication, hname]
              rfl
            rw [Option.bind_some, hpublished]
            exact refines_send_error hnamed hd i text hmoved
        | publishStatus update =>
            have hpublished : agentPublication (procs d) (.publishStatus update) =
                some ⟨reportTopic d .status, (update.message d).marshal.text⟩ := by
              rw [agentPublication, statusPublication, hname]
              rfl
            rw [Option.bind_some, hpublished]
            exact refines_send_status hnamed hd (update.message d) hmoved
        | _ => exact hmoved
  · cases h

theorem refines_heartbeat {d : DeviceID} {i : Nat} (hR : Refines fleet b s)
    (h : step procs robots fleet reasonText b (.heartbeat d i) = some b') :
    ∃ s', Fleet.step procs robots s (.heartbeat d i) = some s' ∧ Refines fleet b' s' := by
  simp only [step] at h
  split at h
  · obtain ⟨c, hc, rfl⟩ := Option.map_eq_some_iff.mp h
    have hstep : Fleet.step procs robots s (.heartbeat d i) =
        some { s with
          system := { s.system with agents := Function.update s.system.agents d c } } := by
      simp only [Fleet.step, ← hR.agents, hc, Option.map_some]
    refine ⟨_, hstep, ?_⟩
    rw [← hR.agents]
    exact { hR with agents := rfl, staged := staged_update hR.staged hc }
  · cases h

/-- A robot goes offline, by itself or by its will. -/
theorem refines_offline (hnamed : Named procs fleet) {d : DeviceID} {graceful : Bool}
    {now : String} (hR : Refines fleet b s)
    (h : step procs robots fleet reasonText b (.offline d graceful now) = some b') :
    ∃ s', Fleet.step procs robots s (.offline d graceful now) = some s' ∧ Refines fleet b' s' := by
  simp only [step] at h
  split at h
  · rename_i hd
    obtain rfl := Option.some.inj h
    have hname := hnamed.name d hd
    have hmessage : offlineMessage procs robots b d graceful now =
        Fleet.offlineMessage procs robots s d graceful now := by
      simp only [offlineMessage, Fleet.offlineMessage, Agent.Process.offlineUpdate, hname,
        hR.agents]
    refine ⟨_, rfl, ?_⟩
    rw [hmessage, statusPublication, hname]
    exact refines_send_status hnamed hd _ hR
  · cases h

/-- A step of the device handlers. -/
theorem refines_handler {l : DeviceHandlers.Label} (hR : Refines fleet b s)
    (h : step procs robots fleet reasonText b (.handler l) = some b') :
    ∃ s', Fleet.step procs robots s (.handler l) = some s' ∧ Refines fleet b' s' := by
  obtain ⟨handlers, hstep, rfl⟩ := Option.map_eq_some_iff.mp h
  rw [hR.plane, hR.handlers] at hstep
  have hfleet : Fleet.step procs robots s (.handler l) =
      some { s with system := Fleet.withDb s.system handlers.store, handlers } := by
    simp only [Fleet.step, hstep, Option.map_some]
  refine ⟨_, hfleet, { hR with
    plane := congrArg (Registry.withDb · handlers.store) hR.plane
    handlers := rfl }⟩

/-- The oldest message of a topic is the first of the payloads of the topic; taking it leaves
the other topics alone. -/
theorem payloadsOn_eraseP {topic : Text} {ms : List Publication} {m : Publication}
    (h : ms.find? (fun m => m.topic = topic) = some m) :
    m ∈ ms ∧ m.topic = topic ∧
    payloadsOn topic ms = m.payload :: payloadsOn topic (ms.eraseP fun m => m.topic = topic) ∧
    ∀ topic', topic' ≠ topic →
      payloadsOn topic' (ms.eraseP fun m => m.topic = topic) = payloadsOn topic' ms := by
  induction ms with
  | nil => cases h
  | cons m' ms ih =>
      by_cases hm' : m'.topic = topic
      · have heq : m' = m := by simpa [List.find?_cons, hm'] using h
        subst heq
        refine ⟨by simp, hm', by simp [payloadsOn, hm'], fun topic' hne => ?_⟩
        have hne' : ¬ topic = topic' := Ne.symm hne
        simp [payloadsOn, hm', hne']
      · have hfind : ms.find? (fun m => m.topic = topic) = some m := by
          simpa [List.find?_cons, hm'] using h
        obtain ⟨hmem, htopic, hself, hother⟩ := ih hfind
        refine ⟨List.mem_cons_of_mem m' hmem, htopic, ?_, fun topic' hne => ?_⟩
        · simpa [payloadsOn, hm'] using hself
        · have herase : (m' :: ms).eraseP (fun m => m.topic = topic) =
              m' :: ms.eraseP fun m => m.topic = topic := by
            simp [hm']
          have hrest := hother topic' hne
          simp only [payloadsOn] at hrest
          rw [herase, payloadsOn, payloadsOn, List.filter_cons, List.filter_cons]
          split
          · rw [List.map_cons, List.map_cons, hrest]
          · exact hrest

/-- What taking the oldest message of a topic leaves on both sides. -/
theorem take_message {β : Type} {R : Text → β → Prop} {channel : Channel} {d d' : DeviceID}
    {ms : List Publication} {m : Publication} {topics : DeviceID → List β} {rest : List β}
    (hfind : ms.find? (fun m => m.topic = reportTopic d channel) = some m)
    (hrest : List.Forall₂ R
      (payloadsOn (reportTopic d channel) (ms.eraseP fun m => m.topic = reportTopic d channel))
      rest)
    (h : List.Forall₂ R (payloadsOn (reportTopic d' channel) ms) (topics d')) :
    List.Forall₂ R
      (payloadsOn (reportTopic d' channel) (ms.eraseP fun m => m.topic = reportTopic d channel))
      (Function.update topics d rest d') := by
  by_cases hd : d' = d
  · subst hd
    rw [Function.update_self]
    exact hrest
  · obtain ⟨-, -, -, hother⟩ := payloadsOn_eraseP hfind
    rw [Function.update_of_ne hd, hother _ (fun heq => hd (reportTopic_inj.mp heq))]
    exact h

/-- Taking a message from one queue leaves the other queues alone. -/
theorem origin_update {fleet : DeviceID → Bool} {queue : Subscriber → List Publication}
    {channel : Channel} {rest : List Publication}
    (h : ∀ channel, ∀ m ∈ queue (.backend channel),
      ∃ d, fleet d = true ∧ m.topic = reportTopic d channel)
    (hrest : ∀ m ∈ rest, m ∈ queue (.backend channel)) (channel' : Channel) :
    ∀ m ∈ Function.update queue (.backend channel) rest (.backend channel'),
      ∃ d, fleet d = true ∧ m.topic = reportTopic d channel' := by
  by_cases hchannel : channel' = channel
  · subst hchannel
    rw [Function.update_self]
    exact fun m hm => h channel' m (hrest m hm)
  · rw [Function.update_of_ne (fun heq => hchannel (Subscriber.backend.inj heq))]
    exact h channel'

/-- A payload that reads as a progress report starts its callback. -/
theorem callbackFor_progress {payload : Text} {report : System.Report DeviceProgressEvent}
    (h : ReadsProgress payload report) :
    callbackFor .progress payload = some (.progress report.event) := by
  have hevent := congrArg (Option.map Call.progress) h
  simpa [callbackFor, Option.map_map, Function.comp_def] using hevent

/-- A payload that reads as an error report starts its callback. -/
theorem callbackFor_error {payload : Text} {report : System.Report DeviceErrorEvent}
    (h : ReadsError payload report) :
    callbackFor .error payload = some (.error report.event) := by
  have hevent := congrArg (Option.map Call.error) h
  simpa [callbackFor, Option.map_map, Function.comp_def] using hevent

/-- A report is delivered, or dropped when it does not parse. -/
theorem refines_report {channel : Channel} {topic : Text} {i : Nat} (hR : Refines fleet b s)
    (h : step procs robots fleet reasonText b (.report channel topic i) = some b') :
    ∃ l s', Fleet.step procs robots s l = some s' ∧ Refines fleet b' s' := by
  simp only [step] at h
  split at h
  · cases h
  rename_i hchannel
  split at h
  · cases h
  · rename_i m hfind
    obtain ⟨hmem, htopic, hself, hother⟩ := payloadsOn_eraseP hfind
    obtain ⟨d, hd, hdevice⟩ := hR.origin channel m hmem
    obtain rfl : topic = reportTopic d channel := htopic.symm.trans hdevice
    have horigin := @origin_update fleet b.queue channel
      ((b.queue (.backend channel)).eraseP fun m => m.topic = reportTopic d channel) hR.origin
      fun m hm => List.mem_of_mem_eraseP hm
    cases channel with
    | status => exact absurd rfl hchannel
    | progress =>
        have hprogress := hR.progress d hd
        rw [hself] at hprogress
        obtain ⟨report, reports, hreads, hrest, hreports⟩ :=
          List.forall₂_cons_left_iff.mp hprogress
        simp only [callback, callbackFor_progress hreads] at h
        obtain ⟨plane, hplane, rfl⟩ := Option.map_eq_some_iff.mp h
        replace hplane : ControlPlane.step b.plane _ = some plane := hplane
        rw [hR.plane] at hplane
        have hstep : System.step procs s.system (.progress d i) =
            some { s.system with
              plane
              senders := Function.update s.system.senders i (some (d, report.sender))
              progress := Function.update s.system.progress d reports } := by
          simp only [System.step, hreports, System.startCallback, hplane, Option.map_some]
        refine ⟨_, _, fleet_step hstep rfl, { hR with
          plane := rfl
          progress := fun d' hd' => ?_
          origin := horigin }⟩
        dsimp only [take]
        rw [Function.update_self]
        exact take_message hfind hrest (hR.progress d' hd')
    | error =>
        have herrors := hR.errors d hd
        rw [hself] at herrors
        obtain ⟨report, reports, hreads, hrest, hreports⟩ :=
          List.forall₂_cons_left_iff.mp herrors
        simp only [callback, callbackFor_error hreads] at h
        obtain ⟨plane, hplane, rfl⟩ := Option.map_eq_some_iff.mp h
        replace hplane : ControlPlane.step b.plane _ = some plane := hplane
        rw [hR.plane] at hplane
        have hstep : System.step procs s.system (.error d i) =
            some { s.system with
              plane
              senders := Function.update s.system.senders i (some (d, report.sender))
              errors := Function.update s.system.errors d reports } := by
          simp only [System.step, hreports, System.startCallback, hplane, Option.map_some]
        refine ⟨_, _, fleet_step hstep rfl, { hR with
          plane := rfl
          errors := fun d' hd' => ?_
          origin := horigin }⟩
        dsimp only [take]
        rw [Function.update_self]
        exact take_message hfind hrest (hR.errors d' hd')

/-- The control plane reads what the robot has marshalled. -/
theorem receiveStatus_eq {payload : Text} {m : StatusMessage} (hreads : ReadsStatus payload m)
    (reading : Reading) (db : Db) :
    receiveStatus reading db payload = Fleet.receiveStatus reading db m := by
  rw [receiveStatus, show Json.ofText payload = some m.marshal from hreads]
  rfl

/-- A status message is delivered. -/
theorem refines_status {topic : Text} {reading : Reading} (hR : Refines fleet b s)
    (h : step procs robots fleet reasonText b (.status topic reading) = some b') :
    ∃ l s', Fleet.step procs robots s l = some s' ∧ Refines fleet b' s' := by
  simp only [step] at h
  split at h
  · cases h
  · rename_i m hfind
    split at h
    · cases h
    · rename_i hidle
      obtain rfl := Option.some.inj h
      obtain ⟨hmem, htopic, hself, -⟩ := payloadsOn_eraseP hfind
      obtain ⟨d, hd, hdevice⟩ := hR.origin .status m hmem
      obtain rfl : topic = reportTopic d .status := htopic.symm.trans hdevice
      have hstatuses := hR.statuses d hd
      rw [hself] at hstatuses
      obtain ⟨message, rest, hreads, hrest, hmessages⟩ :=
        List.forall₂_cons_left_iff.mp hstatuses
      rw [hR.plane] at hidle
      have hstep : Fleet.step procs robots s (.status d reading) =
          some { s with
            system := Fleet.withDb s.system
              (Fleet.receiveStatus reading s.system.plane.store.db message)
            statuses := Function.update s.statuses d rest } := by
        simp only [Fleet.step, hmessages, if_neg hidle]
      refine ⟨_, _, hstep, { hR with
        plane := ?_
        statuses := fun d' hd' => ?_
        origin := origin_update hR.origin fun m hm => List.mem_of_mem_eraseP hm }⟩
      · rw [receiveStatus_eq hreads, hR.plane]
        rfl
      · dsimp only [take]
        rw [Function.update_self]
        exact take_message hfind hrest (hR.statuses d' hd')

/-- Every step with the broker is one step of the fleet. -/
theorem refines_step (hnamed : Named procs fleet) {l : Label} (hR : Refines fleet b s)
    (h : step procs robots fleet reasonText b l = some b') :
    ∃ l' s', Fleet.step procs robots s l' = some s' ∧ Refines fleet b' s' := by
  cases l with
  | plane l => exact ⟨_, refines_plane hnamed hR h⟩
  | command d i => exact ⟨_, refines_command hR h⟩
  | repeated d j i => exact ⟨_, refines_repeated hR h⟩
  | agent d i x => exact ⟨_, refines_agent hnamed hR h⟩
  | report channel topic i => exact refines_report hR h
  | heartbeat d i => exact ⟨_, refines_heartbeat hR h⟩
  | offline d graceful now => exact ⟨_, refines_offline hnamed hR h⟩
  | status topic reading => exact refines_status hR h
  | handler l => exact ⟨_, refines_handler hR h⟩

/-- Every run with the broker is a run of the fleet, step for step: the texts on the wire are read
as what was sent, by the one it was sent to. -/
theorem refines {db : Db} (hnamed : Named procs fleet)
    {ls : List Label}
    (h : run (step procs robots fleet reasonText) (start procs robots db) ls = some b) :
    ∃ ls' s, ls'.length = ls.length ∧
      run (Fleet.step procs robots) (Fleet.start procs robots db) ls' = some s ∧
        Refines fleet b s :=
  run_simulation (fun _ _ _ _ hR hstep => refines_step hnamed hR hstep)
    (refines_start fleet procs robots db) h

end

/-- The fleet of one robot. -/
def onlyRobot (d : DeviceID) : Bool :=
  d = "r1"

/-- The one robot goes by its name. -/
theorem named_onlyRobot : Named Agent.robotProcess onlyRobot where
  name _ _ := rfl
  level d hd c hc := by
    obtain rfl : d = "r1" := by simpa [onlyRobot] using hd
    have hchars : c = 'r' ∨ c = '1' := by simpa using hc
    rcases hchars with rfl | rfl <;> decide

/-- A rollout to the robot, up to the first report the control plane receives, and a heartbeat that
is recorded. -/
def reportUnderWay : List Label :=
  (ControlPlane.startCall 0 (.createDeployment (ControlPlane.rolloutRequest "full")) 10).map
      Label.plane ++
    .command "r1" 0 :: List.replicate 6 (.agent "r1" 0 {}) ++
      .heartbeat "r1" 1 :: List.replicate 8 (.agent "r1" 1 {}) ++
      [.status (reportTopic "r1" .status) {},
        .report .progress (reportTopic "r1" .progress) 1]

/-- The rollout is one of the fleet. -/
theorem refines_reportUnderWay :
    ∃ b, run (step Agent.robotProcess Agent.robot onlyRobot fun _ => "")
        (start Agent.robotProcess Agent.robot (System.releasedDb ["r1"] (by decide)))
        reportUnderWay = some b ∧
      (b.plane.thread 1).isSome = true ∧
      ((b.plane.store.db.device "r1").any fun dev => dev.status = "updating") = true ∧
      ∃ ls' s, ls'.length = reportUnderWay.length ∧
        run (Fleet.step Agent.robotProcess Agent.robot)
          (Fleet.start Agent.robotProcess Agent.robot (System.releasedDb ["r1"] (by decide))) ls' =
            some s ∧ Refines onlyRobot b s := by
  have hends : endsWith (step Agent.robotProcess Agent.robot onlyRobot fun _ => "")
      (start Agent.robotProcess Agent.robot (System.releasedDb ["r1"] (by decide)))
      reportUnderWay (fun b => (b.plane.thread 1).isSome &&
        (b.plane.store.db.device "r1").any fun dev => dev.status = "updating") = true := by
    decide +kernel
  obtain ⟨b, hrun, htest⟩ := endsWith_eq_true hends
  obtain ⟨hthread, hseen⟩ := Bool.and_eq_true_iff.mp htest
  exact ⟨b, hrun, hthread, hseen, refines named_onlyRobot hrun⟩

end OtaRobot.Broker
