import OtaRobot.Mqtt.Isolation

/-!
# Callbacks inside the dispatcher

The MQTT client keeps the order of the messages: one reader takes the packets off the
connection, hands each inbound message to one dispatcher, and takes no further packet before
the dispatcher has taken it.  A callback runs inside the dispatcher.  {lit}`PublishCommand`
waits for its token, and a token completes when the reader comes to its PUBACK.

The broker decides when a report and when a PUBACK is put on the connection.  Other goroutines
of the backend publish commands, and change the database, at any time.

Main results:

- Theorem {lit}`blocked_run`: a client that is blocked stays blocked.
- Theorem {lit}`rollback_blocks_iff`: the client does not block as long as no report gets
  between a command of the rollback and its PUBACK, and any such report can block it.
-/

namespace OtaRobot.Paho

open Prog Transition

/-! ## The client -/

/-- The packet identifier of a command under way. -/
abbrev MessageID := Nat

/-- What the broker puts on the connection. -/
inductive Packet where
  | publish (msg : Message)
  | puback (id : MessageID)

/-- The dispatcher is idle, runs a callback, or waits inside {lit}`PublishCommand` for the
token of a command. -/
inductive Dispatcher where
  | idle
  | running (msg : Message) (callback : Callback Unit)
  | waiting (msg : Message) (onBehalfOf : DeploymentID) (deviceID : DeviceID) (cmd : Command)
      (token : MessageID) (callback : Bool → Callback Unit)

/-- The reader waits for the dispatcher while it holds a message.  The broker has not answered
the commands in {lit}`unacked`. -/
structure State where
  store : ReportStore
  connection : List Packet := []
  reader : Option Message := none
  dispatcher : Dispatcher := .idle
  unacked : List MessageID := []
  lastID : MessageID := 0

/-- A packet arrives or is read, the dispatcher works, or others use the client. -/
inductive Label where
  | receive (msg : Message)
  | acknowledge (id : MessageID)
  | read
  | handOver
  | work (x : Reading)
  | callbackReturn
  | publishElsewhere
  | databaseElsewhere (store : ReportStore)

/-- The client after {lit}`Subscribe`. -/
def subscribed (store : ReportStore) : State where
  store := store

/-- The next message identifier is given to a command. -/
def State.publish (s : State) : State :=
  { s with unacked := s.unacked ++ [s.lastID + 1], lastID := s.lastID + 1 }

/-- The token of a processed PUBACK completes. -/
def Dispatcher.complete (id : MessageID) : Dispatcher → Dispatcher
  | .waiting msg onBehalfOf deviceID cmd token callback =>
      if token = id then .running msg (callback true)
      else .waiting msg onBehalfOf deviceID cmd token callback
  | d => d

/-- One operation of the callback.  {lit}`Publish` fails at once when the client is not
connected. -/
def work (s : State) (msg : Message) (callback : Callback Unit) (x : Reading) : Option State :=
  match callback with
  | .done _ => none
  | .call (.rollout (.publishCommand onBehalfOf deviceID cmd)) k =>
      if x.fault then some { s with dispatcher := .running msg (k false) }
      else
        some { s.publish with
          dispatcher := .waiting msg onBehalfOf deviceID cmd (s.lastID + 1) k }
  | .call op k =>
      let answer := s.store.exec op x
      some { s with store := answer.2, dispatcher := .running msg (k answer.1) }

/-- One step of the reader, the dispatcher or the network. -/
def step (s : State) : Label → Option State
  | .receive msg => some { s with connection := s.connection ++ [.publish msg] }
  | .acknowledge id =>
      if id ∈ s.unacked then
        some { s with
          connection := s.connection ++ [.puback id]
          unacked := s.unacked.erase id }
      else none
  | .read =>
      match s.reader, s.connection with
      | none, .publish msg :: rest => some { s with connection := rest, reader := some msg }
      | none, .puback id :: rest =>
          some { s with connection := rest, dispatcher := s.dispatcher.complete id }
      | _, _ => none
  | .handOver =>
      match s.reader, s.dispatcher with
      | some msg, .idle =>
          some { s with reader := none, dispatcher := .running msg (msg.handler true) }
      | _, _ => none
  | .work x =>
      match s.dispatcher with
      | .running msg callback => work s msg callback x
      | _ => none
  | .callbackReturn =>
      match s.dispatcher with
      | .running _ (.done _) => some { s with dispatcher := .idle }
      | _ => none
  | .publishElsewhere => some s.publish
  | .databaseElsewhere store => some { s with store }

/-- The dispatcher is inside {lit}`handleError`, down to {lit}`PublishCommand` of the
rollback, and waits for the token. -/
def RollbackWaits (s : State) (token : MessageID) : Prop :=
  ∃ msg onBehalfOf deviceID version reason callback,
    s.dispatcher =
      .waiting msg onBehalfOf deviceID (.rollback version reason) token callback ∧
    msg.channel = .error

/-- The PUBACK of the awaited token is behind a message that the reader waits to hand over. -/
def Blocked (s : State) : Prop :=
  ∃ token msg, RollbackWaits s token ∧ s.reader = some msg ∧ .puback token ∈ s.connection

/-- No report is between the broker and the dispatcher when a callback publishes a command, and
none is put on the connection before the PUBACK of the command. -/
structure AckFirst (s : State) (l : Label) : Prop where
  publish : ∀ x msg onBehalfOf deviceID cmd k, l = .work x → x.fault = false →
    s.dispatcher = .running msg (.call (.rollout (.publishCommand onBehalfOf deviceID cmd)) k) →
    s.reader = none ∧ ∀ report, .publish report ∉ s.connection
  receive : ∀ report msg onBehalfOf deviceID cmd token k, l = .receive report →
    s.dispatcher = .waiting msg onBehalfOf deviceID cmd token k → .puback token ∈ s.connection

/-! ## What a step does -/

/-- Everything one step can do. -/
inductive Steps (s : State) : Label → State → Prop where
  | receive (msg : Message) :
      Steps s (.receive msg) { s with connection := s.connection ++ [.publish msg] }
  | acknowledge (id : MessageID) (h : id ∈ s.unacked) :
      Steps s (.acknowledge id)
        { s with connection := s.connection ++ [.puback id], unacked := s.unacked.erase id }
  | readPublish (msg : Message) (rest : List Packet) (hreader : s.reader = none)
      (hconnection : s.connection = .publish msg :: rest) :
      Steps s .read { s with connection := rest, reader := some msg }
  | readPuback (id : MessageID) (rest : List Packet) (hreader : s.reader = none)
      (hconnection : s.connection = .puback id :: rest) :
      Steps s .read { s with connection := rest, dispatcher := s.dispatcher.complete id }
  | handOver (msg : Message) (hreader : s.reader = some msg) (hidle : s.dispatcher = .idle) :
      Steps s .handOver { s with reader := none, dispatcher := .running msg (msg.handler true) }
  | publish (x : Reading) (msg : Message) (onBehalfOf : DeploymentID) (deviceID : DeviceID)
      (cmd : Command) (k : Bool → Callback Unit) (hx : x.fault = false)
      (hrunning : s.dispatcher =
        .running msg (.call (.rollout (.publishCommand onBehalfOf deviceID cmd)) k)) :
      Steps s (.work x) { s.publish with
        dispatcher := .waiting msg onBehalfOf deviceID cmd (s.lastID + 1) k }
  | work (x : Reading) (msg : Message) (op : ClientOp) (k : op.Ret → Callback Unit) (r : op.Ret)
      (store : ReportStore) (hrunning : s.dispatcher = .running msg (.call op k)) :
      Steps s (.work x) { s with store, dispatcher := .running msg (k r) }
  | callbackReturn (msg : Message) (hrunning : s.dispatcher = .running msg (.done ())) :
      Steps s .callbackReturn { s with dispatcher := .idle }
  | publishElsewhere : Steps s .publishElsewhere s.publish
  | databaseElsewhere (store : ReportStore) :
      Steps s (.databaseElsewhere store) { s with store }

/-- What a step can do. -/
theorem step_cases {s s' : State} {l : Label} (h : step s l = some s') : Steps s l s' := by
  cases l with
  | receive msg =>
      obtain rfl := Option.some.inj h
      exact .receive msg
  | acknowledge id =>
      simp only [step] at h
      split at h
      · rename_i hmem
        obtain rfl := Option.some.inj h
        exact .acknowledge id hmem
      · cases h
  | read =>
      simp only [step] at h
      split at h
      · rename_i hreader hconnection
        obtain rfl := Option.some.inj h
        exact .readPublish _ _ hreader hconnection
      · rename_i hreader hconnection
        obtain rfl := Option.some.inj h
        exact .readPuback _ _ hreader hconnection
      · cases h
  | handOver =>
      simp only [step] at h
      split at h
      · rename_i hreader hidle
        obtain rfl := Option.some.inj h
        exact .handOver _ hreader hidle
      · cases h
  | work x =>
      simp only [step] at h
      split at h
      · rename_i msg callback hrunning
        unfold work at h
        split at h
        · cases h
        · split at h
          · obtain rfl := Option.some.inj h
            exact .work x msg _ _ _ _ hrunning
          · rename_i hfault
            obtain rfl := Option.some.inj h
            exact .publish x msg _ _ _ _ (Bool.eq_false_iff.mpr hfault) hrunning
        · obtain rfl := Option.some.inj h
          exact .work x msg _ _ _ _ hrunning
      · cases h
  | callbackReturn =>
      simp only [step] at h
      split at h
      · rename_i hrunning
        obtain rfl := Option.some.inj h
        exact .callbackReturn _ hrunning
      · cases h
  | publishElsewhere =>
      obtain rfl := Option.some.inj h
      exact .publishElsewhere
  | databaseElsewhere store =>
      obtain rfl := Option.some.inj h
      exact .databaseElsewhere store

/-! ## A blocked client -/

/-- Neither the reader nor the dispatcher of a blocked client can do anything. -/
theorem blocked_step {s s' : State} {l : Label} (hs : Blocked s) (h : step s l = some s') :
    Blocked s' := by
  obtain ⟨token, msg, hwaits, hreader, hqueued⟩ := hs
  obtain ⟨msg', onBehalfOf, deviceID, version, reason, k, hwaiting, hchannel⟩ := id hwaits
  cases step_cases h with
  | receive => exact ⟨token, msg, hwaits, hreader, List.mem_append_left _ hqueued⟩
  | acknowledge => exact ⟨token, msg, hwaits, hreader, List.mem_append_left _ hqueued⟩
  | readPublish _ _ hnone | readPuback _ _ hnone =>
      rw [hreader] at hnone
      cases hnone
  | handOver _ _ hidle =>
      rw [hwaiting] at hidle
      cases hidle
  | publish _ _ _ _ _ _ _ hrunning | work _ _ _ _ _ _ hrunning | callbackReturn _ hrunning =>
      rw [hwaiting] at hrunning
      cases hrunning
  | publishElsewhere | databaseElsewhere => exact ⟨token, msg, hwaits, hreader, hqueued⟩

/-- A client that is blocked stays blocked. -/
theorem blocked_run {s s' : State} {ls : List Label} (hs : Blocked s)
    (h : run step s ls = some s') : Blocked s' :=
  run_invariant (fun _ _ _ hm hstep => blocked_step hm hstep) hs h

/-! ## Acknowledgements in time -/

/-- No message is in front of the PUBACK. -/
def AckAhead (token : MessageID) : List Packet → Prop
  | [] => True
  | .puback id :: rest => id = token ∨ AckAhead token rest
  | .publish _ :: _ => False

/-- Without reports the acknowledgement is first. -/
theorem ackAhead_of_noPublish {token : MessageID} {packets : List Packet}
    (h : ∀ report, .publish report ∉ packets) : AckAhead token packets := by
  induction packets with
  | nil => trivial
  | cons packet rest ih =>
      cases packet with
      | publish report => exact absurd List.mem_cons_self (h report)
      | puback id => exact Or.inr (ih fun report hmem => h report (List.mem_cons_of_mem _ hmem))

theorem ackAhead_append_puback {token id : MessageID} {packets : List Packet}
    (h : AckAhead token packets) : AckAhead token (packets ++ [.puback id]) := by
  induction packets with
  | nil => exact Or.inr trivial
  | cons packet rest ih =>
      cases packet with
      | publish report => exact h.elim
      | puback id' => exact h.imp_right ih

/-- What is put on the connection behind the PUBACK is not in front of it. -/
theorem ackAhead_append {token : MessageID} {packets : List Packet} (more : List Packet)
    (h : AckAhead token packets) (hqueued : .puback token ∈ packets) :
    AckAhead token (packets ++ more) := by
  induction packets with
  | nil => cases hqueued
  | cons packet rest ih =>
      cases packet with
      | publish report => exact h.elim
      | puback id =>
          by_cases hid : id = token
          · exact Or.inl hid
          · rcases h with heq | hrest
            · exact absurd heq hid
            · refine Or.inr (ih hrest ?_)
              rcases List.mem_cons.mp hqueued with heq | hmem
              · cases heq
                exact absurd rfl hid
              · exact hmem

/-- While a callback waits, the reader is free to come to the PUBACK. -/
def Clear (s : State) : Prop :=
  ∀ msg onBehalfOf deviceID cmd token k,
    s.dispatcher = .waiting msg onBehalfOf deviceID cmd token k →
    s.reader = none ∧ AckAhead token s.connection

/-- An acknowledgement lets its own publication go on only. -/
theorem complete_eq_waiting {d : Dispatcher} {id token : MessageID} {msg : Message}
    {onBehalfOf : DeploymentID} {deviceID : DeviceID} {cmd : Command}
    {k : Bool → Callback Unit}
    (h : d.complete id = .waiting msg onBehalfOf deviceID cmd token k) :
    d = .waiting msg onBehalfOf deviceID cmd token k ∧ id ≠ token := by
  cases d with
  | idle | running => cases h
  | waiting =>
      simp only [Dispatcher.complete] at h
      split at h
      · cases h
      · rename_i hne
        cases h
        exact ⟨rfl, Ne.symm hne⟩

/-- A step that brings acknowledgements first keeps the client going. -/
theorem clear_step {s s' : State} {l : Label} (hs : Clear s) (hok : AckFirst s l)
    (h : step s l = some s') : Clear s' := by
  intro msg onBehalfOf deviceID cmd token k hwaiting
  cases step_cases h with
  | receive report =>
      obtain ⟨hreader, hahead⟩ := hs _ _ _ _ _ _ hwaiting
      exact ⟨hreader, ackAhead_append _ hahead (hok.receive report _ _ _ _ _ _ rfl hwaiting)⟩
  | acknowledge =>
      obtain ⟨hreader, hahead⟩ := hs _ _ _ _ _ _ hwaiting
      exact ⟨hreader, ackAhead_append_puback hahead⟩
  | readPublish report rest _ hconnection =>
      -- The message would be in front of the PUBACK.
      obtain ⟨-, hahead⟩ := hs _ _ _ _ _ _ hwaiting
      rw [hconnection] at hahead
      exact hahead.elim
  | readPuback id rest hreader hconnection =>
      obtain ⟨hbefore, hne⟩ := complete_eq_waiting hwaiting
      obtain ⟨-, hahead⟩ := hs _ _ _ _ _ _ hbefore
      rw [hconnection] at hahead
      exact ⟨hreader, hahead.resolve_left hne⟩
  | handOver | work | callbackReturn => cases hwaiting
  | publish x msg' onBehalfOf' deviceID' cmd' k' hx hrunning =>
      obtain ⟨hreader, hfree⟩ := hok.publish x _ _ _ _ _ rfl hx hrunning
      cases hwaiting
      exact ⟨hreader, ackAhead_of_noPublish hfree⟩
  | publishElsewhere | databaseElsewhere => exact hs _ _ _ _ _ _ hwaiting

/-- A client that goes on is not blocked. -/
theorem Clear.not_blocked {s : State} (hs : Clear s) : ¬ Blocked s := by
  intro hblocked
  obtain ⟨token, msg, hwaits, hreader, -⟩ := hblocked
  obtain ⟨msg', onBehalfOf, deviceID, version, reason, k, hwaiting, -⟩ := hwaits
  have hfree := (hs _ _ _ _ _ _ hwaiting).1
  rw [hreader] at hfree
  cases hfree

/-! ## Who publishes -/

/-- Only the rollback publishes, and only for an error report. -/
def RollbackOnly (msg : Message) (op : ClientOp) : Prop :=
  ∀ onBehalfOf deviceID cmd, op = .rollout (.publishCommand onBehalfOf deviceID cmd) →
    msg.channel = .error ∧ ∃ version reason, cmd = .rollback version reason

/-- The callback sends commands in a rollback only. -/
private abbrev RollsBackOnly {α : Type} (msg : Message) (p : Callback α) : Prop :=
  Always (fun _ _ => True) (RollbackOnly msg) p

/-- What holds of a procedure of the manager holds of it as a callback. -/
theorem ofRollout_rollbackOnly {α : Type} {msg : Message} {Q : Op → Prop} {p : Rollout α}
    (hp : Always AnyAnswer Q p) (hQ : ∀ op, Q op → RollbackOnly msg (.rollout op)) :
    RollsBackOnly msg (Callback.ofRollout p) := by
  induction p with
  | done a => trivial
  | call op k ih => exact ⟨hQ op hp.1, fun r _ => ih r (hp.2 r trivial)⟩

/-- No callback sends a command outside a rollback. -/
theorem handler_rollbackOnly (msg : Message) : RollsBackOnly msg (msg.handler true) := by
  have hsilent : ∀ op, (∀ id i cmd, op ≠ .publishCommand id i cmd) →
      RollbackOnly msg (.rollout op) := by
    intro op hop onBehalfOf deviceID cmd heq
    exact absurd (ClientOp.rollout.inj heq) (hop onBehalfOf deviceID cmd)
  cases hchannel : msg.channel with
  | status =>
      simp only [Message.handler, hchannel, handleStatus]
      split
      · trivial
      · refine ⟨fun _ _ _ heq => (by cases heq), fun _ _ => ?_⟩
        unfold storeMetadata
        split
        · exact ⟨fun _ _ _ heq => (by cases heq), fun _ _ => trivial⟩
        · trivial
  | progress =>
      simp only [Message.handler, hchannel, handleProgress]
      split
      · trivial
      · exact Always.bind (ofRollout_rollbackOnly (handleDeviceProgress_noPublish _) hsilent)
          fun _ => trivial
  | error =>
      simp only [Message.handler, hchannel, handleError]
      split
      · trivial
      · refine Always.bind ?_ fun _ => trivial
        apply ofRollout_rollbackOnly (handleDeviceError_ops _)
        intro op hop
        cases hop with
        | publish id i version reason =>
            intro onBehalfOf deviceID cmd heq
            cases heq
            exact ⟨hchannel, version, reason, rfl⟩
        | _ => exact hsilent _ (by simp)

/-- Identifiers are fresh, an awaited PUBACK is on its way, and the dispatcher waits inside the
rollback of an error report. -/
structure Tokens (s : State) : Prop where
  queued : ∀ id, .puback id ∈ s.connection → id ≤ s.lastID
  unacked : ∀ id ∈ s.unacked, id ≤ s.lastID
  running : ∀ msg callback, s.dispatcher = .running msg callback → RollsBackOnly msg callback
  waiting : ∀ msg onBehalfOf deviceID cmd token k,
    s.dispatcher = .waiting msg onBehalfOf deviceID cmd token k →
    RollsBackOnly msg (.call (.rollout (.publishCommand onBehalfOf deviceID cmd)) k) ∧
      (token ∈ s.unacked ∨ .puback token ∈ s.connection)

/-- No command is under way at the start. -/
theorem tokens_subscribed (store : ReportStore) : Tokens (subscribed store) where
  queued _ h := by cases h
  unacked _ h := by cases h
  running _ _ h := by cases h
  waiting _ _ _ _ _ _ h := by cases h

/-- A new command gets a new identifier. -/
theorem Tokens.publish {s : State} (hs : Tokens s) : Tokens s.publish where
  queued id hid := (hs.queued id hid).trans (Nat.le_succ _)
  unacked id hid := by
    rcases List.mem_append.mp hid with hold | hnew
    · exact (hs.unacked id hold).trans (Nat.le_succ _)
    · rw [List.mem_singleton.mp hnew]
      exact Nat.le_refl _
  running := hs.running
  waiting msg onBehalfOf deviceID cmd token k hwaiting := by
    obtain ⟨hcallback, hpending⟩ := hs.waiting _ _ _ _ _ _ hwaiting
    exact ⟨hcallback, hpending.imp_left (List.mem_append_left _)⟩

/-- A step keeps the identifiers apart. -/
theorem tokens_step {s s' : State} {l : Label} (hs : Tokens s) (h : step s l = some s') :
    Tokens s' := by
  cases step_cases h with
  | receive report =>
      refine ⟨?_, hs.unacked, hs.running, ?_⟩
      · intro id hid
        rcases List.mem_append.mp hid with hold | hnew
        · exact hs.queued id hold
        · cases List.mem_singleton.mp hnew
      · intro msg onBehalfOf deviceID cmd token k hwaiting
        obtain ⟨hcallback, hpending⟩ := hs.waiting _ _ _ _ _ _ hwaiting
        exact ⟨hcallback, hpending.imp_right (List.mem_append_left _)⟩
  | acknowledge id hmem =>
      refine ⟨?_, ?_, hs.running, ?_⟩
      · intro id' hid
        rcases List.mem_append.mp hid with hold | hnew
        · exact hs.queued id' hold
        · cases List.mem_singleton.mp hnew
          exact hs.unacked id hmem
      · intro id' hid
        exact hs.unacked id' (List.mem_of_mem_erase hid)
      · intro msg onBehalfOf deviceID cmd token k hwaiting
        obtain ⟨hcallback, hpending⟩ := hs.waiting _ _ _ _ _ _ hwaiting
        refine ⟨hcallback, ?_⟩
        rcases hpending with hunacked | hqueued
        · by_cases htoken : token = id
          · subst htoken
            exact Or.inr (List.mem_append_right _ (List.mem_singleton_self _))
          · exact Or.inl ((List.mem_erase_of_ne htoken).mpr hunacked)
        · exact Or.inr (List.mem_append_left _ hqueued)
  | readPublish report rest _ hconnection =>
      refine ⟨?_, hs.unacked, hs.running, ?_⟩
      · intro id hid
        exact hs.queued id (hconnection ▸ List.mem_cons_of_mem _ hid)
      · intro msg onBehalfOf deviceID cmd token k hwaiting
        obtain ⟨hcallback, hpending⟩ := hs.waiting _ _ _ _ _ _ hwaiting
        refine ⟨hcallback, hpending.imp_right fun hqueued => ?_⟩
        rw [hconnection] at hqueued
        rcases List.mem_cons.mp hqueued with heq | hrest
        · cases heq
        · exact hrest
  | readPuback id rest _ hconnection =>
      refine ⟨?_, hs.unacked, ?_, ?_⟩
      · intro id' hid
        exact hs.queued id' (hconnection ▸ List.mem_cons_of_mem _ hid)
      · intro msg callback hrunning
        cases hdispatcher : s.dispatcher with
        | idle => simp [hdispatcher, Dispatcher.complete] at hrunning
        | running msg' callback' =>
            rw [hdispatcher] at hrunning
            exact hs.running msg callback (hdispatcher.trans hrunning)
        | waiting msg' onBehalfOf deviceID cmd token k =>
            obtain ⟨hcallback, -⟩ := hs.waiting _ _ _ _ _ _ hdispatcher
            rw [hdispatcher, Dispatcher.complete] at hrunning
            split at hrunning
            · cases hrunning
              exact hcallback.2 true trivial
            · cases hrunning
      · intro msg onBehalfOf deviceID cmd token k hwaiting
        obtain ⟨hbefore, hne⟩ := complete_eq_waiting hwaiting
        obtain ⟨hcallback, hpending⟩ := hs.waiting _ _ _ _ _ _ hbefore
        refine ⟨hcallback, hpending.imp_right fun hqueued => ?_⟩
        rw [hconnection] at hqueued
        rcases List.mem_cons.mp hqueued with heq | hrest
        · cases heq
          exact absurd rfl hne
        · exact hrest
  | handOver msg =>
      refine ⟨hs.queued, hs.unacked, ?_, fun _ _ _ _ _ _ hwaiting => by cases hwaiting⟩
      intro msg' callback hrunning
      cases hrunning
      exact handler_rollbackOnly msg
  | publish x msg onBehalfOf deviceID cmd k hx hrunning =>
      refine ⟨hs.publish.queued, hs.publish.unacked, fun _ _ h => (by cases h), ?_⟩
      intro msg' onBehalfOf' deviceID' cmd' token k' hwaiting
      cases hwaiting
      refine ⟨hs.running _ _ hrunning, Or.inl ?_⟩
      exact List.mem_append_right _ (List.mem_singleton_self _)
  | work x msg op k r store hrunning =>
      refine ⟨hs.queued, hs.unacked, ?_, fun _ _ _ _ _ _ hwaiting => by cases hwaiting⟩
      intro msg' callback hrunning'
      cases hrunning'
      exact (hs.running _ _ hrunning).2 r trivial
  | callbackReturn =>
      exact ⟨hs.queued, hs.unacked, fun _ _ h => (by cases h), fun _ _ _ _ _ _ h => (by cases h)⟩
  | publishElsewhere => exact hs.publish
  | databaseElsewhere => exact ⟨hs.queued, hs.unacked, hs.running, hs.waiting⟩

/-- A publication inside a rollback waits for its acknowledgement. -/
theorem Tokens.rollbackWaits {s : State} (hs : Tokens s) {msg : Message}
    {onBehalfOf : DeploymentID} {deviceID : DeviceID} {cmd : Command} {token : MessageID}
    {k : Bool → Callback Unit}
    (hwaiting : s.dispatcher = .waiting msg onBehalfOf deviceID cmd token k) :
    RollbackWaits s token := by
  obtain ⟨hcallback, -⟩ := hs.waiting _ _ _ _ _ _ hwaiting
  obtain ⟨hchannel, version, reason, rfl⟩ := hcallback.1 _ _ _ rfl
  exact ⟨msg, onBehalfOf, deviceID, version, reason, k, hwaiting, hchannel⟩

/-! ## Reports in front of an acknowledgement -/

/-- The reader takes a report. -/
theorem step_read_publish {s : State} {report : Message} {rest : List Packet}
    (hreader : s.reader = none) (hconnection : s.connection = .publish report :: rest) :
    step s .read = some { s with connection := rest, reader := some report } := by
  simp only [step]
  rw [hreader, hconnection]

/-- The reader takes an acknowledgement. -/
theorem step_read_puback {s : State} {id : MessageID} {rest : List Packet}
    (hreader : s.reader = none) (hconnection : s.connection = .puback id :: rest) :
    step s .read =
      some { s with connection := rest, dispatcher := s.dispatcher.complete id } := by
  simp only [step]
  rw [hreader, hconnection]

/-- The acknowledgement of another command wakes nobody who waits for this one. -/
theorem rollbackWaits_complete {s : State} {id token : MessageID} (hne : id ≠ token)
    (h : RollbackWaits s token) :
    s.dispatcher.complete id = s.dispatcher := by
  obtain ⟨msg, onBehalfOf, deviceID, version, reason, k, hwaiting, -⟩ := h
  rw [hwaiting, Dispatcher.complete, if_neg (Ne.symm hne)]

/-- Once the reader holds a report, the PUBACK blocks the client. -/
theorem blocked_of_held {s : State} {token : MessageID} {report : Message}
    (hwaits : RollbackWaits s token) (hunacked : token ∈ s.unacked)
    (hreader : s.reader = some report) :
    ∃ ls t, run step s ls = some t ∧ Blocked t := by
  have hstep : step s (.acknowledge token) = some { s with
      connection := s.connection ++ [.puback token]
      unacked := s.unacked.erase token } := if_pos hunacked
  refine ⟨[.acknowledge token], _, run_cons hstep, token, report, hwaits, hreader, ?_⟩
  exact List.mem_append_right _ (List.mem_singleton_self _)

/-- A report that is before the PUBACK of the rollback can block the client. -/
theorem blocked_of_overtaken {s : State} {token : MessageID} (hwaits : RollbackWaits s token)
    (hunacked : token ∈ s.unacked) (hnotqueued : .puback token ∉ s.connection)
    (hreport : s.reader ≠ none ∨ ∃ report, .publish report ∈ s.connection) :
    ∃ ls t, run step s ls = some t ∧ Blocked t := by
  generalize hpackets : s.connection = packets at hnotqueued hreport
  induction packets generalizing s with
  | nil =>
      cases hreader : s.reader with
      | some report => exact blocked_of_held hwaits hunacked hreader
      | none => simp [hreader] at hreport
  | cons packet rest ih =>
      cases hreader : s.reader with
      | some report => exact blocked_of_held hwaits hunacked hreader
      | none =>
          cases packet with
          | publish report =>
              have hstep := step_read_publish hreader hpackets
              obtain ⟨ls, t, hrun, hblocked⟩ :=
                blocked_of_held (s := { s with connection := rest, reader := some report })
                  hwaits hunacked rfl
              exact ⟨.read :: ls, t, (run_cons hstep).trans hrun, hblocked⟩
          | puback id =>
              have hne : id ≠ token := by
                intro heq
                exact hnotqueued (heq ▸ List.mem_cons_self)
              have hstep := step_read_puback hreader hpackets
              rw [rollbackWaits_complete hne hwaits] at hstep
              have hlater : ∃ report, .publish report ∈ rest := by
                obtain ⟨report, hmem⟩ := hreport.resolve_left (by simp [hreader])
                rcases List.mem_cons.mp hmem with heq | hrest
                · cases heq
                · exact ⟨report, hrest⟩
              obtain ⟨ls, t, hrun, hblocked⟩ := ih (s := { s with connection := rest }) hwaits
                hunacked rfl (fun hmem => hnotqueued (List.mem_cons_of_mem _ hmem))
                (Or.inr hlater)
              exact ⟨.read :: ls, t, (run_cons hstep).trans hrun, hblocked⟩

/-- A step that lets a report in front of an acknowledgement leads to a blocked client. -/
theorem blocked_of_violation {s s' : State} {l : Label} (hs : Tokens s) (h : step s l = some s')
    (hviolated : ¬ AckFirst s l) : ∃ ls t, run step s' ls = some t ∧ Blocked t := by
  by_contra hnever
  apply hviolated
  constructor
  · intro x msg onBehalfOf deviceID cmd k hl hx hrunning
    subst hl
    have hpublish : step s (.work x) = some { s.publish with
        dispatcher := .waiting msg onBehalfOf deviceID cmd (s.lastID + 1) k } := by
      simp only [step]
      rw [hrunning]
      simp [work, hx]
    obtain rfl := Option.some.inj (hpublish.symm.trans h)
    have hwaits := (tokens_step hs h).rollbackWaits rfl
    by_contra hreport
    apply hnever
    apply blocked_of_overtaken hwaits
    · exact List.mem_append_right _ (List.mem_singleton_self _)
    · -- The identifier is new.
      intro hqueued
      exact Nat.not_succ_le_self _ (hs.queued _ hqueued)
    · by_cases hreader : s.reader = none
      · right
        by_contra hfree
        exact hreport ⟨hreader, fun report hmem => hfree ⟨report, hmem⟩⟩
      · exact Or.inl hreader
  · intro report msg onBehalfOf deviceID cmd token k hl hwaiting
    subst hl
    obtain rfl := Option.some.inj h
    obtain ⟨-, hpending⟩ := hs.waiting _ _ _ _ _ _ hwaiting
    by_contra hnotqueued
    apply hnever
    have hwaits : RollbackWaits { s with connection := s.connection ++ [.publish report] } token :=
      hs.rollbackWaits hwaiting
    apply blocked_of_overtaken hwaits
    · exact hpending.resolve_right hnotqueued
    · intro hqueued
      rcases List.mem_append.mp hqueued with hold | hnew
      · exact hnotqueued hold
      · cases List.mem_singleton.mp hnew
    · exact Or.inr ⟨report, List.mem_append_right _ (List.mem_singleton_self _)⟩

/-! ## When the client is blocked -/

/-- From a client that has just subscribed: if each step of the run keeps the reports behind the
acknowledgements, the client is not blocked; and after a step that does not, the broker can
block it. -/
theorem rollback_blocks_iff {store : ReportStore} {s : State} {ls : List Label}
    (h : run step (subscribed store) ls = some s) :
    (EachStep step AckFirst (subscribed store) ls → ¬ Blocked s) ∧
      ∀ l s', step s l = some s' → ¬ AckFirst s l →
        ∃ ls' t, run step s' ls' = some t ∧ Blocked t := by
  constructor
  · intro hok
    have hclear : Clear s :=
      run_invariant_of_eachStep (fun _ _ _ hm hP hstep => clear_step hm hP hstep)
        (fun _ _ _ _ _ _ hwaiting => by cases hwaiting) hok h
    exact hclear.not_blocked
  · intro l s' hstep hviolated
    have htokens : Tokens s :=
      run_invariant (fun _ _ _ hm hstep => tokens_step hm hstep) (tokens_subscribed store) h
    exact blocked_of_violation htokens hstep hviolated

/-! ## A rollback of two robots -/

/-- The packet is a report. -/
def Packet.isReport : Packet → Bool
  | .publish _ => true
  | .puback _ => false

/-- The packet acknowledges the command. -/
def Packet.acks (token : MessageID) : Packet → Bool
  | .publish _ => false
  | .puback id => id = token

/-- The packet that acknowledges the command. -/
theorem Packet.acks_iff {token : MessageID} {packet : Packet} :
    packet.acks token = true ↔ packet = .puback token := by
  cases packet <;> simp [Packet.acks]

/-- The executable form of {lean}`AckFirst`. -/
def ackFirst (s : State) : Label → Bool
  | .work _ =>
      match s.dispatcher with
      | .running _ (.call (.rollout (.publishCommand _ _ _)) _) =>
          s.reader.isNone && !s.connection.any Packet.isReport
      | _ => true
  | .receive _ =>
      match s.dispatcher with
      | .waiting _ _ _ _ token _ => s.connection.any (Packet.acks token)
      | _ => true
  | _ => true

theorem ackFirst_spec {s : State} {l : Label} (h : ackFirst s l = true) : AckFirst s l where
  publish := by
    intro x msg onBehalfOf deviceID cmd k hl _ hrunning
    subst hl
    rw [ackFirst, hrunning] at h
    obtain ⟨hreader, hfree⟩ := (Bool.and_eq_true _ _).mp h
    refine ⟨Option.isNone_iff_eq_none.mp hreader, fun report hmem => ?_⟩
    have hany : s.connection.any Packet.isReport = true :=
      List.any_eq_true.mpr ⟨_, hmem, rfl⟩
    rw [hany] at hfree
    cases hfree
  receive := by
    intro report msg onBehalfOf deviceID cmd token k hl hwaiting
    subst hl
    rw [ackFirst, hwaiting] at h
    obtain ⟨packet, hmem, hacks⟩ := List.any_eq_true.mp h
    exact Packet.acks_iff.mp hacks ▸ hmem

/-- The executable form of {lean}`Blocked`. -/
def blocked (s : State) : Bool :=
  match s.dispatcher with
  | .waiting msg _ _ (.rollback _ _) token _ =>
      msg.channel = .error && (s.reader.isSome && s.connection.any (Packet.acks token))
  | _ => false

theorem blocked_spec {s : State} (h : blocked s = true) : Blocked s := by
  unfold blocked at h
  split at h
  · rename_i msg onBehalfOf deviceID version reason token k hwaiting
    obtain ⟨hchannel, h⟩ := (Bool.and_eq_true _ _).mp h
    obtain ⟨hreader, hqueued⟩ := (Bool.and_eq_true _ _).mp h
    obtain ⟨report, hreport⟩ := Option.isSome_iff_exists.mp hreader
    obtain ⟨packet, hmem, hacks⟩ := List.any_eq_true.mp hqueued
    exact ⟨token, report, ⟨msg, onBehalfOf, deviceID, version, reason, k, hwaiting,
      of_decide_eq_true hchannel⟩, hreport, Packet.acks_iff.mp hacks ▸ hmem⟩
  · cases h

/-- The two robots are different. -/
theorem two_robots_nodup : ["r1", "r2"].Nodup := by decide

/-- A rollout to two robots is running. -/
def rollingOut : ReportStore where
  db :=
    { ControlPlane.fleetDb ["r1", "r2"] two_robots_nodup with
      deployments := Table.single
        { id := 0, firmwareVersionID := 0, status := .running, totalDevices := 2 }
      deploymentDevices := [{ deploymentID := 0, deviceID := "r1" },
        { deploymentID := 0, deviceID := "r2" }] }

/-- The error report of the first robot. -/
def errorReport : Message where
  topicDevice := "r1"
  channel := .error
  payload := some (.object [("device_id", .string "r1"), ("error", .string "checksum mismatch")])

/-- The answer of the first robot to its rollback command. -/
def statusReport : Message where
  topicDevice := "r1"
  channel := .status
  payload := some (.object [("device_id", .string "r1"), ("version", .string "2.0.0"),
    ("status", .string "rolling_back")])

/-- The error report starts the rollback of both robots.  The command of the first robot is
acknowledged, and the callback waits for the PUBACK of the second command. -/
def rollback : List Label :=
  [.receive errorReport, .read, .handOver] ++ List.replicate 8 (.work {}) ++
    [.acknowledge 1, .read, .work {}, .work {}]

/-- The client is not blocked while it waits, and the status of the first robot, should it
arrive now, can block it. -/
theorem rollback_blocks_of_two :
    ∃ s s', run step (subscribed rollingOut) rollback = some s ∧ ¬ Blocked s ∧
      step s (.receive statusReport) = some s' ∧ ∃ ls t, run step s' ls = some t ∧ Blocked t := by
  obtain ⟨s, h, hwaits⟩ := endsWith_eq_true
    (show endsWith step (subscribed rollingOut) rollback
      (fun s => !ackFirst s (.receive statusReport)) = true by decide +kernel)
  obtain ⟨hclear, hblocks⟩ := rollback_blocks_iff h
  have hok : EachStep step AckFirst (subscribed rollingOut) rollback :=
    EachStep.of_eachStep (fun _ _ => ackFirst_spec) (by decide +kernel)
  have hviolated : ¬ AckFirst s (.receive statusReport) := by
    intro hfirst
    have htest : ackFirst s (.receive statusReport) = false := Bool.not_eq_true' _ ▸ hwaits
    simp only [ackFirst] at htest
    split at htest
    · rename_i msg onBehalfOf deviceID cmd token k hwaiting
      have hqueued := hfirst.receive _ _ _ _ _ _ _ rfl hwaiting
      have hany : s.connection.any (Packet.acks token) = true :=
        List.any_eq_true.mpr ⟨_, hqueued, Packet.acks_iff.mpr rfl⟩
      rw [hany] at htest
      cases htest
    · cases htest
  exact ⟨s, _, h, hclear hok, rfl, hblocks _ _ rfl hviolated⟩

/-- The first robot answers its rollback command before the PUBACK of the second command. -/
theorem rollback_blocked :
    ¬ ∀ (store : ReportStore) (ls : List Label) (s : State),
      run step (subscribed store) ls = some s → ¬ Blocked s := by
  intro hall
  obtain ⟨s, h, hblocked⟩ := endsWith_eq_true
    (show endsWith step (subscribed rollingOut)
      (rollback ++ [.receive statusReport, .acknowledge 2, .read]) blocked = true by
        decide +kernel)
  exact hall _ _ s h (blocked_spec hblocked)

end OtaRobot.Paho
