import RagFileUploader.Infrastructure.NatsEventPublisher

/-!
# The connection of the NATS publisher over any calls

`connect`, `publish` and `disconnect` in any order, one at a time, where any operation of the client
library may raise.  `Connecting` and `Disconnecting` list all ways in which the two calls end, with
the state that they leave.  The connection is what it should be after every call exactly if no
clean-up is interrupted, neither that of a `connect` that fails half-way nor that of a `disconnect`.

* `wp_connect` and `wp_disconnect` go through the two calls operation by operation, and
  `safe_connect` and `safe_disconnect` say what holds while each operation is waited for.
* `Settled` is the invariant between the calls: whoever is not connected has no client.  A call
  that is `Smooth` keeps it (`Smooth.settled`), and from a settled state a call is `Sound` exactly
  if it is smooth (`sound_iff_smooth`).  `connection_sound_iff` follows the first call that is not.
-/

namespace RagFileUploader

open Effects

namespace NATSEventPublisher

section

variable (self : NATSEventPublisher) (outcome : NatsCommand → Option Exc) (s : NatsState)

/-- `stream_info` finds no stream. -/
def missing (js : ℕ) : Bool :=
  match outcome (.streamInfo js self.streamName) with
  | some e => e.isNotFoundError
  | none => (s.stream? self.streamName).isNone

/-- The exception that ends `_ensure_stream`, before it is wrapped. -/
def streamFailure? (js : ℕ) : Option Exc :=
  if missing self outcome s js then
    (outcome (.addStream js self.streamConfig)).filter fun e => !e.isNotFoundError
  else outcome (.streamInfo js self.streamName)

/-- The streams after `_ensure_stream`. -/
def streamsAfter (js : ℕ) : List StreamConfig :=
  if missing self outcome s js ∧ outcome (.addStream js self.streamConfig) = none then
    s.streams ++ [self.streamConfig]
  else s.streams

/-- How `connect` may end. -/
inductive Connecting : Except Exc Unit → NatsState → Prop
  | already (hset : s.attributes.connected = true) : Connecting (.ok ()) s
  | refused (e e' : Exc) (hunset : s.attributes.connected = false)
      (hconnect : outcome (connectCommand self) = some e) : Connecting (.error e') s
  | ready (hunset : s.attributes.connected = false)
      (hconnect : outcome (connectCommand self) = none)
      (hstream : streamFailure? self outcome s s.opened = none) :
      Connecting (.ok ())
        ⟨⟨some s.opened, some s.opened, true⟩, streamsAfter self outcome s s.opened, s.opened + 1⟩
  /-- There is no stream to publish to, and the new client is closed again. -/
  | closed (e e' : Exc) (hunset : s.attributes.connected = false)
      (hconnect : outcome (connectCommand self) = none)
      (hstream : streamFailure? self outcome s s.opened = some e) (hexc : e.isException = true)
      (hclose : outcome (.close s.opened) = none) :
      Connecting (.error e') ⟨⟨none, some s.opened, false⟩, s.streams, s.opened + 1⟩
  /-- There is no stream to publish to, and the new client stays. -/
  | leftOpen (e e' : Exc) (hunset : s.attributes.connected = false)
      (hconnect : outcome (connectCommand self) = none)
      (hstream : streamFailure? self outcome s s.opened = some e)
      (hkept : e.isException = true → outcome (.close s.opened) ≠ none) :
      Connecting (.error e') ⟨⟨some s.opened, some s.opened, false⟩, s.streams, s.opened + 1⟩

/-- The exception that ends the `try` block of `disconnect`. -/
def closingFailure? (client : ℕ) : Option Exc :=
  (outcome (.drain client)).or (outcome (.close client))

/-- How `disconnect` may end. -/
inductive Disconnecting : Except Exc Unit → NatsState → Prop
  | idle (hunset : s.attributes.connected = false) : Disconnecting (.ok ()) s
  | absent (hclient : s.attributes.client = none) : Disconnecting (.ok ()) s
  | closed (client : ℕ) (hclient : s.attributes.client = some client)
      (hclosed : closingFailure? outcome client = none) :
      Disconnecting (.ok ()) { s with attributes := {} }
  /-- An exception is swallowed, and nothing is reset. -/
  | swallowed (client : ℕ) (e : Exc) (hset : s.attributes.connected = true)
      (hclient : s.attributes.client = some client)
      (hfail : closingFailure? outcome client = some e) (hexc : e.isException = true) :
      Disconnecting (.ok ()) s
  | cancelled (client : ℕ) (e : Exc) (hclient : s.attributes.client = some client)
      (hfail : closingFailure? outcome client = some e) (hexc : e.isException = false) :
      Disconnecting (.error e) s

end

variable {self : NATSEventPublisher} {outcome : NatsCommand → Option Exc} {s : NatsState}
  {F : Empty → Prop}

/-! ## Connecting -/

theorem wp_ensureStream {js : ℕ} {Q : Except Exc Unit → NatsState → Prop}
    (hjs : s.attributes.js = some js)
    (hok : streamFailure? self outcome s js = none →
      Q (.ok ()) { s with streams := streamsAfter self outcome s js })
    (herror : ∀ e e', streamFailure? self outcome s js = some e →
      e'.isException = e.isException → Q (.error e') s) :
    (ensureStream self).wp (natsMachine outcome) F Q s := by
  -- an exception that leaves the two inner blocks is wrapped
  have hwrapped : ∀ e, streamFailure? self outcome s js = some e →
      (e.isException = true → Q (.error (.infrastructureError
        s!"Failed to create JetStream stream {self.streamName}: {e.str}")) s) ∧
      (e.isException = false → Q (.error e) s) := fun e he =>
    ⟨fun hexc => herror e _ he hexc.symm, fun _ => herror e e he rfl⟩
  have hadded : missing self outcome s js = true →
      outcome (.addStream js self.streamConfig) = none →
      Q (.ok ()) { s with streams := s.streams ++ [self.streamConfig] } := by
    intro hmissing hadd
    rw [streamsAfter, if_pos ⟨hmissing, hadd⟩] at hok
    refine hok ?_
    rw [streamFailure?, if_pos hmissing, hadd]
    rfl
  have hpassed : missing self outcome s js = true → ∀ e,
      outcome (.addStream js self.streamConfig) = some e → e.isNotFoundError = true →
      Q (.ok ()) s := by
    intro hmissing e hadd hfound
    rw [streamsAfter, if_neg (by simp [hadd])] at hok
    refine hok ?_
    rw [streamFailure?, if_pos hmissing, hadd]
    simp [Option.filter, hfound]
  have hrefused : missing self outcome s js = true → ∀ e,
      outcome (.addStream js self.streamConfig) = some e → e.isNotFoundError = false →
      streamFailure? self outcome s js = some e := by
    intro hmissing e hadd hfound
    rw [streamFailure?, if_pos hmissing, hadd]
    simp [Option.filter, hfound]
  have hfound : missing self outcome s js = false →
      streamFailure? self outcome s js = outcome (.streamInfo js self.streamName) ∧
        streamsAfter self outcome s js = s.streams := fun h => by
    simp [streamFailure?, streamsAfter, h]
  unfold ensureStream
  rw [Program.wp_bind]
  refine wp_issue rfl ?_
  simp only [NatsCommand.act, hjs]
  refine wp_tryExcept.mpr (wp_tryExcept.mpr (wp_tryExcept.mpr ?_))
  rw [Program.wp_bind]
  refine wp_await rfl (fun hinfo => ?_) fun e hinfo => ⟨fun hnot => ?_, fun hnot => ?_⟩
  · cases hstream : s.stream? self.streamName with
    | none =>
        have hmissing : missing self outcome s js = true := by
          simp [missing, hinfo, hstream]
        simp only [NatsCommand.act, hstream]
        refine ⟨fun _ => ?_, fun h => nomatch h⟩
        exact wp_await rfl (hadded hmissing) fun e hadd =>
          ⟨hpassed hmissing e hadd, fun h => hwrapped e (hrefused hmissing e hadd h)⟩
    | some config =>
        obtain ⟨hfailure, hstreams⟩ := hfound (by simp [missing, hinfo, hstream])
        simp only [NatsCommand.act, hstream]
        rw [hfailure, hstreams] at hok
        exact hok hinfo
  · have hmissing : missing self outcome s js = true := by
      simp [missing, hinfo, hnot]
    exact wp_await rfl (hadded hmissing) fun e hadd =>
      ⟨hpassed hmissing e hadd, fun h => hwrapped e (hrefused hmissing e hadd h)⟩
  · have hfailure := (hfound (by simp [missing, hinfo, hnot])).1
    exact ⟨fun h => (nomatch hnot.symm.trans h), fun _ => hwrapped e (hfailure.trans hinfo)⟩

theorem wp_openStream {client : ℕ} {Q : Except Exc Unit → NatsState → Prop}
    (hclient : s.attributes.client = some client) (hunset : s.attributes.connected = false)
    (hready : streamFailure? self outcome s client = none →
      Q (.ok ()) ⟨⟨some client, some client, true⟩, streamsAfter self outcome s client, s.opened⟩)
    (hclosed : ∀ e e', streamFailure? self outcome s client = some e → e.isException = true →
      outcome (.close client) = none →
      Q (.error e') ⟨⟨none, some client, false⟩, s.streams, s.opened⟩)
    (hleft : ∀ e e', streamFailure? self outcome s client = some e →
      (e.isException = true → outcome (.close client) ≠ none) →
      Q (.error e') ⟨⟨some client, some client, false⟩, s.streams, s.opened⟩) :
    (openStream self client).wp (natsMachine outcome) F Q s := by
  obtain ⟨⟨client', js, connected⟩, streams, opened⟩ := s
  obtain rfl : client' = some client := hclient
  obtain rfl : connected = false := hunset
  refine wp_tryExcept.mpr ?_
  rw [Program.wp_bind]
  refine wp_issue rfl ?_
  simp only [NatsCommand.act]
  rw [Program.wp_bind]
  refine wp_ensureStream rfl (fun hstream => ?_) fun e e' hstream hexc =>
    ⟨fun hcaught => ?_, fun hcaught => ?_⟩
  · exact wp_issue rfl (hready hstream)
  · rw [cleanup, Program.wp_bind]
    refine wp_issue rfl ?_
    simp only [NatsCommand.act]
    rw [Program.wp_bind]
    refine wp_await rfl (fun hclose => ?_) fun e'' hclose => ?_
    · rw [Program.wp_bind]
      exact wp_issue rfl (hclosed e e' hstream (hexc ▸ hcaught) hclose)
    · exact hleft e e'' hstream fun _ h => (nomatch hclose.symm.trans h)
  · exact hleft e e' hstream fun h => (nomatch (hexc.symm.trans hcaught).symm.trans h)

theorem wp_connect : (connect self).wp (natsMachine outcome) F (Connecting self outcome s) s := by
  unfold connect
  rw [Program.wp_bind]
  refine wp_issue rfl ?_
  simp only [NatsCommand.act]
  cases hset : s.attributes.connected with
  | true => exact .already hset
  | false =>
      simp only [Bool.false_eq_true, if_false]
      refine wp_tryExcept.mpr ?_
      rw [Program.wp_bind]
      refine wp_await rfl (fun hconnect => ?_) fun e hconnect =>
        ⟨fun _ => .refused e _ hset hconnect, fun _ => .refused e e hset hconnect⟩
      simp only [connectCommand, NatsCommand.act]
      rw [Program.wp_bind]
      refine wp_issue rfl ?_
      simp only [NatsCommand.act]
      refine wp_openStream rfl hset (fun hstream => .ready hset hconnect hstream)
        (fun e e' hstream hexc hclose => ⟨fun _ => ?_, fun _ => ?_⟩)
        fun e e' hstream hkept => ⟨fun _ => ?_, fun _ => ?_⟩
      · exact .closed e _ hset hconnect hstream hexc hclose
      · exact .closed e e' hset hconnect hstream hexc hclose
      · exact .leftOpen e _ hset hconnect hstream hkept
      · exact .leftOpen e e' hset hconnect hstream hkept

/-! ## Disconnecting and publishing -/

theorem wp_disconnect : disconnect.wp (natsMachine outcome) F (Disconnecting outcome s) s := by
  unfold disconnect
  rw [Program.wp_bind]
  refine wp_issue rfl ?_
  simp only [NatsCommand.act]
  cases hset : s.attributes.connected with
  | false => exact .idle hset
  | true =>
      cases hclient : s.attributes.client with
      | none => exact .absent hclient
      | some client =>
          have hfailed : ∀ e, closingFailure? outcome client = some e →
              (e.isException = true → Disconnecting outcome s (.ok ()) s) ∧
              (e.isException = false → Disconnecting outcome s (.error e) s) := fun e hfail =>
            ⟨.swallowed client e hset hclient hfail, .cancelled client e hclient hfail⟩
          refine wp_tryExcept.mpr ?_
          rw [Program.wp_bind]
          refine wp_await rfl (fun hdrain => ?_) fun e hdrain =>
            hfailed e (by rw [closingFailure?, hdrain, Option.some_or])
          simp only [NatsCommand.act]
          have hclosing : closingFailure? outcome client = outcome (.close client) := by
            rw [closingFailure?, hdrain, Option.none_or]
          rw [Program.wp_bind]
          refine wp_await rfl (fun hclose => ?_) fun e hclose => hfailed e (hclosing.trans hclose)
          simp only [NatsCommand.act]
          -- the three attributes are reset
          rw [Program.wp_bind]
          refine wp_issue rfl ?_
          simp only [NatsCommand.act]
          rw [Program.wp_bind]
          refine wp_issue rfl ?_
          simp only [NatsCommand.act]
          exact wp_issue rfl (.closed client hclient (hclosing.trans hclose))

/-- The state after a command is the state before, or the command has done what it does. -/
theorem natsMachine_act (outcome : NatsCommand → Option Exc) (c : NatsCommand) (s : NatsState) :
    ((natsMachine outcome).act c s).2 = s ∨ ((natsMachine outcome).act c s).2 = (c.act s).2 := by
  simp only [natsMachine]
  cases c.failure? outcome with
  | some e => exact .inl rfl
  | none => exact .inr rfl

theorem issues_publish {event : FileLoadCompletedEvent} :
    (publish self event).Issues fun c => ∀ s, (c.act s).2 = s := by
  refine Program.Issues.bind ⟨fun _ => rfl, fun _ => trivial⟩ fun attributes => ?_
  split
  · refine issues_tryExcept ?_ fun e => ?_
    · refine issues_ofExcept.bind fun eventJson =>
        Program.Issues.bind ⟨fun s => ?_, fun _ => trivial⟩ fun _ => trivial
      simp only [NatsCommand.act]
      split <;> rfl
    · split <;> trivial
  · trivial

/-- No call of `publish` changes anything here. -/
theorem wp_publish {event : FileLoadCompletedEvent} :
    (publish self event).wp (natsMachine outcome) F (fun _ s' => s' = s) s :=
  issues_publish.wp (fun c s' hc hs => by
    rcases natsMachine_act outcome c s' with h | h
    · rw [h, hs]
    · rw [h, hc, hs]) rfl

/-! ## What holds while an operation is waited for -/

/-- A connected publisher has a client and a JetStream context. -/
def Consistent (attributes : Connection) : Prop :=
  attributes.connected = true → attributes.client ≠ none ∧ attributes.js ≠ none

/-- The connection is consistent if this command is waited for. -/
def Guarded (s : NatsState) (c : NatsCommand) : Prop :=
  c.isAwaited = true → Consistent s.attributes

/-- A command that leaves the flag alone. -/
def Steady (c : NatsCommand) : Prop := ∀ connected, c ≠ .setConnected connected

theorem Steady.act {c : NatsCommand} (hc : Steady c) (s : NatsState) :
    ((natsMachine outcome).act c s).2.attributes.connected = s.attributes.connected := by
  rcases natsMachine_act outcome c s with h | h
  · rw [h]
  · rw [h]
    cases c with
    | setConnected connected => exact absurd rfl (hc connected)
    | streamInfo _ name =>
        simp only [NatsCommand.act]
        split <;> rfl
    | publish _ subject _ _ =>
        simp only [NatsCommand.act]
        split <;> rfl
    | _ => rfl

theorem Steady.guarded {c : NatsCommand} (hc : Steady c) {s : NatsState}
    (hunset : s.attributes.connected = false) :
    Guarded s c ∧ ((natsMachine outcome).act c s).2.attributes.connected = false :=
  ⟨fun _ h => (nomatch hunset.symm.trans h), (hc.act s).trans hunset⟩

theorem steady_ensureStream : (ensureStream self).Issues Steady := by
  refine Program.Issues.bind ⟨nofun, fun _ => trivial⟩ fun attributes => ?_
  split
  · trivial
  · refine issues_tryExcept (issues_tryExcept (issues_tryExcept ?_ fun _ => ?_) fun _ => ?_)
      fun _ => ?_
    · exact Program.Issues.bind ⟨nofun, fun _ => trivial⟩ fun _ => trivial
    · exact ⟨nofun, fun _ => trivial⟩
    · trivial
    · trivial

theorem steady_cleanup (e : Exc) : (cleanup e).Issues Steady := by
  refine Program.Issues.bind ⟨nofun, fun _ => trivial⟩ fun attributes => ?_
  split
  · trivial
  · refine Program.Issues.bind ⟨nofun, fun _ => trivial⟩ fun _ => ?_
    exact Program.Issues.bind ⟨nofun, fun _ => trivial⟩ fun _ => trivial

/-- The flag is set last. -/
theorem safe_openStream {client : ℕ} (hunset : s.attributes.connected = false) :
    (openStream self client).Safe (natsMachine outcome) F Guarded s := by
  unfold openStream
  refine safe_tryExcept ?_ ?_
  · refine Program.Safe.bind (Program.safe_perform.mpr nofun) (wp_issue rfl ?_)
    exact steady_ensureStream.safe_bind (fun c s' hc hs => hc.guarded hs) hunset
      fun _ s' _ => Program.safe_perform.mpr nofun
  · rw [Program.wp_bind]
    refine wp_issue rfl ?_
    rw [Program.wp_bind]
    have hkeeps : (ensureStream self).wp (natsMachine outcome) F
        (fun _ s' => s'.attributes.connected = false)
        { s with attributes.js := some client } :=
      steady_ensureStream.wp (fun c s' hc hs => (hc.act s').trans hs) hunset
    refine Program.wp_mono hkeeps fun r s' hs => ?_
    cases r with
    | ok _ => exact wp_issue rfl trivial
    | error e =>
        exact fun _ => (steady_cleanup e).safe (fun c s' hc hs => hc.guarded hs) hs

theorem safe_connect : (connect self).Safe (natsMachine outcome) F Guarded s := by
  unfold connect
  refine Program.Safe.bind (Program.safe_perform.mpr nofun) (wp_issue rfl ?_)
  simp only [NatsCommand.act]
  cases hset : s.attributes.connected with
  | true => trivial
  | false =>
      simp only [Bool.false_eq_true, if_false]
      refine safe_tryExcept ?_ ?_
      · refine Program.Safe.bind (Program.safe_perform.mpr fun _ h => (nomatch hset.symm.trans h))
          (wp_await rfl (fun _ => ?_) fun _ _ => trivial)
        simp only [connectCommand, NatsCommand.act]
        exact Program.Safe.bind (Program.safe_perform.mpr nofun)
          (wp_issue rfl (safe_openStream hset))
      · refine Program.wp_mono Program.wp_true fun r s' _ => ?_
        cases r with
        | ok _ => trivial
        | error e => exact fun _ => trivial

theorem safe_publish {event : FileLoadCompletedEvent} (h : Consistent s.attributes) :
    (publish self event).Safe (natsMachine outcome) F Guarded s := by
  refine issues_publish.safe (I := (· = s)) (fun c s' hc hs => ⟨fun _ => hs ▸ h, ?_⟩) rfl
  rcases natsMachine_act outcome c s' with hact | hact
  · rw [hact, hs]
  · rw [hact, hc, hs]

theorem safe_disconnect (h : Consistent s.attributes) :
    disconnect.Safe (natsMachine outcome) F Guarded s := by
  unfold disconnect
  refine Program.Safe.bind (Program.safe_perform.mpr nofun) (wp_issue rfl ?_)
  simp only [NatsCommand.act]
  cases hset : s.attributes.connected with
  | false => trivial
  | true =>
      refine safe_swallow ?_
      cases hclient : s.attributes.client with
      | none => trivial
      | some client =>
          -- both operations come before the attributes are reset
          refine Program.Safe.bind (Program.safe_perform.mpr fun _ => h)
            (wp_await rfl (fun _ => ?_) fun _ _ => trivial)
          refine Program.Safe.bind (Program.safe_perform.mpr fun _ => h)
            (wp_await rfl (fun _ => ?_) fun _ _ => trivial)
          refine Program.Safe.bind (Program.safe_perform.mpr nofun) (wp_issue rfl ?_)
          refine Program.Safe.bind (Program.safe_perform.mpr nofun) (wp_issue rfl ?_)
          exact Program.safe_perform.mpr nofun

/-! ## Calls in any order -/

inductive PublisherCall where
  | connect
  | publish (event : FileLoadCompletedEvent)
  | disconnect

/-- A call in a run: the state in which it starts, and the outcomes of its operations. -/
structure Occurrence where
  before : NatsState
  call : PublisherCall
  outcome : NatsCommand → Option Exc

namespace Occurrence

variable (self : NATSEventPublisher) (x : Occurrence)

def program : Nats Unit :=
  match x.call with
  | .connect => connect self
  | .publish event => do
      let _ ← publish self event
      pure ()
  | .disconnect => disconnect

/-- What the call returns or raises. -/
def result : Except Exc Unit := ((x.program self).run (natsMachine x.outcome) [] x.before).1

/-- The state after the call. -/
def after : NatsState := ((x.program self).run (natsMachine x.outcome) [] x.before).2

/-- The operations that the call waits for, each with the state in which it does. -/
def awaited : List (NatsState × NatsCommand) :=
  ((x.program self).trace (natsMachine x.outcome) [] x.before).filter (·.2.isAwaited)

end Occurrence

/-- The property holds of each call of a run. -/
def Along (self : NATSEventPublisher) (P : Occurrence → Prop) :
    NatsState → List (PublisherCall × (NatsCommand → Option Exc)) → Prop
  | _, [] => True
  | s, (call, outcome) :: calls =>
      P ⟨s, call, outcome⟩ ∧ Along self P (Occurrence.after self ⟨s, call, outcome⟩) calls

/-- What the connection owes in one call. -/
structure Sound (publisher : NATSEventPublisher) (x : Occurrence) : Prop where
  before : Consistent x.before.attributes
  awaited : ∀ y ∈ x.awaited publisher, Consistent y.1.attributes
  after : Consistent (x.after publisher).attributes
  raised : x.call = .connect → ∀ e, x.result publisher = .error e →
    (x.after publisher).attributes.connected = false ∧ (x.after publisher).attributes.client = none
  returned : x.call = .disconnect → x.result publisher = .ok () →
    (x.after publisher).attributes.connected = false
  /-- Nothing is published without a connection. -/
  unpublished : x.before.attributes.connected = false → ∀ event, x.call = .publish event →
    (∃ message, x.result publisher = .error (.infrastructureError message)) ∧
      x.awaited publisher = [] ∧ x.after publisher = x.before
  /-- Without a connection, `connect` opens a new one. -/
  reopened : x.before.attributes.connected = false → x.call = .connect →
    (x.awaited publisher).head? = some (x.before, connectCommand publisher) ∧
      (x.result publisher = .ok () → (x.after publisher).attributes.client = some x.before.opened)

/-- No clean-up is interrupted.  If a new client finds no stream, this is because of an
`Exception`, and the client is closed.  Draining and closing the old client raise no
`Exception`. -/
def Smooth (self : NATSEventPublisher) (x : Occurrence) : Prop :=
  match x.call with
  | .connect => x.before.attributes.connected = false → x.outcome (connectCommand self) = none →
      ∀ e, streamFailure? self x.outcome x.before x.before.opened = some e →
        e.isException = true ∧ x.outcome (.close x.before.opened) = none
  | .publish _ => True
  | .disconnect => x.before.attributes.connected = true →
      ∀ client, x.before.attributes.client = some client →
        ∀ e, closingFailure? x.outcome client = some e → e.isException = false

/-- Between two calls: a publisher that is not connected has no client. -/
structure Settled (s : NatsState) : Prop where
  consistent : Consistent s.attributes
  released : s.attributes.connected = false → s.attributes.client = none

section

variable {x : Occurrence}

theorem connecting (self : NATSEventPublisher) (h : x.call = .connect) :
    Connecting self x.outcome x.before (x.result self) (x.after self) := by
  obtain ⟨s, call, outcome⟩ := x
  obtain rfl : call = .connect := h
  exact Program.run_calm_of_wp (F := fun _ => True) wp_connect

theorem disconnecting (self : NATSEventPublisher) (h : x.call = .disconnect) :
    Disconnecting x.outcome x.before (x.result self) (x.after self) := by
  obtain ⟨s, call, outcome⟩ := x
  obtain rfl : call = .disconnect := h
  exact Program.run_calm_of_wp (F := fun _ => True) wp_disconnect

theorem after_publish {event : FileLoadCompletedEvent} (h : x.call = .publish event) :
    x.after self = x.before := by
  obtain ⟨s, call, outcome⟩ := x
  obtain rfl : call = .publish event := h
  refine Program.run_calm_of_wp (F := fun _ => True) (Q := fun _ s' => s' = s) ?_
  refine Program.wp_bind.mpr (Program.wp_mono wp_publish fun r s' hs => ?_)
  cases r with
  | ok _ => exact hs
  | error e => exact hs

/-- Whatever fails, the connection is consistent after a call. -/
theorem after_consistent (h : Consistent x.before.attributes) :
    Consistent (x.after self).attributes := by
  cases hcall : x.call with
  | connect =>
      have hends := connecting self hcall
      generalize x.result self = r at hends
      generalize x.after self = s' at hends ⊢
      cases hends with
      | already => exact h
      | refused => exact h
      | ready => exact fun _ => ⟨nofun, nofun⟩
      | closed => exact nofun
      | leftOpen => exact nofun
  | publish event => rwa [after_publish hcall]
  | disconnect =>
      have hends := disconnecting self hcall
      generalize x.result self = r at hends
      generalize x.after self = s' at hends ⊢
      cases hends with
      | closed => exact nofun
      | _ => exact h

theorem awaited_consistent (h : Consistent x.before.attributes) :
    ∀ y ∈ x.awaited self, Consistent y.1.attributes := by
  have hsafe : (x.program self).Safe (natsMachine x.outcome) (fun _ => True) Guarded x.before := by
    unfold Occurrence.program
    cases x.call with
    | connect => exact safe_connect
    | publish event =>
        refine (safe_publish h).bind (Program.wp_mono Program.wp_true fun r s' _ => ?_)
        cases r <;> trivial
    | disconnect => exact safe_disconnect h
  intro y hy
  obtain ⟨hy, hawaited⟩ := List.mem_filter.mp hy
  exact hsafe.trace (fun f => nomatch f) y hy hawaited

theorem unpublished (hunset : x.before.attributes.connected = false)
    {event : FileLoadCompletedEvent} (h : x.call = .publish event) :
    (∃ message, x.result self = .error (.infrastructureError message)) ∧
      x.awaited self = [] ∧ x.after self = x.before := by
  obtain ⟨s, call, outcome⟩ := x
  obtain rfl : call = .publish event := h
  obtain ⟨⟨client, js, connected⟩, streams, opened⟩ := s
  obtain rfl : connected = false := hunset
  exact ⟨⟨_, rfl⟩, rfl, rfl⟩

theorem reopened (hunset : x.before.attributes.connected = false) (h : x.call = .connect) :
    (x.awaited self).head? = some (x.before, connectCommand self) := by
  obtain ⟨s, call, outcome⟩ := x
  obtain rfl : call = .connect := h
  obtain ⟨⟨client, js, connected⟩, streams, opened⟩ := s
  obtain rfl : connected = false := hunset
  rfl

/-- If no clean-up is interrupted, a publisher that is not connected has no client. -/
theorem Smooth.settled (hsmooth : Smooth self x) (h : Settled x.before) :
    Settled (x.after self) := by
  refine ⟨after_consistent h.consistent, ?_⟩
  cases hcall : x.call with
  | connect =>
      have hends := connecting self hcall
      rw [Smooth, hcall] at hsmooth
      generalize x.result self = r at hends
      generalize x.after self = s' at hends ⊢
      cases hends with
      | already => exact h.released
      | refused => exact h.released
      | ready => exact nofun
      | closed => exact fun _ => rfl
      | leftOpen e e' hunset hconnect hstream hkept =>
          obtain ⟨hexc, hclose⟩ := hsmooth hunset hconnect e hstream
          exact absurd hclose (hkept hexc)
  | publish event =>
      rw [after_publish hcall]
      exact h.released
  | disconnect =>
      have hends := disconnecting self hcall
      generalize x.result self = r at hends
      generalize x.after self = s' at hends ⊢
      cases hends with
      | closed => exact fun _ => rfl
      | _ => exact h.released

theorem sound_iff_smooth (h : Settled x.before) : Sound self x ↔ Smooth self x := by
  constructor
  · intro hsound
    -- a defect would contradict what the call returned or raised
    cases hcall : x.call with
    | connect =>
        have hends := connecting self hcall
        rw [Smooth, hcall]
        intro hunset hconnect e hstream
        have hraised := hsound.raised hcall
        generalize x.result self = r at hends hraised
        generalize x.after self = s' at hends hraised
        cases hends with
        | already hset => exact nomatch hunset.symm.trans hset
        | refused e' e'' _ hrefused => exact nomatch hconnect.symm.trans hrefused
        | ready _ _ hready => exact nomatch hstream.symm.trans hready
        | closed e' e'' _ _ hstream' hexc hclose =>
            obtain rfl : e = e' := Option.some.inj (hstream.symm.trans hstream')
            exact ⟨hexc, hclose⟩
        | leftOpen => exact nomatch (hraised _ rfl).2
    | publish event =>
        rw [Smooth, hcall]
        trivial
    | disconnect =>
        have hends := disconnecting self hcall
        rw [Smooth, hcall]
        intro hset client hclient e hfail
        have hreturned := hsound.returned hcall
        generalize x.result self = r at hends hreturned
        generalize x.after self = s' at hends hreturned
        cases hends with
        | idle hunset => exact nomatch hunset.symm.trans hset
        | absent hclient' => exact nomatch hclient.symm.trans hclient'
        | closed client' hclient' hclosed =>
            obtain rfl : client = client' := Option.some.inj (hclient.symm.trans hclient')
            exact nomatch hfail.symm.trans hclosed
        | swallowed => exact nomatch (hreturned rfl).symm.trans hset
        | cancelled client' e' hclient' hfail' hexc =>
            obtain rfl : client = client' := Option.some.inj (hclient.symm.trans hclient')
            obtain rfl : e = e' := Option.some.inj (hfail.symm.trans hfail')
            exact hexc
  -- conversely, how the call ended leaves no room for a defect
  · intro hsmooth
    refine ⟨h.consistent, awaited_consistent h.consistent, after_consistent h.consistent,
      fun hcall e hraised => ?_, fun hcall hreturned => ?_,
      fun hunset event hcall => unpublished hunset hcall,
      fun hunset hcall => ⟨reopened hunset hcall, fun hok => ?_⟩⟩
    · have hunset : (x.after self).attributes.connected = false := by
        have hends := connecting self hcall
        rw [hraised] at hends
        generalize x.after self = s' at hends ⊢
        cases hends with
        | refused e e' hunset => exact hunset
        | closed => rfl
        | leftOpen => rfl
      exact ⟨hunset, (hsmooth.settled h).released hunset⟩
    · have hends := disconnecting self hcall
      rw [hreturned] at hends
      rw [Smooth, hcall] at hsmooth
      generalize x.after self = s' at hends ⊢
      cases hends with
      | idle hunset => exact hunset
      | absent hclient => exact Bool.eq_false_iff.mpr fun hset =>
          (h.consistent hset).1 hclient
      | closed => rfl
      | swallowed client e hset hclient hfail hexc =>
          exact nomatch hexc.symm.trans (hsmooth hset client hclient e hfail)
    · have hends := connecting self hcall
      rw [hok] at hends
      generalize x.after self = s' at hends ⊢
      cases hends with
      | already hset => exact nomatch hunset.symm.trans hset
      | ready => rfl

end

theorem settled_fresh (streams : List StreamConfig) : Settled (.fresh streams) :=
  ⟨nofun, fun _ => rfl⟩

/-- The connection does what it owes in every call of a run exactly if no clean-up is
interrupted. -/
theorem connection_sound_iff (self : NATSEventPublisher) (streams : List StreamConfig)
    (calls : List (PublisherCall × (NatsCommand → Option Exc))) :
    Along self (Sound self) (.fresh streams) calls ↔
      Along self (Smooth self) (.fresh streams) calls := by
  have hrun : ∀ s, Settled s →
      (Along self (Sound self) s calls ↔ Along self (Smooth self) s calls) := by
    induction calls with
    | nil => exact fun _ _ => Iff.rfl
    | cons head calls ih =>
        obtain ⟨call, outcome⟩ := head
        intro s hs
        rw [Along, Along, sound_iff_smooth hs]
        exact and_congr_right fun hsmooth => ih _ (hsmooth.settled hs)
  exact hrun _ (settled_fresh streams)

end NATSEventPublisher

namespace Sample

/-- The subject is the one that events name. -/
def natsPublisher : NATSEventPublisher where
  natsUrl := "nats://localhost:4222"
  natsSubject := "upload.file.load_completed"
  valid := by decide +kernel

/-- The first client is connected, and draining it times out. -/
def drainTimesOut : List (NATSEventPublisher.PublisherCall × (NatsCommand → Option Exc)) :=
  [(.connect, fun _ => none),
    (.disconnect, fun c => if c = .drain 0 then some .timeoutError else none)]

end Sample

namespace NATSEventPublisher

/-- The client is kept, and the publisher still counts as connected. -/
theorem stays_connected :
    ¬ ∀ (self : NATSEventPublisher) (streams : List StreamConfig)
        (calls : List (PublisherCall × (NatsCommand → Option Exc))),
      Along self (Sound self) (.fresh streams) calls := by
  intro h
  have hdisconnect := (h Sample.natsPublisher [] Sample.drainTimesOut).2.1
  exact absurd (hdisconnect.returned rfl (by decide +kernel)) (by decide +kernel)

end NATSEventPublisher

end RagFileUploader
