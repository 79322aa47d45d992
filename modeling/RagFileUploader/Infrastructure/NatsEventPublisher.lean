import RagFileUploader.Encoding.Subjects
import RagFileUploader.Infrastructure.EventPublisherWithRetry

/-!
# The NATS event publisher

`NATSEventPublisher` publishes events to a JetStream stream.  It keeps a client, a JetStream
context and a flag, and updates them between the operations of the client library that it waits
for.  Reading and writing the three attributes are commands, and so are the operations.

Clients are numbered in the order in which they are opened; a JetStream context has the number of
its client.
-/

namespace RagFileUploader

open Effects

/-! ## Settings -/

/-- `settings.validate_nats_url`. -/
def validateNatsUrl (v : Option String) : Except Exc (Option String) := do
  raiseIf (∃ url ∈ v, ¬ (("nats://".toList <+: url.toList) ∨ "tls://".toList <+: url.toList))
    (.valueError "NATS URL must start with nats:// or tls://")
  pure v

/-- `[a-zA-Z0-9._-]`. -/
def isSubjectChar (c : Char) : Bool := c.isAlphanum || c == '.' || c == '_' || c == '-'

/-- `re.match(r"^[a-zA-Z0-9._-]+$", s)`: the `$` also matches before a final newline. -/
def MatchesSubject (s : List Char) : Prop :=
  s.takeWhile isSubjectChar ≠ [] ∧
    (s.dropWhile isSubjectChar = [] ∨ s.dropWhile isSubjectChar = ['\n'])

instance (s : List Char) : Decidable (MatchesSubject s) :=
  inferInstanceAs (Decidable (_ ∧ _))

/-- `settings.validate_nats_subject`. -/
def validateNatsSubject (v : String) : Except Exc String := do
  raiseIf (¬ MatchesSubject v.toList)
    (.valueError "NATS subject can only contain alphanumeric, dots, underscores, and hyphens")
  raiseIf (' ' ∈ v.toList) (.valueError "NATS subject cannot contain spaces")
  pure v

/-! ## Streams -/

inductive RetentionPolicy where
  | limits
  | interest
  | workqueue
  deriving DecidableEq

inductive StorageType where
  | file
  | memory
  deriving DecidableEq

inductive DiscardPolicy where
  | old
  | new
  deriving DecidableEq

/-- The part of `StreamConfig` that the publisher sets. -/
structure StreamConfig where
  name : String
  subjects : Option (List String)
  retention : RetentionPolicy
  maxAge : ℤ
  storage : StorageType
  discard : DiscardPolicy
  deriving DecidableEq

/-- One of the subjects of the stream covers this one. -/
def StreamConfig.Covers (config : StreamConfig) (subject : String) : Prop :=
  ∃ pattern ∈ config.subjects.getD [], Encoding.Subjects.Covers pattern subject

instance (config : StreamConfig) (subject : String) : Decidable (config.Covers subject) :=
  inferInstanceAs (Decidable (∃ pattern ∈ _, _))

/-! ## Commands -/

/-- The attributes of a publisher that change. -/
structure Connection where
  client : Option ℕ := none
  js : Option ℕ := none
  connected : Bool := false
  deriving DecidableEq

inductive NatsCommand where
  | attributes
  | setClient (client : Option ℕ)
  | setJs (js : Option ℕ)
  | setConnected (connected : Bool)
  | connect (servers : List String) (connectTimeout maxReconnectAttempts : ℤ) (name : String)
  | streamInfo (js : ℕ) (name : String)
  | addStream (js : ℕ) (config : StreamConfig)
  | publish (js : ℕ) (subject : String) (payload : EventDict) (timeout : ℤ)
  | drain (client : ℕ)
  | close (client : ℕ)
  deriving DecidableEq

@[reducible] def NatsCommand.Reply : NatsCommand → Type
  | .attributes => Connection
  | .connect .. => ℕ
  | .streamInfo .. => StreamConfig
  | .setClient _ | .setJs _ | .setConnected _ | .addStream .. | .publish .. | .drain _
  | .close _ => Unit

@[reducible] def natsSignature : Signature where
  Command := NatsCommand
  Reply := NatsCommand.Reply
  Exn := Exc

abbrev Nats := Program natsSignature

def issue (c : NatsCommand) : Nats c.Reply := Program.perform (S := natsSignature) c

/-! ## The publisher -/

/-- `FileLoadCompletedEvent.subject_name`. -/
def FileLoadCompletedEvent.subjectName (_ : FileLoadCompletedEvent) : String :=
  "upload.file.load_completed"

/-- The checks of `NATSEventPublisher.__init__`. -/
def validateNats (natsUrl natsSubject streamName : String) : Except Exc Unit := do
  raiseIf (isBlank natsUrl) (.valueError "nats_url cannot be empty")
  raiseIf (isBlank natsSubject) (.valueError "nats_subject cannot be empty")
  raiseIf (isBlank streamName) (.valueError "stream_name cannot be empty")

structure NATSEventPublisher where
  natsUrl : String
  natsSubject : String
  streamName : String := "UPLOAD_EVENTS"
  connectionTimeout : ℤ := 5
  maxReconnectAttempts : ℤ := 3
  valid : validateNats natsUrl natsSubject streamName = .ok ()

namespace NATSEventPublisher

variable (self : NATSEventPublisher)

/-- The configuration of the stream that `_ensure_stream` creates. -/
def streamConfig : StreamConfig where
  name := self.streamName
  subjects := some [self.natsSubject]
  retention := .limits
  maxAge := 604800000000000
  storage := .file
  discard := .old

/-- `_ensure_stream`. -/
def ensureStream : Nats Unit := do
  match (← issue .attributes).js with
  | none => throw (.infrastructureError "JetStream context not initialized")
  | some js =>
      tryExcept
        (tryExcept
          (tryExcept (do
              -- subjects other than the publisher's are logged, and that is all
              let _existingStream ← issue (.streamInfo js self.streamName)
              pure ())
            Exc.isNotFoundError fun _ => issue (.addStream js self.streamConfig))
          -- also when it is `add_stream` that raises it
          Exc.isNotFoundError fun _ => pure ())
        Exc.isException fun e => throw (.infrastructureError
          s!"Failed to create JetStream stream {self.streamName}: {e.str}")

/-- The call of `nats.connect`. -/
def connectCommand : NatsCommand :=
  .connect [self.natsUrl] self.connectionTimeout self.maxReconnectAttempts "rag-file-uploader"

/-- The inner `except` clause of `connect`. -/
def cleanup (e : Exc) : Nats Unit := do
  match (← issue .attributes).client with
  | none => throw e
  | some client => do
      issue (.close client)
      issue (.setClient none)
      throw e

/-- The inner `try` block of `connect`. -/
def openStream (client : ℕ) : Nats Unit :=
  tryExcept (do
      issue (.setJs (some client))
      ensureStream self
      issue (.setConnected true))
    Exc.isException cleanup

/-- `connect`. -/
def connect : Nats Unit := do
  if (← issue .attributes).connected then pure ()
  else
    tryExcept (do
        let client ← issue (connectCommand self)
        issue (.setClient (some client))
        openStream self client)
      Exc.isException fun e => throw (.infrastructureError
        s!"Failed to connect to NATS at {self.natsUrl}: {e.str}")

/-- `publish`. -/
def publish (event : FileLoadCompletedEvent) : Nats Bool := do
  let attributes ← issue .attributes
  match attributes.connected, attributes.js, attributes.client with
  | true, some js, some _ =>
      tryExcept (do
          let eventJson ← MonadExcept.ofExcept event.toJson
          issue (.publish js event.subjectName eventJson self.connectionTimeout)
          pure true)
        Exc.isException fun e => match e with
          | .serializationError _ => throw e
          | _ => throw (.infrastructureError s!"Failed to publish event to NATS: {e.str}")
  | _, _, _ => throw (.infrastructureError "Not connected to NATS. Call connect() first.")

/-- `disconnect`. -/
def disconnect : Nats Unit := do
  let attributes ← issue .attributes
  if attributes.connected then
    tryExcept (match attributes.client with
        | none => pure ()
        | some client => do
            issue (.drain client)
            issue (.close client)
            issue (.setClient none)
            issue (.setJs none)
            issue (.setConnected false))
      Exc.isException fun _ => pure ()
  else pure ()

end NATSEventPublisher

/-! ## JetStream -/

/-- The attributes of the publisher, the streams of the server and the number of clients that have
been opened. -/
structure NatsState where
  attributes : Connection
  streams : List StreamConfig
  opened : ℕ

namespace NatsState

/-- The stream of this name. -/
def stream? (s : NatsState) (name : String) : Option StreamConfig :=
  s.streams.find? (·.name = name)

/-- A publisher that has just been constructed. -/
def fresh (streams : List StreamConfig) : NatsState where
  attributes := {}
  streams
  opened := 0

end NatsState

namespace NatsCommand

/-- An operation of the client library, which the publisher waits for. -/
def isAwaited : NatsCommand → Bool
  | .attributes | .setClient _ | .setJs _ | .setConnected _ => false
  | _ => true

/-- What a command does when nothing fails.  A message is acknowledged if a stream covers its
subject. -/
def act : (c : NatsCommand) → NatsState → Except Exc c.Reply × NatsState
  | .attributes, s => (.ok s.attributes, s)
  | .setClient client, s => (.ok (), { s with attributes.client := client })
  | .setJs js, s => (.ok (), { s with attributes.js := js })
  | .setConnected connected, s => (.ok (), { s with attributes.connected := connected })
  | .connect .., s => (.ok s.opened, { s with opened := s.opened + 1 })
  | .streamInfo _ name, s => match s.stream? name with
    | some config => (.ok config, s)
    | none => (.error (.notFoundError "stream not found"), s)
  | .addStream _ config, s => (.ok (), { s with streams := s.streams ++ [config] })
  | .publish _ subject _ _, s =>
      if ∃ config ∈ s.streams, config.Covers subject then (.ok (), s)
      else (.error (.exception "no response from stream"), s)
  | .drain _, s => (.ok (), s)
  | .close _, s => (.ok (), s)

/-- The exception that is assigned to the command. -/
def failure? (outcome : NatsCommand → Option Exc) (c : NatsCommand) : Option Exc :=
  if c.isAwaited then outcome c else none

end NatsCommand

/-- The publisher and JetStream, with an outcome assigned to each operation: an exception, and then
it has no effect, or none, and then it does what it does. -/
def natsMachine (outcome : NatsCommand → Option Exc) : Machine natsSignature NatsState Empty where
  act := fun c s => match c.failure? outcome with
    | some e => (.error e, s)
    | none => c.act s
  fails := fun f => nomatch f

section

variable {outcome : NatsCommand → Option Exc} {F : Empty → Prop} {s : NatsState}

/-- A command that writes or reads attributes. -/
theorem wp_issue {c : NatsCommand} {Q : Except Exc c.Reply → NatsState → Prop}
    (hc : c.isAwaited = false) (h : Q (c.act s).1 (c.act s).2) :
    (issue c).wp (natsMachine outcome) F Q s := by
  refine Program.wp_perform.mpr ⟨?_, fun f => nomatch f⟩
  have hnone : c.failure? outcome = none := by
    simp [NatsCommand.failure?, hc]
  simp only [natsMachine, hnone]
  exact h

/-- An operation that is waited for. -/
theorem wp_await {c : NatsCommand} {Q : Except Exc c.Reply → NatsState → Prop}
    (hc : c.isAwaited = true) (hact : outcome c = none → Q (c.act s).1 (c.act s).2)
    (hfail : ∀ e, outcome c = some e → Q (.error e) s) :
    (issue c).wp (natsMachine outcome) F Q s := by
  refine Program.wp_perform.mpr ⟨?_, fun f => nomatch f⟩
  have hfailure : c.failure? outcome = outcome c := by
    simp [NatsCommand.failure?, hc]
  simp only [natsMachine, hfailure]
  cases houtcome : outcome c with
  | none => exact hact houtcome
  | some e => exact hfail e houtcome

end

end RagFileUploader
