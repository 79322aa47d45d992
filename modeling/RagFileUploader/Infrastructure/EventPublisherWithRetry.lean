import RagFileUploader.Application.Ports
import RagFileUploader.Application.Rules

/-!
# The retrying event publisher

`EventPublisherWithRetry` wraps a publisher: it tries again after growing pauses, and writes an
event that could not be published to a dead letter queue in Redis, again with retries.  The
wrapped publisher, the clock, `asyncio.sleep` and the one Redis command are commands of their own.

A JSON text is represented by the record that it stands for.
-/

namespace RagFileUploader

open Effects

/-! ## Events as JSON -/

/-- The nested payload of `FileLoadCompletedEvent.to_dict`. -/
structure EventPayload where
  fileId : String
  workspaceId : String
  s3Path : String
  sha256Checksum : String
  sizeBytes : ℤ
  uploadedAt : String
  deriving DecidableEq

/-- The envelope of `FileLoadCompletedEvent.to_dict`. -/
structure EventDict where
  eventVersion : String
  eventType : String
  timestamp : String
  payload : EventPayload
  deriving DecidableEq

/-- `t.astimezone(UTC)` of an aware datetime; the years run from 1 to 9999. -/
def DateTime.astimezoneUtc (t : DateTime) : Except Exc DateTime := do
  raiseIf (t.instant < -62135596800000000 ∨ 253402300799999999 < t.instant)
    (.exception "date value out of range")
  pure (.utc t.instant)

def FileLoadCompletedEvent.toDict (event : FileLoadCompletedEvent) : Except Exc EventDict := do
  let timestampUtc ← event.timestamp.astimezoneUtc
  let uploadedAtUtc ← event.uploadedAt.astimezoneUtc
  pure
    { eventVersion := event.eventVersion
      eventType := event.eventType
      timestamp := timestampUtc.isoformat
      payload :=
        { fileId := event.fileId.str
          workspaceId := event.workspaceId.str
          s3Path := event.s3Path
          sha256Checksum := event.sha256Checksum.value
          sizeBytes := event.sizeBytes
          uploadedAt := uploadedAtUtc.isoformat } }

def FileLoadCompletedEvent.toJson (event : FileLoadCompletedEvent) : Except Exc EventDict :=
  tryExcept event.toDict Exc.isException fun e => throw (.serializationError
    s!"Failed to serialize FileLoadCompletedEvent to JSON: {e.str}")

/-- An entry of the dead letter queue. -/
structure DlqEntry where
  eventPayload : EventDict
  originalTimestamp : String
  retryCount : ℤ
  lastError : String
  failedAt : String
  deriving DecidableEq

/-! ## Commands -/

inductive RetryCommand where
  /-- `publish` of the wrapped publisher. -/
  | publish (event : FileLoadCompletedEvent)
  | sleep (seconds : ℚ)
  | setex (key : String) (seconds : ℤ) (entry : DlqEntry)
  | now
  deriving DecidableEq

@[reducible] def RetryCommand.Reply : RetryCommand → Type
  | .now => DateTime
  | .publish _ | .sleep _ | .setex .. => Unit

@[reducible] def retrySignature : Signature where
  Command := RetryCommand
  Reply := RetryCommand.Reply
  Exn := Exc

abbrev Retry := Program retrySignature

def ask (c : RetryCommand) : Retry c.Reply := Program.perform (S := retrySignature) c

/-! ## The publisher -/

/-- The checks of `EventPublisherWithRetry.__init__`. -/
def validateRetry (maxRetryAttempts dlqTtlSeconds : ℤ) : Except Exc Unit := do
  raiseIf (maxRetryAttempts < 1) (.valueError "max_retry_attempts must be >= 1")
  raiseIf (maxRetryAttempts > 100)
    (.valueError "max_retry_attempts must be <= 100 to prevent overflow")
  raiseIf (dlqTtlSeconds < 1) (.valueError "dlq_ttl_seconds must be >= 1")

structure EventPublisherWithRetry where
  maxRetryAttempts : ℤ := 5
  dlqTtlSeconds : ℤ := 604800
  valid : validateRetry maxRetryAttempts dlqTtlSeconds = .ok ()

theorem validateRetry_eq_ok_iff {maxRetryAttempts dlqTtlSeconds : ℤ} :
    validateRetry maxRetryAttempts dlqTtlSeconds = .ok () ↔
      1 ≤ maxRetryAttempts ∧ maxRetryAttempts ≤ 100 ∧ 1 ≤ dlqTtlSeconds := by
  simp [validateRetry, Unique.exists_iff]

namespace EventPublisherWithRetry

variable (self : EventPublisherWithRetry) (event : FileLoadCompletedEvent)

/-- `try` a command: `None`, or the exception that `except Exception` catches. -/
def failure? (p : Retry Unit) : Retry (Option Exc) :=
  tryExcept (do p; pure none) Exc.isException fun e => pure (some e)

def dlqKey : String := s!"dlq:file_load_completed:{event.fileId}"

/-- The loop of `_write_to_dlq` over the attempts that are left. -/
def writeEntry (entry : DlqEntry) : List ℕ → Retry Unit
  | [] => pure ()
  | dlqAttempt :: rest => do
      match ← failure? (ask (.setex (dlqKey event) self.dlqTtlSeconds entry)) with
      | none => pure ()
      | some e =>
          if dlqAttempt < 3 then do
            ask (.sleep (1 / 2 * dlqAttempt))
            writeEntry entry rest
          else throw (.infrastructureError s!"Failed to write event to DLQ: {e.str}")

/-- `_write_to_dlq`. -/
def writeToDlq (retryCount : ℤ) (lastError : Option Exc) : Retry Unit := do
  let eventPayloadDict ← tryExcept (MonadExcept.ofExcept event.toJson) Exc.isException fun e =>
    throw (.infrastructureError s!"Failed to serialize event for DLQ: {e.str}")
  let failedAt ← ask .now
  let dlqEntry : DlqEntry :=
    { eventPayload := eventPayloadDict
      originalTimestamp := event.timestamp.isoformat
      retryCount
      lastError := (lastError.map Exc.str).getD "Unknown error"
      failedAt := failedAt.isoformat }
  writeEntry self event dlqEntry (List.range' 1 3)
  throw (.infrastructureError
    s!"Event publish failed after {retryCount} retries. Event written to DLQ: {dlqKey event}")

/-- The loop of `publish` over the attempts that are left. -/
def publishFrom : List ℕ → Option Exc → Retry Unit
  | [], lastError => writeToDlq self event self.maxRetryAttempts lastError
  | attempt :: rest, _ => do
      match ← failure? (ask (.publish event)) with
      | none => pure ()
      | some e =>
          if (attempt : ℤ) < self.maxRetryAttempts then ask (.sleep (2 ^ (attempt - 1)))
          publishFrom rest (some e)

/-- `publish`. -/
def publish : Retry Unit := publishFrom self event (List.range' 1 self.maxRetryAttempts.toNat) none

/-- The wrapper is an event publisher itself. -/
def port : IEventPublisher Retry where
  publish := publish self

end EventPublisherWithRetry

end RagFileUploader
