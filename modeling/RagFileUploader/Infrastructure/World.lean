import RagFileUploader.Infrastructure.Commands
import RagFileUploader.Effects.Serial
import RagFileUploader.Stores.Expiring

/-!
# The outside world

The state that Redis, S3, the event bus and the runtime keep, and what each command does to it.
Redis expires keys lazily by its own clock, which the service never reads; the wall clock of the
runtime is an arbitrary sequence of readings.  S3 assembles a multipart upload from the listed
parts and reports an object exactly when it exists.
-/

namespace RagFileUploader

open Effects Stores

/-- What the runtime hands out: the n-th generated UUID and the n-th reading of the wall clock,
in microseconds. -/
structure Environment where
  uuid4 : ℕ → UUID
  wallClock : ℕ → ℤ

/-- A multipart upload in progress. -/
structure Upload where
  key : S3Key
  parts : ℕ → Option Bytes

/-- The content that the listed parts make up, if each is there under the tag it was given. -/
def Upload.collect (u : Upload) : List Part → Option Bytes
  | [] => some []
  | part :: parts =>
      match u.parts part.partNumber, u.collect parts with
      | some body, some rest => if body = part.etag then some (body ++ rest) else none
      | _, _ => none

structure World where
  /-- Redis time in milliseconds. -/
  clock : ℕ
  sessions : Keyspace SessionKey SessionHash
  expiry : Keyspace UUID ExpiryMetadata
  chunks : Keyspace ChunkKey Bytes
  counters : UUID → Option ℤ
  dedup : UUID → String → Option MetadataFields
  objects : S3Key → Option Bytes
  uploads : UploadId → Option Upload
  nextUpload : UploadId
  /-- The events that were published, newest first. -/
  published : List FileLoadCompletedEvent
  /-- How many UUIDs have been generated. -/
  drawn : ℕ
  /-- How often the wall clock has been read. -/
  clockReads : ℕ

namespace World

/-- Nothing stored anywhere. -/
def empty : World where
  clock := 0
  sessions := fun _ => none
  expiry := fun _ => none
  chunks := fun _ => none
  counters := fun _ => none
  dedup := fun _ _ => none
  objects := fun _ => none
  uploads := fun _ => none
  nextUpload := 1
  published := []
  drawn := 0
  clockReads := 0

/-- Redis time passes. -/
def tick (σ : World) (ms : ℕ) : World := { σ with clock := σ.clock + ms }

/-- The deadline of a key that is given `seconds` to live now. -/
def deadline (σ : World) (seconds : ℕ) : Option ℕ := some (σ.clock + seconds * 1000)

/-- The hash that a reader of the session key sees. -/
def session? (σ : World) (key : SessionKey) : Option SessionHash := σ.sessions.get? σ.clock key

/-- The bytes that a reader of the chunk key sees. -/
def chunk? (σ : World) (key : ChunkKey) : Option Bytes := σ.chunks.get? σ.clock key

/-- The counter of a workspace; an absent one counts as zero. -/
def counter (σ : World) (workspaceId : UUID) : ℤ := (σ.counters workspaceId).getD 0

/-- The multipart upload with this id, if it is one for this key. -/
def upload? (σ : World) (key : S3Key) (uploadId : UploadId) : Option Upload :=
  (σ.uploads uploadId).filter fun u => u.key = key

def setCounter (σ : World) (workspaceId : UUID) (value : ℤ) : World :=
  { σ with counters := Function.update σ.counters workspaceId (some value) }

def setFingerprint (σ : World) (workspaceId : UUID) (sha256 : String) (metadata : MetadataFields) :
    World :=
  { σ with
    dedup := Function.update σ.dedup workspaceId
      (Function.update (σ.dedup workspaceId) sha256 (some metadata)) }

def setObject (σ : World) (key : S3Key) (content : Option Bytes) : World :=
  { σ with objects := Function.update σ.objects key content }

def setUpload (σ : World) (uploadId : UploadId) (u : Option Upload) : World :=
  { σ with uploads := Function.update σ.uploads uploadId u }

end World

/-- The upload with another part in it. -/
def Upload.addPart (u : Upload) (partNumber : ℕ) (body : Bytes) : Upload :=
  { u with parts := Function.update u.parts partNumber (some body) }

/-- `TTL`: -2 without a key, -1 without a deadline, else the remaining seconds, rounded. -/
def ttlReply (now : ℕ) : Option (Entry SessionHash) → ℤ
  | none => -2
  | some ⟨_, none⟩ => -1
  | some ⟨_, some deadline⟩ => ((deadline - now + 500) / 1000 : ℕ)

/-- How many of the two keys `DEL` finds. -/
def deletedCount (found found' : Bool) : ℕ := found.toNat + found'.toNat

/-- S3's answer for an upload that was completed, aborted or never there. -/
def noSuchUpload (operation : String) : Exc :=
  .clientError "NoSuchUpload" "The specified upload does not exist." operation

/-- What a command does when it does not fail from outside. -/
def Command.act (env : Environment) : (c : Command) → World → Except Exc c.Reply × World
  | .createSession key data ttlSeconds expiryMetadata expiryTtlSeconds, σ =>
      (.ok (), { σ with
        sessions := σ.sessions.put key data (σ.deadline ttlSeconds)
        expiry := σ.expiry.put key.documentId expiryMetadata (σ.deadline expiryTtlSeconds) })
  | .hgetallSession key, σ => (.ok (σ.session? key), σ)
  | .hgetallExpiry sessionId, σ => (.ok (σ.expiry.get? σ.clock sessionId), σ)
  | .ttlSession key, σ => (.ok (ttlReply σ.clock (σ.sessions.find? σ.clock key)), σ)
  | .hsetSession key data, σ =>
      (.ok (), { σ with sessions := σ.sessions.overwrite σ.clock key data })
  | .deleteSession key, σ =>
      (.ok (deletedCount (σ.sessions.find? σ.clock key).isSome
          (σ.expiry.find? σ.clock key.documentId).isSome),
        { σ with
          sessions := σ.sessions.erase key
          expiry := σ.expiry.erase key.documentId })
  | .setChunk key data ttlSeconds, σ =>
      (.ok (), { σ with chunks := σ.chunks.put key data (σ.deadline ttlSeconds) })
  | .getChunk key, σ => (.ok (σ.chunk? key), σ)
  | .deleteChunk key, σ => (.ok (), { σ with chunks := σ.chunks.erase key })
  | .hgetCounter workspaceId, σ => (.ok (σ.counters workspaceId), σ)
  | .hincrbyCounter workspaceId amount, σ =>
      (.ok (σ.counter workspaceId + amount),
        σ.setCounter workspaceId (σ.counter workspaceId + amount))
  | .hsetCounter workspaceId value, σ => (.ok (), σ.setCounter workspaceId value)
  | .hexistsDedup workspaceId sha256, σ => (.ok (σ.dedup workspaceId sha256).isSome, σ)
  | .hgetDedup workspaceId sha256, σ => (.ok (σ.dedup workspaceId sha256), σ)
  | .hsetDedup workspaceId sha256 metadata, σ =>
      (.ok (), σ.setFingerprint workspaceId sha256 metadata)
  | .headObject key, σ =>
      match σ.objects key with
      | some _ => (.ok (), σ)
      | none => (.error (.clientError "404" "Not Found" "HeadObject"), σ)
  | .createMultipartUpload key, σ =>
      (.ok (some σ.nextUpload),
        { σ.setUpload σ.nextUpload (some ⟨key, fun _ => none⟩) with
          nextUpload := σ.nextUpload + 1 })
  | .uploadPart key uploadId partNumber body, σ =>
      match σ.upload? key uploadId with
      | some u => (.ok (some body), σ.setUpload uploadId (some (u.addPart partNumber body)))
      | none => (.error (noSuchUpload "UploadPart"), σ)
  | .completeMultipartUpload key uploadId parts, σ =>
      match σ.upload? key uploadId with
      | none => (.error (noSuchUpload "CompleteMultipartUpload"), σ)
      | some u =>
          if (parts.map Part.partNumber).Pairwise (· < ·) then
            match u.collect parts with
            | some content => (.ok (), (σ.setObject key (some content)).setUpload uploadId none)
            | none => (.error (.clientError "InvalidPart"
                "One or more of the specified parts could not be found."
                "CompleteMultipartUpload"), σ)
          else (.error (.clientError "InvalidPartOrder"
            "The list of parts was not in ascending order." "CompleteMultipartUpload"), σ)
  | .abortMultipartUpload key uploadId, σ =>
      match σ.upload? key uploadId with
      | some _ => (.ok (), σ.setUpload uploadId none)
      | none => (.error (noSuchUpload "AbortMultipartUpload"), σ)
  | .deleteObject key, σ => (.ok (), σ.setObject key none)
  | .publish event, σ => (.ok (), { σ with published := event :: σ.published })
  | .uuid4, σ => (.ok (env.uuid4 σ.drawn), { σ with drawn := σ.drawn + 1 })
  | .now, σ =>
      (.ok (.utc (env.wallClock σ.clockReads)), { σ with clockReads := σ.clockReads + 1 })

/-! ## Faults -/

/-- An area breaks down: a command of that area raises the exception and has no effect. -/
structure Fault where
  area : Area
  exn : Exc
  deriving DecidableEq

/-- The answers by which `head_object` says that there is no object. -/
def Exc.saysAbsent : Exc → Bool
  | .clientError code _ _ => code == "404" || code == "NoSuchKey"
  | _ => false

/-- The command asks whether an object is there. -/
def Command.asksPresence : Command → Bool
  | .headObject _ => true
  | _ => false

/-- The exception that a fault makes a command raise.  The runtime never fails, nothing is
cancelled, and a failing `head_object` does not pretend that the object is absent. -/
def Fault.hits (f : Fault) (c : Command) : Option Exc :=
  if f.area = c.area ∧ f.area ≠ .runtime ∧ f.exn.isException = true ∧
      ¬ (f.exn.saysAbsent = true ∧ c.asksPresence = true) then some f.exn
  else none

/-- The outside world as a machine for the service's commands. -/
def serviceMachine (env : Environment) : Machine serviceSignature World Fault where
  act := Command.act env
  fails := Fault.hits

/-- A fault only hits commands of its area, with an `Exception`. -/
theorem Fault.hits_eq_some {f : Fault} {c : Command} {e : Exc} (h : f.hits c = some e) :
    f.area = c.area ∧ f.area ≠ .runtime ∧ e.isException = true ∧
      ¬ (e.saysAbsent = true ∧ c.asksPresence = true) := by
  unfold Fault.hits at h
  split at h
  · next hc =>
      cases h
      exact hc
  · cases h

end RagFileUploader
