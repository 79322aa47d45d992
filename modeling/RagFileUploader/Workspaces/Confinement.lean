import RagFileUploader.Concurrent.Reachable
import RagFileUploader.Domain.Identifiers

/-!
# What a call may touch

Every command of a call is about the caller's workspace.  Only the expiry metadata is kept under the
session id alone, so it matters which sessions a call stores and deletes: one whose id has just been
generated for it, or one that it has read in the caller's workspace.  So a `Caller` is watched
together with the session that it is known to own.

* `May` says which commands such a caller may issue.  A part of a call is `Steady` if it learns of
  no session, and `Confined` if it may.
* `confined_of_looks` covers what only reads, `steady_of_issues` what has nothing to do with
  sessions, and `Call.confined_program` composes the rest by use case.
-/

namespace RagFileUploader

open Effects Stores

variable {env : Environment} {settings : Settings} {σ : World} {w s : UUID} {known : Option UUID}
  {α β : Type}

/-! ## Commands of a caller -/

/-- A caller, and a session that is one of the caller's workspace. -/
structure Caller where
  workspaceId : UUID
  known : Option UUID

/-- The session whose hash the command stores or deletes. -/
def Command.sessionOf? : Command → Option UUID
  | .createSession key _ _ _ _ | .hsetSession key _ | .deleteSession key => some key.documentId
  | _ => none

/-- The expiry metadata that the command stores. -/
def Command.newMetadata? : Command → Option ExpiryMetadata
  | .createSession _ _ _ metadata _ => some metadata
  | _ => none

/-- What the command registers under a fingerprint. -/
def Command.newFingerprint? : Command → Option MetadataFields
  | .hsetDedup _ _ fields => some fields
  | _ => none

/-- The metadata can be read back. -/
def MetadataFields.Legible (fields : MetadataFields) : Prop :=
  ∃ metadata : FileMetadata, fields = metadata.toMetadataFields

namespace Caller

/-- The command is about the caller's workspace, and what it stores is well formed. -/
structure May (γ : Caller) (c : Command) : Prop where
  workspace : ∀ w' ∈ c.workspace?, w' = γ.workspaceId
  owner : ∀ s ∈ c.sessionOf?, γ.known = some s
  stores : ∀ key data, c.stores? = some (key, data) → Kept (fun _ => True) key data
  metadata : ∀ metadata ∈ c.newMetadata?, metadata.workspaceId = γ.workspaceId.str
  fingerprint : ∀ fields ∈ c.newFingerprint?, fields.Legible

/-- An id that is generated for the caller, or under which the caller finds a session, is that of
a session of the caller's workspace. -/
def after (γ : Caller) (c : Command) (reply : Except Exc c.Reply) : Caller :=
  match c, reply with
  | .uuid4, .ok id => { γ with known := some id }
  | .hgetallSession key, .ok (some _) => { γ with known := some key.documentId }
  | _, _ => γ

theorem workspaceId_after (γ : Caller) (c : Command) (reply : Except Exc c.Reply) :
    (γ.after c reply).workspaceId = γ.workspaceId := by
  unfold after
  split <;> rfl

end Caller

/-- A monitor for callers of any workspace. -/
def callerMonitor : Monitor serviceSignature Caller where
  may := Caller.May
  replies := fun _ c reply => c.Finds (fun _ => True) reply
  after := Caller.after

/-- The program is one of the workspace, and its caller knows that the session is, too. -/
def Confined (w : UUID) (known : Option UUID) (p : Service α) : Prop :=
  p.Obeys callerMonitor (fun _ γ => γ.workspaceId = w) ⟨w, known⟩

/-- The program is one of the workspace, and its caller learns of no other session. -/
def Steady (w : UUID) (known : Option UUID) (p : Service α) : Prop :=
  p.Obeys callerMonitor (fun _ γ => γ = ⟨w, known⟩) ⟨w, known⟩

/-! ## Parts of programs -/

/-- The areas in which a command of the workspace is free. -/
def Area.Free : Area → Prop
  | .chunks | .counters | .dedupLookup | .s3 | .publisher => True
  | .sessions | .dedupRegister | .runtime => False

theorem InArea.may {area : Area} {c : Command} (h : InArea area w c) (harea : area.Free) :
    Caller.May ⟨w, known⟩ c ∧ ∀ reply, Caller.after ⟨w, known⟩ c reply = ⟨w, known⟩ := by
  obtain ⟨rfl, hw⟩ := h
  have hworkspace : ∀ w' ∈ c.workspace?, w' = w := fun w' hw' =>
    Option.some_injective _ (hw'.symm.trans hw)
  cases c with
  | createSession | hgetallSession | hgetallExpiry | ttlSession | hsetSession | deleteSession
  | hsetDedup | uuid4 | now => exact harea.elim
  | _ => exact ⟨⟨hworkspace, nofun, nofun, nofun, nofun⟩, fun _ => rfl⟩

theorem steady_of_issues {area : Area} {p : Service α} (hp : p.Issues (InArea area w))
    (harea : area.Free) : Steady w known p :=
  obeys_of_issues hp (fun _ hc => (hc.may harea).1) fun _ reply hc => (hc.may harea).2 reply

theorem steady_send {c : Command} (hw : c.workspace? = some w) (harea : c.area.Free) :
    Steady w known (send c) :=
  steady_of_issues (issues_send ⟨rfl, hw⟩) harea

theorem steady_ofExcept {r : Except Exc α} : Steady w known (MonadExcept.ofExcept r) :=
  obeys_ofExcept.mpr rfl

theorem steady_throw (e : Exc) : Steady w known (throw e : Service α) := rfl

theorem steady_pure (a : α) : Steady w known (pure a : Service α) := rfl

theorem Caller.may_uuid4 (γ : Caller) : γ.May .uuid4 := ⟨nofun, nofun, nofun, nofun, nofun⟩

theorem steady_now : Steady w known (send .now) :=
  obeys_send ⟨nofun, nofun, nofun, nofun, nofun⟩ fun reply _ => by cases reply <;> rfl

theorem Steady.bind {p : Service α} {f : α → Service β} (hp : Steady w known p)
    (hf : ∀ a, Steady w known (f a)) : Steady w known (p >>= f) := by
  refine Program.obeys_bind.mpr (Program.obeys_mono hp fun r γ hγ => ?_)
  subst hγ
  cases r with
  | ok a => exact hf a
  | error e => rfl

theorem steady_ofExcept_bind {r : Except Exc α} {f : α → Service β}
    (hf : ∀ a, r = .ok a → Steady w known (f a)) :
    Steady w known (MonadExcept.ofExcept r >>= f) :=
  obeys_ofExcept_bind hf fun _ _ => rfl

theorem Steady.tryCatch {p : Service α} {handler : Exc → Service α} (hp : Steady w known p)
    (hh : ∀ e, Steady w known (handler e)) : Steady w known (tryCatch p handler) := by
  refine Program.obeys_tryCatch.mpr (Program.obeys_mono hp fun r γ hγ => ?_)
  subst hγ
  cases r with
  | ok a => rfl
  | error e => exact hh e

theorem Steady.tryExcept {p : Service α} {catches : Exc → Bool} {handler : Exc → Service α}
    (hp : Steady w known p) (hh : ∀ e, Steady w known (handler e)) :
    Steady w known (tryExcept p catches handler) :=
  hp.tryCatch fun e => by
    split
    · exact hh e
    · exact steady_throw e

/-- What follows on a steady part. -/
theorem Steady.confined_bind {p : Service α} {f : α → Service β} (hp : Steady w known p)
    (hf : ∀ a, Confined w known (f a)) : Confined w known (p >>= f) := by
  refine Program.obeys_bind.mpr (Program.obeys_mono hp fun r γ hγ => ?_)
  subst hγ
  cases r with
  | ok a => exact hf a
  | error e => rfl

theorem Steady.confined {p : Service α} (hp : Steady w known p) : Confined w known p :=
  Program.obeys_mono hp fun _ _ hγ => congrArg Caller.workspaceId hγ

/-- What follows is confined whatever the caller has learnt. -/
theorem Confined.bind {p : Service α} {f : α → Service β} (hp : Confined w known p)
    (hf : ∀ a known, Confined w known (f a)) : Confined w known (p >>= f) := by
  refine Program.obeys_bind.mpr (Program.obeys_mono hp fun r γ hγ => ?_)
  obtain ⟨w', known'⟩ := γ
  subst hγ
  cases r with
  | ok a => exact hf a known'
  | error e => rfl

theorem Confined.tryCatch {p : Service α} {handler : Exc → Service α} (hp : Confined w known p)
    (hh : ∀ e known, Confined w known (handler e)) : Confined w known (tryCatch p handler) := by
  refine Program.obeys_tryCatch.mpr (Program.obeys_mono hp fun r γ hγ => ?_)
  obtain ⟨w', known'⟩ := γ
  subst hγ
  cases r with
  | ok a => rfl
  | error e => exact hh e known'

/-- `except` clauses that are confined whatever the caller has learnt. -/
theorem Confined.tryExcept {p : Service α} {catches : Exc → Bool} {handler : Exc → Service α}
    (hp : Confined w known p) (hh : ∀ e known, Confined w known (handler e)) :
    Confined w known (tryExcept p catches handler) :=
  hp.tryCatch fun e known => by
    split
    · exact hh e known
    · exact (steady_throw e).confined

theorem confined_ofExcept_bind {r : Except Exc α} {f : α → Service β}
    (hf : ∀ a, r = .ok a → Confined w known (f a)) :
    Confined w known (MonadExcept.ofExcept r >>= f) :=
  obeys_ofExcept_bind hf fun _ _ => rfl

/-- The command reads a session of the workspace, expiry metadata or the clock. -/
def Command.Looks (w : UUID) : Command → Prop
  | .hgetallSession key => key.workspaceId = w
  | .hgetallExpiry _ | .now => True
  | _ => False

theorem Command.Looks.may {c : Command} (h : c.Looks w) : Caller.May ⟨w, known⟩ c := by
  cases c with
  | hgetallSession key =>
      exact ⟨fun w' hw' => (Option.some_injective _ hw').symm.trans h, nofun, nofun, nofun, nofun⟩
  | hgetallExpiry | now => exact ⟨nofun, nofun, nofun, nofun, nofun⟩
  | _ => exact h.elim

/-- A program that only reads. -/
theorem confined_of_looks {p : Service α} (hp : p.Issues (Command.Looks w)) :
    Confined w known p := by
  induction p generalizing known with
  | done r => rfl
  | call c next ih =>
      refine ⟨hp.1.may, fun reply _ => ?_⟩
      have hsame := Caller.workspaceId_after ⟨w, known⟩ c reply
      change (next reply).Obeys callerMonitor _ (Caller.after ⟨w, known⟩ c reply)
      generalize Caller.after ⟨w, known⟩ c reply = γ at hsame ⊢
      obtain ⟨w', known'⟩ := γ
      cases hsame
      exact ih reply (hp.2 reply)

/-! ## The stores -/

/-- A session that the caller finds is one of the caller's workspace. -/
theorem confined_getSession_bind {f : Option UploadSession → Service α}
    (hnone : Confined w known (f none))
    (hsome : ∀ session, session.key = ⟨w, s⟩ → Confined w (some s) (f (some session))) :
    Confined w known (RedisSessionStore.getSession w s >>= f) := by
  refine Program.obeys_bind.mpr (obeys_getSession (fun _ _ _ => rfl)
    ⟨fun _ h => (Option.some_injective _ h).symm, nofun, nofun, nofun, nofun⟩
    fun reply hreply => ?_)
  rcases reply with e | data?
  · rfl
  · cases data? with
    | none => exact hnone
    | some data =>
        obtain ⟨-, session, hkey, rfl, -⟩ := hreply
        rw [RedisSessionStore.readReply, RedisSessionStore.deserialize_serialize]
        exact hsome session hkey

/-- The caller's new session has the id that was generated for it. -/
theorem confined_createSession {session : UploadSession} (hkey : session.key = ⟨w, s⟩) :
    Confined w (some s) (RedisSessionStore.createSession session) := by
  refine confined_ofExcept_bind fun key hsession => ?_
  obtain ⟨rfl, hvalid⟩ := sessionKey_eq_ok hsession
  refine Program.obeys_tryCatch.mpr (obeys_send ⟨?_, ?_, ?_, ?_, nofun⟩ fun reply _ => ?_)
  · rintro w' ⟨⟩
    exact congrArg SessionKey.workspaceId hkey
  · rintro s' ⟨⟩
    exact congrArg (fun key => some key.documentId) hkey.symm
  · rintro key data ⟨⟩
    exact ⟨hvalid, session, rfl, rfl, trivial⟩
  · intro metadata hmetadata
    obtain rfl := Option.some_injective _ hmetadata
    have hworkspace : session.workspaceId = w := congrArg SessionKey.workspaceId hkey
    exact congrArg UUID.str hworkspace
  · cases reply <;> rfl

theorem confined_deleteSession : Confined w (some s) (RedisSessionStore.deleteSession w s) := by
  refine confined_ofExcept_bind fun key hsession => ?_
  obtain ⟨rfl, hvalid⟩ := sessionKey_eq_ok hsession
  refine Confined.tryExcept ?_ fun e _ => (steady_throw _).confined
  refine obeys_map (obeys_send ⟨?_, ?_, nofun, nofun, nofun⟩ fun reply _ => ?_)
  · rintro w' ⟨⟩
    rfl
  · rintro s' ⟨⟩
    rfl
  · cases reply <;> rfl

theorem steady_updateSession {session : UploadSession} (hkey : session.key = ⟨w, s⟩) :
    Steady w (some s) (RedisSessionStore.updateSession session) := by
  obtain ⟨rfl, rfl⟩ := SessionKey.mk.inj hkey
  refine steady_ofExcept_bind fun key hkey => Steady.tryCatch (Steady.bind ?_
    fun ttl => Steady.bind ?_ fun _ => ?_) fun e => steady_throw _
  · obtain ⟨rfl, hvalid⟩ := sessionKey_eq_ok hkey
    exact obeys_send ⟨fun _ h => (Option.some_injective _ h).symm, nofun, nofun, nofun, nofun⟩
      fun reply _ => by cases reply <;> rfl
  · unfold raiseIf
    split
    · exact steady_throw _
    · exact steady_pure _
  · obtain ⟨rfl, hvalid⟩ := sessionKey_eq_ok hkey
    refine obeys_send ⟨fun _ h => (Option.some_injective _ h).symm, fun _ h => h,
      fun key data h => ?_, nofun, nofun⟩ fun reply _ => by cases reply <;> rfl
    cases h
    exact ⟨hvalid, session, rfl, rfl, trivial⟩

theorem steady_decrement : Steady w known (RedisRateLimiter.decrement w) :=
  steady_of_issues issues_decrement trivial

theorem steady_registerFile {sha : SHA256Hash} {metadata : FileMetadata} :
    Steady w known (RedisDeduplicationStore.registerFile w sha metadata) := by
  refine Steady.tryExcept (steady_ofExcept_bind fun key hkey => ?_) fun e => steady_throw _
  obtain rfl := workspaceKey_eq_ok hkey
  refine steady_ofExcept_bind fun fields hfields => ?_
  refine obeys_send ⟨fun _ h => (Option.some_injective _ h).symm, nofun, nofun, nofun,
    fun fields' h => ?_⟩ fun reply _ => by cases reply <;> rfl
  obtain rfl := Option.some_injective _ h
  simp only [RedisDeduplicationStore.serializeMetadata, except_bind_eq_ok] at hfields
  obtain ⟨-, -, hfields⟩ := hfields
  cases hfields
  exact ⟨metadata, rfl⟩

/-! ## The use cases -/

theorem InitiateUploadUseCase.confined_execute (settings : Settings)
    (request : InitiateUploadRequest) :
    Confined request.workspaceId known (execute (dependencies settings) request) := by
  refine confined_ofExcept_bind fun _ _ => Steady.confined_bind
    (steady_of_issues issues_checkAndIncrement trivial) fun _ => Confined.tryExcept ?_ fun e _ =>
      ((steady_decrement.tryExcept fun _ => steady_pure _).bind fun _ => steady_throw e).confined
  rw [createSession]
  refine Program.obeys_bind.mpr (obeys_send (Caller.may_uuid4 _) fun reply _ => ?_)
  rcases reply with e | sessionId
  · rfl
  refine steady_now.confined_bind fun createdAt => confined_ofExcept_bind fun session hnew => ?_
  refine Program.obeys_bind.mpr (Program.obeys_mono
    (confined_createSession (newSession_eq_ok hnew).1) fun r γ hγ => ?_)
  cases r with
  | ok _ => exact obeys_ofExcept.mpr hγ
  | error e => exact hγ

theorem ProcessChunkUseCase.confined_execute (settings : Settings) (request : ProcessChunkRequest) :
    Confined request.workspaceId known (execute (dependencies settings) request) := by
  refine confined_getSession_bind rfl fun session hkey => Steady.confined ?_
  refine steady_ofExcept_bind fun index hvalid => Steady.bind (Steady.tryExcept
    (steady_send rfl trivial) fun _ => steady_throw _) fun _ =>
      steady_ofExcept_bind fun next hrecord => ?_
  have hnext := (key_recordChunk hrecord (validate_eq_ok hvalid).1).trans hkey
  exact (steady_updateSession hnext).bind fun _ => steady_pure _

theorem AbortUploadUseCase.confined_execute (settings : Settings) (w s : UUID) :
    Confined w known (execute (dependencies settings) w s) := by
  refine confined_getSession_bind rfl fun session hkey => confined_ofExcept_bind fun _ _ => ?_
  have haborted : session.markAborted.key = ⟨w, s⟩ := hkey
  refine (steady_updateSession haborted).confined_bind fun _ => ?_
  exact confined_deleteSession.bind fun _ _ =>
    (steady_decrement.tryExcept fun _ => steady_pure _).confined

namespace CompleteUploadUseCase

variable {request : CompleteUploadRequest} {session : UploadSession}

theorem steady_markFailed (hkey : session.key = ⟨w, s⟩) (e : Exc) :
    Steady w (some s) (RedisSessionStore.updateSession session.markFailed >>= fun _ => throw e :
      Service α) :=
  have hfailed : session.markFailed.key = ⟨w, s⟩ := hkey
  (steady_updateSession hfailed).bind fun _ => steady_throw e

theorem steady_register {s3Path : String} {finalSize : ℤ} :
    Steady request.workspaceId known
      (register (dependencies settings) request session s3Path finalSize) :=
  steady_now.bind fun _ => steady_ofExcept_bind fun _ _ => steady_registerFile

theorem steady_body (hkey : session.key = ⟨request.workspaceId, s⟩) :
    Steady request.workspaceId (some s) (body (dependencies settings) request session) := by
  refine steady_ofExcept_bind fun _ _ => Steady.bind ?_ fun file => Steady.bind ?_ fun _ => ?_
  · refine (steady_of_issues (issues_retrieveAll _) trivial).bind fun chunks => ?_
    refine (steady_of_issues S3StorageClient.issues_assembleFile trivial).bind fun file => ?_
    refine (steady_of_issues issues_checkDuplicate trivial).bind fun duplicate? => ?_
    cases duplicate? with
    | none => exact steady_pure _
    | some duplicate => exact steady_markFailed hkey _
  · refine steady_now.bind fun _ => steady_now.bind fun _ =>
      steady_ofExcept_bind fun event hevent => Steady.tryExcept ?_ fun e => steady_markFailed hkey e
    have hworkspace : event.workspaceId = request.workspaceId := by
      rw [FileLoadCompletedEvent.new_eq_ok_iff.mp hevent]
    exact steady_send (congrArg some hworkspace) trivial
  · refine steady_ofExcept_bind fun done hdone => ?_
    have hdoneKey : done.key = ⟨request.workspaceId, s⟩ := by
      simp only [UploadSession.markComplete, except_bind_eq_ok] at hdone
      obtain ⟨-, -, -, -, hdone⟩ := hdone
      cases hdone
      exact hkey
    refine (steady_updateSession hdoneKey).bind fun _ =>
      (steady_decrement.tryExcept fun _ => steady_pure _).bind fun _ =>
      (steady_register.tryExcept fun _ => steady_pure _).bind fun _ => Steady.bind (Steady.tryExcept
        (steady_of_issues (issues_cleanup _) trivial) fun _ => steady_pure _) fun _ =>
          steady_ofExcept

theorem confined_execute (settings : Settings) (request : CompleteUploadRequest) :
    Confined request.workspaceId known (execute (dependencies settings) request) := by
  refine confined_getSession_bind rfl fun session hkey => Steady.confined ?_
  have hfailed : session.markFailed.key = ⟨request.workspaceId, request.sessionId⟩ := hkey
  refine (steady_body hkey).tryCatch fun e => ?_
  rw [settle_eq]
  split
  · exact ((steady_updateSession hfailed).tryExcept fun _ => steady_pure _).bind
      fun _ => steady_throw e
  · exact steady_throw e

end CompleteUploadUseCase

/-! ## Tasks -/

/-- A program, and the workspace for which it runs. -/
structure Task (α : Type) where
  workspaceId : UUID
  program : Service α
  confined : Confined workspaceId none program

/-- The tasks, none of which has begun. -/
def Task.pool (σ : World) (tasks : List (Task α)) : Pool serviceSignature World α where
  state := σ
  threads := tasks.map Task.program
  journal := []

/-- The workspace for which the call is made. -/
def Call.workspaceId : Call → UUID
  | .initiate request => request.workspaceId
  | .processChunk request => request.workspaceId
  | .complete request => request.workspaceId
  | .abort workspaceId _ => workspaceId

/-- Whatever the caller asks for, the commands stay within the workspace. -/
theorem Call.confined_program (settings : Settings) (c : Call) :
    Confined c.workspaceId none (c.program settings) := by
  cases c with
  | initiate request => exact obeys_map (InitiateUploadUseCase.confined_execute settings request)
  | processChunk request =>
      exact obeys_map (ProcessChunkUseCase.confined_execute settings request)
  | complete request => exact obeys_map (CompleteUploadUseCase.confined_execute settings request)
  | abort w s => exact obeys_map (AbortUploadUseCase.confined_execute settings w s)

def Call.task (settings : Settings) (c : Call) : Task Response where
  workspaceId := c.workspaceId
  program := c.program settings
  confined := c.confined_program settings

theorem callPool_eq (settings : Settings) (σ : World) (calls : List Call) :
    callPool settings σ calls = Task.pool σ (calls.map (Call.task settings)) := by
  rw [callPool, Task.pool, List.map_map]
  rfl

end RagFileUploader
