import RagFileUploader.Concurrent.Filing

/-!
# Calls and the file of a session

How the calls on one session deal with its file: a monitor keeps the checksum that a call has read,
the upload that it has under way, and the content that it has put under the key.  Chunk calls and
aborts never touch the file.  A completion publishes what it has stored if the checksum is right,
and deletes it if not.

* `Progress` is how far a call has got, `Progress.May` what it may do there and `Command.Prompt` the
  replies that are granted.
* `obeys_aside_bind` passes over what does not concern the file; every use case has one
  `obeys_filing`.
-/

namespace RagFileUploader

open Effects Stores

variable {env : Environment} {settings : Settings} {σ : World} {w s : UUID} {α β : Type}

/-- The event describes this content under the key. -/
structure FileLoadCompletedEvent.Announces (settings : Settings) (event : FileLoadCompletedEvent)
    (key : S3Key) (content : Bytes) : Prop where
  file : ⟨event.workspaceId, event.fileId⟩ = key
  path : event.s3Path = S3StorageClient.s3Path settings key
  size : event.sizeBytes = content.length
  checksum : event.sha256Checksum.value = sha256Hexdigest content

/-! ## How far a call has got with the file -/

/-- The checksum is the one of the session that the call has read. -/
inductive Progress where
  | unread
  | reading (checksum : String)
  | uploading (checksum : String) (uploadId : UploadId) (done : List Bytes)
  | stored (checksum : String) (content : Bytes)

namespace Progress

def checksum? : Progress → Option String
  | .unread => none
  | .reading checksum | .uploading checksum _ _ | .stored checksum _ => some checksum

def content? : Progress → Option Bytes
  | .stored _ content => some content
  | _ => none

/-- The call has stored something that it is going to delete. -/
def Corrupt : Progress → Prop
  | .stored checksum content => sha256Hexdigest content ≠ checksum
  | _ => False

end Progress

/-- The command neither reads or writes the session nor changes the file. -/
def Command.Aside : Command → Prop
  | .createSession .. | .hgetallSession _ | .hsetSession .. | .createMultipartUpload _
  | .uploadPart .. | .completeMultipartUpload .. | .abortMultipartUpload .. | .deleteObject _
  | .publish _ => False
  | _ => True

namespace Progress

/-- The commands that a call on the session may issue. -/
inductive May (settings : Settings) (w s : UUID) : Progress → Command → Prop
  | aside (γ : Progress) {c : Command} (h : c.Aside) : May settings w s γ c
  | read : May settings w s .unread (.hgetallSession ⟨w, s⟩)
  | write {γ : Progress} (session : UploadSession) (hkey : session.key = ⟨w, s⟩)
      (hvalid : SessionKey.Valid ⟨w, s⟩)
      (hchecksum : γ.checksum? = some session.sha256Checksum.value) :
      May settings w s γ
        (.hsetSession session.key (RedisSessionStore.serializeSession session))
  | create (checksum : String) :
      May settings w s (.reading checksum) (.createMultipartUpload ⟨w, s⟩)
  | part (checksum : String) (uploadId : UploadId) (done : List Bytes) (body : Bytes) :
      May settings w s (.uploading checksum uploadId done)
        (.uploadPart ⟨w, s⟩ uploadId (done.length + 1) body)
  | complete (checksum : String) (uploadId : UploadId) (done : List Bytes) :
      May settings w s (.uploading checksum uploadId done)
        (.completeMultipartUpload ⟨w, s⟩ uploadId (S3StorageClient.partsFrom 1 done))
  | delete {checksum : String} {content : Bytes} (h : sha256Hexdigest content ≠ checksum) :
      May settings w s (.stored checksum content) (.deleteObject ⟨w, s⟩)
  | publish {checksum : String} {content : Bytes} (event : FileLoadCompletedEvent)
      (h : event.Announces settings ⟨w, s⟩ content) (hsha : sha256Hexdigest content = checksum) :
      May settings w s (.stored checksum content) (.publish event)

/-- After a reply. -/
def after (γ : Progress) (c : Command) (reply : Except Exc c.Reply) : Progress :=
  match γ, c, reply with
  | .unread, .hgetallSession _, .ok (some data) => .reading data.sha256Checksum
  | .reading checksum, .createMultipartUpload _, .ok (some uploadId) =>
      .uploading checksum uploadId []
  | .uploading checksum uploadId done, .uploadPart _ _ _ body, _ =>
      .uploading checksum uploadId (done ++ [body])
  | .uploading checksum _ done, .completeMultipartUpload .., _ => .stored checksum done.flatten
  | .stored checksum _, .deleteObject _, _ => .reading checksum
  | γ, _, _ => γ

theorem after_of_aside {γ : Progress} {c : Command} {reply : Except Exc c.Reply} (h : c.Aside) :
    γ.after c reply = γ := by
  cases c <;> first | exact absurd h id | (cases γ <;> rfl)

end Progress

/-- The replies of a world in which no command fails and every upload is where its call left it. -/
def Command.Prompt : (c : Command) → Except Exc c.Reply → Prop
  | .headObject _, reply => reply = .ok () ∨ ∃ e : Exc, reply = .error e ∧ e.saysAbsent = true
  | .createMultipartUpload _, reply => ∃ uploadId, reply = .ok (some uploadId)
  | .uploadPart _ _ _ body, reply => reply = .ok (some body)
  | .completeMultipartUpload .., reply | .deleteObject _, reply => reply = .ok ()
  | c, reply => c.Plausible reply

/-- A monitor for the calls on a session. -/
def filingMonitor (settings : Settings) (w s : UUID) : Monitor serviceSignature Progress where
  may := Progress.May settings w s
  replies := fun _ c reply => c.Prompt reply
  after := fun γ c reply => γ.after c reply

/-! ## The use cases -/

variable {γ : Progress}

theorem InArea.aside {area : Area} {c : Command} (h : InArea area w c)
    (hother : area ≠ .sessions ∧ area ≠ .s3 ∧ area ≠ .publisher) : c.Aside := by
  obtain ⟨rfl, -⟩ := h
  obtain ⟨hs, hs3, hpublisher⟩ := hother
  cases c <;> trivial

theorem obeys_aside_bind {p : Service α} {f : α → Service β} {Q : Except Exc β → Progress → Prop}
    (hp : p.Issues Command.Aside)
    (hf : ∀ a, (f a).Obeys (filingMonitor settings w s) Q γ) (herror : ∀ e, Q (.error e) γ) :
    (p >>= f).Obeys (filingMonitor settings w s) Q γ := by
  rw [Program.obeys_bind]
  refine Program.obeys_mono (obeys_of_issues hp (fun _ h => .aside _ h)
    fun _ _ h => Progress.after_of_aside h) fun r γ' h => ?_
  subst h
  cases r with
  | ok a => exact hf a
  | error e => exact herror e

/-- `except` clauses around something that is aside. -/
theorem obeys_aside_tryExcept {p : Service α} {catches : Exc → Bool}
    {handler : Exc → Service α} {Q : Except Exc α → Progress → Prop}
    (hp : p.Issues Command.Aside) (hQ : ∀ r, Q r γ)
    (hhandler : ∀ e, (handler e).Obeys (filingMonitor settings w s) Q γ) :
    (tryExcept p catches handler).Obeys (filingMonitor settings w s) Q γ := by
  refine obeys_tryExcept (Program.obeys_mono (obeys_of_issues hp (fun _ h => .aside _ h)
    fun _ _ h => Progress.after_of_aside h) fun r γ' h => ?_)
  subst h
  cases r with
  | ok a => exact hQ _
  | error e => exact ⟨fun _ => hhandler e, fun _ => hQ _⟩

/-- The checksum that the call knows stays the one of the session. -/
abbrev KeepsChecksum (checksum : String) : Except Exc α → Progress → Prop :=
  fun _ γ => γ.checksum? = some checksum

theorem obeys_storeFiling {session : UploadSession} {Q : Except Exc Unit → Progress → Prop}
    (hkey : session.key = ⟨w, s⟩) (hvalid : SessionKey.Valid ⟨w, s⟩)
    (hchecksum : γ.checksum? = some session.sha256Checksum.value) (hQ : ∀ r, Q r γ) :
    (RedisSessionStore.updateSession session).Obeys (filingMonitor settings w s) Q γ := by
  have hafter : ∀ reply, (filingMonitor settings w s).after γ (.ttlSession session.key) reply = γ :=
    fun _ => Progress.after_of_aside trivial
  refine obeys_updateSession (fun e _ _ => hQ _) (.aside _ trivial)
    (fun e he => (hafter _).symm ▸ hQ _) (fun _ _ => (hafter _).symm ▸ hQ _) fun ttl _ _ => ?_
  rw [hafter]
  refine obeys_send (.write session hkey hvalid hchecksum) fun reply _ => ?_
  have hsame : (filingMonitor settings w s).after γ
      (.hsetSession session.key (RedisSessionStore.serializeSession session)) reply = γ := by
    cases γ <;> rfl
  rw [hsame]
  exact hQ _

/-- A call that finds its session knows the checksum. -/
theorem obeys_readFiling {Q : Except Exc (Option UploadSession) → Progress → Prop}
    (hnone : Q (.ok none) .unread)
    (hsome : ∀ session : UploadSession, session.key = ⟨w, s⟩ → SessionKey.Valid ⟨w, s⟩ →
      Q (.ok (some session)) (.reading session.sha256Checksum.value))
    (hinvalid : ∀ e, Q (.error e) .unread) :
    (RedisSessionStore.getSession w s).Obeys (filingMonitor settings w s) Q .unread := by
  refine obeys_getSession (fun e _ _ => hinvalid e) .read fun reply hreply => ?_
  rcases hreply with rfl | ⟨hvalid, session, hkey, rfl⟩
  · exact hnone
  · rw [RedisSessionStore.readReply, RedisSessionStore.deserialize_serialize]
    exact hsome session hkey hvalid

namespace ProcessChunkUseCase

theorem obeys_filing (settings : Settings) (request : ProcessChunkRequest) :
    (execute (dependencies settings) request).Obeys
      (filingMonitor settings request.workspaceId request.sessionId) (fun _ _ => True) .unread := by
  rw [execute, Program.obeys_bind]
  refine obeys_readFiling trivial (fun session hkey hvalid => ?_) fun _ => trivial
  refine obeys_ofExcept_bind (fun index hindex => ?_) fun _ _ => trivial
  refine obeys_aside_bind (issues_tryExcept (issues_send trivial) fun _ => trivial) (fun _ => ?_)
    fun _ => trivial
  refine obeys_ofExcept_bind (fun next hrecord => ?_) fun _ _ => trivial
  have hactive := (validate_eq_ok hindex).1
  have hchecksum : next.sha256Checksum = session.sha256Checksum := by
    rw [recordChunk_eq_ok hrecord hactive]
  rw [Program.obeys_bind]
  refine obeys_storeFiling ((key_recordChunk hrecord hactive).trans hkey) hvalid ?_ fun r => ?_
  · rw [hchecksum]
    rfl
  · cases r <;> trivial

end ProcessChunkUseCase

namespace AbortUploadUseCase

theorem obeys_filing (settings : Settings) (w s : UUID) :
    (execute (dependencies settings) w s).Obeys (filingMonitor settings w s) (fun _ _ => True)
      .unread := by
  rw [execute, Program.obeys_bind]
  refine obeys_readFiling trivial (fun session hkey hvalid => ?_) fun _ => trivial
  refine obeys_ofExcept_bind (fun _ _ => ?_) fun _ _ => trivial
  rw [Program.obeys_bind]
  have haborted : session.markAborted.key = ⟨w, s⟩ := hkey
  refine obeys_storeFiling haborted hvalid rfl fun r => ?_
  cases r with
  | error e => trivial
  | ok _ =>
      refine obeys_aside_bind ?_ (fun _ => ?_) fun _ => trivial
      · exact sessionKey_bind_issues
          (issues_tryExcept (issues_map (issues_send trivial)) fun _ => trivial)
      · refine obeys_aside_tryExcept (issues_decrement.mono fun c hc => ?_) (fun _ => trivial)
          fun _ => trivial
        exact hc.aside (by decide)

end AbortUploadUseCase

namespace CompleteUploadUseCase

variable {request : CompleteUploadRequest} {session : UploadSession}

open S3StorageClient in
/-- The monitor keeps up with the upload; whether there is an object it leaves open. -/
theorem follows_filing (settings : Settings) (w s : UUID) (chunks : List Bytes)
    (expected : SHA256Hash) :
    Follows (filingMonitor settings w s) ⟨w, s⟩ chunks expected True (.reading expected.value)
      (.uploading expected.value) (.stored expected.value chunks.flatten) where
  head := obeys_send (.aside _ trivial) fun reply hreply =>
    ⟨rfl, hreply.imp_left fun h => ⟨h, trivial⟩⟩
  create := by
    refine obeys_send (.create _) fun reply hreply => ?_
    obtain ⟨uploadId, rfl⟩ := hreply
    exact ⟨uploadId, rfl, rfl⟩
  part := fun uploadId done body => obeys_send (.part _ _ _ _) fun reply hreply => ⟨hreply, rfl⟩
  complete := fun uploadId => obeys_send (.complete _ _ _) fun reply hreply => ⟨hreply, rfl⟩
  delete := fun hsha => obeys_send (.delete hsha) fun reply hreply => ⟨hreply, rfl⟩

theorem obeys_settleFiling {e : Exc} (hkey : session.key = ⟨w, s⟩)
    (hvalid : SessionKey.Valid ⟨w, s⟩)
    (hchecksum : γ.checksum? = some session.sha256Checksum.value) :
    (settle (dependencies settings) session e).Obeys (filingMonitor settings w s)
      (fun _ _ => True) γ := by
  have hfailed : session.markFailed.key = ⟨w, s⟩ := hkey
  rw [settle_eq]
  split
  · rw [Program.obeys_bind]
    refine obeys_tryExcept (obeys_storeFiling hfailed hvalid hchecksum fun r => ?_)
    cases r with
    | ok _ => trivial
    | error e' => exact ⟨fun _ => trivial, fun _ => trivial⟩
  · trivial

/-- What a completion has stored when it goes on to publish. -/
theorem obeys_assembleFiling
    (hkey : session.key = ⟨request.workspaceId, request.sessionId⟩)
    (hvalid : SessionKey.Valid ⟨request.workspaceId, request.sessionId⟩) :
    (assemble (dependencies settings) request session).Obeys
      (filingMonitor settings request.workspaceId request.sessionId)
      (fun r γ' => match r with
        | .ok (s3Path, finalSize) => ∃ content : Bytes,
            γ' = .stored session.sha256Checksum.value content ∧
              sha256Hexdigest content = session.sha256Checksum.value ∧
              s3Path = S3StorageClient.s3Path settings (fileKey request) ∧
              finalSize = content.length
        | .error _ => γ'.checksum? = some session.sha256Checksum.value)
      (.reading session.sha256Checksum.value) := by
  refine obeys_aside_bind ((issues_retrieveAll _).mono fun _ hc => hc.aside (by decide))
    (fun chunks => ?_) fun _ => rfl
  refine Program.obeys_bind.mpr (S3StorageClient.obeys_assembleFile
    (follows_filing settings _ _ _ _) (fun _ _ _ => rfl) fun hsha => ?_)
  refine obeys_aside_bind (issues_checkDuplicate.mono fun _ hc => hc.aside (by decide))
    (fun duplicate? => ?_) fun _ => rfl
  cases duplicate? with
  | none => exact ⟨chunks.flatten, rfl, hsha, rfl, rfl⟩
  | some duplicate =>
      have hfailed : session.markFailed.key = ⟨request.workspaceId, request.sessionId⟩ := hkey
      refine Program.obeys_bind.mpr (obeys_storeFiling hfailed hvalid rfl fun r => ?_)
      cases r <;> rfl

theorem obeys_publishFiling {content : Bytes}
    (hsha : sha256Hexdigest content = session.sha256Checksum.value) :
    (publish (dependencies settings) request session
        (S3StorageClient.s3Path settings (fileKey request)) content.length).Obeys
      (filingMonitor settings request.workspaceId request.sessionId)
      (fun _ γ' => γ' = .stored session.sha256Checksum.value content)
      (.stored session.sha256Checksum.value content) := by
  refine obeys_aside_bind (issues_send trivial) (fun uploadedAt => ?_) fun _ => rfl
  refine obeys_aside_bind (issues_send trivial) (fun timestamp => ?_) fun _ => rfl
  refine obeys_ofExcept_bind (fun event hevent => ?_) fun _ _ => rfl
  have hfields := FileLoadCompletedEvent.new_eq_ok_iff.mp hevent
  have hannounces : event.Announces settings ⟨request.workspaceId, request.sessionId⟩ content := by
    refine ⟨?_, ?_, ?_, ?_⟩ <;> simp only [hfields]
    · rfl
    · exact hsha.symm
  refine obeys_tryExcept (obeys_send (.publish event hannounces hsha) fun reply hreply => ?_)
  obtain ⟨r, rfl⟩ := hreply.resolve_left (by rintro ⟨⟩)
  rfl

theorem obeys_finishFiling {s3Path : String} {finalSize : ℤ}
    (hkey : session.key = ⟨request.workspaceId, request.sessionId⟩)
    (hvalid : SessionKey.Valid ⟨request.workspaceId, request.sessionId⟩)
    (hchecksum : γ.checksum? = some session.sha256Checksum.value) :
    (finish (dependencies settings) request session s3Path finalSize).Obeys
      (filingMonitor settings request.workspaceId request.sessionId)
      (KeepsChecksum session.sha256Checksum.value) γ := by
  refine obeys_ofExcept_bind (fun done hdone => ?_) fun _ _ => hchecksum
  have hfields : done.key = session.key ∧ done.sha256Checksum = session.sha256Checksum := by
    unfold UploadSession.markComplete at hdone
    simp only [except_bind_eq_ok, raiseIf_eq_ok] at hdone
    obtain ⟨-, -, -, -, hdone⟩ := hdone
    cases hdone
    exact ⟨rfl, rfl⟩
  rw [Program.obeys_bind]
  refine obeys_storeFiling (hfields.1.trans hkey) hvalid (hfields.2 ▸ hchecksum) fun r => ?_
  cases r with
  | error e => exact hchecksum
  | ok _ =>
      refine obeys_aside_bind (issues_tryExcept (issues_decrement.mono fun _ hc =>
        hc.aside (by decide)) fun _ => trivial) (fun _ => ?_) fun _ => hchecksum
      refine obeys_aside_bind (issues_tryExcept (issues_registration.mono fun c hc => ?_)
        fun _ => trivial) (fun _ => ?_) fun _ => hchecksum
      · rcases hc with rfl | hc
        · trivial
        · exact hc.aside (by decide)
      refine obeys_aside_bind (issues_tryExcept ((issues_cleanup _).mono fun _ hc =>
        hc.aside (by decide)) fun _ => trivial) (fun _ => ?_) fun _ => hchecksum
      exact obeys_ofExcept.mpr hchecksum

theorem obeys_filing (settings : Settings) (request : CompleteUploadRequest) :
    (execute (dependencies settings) request).Obeys
      (filingMonitor settings request.workspaceId request.sessionId) (fun _ _ => True) .unread := by
  rw [execute, Program.obeys_bind]
  refine obeys_readFiling trivial (fun session hkey hvalid => ?_) fun _ => trivial
  dsimp only
  rw [Program.obeys_tryCatch]
  suffices h : (body (dependencies settings) request session).Obeys
      (filingMonitor settings request.workspaceId request.sessionId)
      (KeepsChecksum session.sha256Checksum.value) (.reading session.sha256Checksum.value) by
    refine Program.obeys_mono h fun r γ' hr => ?_
    cases r with
    | ok _ => trivial
    | error e => exact obeys_settleFiling hkey hvalid hr
  refine obeys_ofExcept_bind (fun _ _ => ?_) fun _ _ => rfl
  rw [Program.obeys_bind]
  refine Program.obeys_mono (obeys_assembleFiling hkey hvalid) fun r γ' hr => ?_
  cases r with
  | error e => exact hr
  | ok file =>
      obtain ⟨s3Path, finalSize⟩ := file
      obtain ⟨content, rfl, hsha, rfl, rfl⟩ := hr
      dsimp only
      rw [Program.obeys_bind]
      refine Program.obeys_mono (obeys_publishFiling hsha) fun r γ' hr => ?_
      subst hr
      cases r with
      | error e => rfl
      | ok _ => exact obeys_finishFiling hkey hvalid rfl

end CompleteUploadUseCase

end RagFileUploader
