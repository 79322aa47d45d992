import RagFileUploader.Concurrent.Metadata
import RagFileUploader.Presentation.AbortUpload
import RagFileUploader.Serial.Resumption

/-!
# The statuses of the responses

A mistake of the client is to be answered below 500.  The handlers translate what the use cases
raise, and in a reachable world each of these has a clause of its own but two: a chunk for a
finished session, and an upload id that the key builder refuses.  An empty chunk and a negative
offset are refused before the clauses are in force.

* Each handler has an `answersBelow500`, which takes its use case apart by the rules of the stores,
  and a `responseStatus_…` for the inputs on which it fails.
* `Exc.isTranslated` collects the exceptions that the handler of `PATCH` has a clause for, and the
  `translated_` lemmas find what the session's methods raise among them.
* `answered_below_500_iff` puts the three together.
-/

namespace RagFileUploader

open Effects

variable {env : Environment} {settings : Settings} {σ : World} {w s : UUID}
  {session : UploadSession} {α : Type}

/-- A request of a caller of the workspace, as the parameters of the three routes admit it. -/
inductive UploadsRequest where
  | patch (request : UploadChunk.Request)
  | head (uploadId : UUID)
  | delete (uploadId : UUID)

namespace UploadsRequest

def handle (settings : Settings) (w : UUID) :
    UploadsRequest → Service (Except HTTPException HTTPResponse)
  | .patch request => UploadChunk.execute (dependencies settings) w request
  | .head uploadId => QueryUploadOffset.execute (dependencies settings) w uploadId
  | .delete uploadId => AbortUpload.execute (dependencies settings) w uploadId

/-- The body, if there is one, can be read. -/
def Readable : UploadsRequest → Prop
  | .patch request => ∃ data, request.body = .ok data
  | .head _ | .delete _ => True

/-- The upload id is one that the key builder accepts, or a chunk whose headers pass is not empty,
has an offset, and does not meet a finished session. -/
def Foreseen (σ : World) (w : UUID) : UploadsRequest → Prop
  | .patch request => ∀ checksum, UploadChunk.validate request = .ok checksum →
      0 ≤ request.uploadOffset ∧ request.body ≠ .ok [] ∧
        ∀ session, σ.Reads w request.uploadId session → ¬ session.status.Terminal
  | .head uploadId | .delete uploadId => uploadId ≠ .nil

end UploadsRequest

/-- The status of the response.  An exception that a handler lets out is answered with 500. -/
def responseStatus : Except Exc (Except HTTPException HTTPResponse) → ℕ
  | .ok (.ok response) => response.statusCode
  | .ok (.error error) => error.statusCode
  | .error _ => 500

/-- The answer of a handler is below 500, when no command fails. -/
def AnswersBelow500 (p : Service (Except HTTPException HTTPResponse)) (env : Environment)
    (σ : World) : Prop :=
  p.wp (serviceMachine env) (fun _ => False) (fun r _ => responseStatus r < 500) σ

theorem answersBelow500_iff {p : Service (Except HTTPException HTTPResponse)} :
    AnswersBelow500 p env σ ↔ responseStatus (p.run (serviceMachine env) [] σ).1 < 500 :=
  Program.wp_calm_iff

theorem not_canFail (area : Area) : ¬ CanFail (fun _ => False) area := fun ⟨_, h, _⟩ => h

theorem UUID.ne_nil_iff {u : UUID} : u ≠ .nil ↔ u.int ≠ 0#128 := by
  obtain ⟨n⟩ := u
  exact not_congr ⟨fun h => congrArg UUID.int h, fun h => congrArg UUID.mk h⟩

theorem sessionKey_nil (hw : w.int ≠ 0#128) :
    sessionKey w .nil = .error (.valueError "NIL UUID not allowed for document_id") := by
  rw [sessionKey, validateWorkspaceId, raiseIf, if_neg hw]
  rfl

/-- The exceptions for which `upload_chunk` has a clause of its own that asks nothing of the
store. -/
def Exc.isTranslated : Exc → Bool
  | .offsetMismatchError .. | .checksumMismatchError .. | .valueError _ => true
  | _ => false

/-! ## The lookup of the metadata -/

theorem wp_notFoundOrExpired {metadata? : Option ExpiryMetadata}
    {expired : ExpiryMetadata → ℤ → HTTPException} {notFound : HTTPException}
    (hmetadata : ∀ metadata, metadata? = some metadata → DateTime.Zoned metadata.expiresAt)
    (hexpired : ∀ metadata hours, (expired metadata hours).statusCode < 500)
    (hnotFound : notFound.statusCode < 500) :
    AnswersBelow500 (Except.error <$> notFoundOrExpired (dependencies settings) metadata? expired
      notFound) env σ := by
  unfold notFoundOrExpired
  cases metadata? with
  | none => exact hnotFound
  | some metadata =>
      dsimp only
      split
      · exact hnotFound
      · next expiredAt hread =>
          have hzone : expiredAt.tzinfo ≠ none := hmetadata metadata rfl expiredAt hread
          refine wp_map (Program.wp_bind.mpr (wp_send_runtime rfl ?_))
          refine wp_ofExcept_bind (fun hours _ => hexpired metadata hours) fun e he => ?_
          simp only [QueryUploadOffset.hoursAgo, raiseIf, if_neg hzone] at he
          cases he

theorem wp_getSessionWithExpiryInfo_dated (hσ : σ.Dated) (hwell : σ.WellStored)
    (hvalid : SessionKey.Valid ⟨w, s⟩)
    {Q : Except Exc (Option UploadSession × Option ExpiryMetadata) → World → Prop}
    (hsome : ∀ session, σ.Reads w s session → Q (.ok (some session, none)) σ)
    (hnone : ∀ metadata?, (∀ metadata, metadata? = some metadata →
      DateTime.Zoned metadata.expiresAt) → Q (.ok (none, metadata?)) σ) :
    (RedisSessionStore.getSessionWithExpiryInfo w s).wp (serviceMachine env) (fun _ => False)
      Q σ := by
  rw [Program.wp_calm_iff, RedisSessionStore.run_getSessionWithExpiryInfo,
    sessionKey_of_valid hvalid]
  change Q (RedisSessionStore.infoReply w (σ.session? ⟨w, s⟩) (σ.expiry.get? σ.clock s)) σ
  cases hread : σ.session? ⟨w, s⟩ with
  | some data =>
      obtain ⟨d, hentry, -⟩ := Stores.Keyspace.get?_eq_some_iff.mp hread
      obtain ⟨-, session, hsession, hdata⟩ := hwell _ _ hentry
      obtain rfl : data = RedisSessionStore.serializeSession session := hdata
      simp only [RedisSessionStore.infoReply, RedisSessionStore.deserialize_serialize]
      exact hsome session ⟨hvalid, hsession, hread⟩
  | none =>
      cases hmetadata : σ.expiry.get? σ.clock s with
      | none => exact hnone none fun _ h => by cases h
      | some metadata =>
          obtain ⟨d, hentry, -⟩ := Stores.Keyspace.get?_eq_some_iff.mp hmetadata
          have hzoned : DateTime.Zoned metadata.expiresAt := hσ s _ hentry
          simp only [RedisSessionStore.infoReply]
          split
          · exact hnone none fun _ h => by cases h
          · refine hnone (some metadata) fun metadata' h => ?_
            cases h
            exact hzoned

/-- A session that is not found is answered with 404. -/
theorem wp_lookUpExpiry (hσ : σ.Reachable env settings) (hvalid : SessionKey.Valid ⟨w, s⟩)
    {expired : ExpiryMetadata → ℤ → HTTPException} {notFound : HTTPException}
    (hexpired : ∀ metadata hours, (expired metadata hours).statusCode < 500)
    (hnotFound : notFound.statusCode < 500) :
    AnswersBelow500 (Except.error <$> (do
      let (_, metadata?) ← RedisSessionStore.getSessionWithExpiryInfo w s
      notFoundOrExpired (dependencies settings) metadata? expired notFound)) env σ := by
  rw [map_bind]
  refine Program.wp_bind.mpr (wp_getSessionWithExpiryInfo_dated hσ.dated hσ.wellStored hvalid
    (fun session _ => ?_) fun metadata? hmetadata => ?_)
  · exact wp_notFoundOrExpired (fun _ h => nomatch h) hexpired hnotFound
  · exact wp_notFoundOrExpired hmetadata hexpired hnotFound

/-! ## `HEAD` -/

namespace QueryUploadOffset

theorem responseStatus_answer : responseStatus (.ok (answer s session)) < 500 := by
  by_cases hterminal : session.status.Terminal
  · rw [answer, if_pos (hterminal.imp_right Or.symm)]
    exact (by decide : 410 < 500)
  · rw [answer_of_active hterminal]
    exact (by decide : 200 < 500)

theorem answersBelow500 (hσ : σ.Reachable env settings) (hvalid : SessionKey.Valid ⟨w, s⟩) :
    AnswersBelow500 (execute (dependencies settings) w s) env σ := by
  rw [AnswersBelow500, execute, Program.wp_bind, lookup, Program.wp_tryCatch]
  refine wp_map (wp_getSessionWithExpiryInfo_dated hσ.dated hσ.wellStored hvalid
    (fun session _ => responseStatus_answer) fun metadata? hmetadata => ?_)
  exact wp_notFoundOrExpired hmetadata (fun _ _ => (by decide : 404 < 500))
    (by decide : 404 < 500)

/-- The exception of the key builder has no clause of its own. -/
theorem responseStatus_nil (hw : w.int ≠ 0#128) :
    responseStatus ((execute (dependencies settings) w .nil).run (serviceMachine env) [] σ).1 =
      500 := by
  have hinfo : (dependencies settings).sessionStore.getSessionWithExpiryInfo w .nil =
      throw (.valueError "NIL UUID not allowed for document_id") := by
    change RedisSessionStore.getSessionWithExpiryInfo w .nil = _
    rw [RedisSessionStore.getSessionWithExpiryInfo, sessionKey_nil hw]
    rfl
  rw [execute, lookup, hinfo]
  rfl

end QueryUploadOffset

/-! ## `DELETE` -/

namespace AbortUpload

theorem answersBelow500 (hσ : σ.Reachable env settings) (hvalid : SessionKey.Valid ⟨w, s⟩) :
    AnswersBelow500 (execute (dependencies settings) w s) env σ := by
  have hnotFound : ∀ message, AnswersBelow500 (Except.error <$> failed (dependencies settings) w s
      (.uploadSessionNotFoundError message)) env σ := fun _ =>
    wp_lookUpExpiry hσ hvalid (fun _ _ => (by decide : 404 < 500)) (by decide : 404 < 500)
  rw [AnswersBelow500, execute, Program.wp_tryCatch]
  refine wp_map ?_
  rw [AbortUploadUseCase.execute, Program.wp_bind]
  refine wp_getSession (hσ.wellStored _) (fun session hreads => ?_) (fun _ => hnotFound _)
    fun hwhy => hwhy.elim (absurd hvalid) fun hcan => absurd hcan (not_canFail _)
  dsimp only
  have hworkspace : session.workspaceId = w := congrArg SessionKey.workspaceId hreads.key_eq
  by_cases hterminal : session.status.Terminal
  · -- a finished session counts as not found
    have hrejected : AbortUploadUseCase.validate w s session =
        .error (.uploadSessionNotFoundError s!"Upload session {s} not found or expired") := by
      rw [AbortUploadUseCase.validate, raiseIf, if_pos hterminal]
      rfl
    rw [hrejected]
    exact hnotFound _
  have haccepted : AbortUploadUseCase.validate w s session = .ok () := by
    simp only [AbortUploadUseCase.validate, except_bind_eq_ok, raiseIf_eq_ok]
    exact ⟨(), hterminal, not_not_intro hworkspace⟩
  rw [haccepted]
  have hkey : session.markAborted.key = ⟨w, s⟩ := hreads.key_eq
  refine wp_ofExcept_bind (fun _ _ => ?_) fun _ h => by cases h
  refine Program.wp_bind.mpr (wp_updateSession (hkey ▸ hvalid) ?_ ?_ fun hcan =>
    absurd hcan (not_canFail _))
  · rw [hkey]
    intro h
    cases hreads.stored.symm.trans h
  dsimp only
  rw [Program.wp_bind]
  refine wp_deleteSession hvalid ?_ fun hcan => absurd hcan (not_canFail _)
  exact wp_tryExcept.mpr (wp_decrement (by decide : 204 < 500) fun hwhy =>
    hwhy.elim (absurd · hvalid.1) fun hcan => absurd hcan (not_canFail _))

theorem responseStatus_nil (hw : w.int ≠ 0#128) :
    responseStatus ((execute (dependencies settings) w .nil).run (serviceMachine env) [] σ).1 =
      500 := by
  have hread : (dependencies settings).sessionStore.getSession w .nil =
      throw (.valueError "NIL UUID not allowed for document_id") := by
    change RedisSessionStore.getSession w .nil = _
    rw [RedisSessionStore.getSession, sessionKey_nil hw]
    rfl
  rw [execute, AbortUploadUseCase.execute, hread]
  rfl

end AbortUpload

/-! ## `PATCH` -/

section Translated

variable {request : ProcessChunkRequest}

theorem isTranslated_offsetMismatch (expected received : ℤ) (s : UUID) :
    (Exc.offsetMismatch expected received s).isTranslated = true := by
  unfold Exc.offsetMismatch
  split
  · rfl
  · split <;> rfl

theorem isTranslated_checksumMismatch (expected computed : String) (index : Option ℤ) (size : ℤ) :
    (Exc.checksumMismatch expected computed index size).isTranslated = true := by
  unfold Exc.checksumMismatch
  repeat' first | split | rfl

theorem translated_verifyChunk (data : Bytes) (checksum : String) (index : Option ℤ) :
    Raises Exc.isTranslated (verifyChunk data checksum index) :=
  raises_bind (raises_raiseIf rfl) fun _ =>
    raises_bind (SHA256Hash.raises_new (fun _ => rfl) checksum) fun _ =>
      raises_raiseIf (isTranslated_checksumMismatch _ _ _ _)

/-- What is wrong with a chunk for a session that is under way has a clause. -/
theorem translated_validate (hactive : ¬ session.status.Terminal) :
    Raises Exc.isTranslated (ProcessChunkUseCase.validate session request) := by
  refine raises_bind (fun e he => absurd (raiseIf_eq_error.mp he).1 hactive) fun _ => ?_
  refine raises_bind (raises_raiseIf (isTranslated_offsetMismatch _ _ _)) fun _ => ?_
  refine raises_bind (raises_raiseIf rfl) fun _ => raises_bind (raises_raiseIf rfl) fun _ => ?_
  exact raises_bind (translated_verifyChunk _ _ _) fun _ => raises_pure _

end Translated

namespace UploadChunk

variable {request : Request} {chunk : ProcessChunkRequest} {error : HTTPException}
  {checksum : String}

theorem validate_status (h : validate request = .error error) : error.statusCode < 500 := by
  unfold validate at h
  split at h
  · cases h
    exact (by decide : 422 < 500)
  · split at h
    · cases h
      exact (by decide : 415 < 500)
    · split at h
      · cases h
        exact (by decide : 422 < 500)
      · split at h
        · cases h
        · split at h
          · cases h
            exact (by decide : 413 < 500)
          · cases h

/-- A clause that asks nothing of the store. -/
theorem wp_failed {e : Exc} {data : Bytes} (he : e.isTranslated = true) :
    AnswersBelow500 (Except.error <$> failed (dependencies settings) w s data e) env σ := by
  cases e with
  | offsetMismatchError expected received s => exact (by decide : 409 < 500)
  | checksumMismatchError expected computed index size => exact (by decide : 460 < 500)
  | valueError message => exact (by decide : 422 < 500)
  | _ => cases he

/-- A chunk that does not meet a finished session. -/
theorem answersBelow500 (hσ : σ.Reachable env settings)
    (hvalid : SessionKey.Valid ⟨chunk.workspaceId, chunk.sessionId⟩)
    (hactive : ∀ session, σ.Reads chunk.workspaceId chunk.sessionId session →
      ¬ session.status.Terminal) :
    AnswersBelow500 (process (dependencies settings) chunk) env σ := by
  rw [AnswersBelow500, process, Program.wp_tryCatch]
  refine wp_map ?_
  rw [ProcessChunkUseCase.execute, Program.wp_bind]
  refine wp_getSession (hσ.wellStored _) (fun session hreads => ?_) (fun _ => ?_)
    fun hwhy => hwhy.elim (absurd hvalid) fun hcan => absurd hcan (not_canFail _)
  rotate_left
  · exact wp_lookUpExpiry hσ hvalid (fun _ _ => (by decide : 404 < 500)) (by decide : 404 < 500)
  dsimp only
  refine wp_ofExcept_bind (fun index hchecked => ?_) fun e he =>
    wp_failed (translated_validate (hactive session hreads) e he)
  rw [Program.wp_bind, wp_tryExcept]
  refine wp_send ?_ fun hcan => absurd hcan (not_canFail _)
  refine wp_ofExcept_bind (fun session' hrecord => ?_) fun e he =>
    wp_failed (ProcessChunkUseCase.raises_recordChunk (fun _ => rfl) e he)
  have hkey : session'.key = ⟨chunk.workspaceId, chunk.sessionId⟩ :=
    (ProcessChunkUseCase.key_recordChunk hrecord (hactive session hreads)).trans hreads.key_eq
  rw [Program.wp_bind]
  refine wp_updateSession (hkey ▸ hvalid) ?_ (by decide : 204 < 500) fun hcan =>
    absurd hcan (not_canFail _)
  rw [hkey]
  intro h
  cases hreads.stored.symm.trans h

/-- The exception for a finished session has no clause of its own. -/
theorem responseStatus_terminal (hreads : σ.Reads chunk.workspaceId chunk.sessionId session)
    (hterminal : session.status.Terminal) :
    responseStatus ((process (dependencies settings) chunk).run (serviceMachine env) [] σ).1 =
      500 := by
  have hrejected : ProcessChunkUseCase.validate session chunk =
      .error (.invalidSessionStateError session.sessionId session.status.value
        "process_chunk") := by
    rw [ProcessChunkUseCase.validate, raiseIf, if_pos hterminal]
    rfl
  rw [process, Program.run_calm_tryCatch, Program.run_calm_map,
    ProcessChunkUseCase.run_of_rejected hreads hrejected]
  rfl

/-- The exception of the key builder is a `ValueError`, for which there is a clause. -/
theorem answersBelow500_nil (hw : chunk.workspaceId.int ≠ 0#128) (hs : chunk.sessionId = .nil) :
    AnswersBelow500 (process (dependencies settings) chunk) env σ := by
  have hread : (dependencies settings).sessionStore.getSession chunk.workspaceId chunk.sessionId =
      throw (.valueError "NIL UUID not allowed for document_id") := by
    change RedisSessionStore.getSession chunk.workspaceId chunk.sessionId = _
    rw [RedisSessionStore.getSession, hs, sessionKey_nil hw]
    rfl
  rw [process, ProcessChunkUseCase.execute, hread]
  exact (by decide : 422 < 500)

theorem process_answersBelow500_iff (hσ : σ.Reachable env settings)
    (hw : chunk.workspaceId.int ≠ 0#128) :
    AnswersBelow500 (process (dependencies settings) chunk) env σ ↔
      ∀ session, σ.Reads chunk.workspaceId chunk.sessionId session →
        ¬ session.status.Terminal := by
  constructor
  · intro h session hreads hterminal
    have hstatus := answersBelow500_iff.mp h
    rw [responseStatus_terminal hreads hterminal] at hstatus
    exact absurd hstatus (lt_irrefl 500)
  · intro hactive
    by_cases hs : chunk.sessionId = .nil
    · exact answersBelow500_nil hw hs
    · exact answersBelow500 hσ ⟨hw, UUID.ne_nil_iff.mp hs⟩ hactive

/-- A checksum that the header yields never stops the request from being built. -/
theorem new_of_parsed (w s : UUID) {data : Bytes} {offset : ℤ}
    (h : validate request = .ok checksum) (hoffset : 0 ≤ offset) (hdata : data ≠ []) :
    ∃ chunk, ProcessChunkRequest.new w s data offset checksum = .ok chunk ∧
      chunk.workspaceId = w ∧ chunk.sessionId = s := by
  have hchecksum : MatchesHex64 checksum := by
    unfold validate at h
    split at h
    · cases h
    · split at h
      · cases h
      · split at h
        · cases h
        · next hparsed =>
            refine .inl (isHex64_of_parseChecksum (hparsed.trans (congrArg Except.ok ?_)))
            split at h
            · exact Except.ok.inj h
            · split at h
              · cases h
              · exact Except.ok.inj h
  unfold ProcessChunkRequest.new
  rw [dif_neg (Int.not_lt.mpr hoffset), dif_neg hdata, dif_pos hchecksum]
  exact ⟨_, rfl, rfl, rfl⟩

theorem execute_answersBelow500_iff (hσ : σ.Reachable env settings) (hw : w.int ≠ 0#128)
    {data : Bytes} (hbody : request.body = .ok data) :
    AnswersBelow500 (execute (dependencies settings) w request) env σ ↔
      (UploadsRequest.patch request).Foreseen σ w := by
  rw [execute, UploadsRequest.Foreseen, hbody]
  -- the headers are checked before anything is asked of the store
  cases hvalidate : validate request with
  | error error => exact iff_of_true (validate_status hvalidate) fun _ h => nomatch h
  | ok checksum =>
      -- building the request raises outside of the `try`
      have hrefused : ∀ e, ProcessChunkRequest.new w request.uploadId data request.uploadOffset
          checksum = .error e → ¬ AnswersBelow500 (do
            let request ← MonadExcept.ofExcept (ProcessChunkRequest.new w request.uploadId data
              request.uploadOffset checksum)
            process (dependencies settings) request) env σ := by
        intro e he
        rw [he]
        exact lt_irrefl 500
      dsimp only
      constructor
      · intro h checksum' hchecksum
        obtain rfl := Except.ok.inj hchecksum
        by_cases hoffset : 0 ≤ request.uploadOffset
        · by_cases hdata : data = []
          · refine absurd h (hrefused (.valueError "chunk_data cannot be empty") ?_)
            rw [ProcessChunkRequest.new, dif_neg (Int.not_lt.mpr hoffset), dif_pos hdata]
          · obtain ⟨chunk, hnew, rfl, hs⟩ :=
              new_of_parsed w request.uploadId hvalidate hoffset hdata
            rw [hnew] at h
            refine ⟨hoffset, fun hempty => hdata (Except.ok.inj hempty), ?_⟩
            rw [← hs]
            exact (process_answersBelow500_iff hσ hw).mp h
        · refine absurd h (hrefused
            (.valueError s!"chunk_offset cannot be negative: {request.uploadOffset}") ?_)
          rw [ProcessChunkRequest.new, dif_pos (Int.not_le.mp hoffset)]
      · intro h
        obtain ⟨hoffset, hdata, hactive⟩ := h checksum rfl
        obtain ⟨chunk, hnew, rfl, hs⟩ := new_of_parsed w request.uploadId hvalidate hoffset
          fun hempty => hdata (congrArg Except.ok hempty)
        rw [hnew]
        rw [← hs] at hactive
        exact (process_answersBelow500_iff hσ hw).mpr hactive

end UploadChunk

/-! ## All three -/

/-- With no command failing, the caller of a workspace is answered below 500 exactly if the request
is one that the handlers foresee. -/
theorem answered_below_500_iff (hσ : σ.Reachable env settings) (hw : w ≠ .nil)
    (request : UploadsRequest) (hbody : request.Readable) :
    responseStatus ((request.handle settings w).run (serviceMachine env) [] σ).1 < 500 ↔
      request.Foreseen σ w := by
  have hw := UUID.ne_nil_iff.mp hw
  rw [← answersBelow500_iff]
  cases request with
  | patch request =>
      obtain ⟨data, hdata⟩ := hbody
      exact UploadChunk.execute_answersBelow500_iff hσ hw hdata
  | head uploadId =>
      constructor
      · rintro h rfl
        have hstatus := answersBelow500_iff.mp h
        rw [UploadsRequest.handle, QueryUploadOffset.responseStatus_nil hw] at hstatus
        exact lt_irrefl 500 hstatus
      · exact fun hs => QueryUploadOffset.answersBelow500 hσ ⟨hw, UUID.ne_nil_iff.mp hs⟩
  | delete uploadId =>
      constructor
      · rintro h rfl
        have hstatus := answersBelow500_iff.mp h
        rw [UploadsRequest.handle, AbortUpload.responseStatus_nil hw] at hstatus
        exact lt_irrefl 500 hstatus
      · exact fun hs => AbortUpload.answersBelow500 hσ ⟨hw, UUID.ne_nil_iff.mp hs⟩

namespace Sample

/-- A chunk with all headers in order. -/
def patch (body : Bytes) : UploadsRequest :=
  .patch ⟨Sample.session, 0, 1, "sha256 " ++ sha256Hexdigest body,
    "application/offset+octet-stream", some (toString body.length), .ok body⟩

end Sample

/-- The chunk that the session is waiting for. -/
theorem answered_below_500_iff_sample :
    responseStatus (((Sample.patch [1]).handle Sample.settings Sample.workspace).run
      (serviceMachine Sample.environment) [] Sample.initiated).1 < 500 ↔
        (Sample.patch [1]).Foreseen Sample.initiated Sample.workspace :=
  answered_below_500_iff (Run.reachable_steps [.call (.initiate Sample.upload) []]) (by decide)
    (Sample.patch [1]) ⟨[1], rfl⟩

/-- An empty chunk is answered with 500. -/
theorem empty_chunk_answered_with_500 :
    ¬ (World.empty.Reachable Sample.environment Sample.settings → Sample.workspace ≠ .nil →
      (Sample.patch []).Readable →
        responseStatus (((Sample.patch []).handle Sample.settings Sample.workspace).run
          (serviceMachine Sample.environment) [] World.empty).1 < 500) := by
  intro h
  have hstatus := h ⟨[], [], nofun, rfl⟩ (by decide) ⟨[], rfl⟩
  have hrun : responseStatus (((Sample.patch []).handle Sample.settings Sample.workspace).run
      (serviceMachine Sample.environment) [] World.empty).1 = 500 := by decide +kernel
  rw [hrun] at hstatus
  exact lt_irrefl 500 hstatus

end RagFileUploader
