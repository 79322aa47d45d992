import RagFileUploader.Serial.StoreSpecs

/-!
# What initiating, uploading a chunk and aborting do

For each of the three smaller use cases an inductive type lists the outcomes of a call: the result
together with the world it leaves, whichever admitted faults hit its commands.
-/

namespace RagFileUploader

open Effects Stores

variable {env : Environment} {F : Fault → Prop} {settings : Settings} {σ : World}

/-! ## Pure steps of a chunk -/

namespace ProcessChunkUseCase

variable {session session' : UploadSession} {request : ProcessChunkRequest} {index newOffset : ℤ}

theorem length_chunkData_pos (request : ProcessChunkRequest) :
    (0 : ℤ) < request.chunkData.length := by
  exact_mod_cast List.length_pos_iff.mpr request.data_ne_nil

theorem verifyChunk_eq_ok {data : Bytes} {checksum : String} {i : Option ℤ}
    (h : verifyChunk data checksum i = .ok ()) : checksum = sha256Hexdigest data := by
  simp only [verifyChunk, except_bind_eq_ok, raiseIf_eq_ok] at h
  obtain ⟨-, -, hash, hhash, hcomputed⟩ := h
  rw [not_not] at hcomputed
  rw [← SHA256Hash.new_eq_ok hhash, ← hcomputed, SHA256Hash.fromBytes_value]

/-- What it takes for a chunk to pass all checks. -/
theorem validate_eq_ok (h : validate session request = .ok index) :
    ¬ session.status.Terminal ∧ request.chunkOffset = session.offset ∧
      (request.chunkData.length : ℤ) ≤ maxChunkSize ∧
      request.chunkChecksum = sha256Hexdigest request.chunkData ∧
      index = session.chunkManifest.length := by
  simp only [validate, except_bind_eq_ok, raiseIf_eq_ok] at h
  obtain ⟨-, hstatus, -, hoffset, -, -, -, hmax, _, hverify, hindex⟩ := h
  refine ⟨hstatus, not_not.mp hoffset, not_lt.mp hmax, verifyChunk_eq_ok hverify, ?_⟩
  cases hindex
  rfl

/-- A chunk that meets all of this passes. -/
theorem validate_of_checks (hactive : ¬ session.status.Terminal)
    (hoffset : request.chunkOffset = session.offset)
    (hmax : (request.chunkData.length : ℤ) ≤ maxChunkSize)
    (hchecksum : request.chunkChecksum = sha256Hexdigest request.chunkData) :
    validate session request = .ok session.chunkManifest.length := by
  have hpos := length_chunkData_pos request
  have hhash : SHA256Hash.new request.chunkChecksum = .ok (.fromBytes request.chunkData) := by
    rw [hchecksum]
    exact SHA256Hash.new_value (.fromBytes request.chunkData)
  simp only [validate, verifyChunk, hhash, except_bind_eq_ok, raiseIf_eq_ok]
  refine ⟨(), hactive, (), not_not_intro hoffset, (), by omega, (), not_lt.mpr hmax, (), ?_, rfl⟩
  refine ⟨(), ?_, _, rfl, not_not_intro rfl⟩
  rintro ⟨i, hi, hneg⟩
  cases hi
  omega

/-- A chunk that was verified enters the manifest under an index that is free. -/
theorem addChunk_of_free (hchecksum : request.chunkChecksum = sha256Hexdigest request.chunkData)
    (hfree : ∀ c ∈ session.chunkManifest, c.index ≠ session.chunkManifest.length) :
    session.addChunk session.chunkManifest.length request.chunkData.length
      request.chunkChecksum = .ok { session with
        chunkManifest := session.chunkManifest ++ [⟨session.chunkManifest.length,
          request.chunkData.length, request.chunkChecksum⟩]
        valid := session.valid } := by
  have hpos := length_chunkData_pos request
  have hblank : isBlank request.chunkChecksum = false := by
    rw [hchecksum]
    obtain ⟨hlength, hdigits⟩ := isHex64_sha256Hexdigest request.chunkData
    have hspace : ∀ c ∈ Hashing.Sha256.hexDigits, isSpace c = false := by decide
    unfold isBlank
    cases hlist : (sha256Hexdigest request.chunkData).toList with
    | nil => simp [hlist] at hlength
    | cons c rest =>
        rw [List.all_cons, hspace c (hdigits c (hlist ▸ List.mem_cons_self)), Bool.false_and]
  simp only [UploadSession.addChunk, except_bind_eq_ok, raiseIf_eq_ok, hblank]
  refine ⟨(), by omega, (), by omega, (), Bool.false_ne_true, (), ?_, rfl⟩
  rintro ⟨c, hc, heq⟩
  exact hfree c hc heq

/-- The session after an accepted chunk. -/
theorem recordChunk_eq_ok (h : recordChunk session request index newOffset = .ok session')
    (hstatus : ¬ session.status.Terminal) :
    session'.toSessionFields =
      { session.toSessionFields with
        chunkManifest := session.chunkManifest ++
          [⟨index, request.chunkData.length, request.chunkChecksum⟩]
        offset := newOffset
        status := .inProgress } := by
  simp only [recordChunk, except_bind_eq_ok] at h
  obtain ⟨s₁, hadd, s₂, hupdate, hmark⟩ := h
  simp only [UploadSession.addChunk, except_bind_eq_ok, raiseIf_eq_ok] at hadd
  obtain ⟨-, -, -, -, -, -, -, -, hs₁⟩ := hadd
  cases hs₁
  unfold UploadSession.updateOffset at hupdate
  split at hupdate
  · cases hupdate
  · split at hupdate
    · cases hupdate
    · split at hupdate
      · cases hupdate
      · cases hupdate
        rcases (SessionStatus.not_terminal_iff _).mp hstatus with hpending | hprogress
        · simp only [hpending, if_true, UploadSession.markInProgress, except_bind_eq_ok] at hmark
          obtain ⟨-, -, hs'⟩ := hmark
          cases hs'
          rfl
        · rw [if_neg (by simp [hprogress])] at hmark
          cases hmark
          simp [hprogress]

theorem key_recordChunk (h : recordChunk session request index newOffset = .ok session')
    (hstatus : ¬ session.status.Terminal) : session'.key = session.key := by
  have := recordChunk_eq_ok h hstatus
  simp [UploadSession.key, this]

/-- Recording a chunk raises `ValueError`. -/
theorem raises_recordChunk {P : Exc → Bool} (hP : ∀ message, P (.valueError message) = true) :
    Raises P (recordChunk session request index newOffset) := by
  refine raises_bind ?_ fun s₁ => raises_bind ?_ fun s₂ => ?_
  · exact raises_bind (raises_raiseIf (hP _)) fun _ => raises_bind (raises_raiseIf (hP _))
      fun _ => raises_bind (raises_raiseIf (hP _)) fun _ => raises_bind (raises_raiseIf (hP _))
        fun _ => raises_pure _
  · intro e h
    unfold UploadSession.updateOffset at h
    repeat' first | split at h | (cases h; done) | (cases h; exact hP _)
  · split
    · exact raises_bind (raises_raiseIf (hP _)) fun _ => raises_pure _
    · exact raises_pure _

/-! ## Outcomes of a chunk -/

/-- A chunk call is rejected without a trace, leaves stray bytes under the next chunk key, or is
accepted. -/
inductive Outcome (F : Fault → Prop) (request : ProcessChunkRequest) (σ : World) :
    Except Exc ProcessChunkResponse → World → Prop
  | rejected (e : Exc) : Outcome F request σ (.error e) σ
  | stray (e : Exc) (session : UploadSession) (index : ℤ)
      (reads : σ.Reads request.workspaceId request.sessionId session)
      (hvalid : validate session request = .ok index)
      (why : (∃ e, recordChunk session request index
          (session.offset + request.chunkData.length) = .error e) ∨ CanFail F .sessions) :
      Outcome F request σ (.error e)
        (σ.putChunk ⟨request.workspaceId, request.sessionId, index⟩ request.chunkData)
  | accepted (session session' : UploadSession) (index : ℤ)
      (reads : σ.Reads request.workspaceId request.sessionId session)
      (hvalid : validate session request = .ok index)
      (hrecord : recordChunk session request index
        (session.offset + request.chunkData.length) = .ok session') :
      Outcome F request σ (.ok ⟨session.offset + request.chunkData.length⟩)
        ((σ.putChunk ⟨request.workspaceId, request.sessionId, index⟩
          request.chunkData).putSession session')

theorem wp_execute (request : ProcessChunkRequest)
    (hσ : σ.StoredWell ⟨request.workspaceId, request.sessionId⟩) :
    (execute (dependencies settings) request).wp (serviceMachine env) F
      (Outcome F request σ) σ := by
  rw [execute, Program.wp_bind]
  refine wp_getSession hσ (fun session hreads => ?_) (fun _ => .rejected _)
    fun _ e _ => .rejected e
  refine wp_ofExcept_bind (fun index hvalid => ?_) fun e _ => .rejected e
  rw [Program.wp_bind, wp_tryExcept]
  refine wp_send ?_ fun _ e _ _ => ⟨fun _ => .rejected _, fun _ => .rejected e⟩
  refine wp_ofExcept_bind (fun session' hrecord => ?_) fun e he =>
    .stray e session index hreads hvalid (.inl ⟨e, he⟩)
  have hkey : session'.key = ⟨request.workspaceId, request.sessionId⟩ :=
    (key_recordChunk hrecord (validate_eq_ok hvalid).1).trans hreads.key_eq
  rw [Program.wp_bind]
  refine wp_updateSession (hkey ▸ hreads.valid) ?_ ?_ fun hcan e _ =>
    .stray e session index hreads hvalid (.inr hcan)
  · rw [hkey]
    exact fun h => nomatch (hreads.stored.symm.trans h)
  · exact .accepted session session' index hreads hvalid hrecord

end ProcessChunkUseCase

/-! ## Outcomes of an abort -/

namespace AbortUploadUseCase

variable {w s : UUID}

/-- The world without a session and its expiry metadata. -/
def removed (σ : World) (w s : UUID) : World :=
  { σ with sessions := σ.sessions.erase ⟨w, s⟩, expiry := σ.expiry.erase s }

inductive Outcome (F : Fault → Prop) (w s : UUID) (σ : World) : Except Exc Unit → World → Prop
  | rejected (e : Exc) : Outcome F w s σ (.error e) σ
  | marked (e : Exc) (session : UploadSession) (reads : σ.Reads w s session)
      (hactive : ¬ session.status.Terminal) (why : CanFail F .sessions) :
      Outcome F w s σ (.error e) (σ.putSession session.markAborted)
  | removed (r : Except Exc Unit) (session : UploadSession) (counters : UUID → Option ℤ)
      (reads : σ.Reads w s session) (hactive : ¬ session.status.Terminal)
      (hr : r = .ok () ∨ CanFail F .counters) (released : Released F σ w counters) :
      Outcome F w s σ r { removed σ w s with counters }

theorem validate_eq_ok {session : UploadSession} (h : validate w s session = .ok ()) :
    ¬ session.status.Terminal := by
  simp only [validate, except_bind_eq_ok, raiseIf_eq_ok] at h
  obtain ⟨-, hactive, -⟩ := h
  exact hactive

theorem wp_execute (w s : UUID) (hσ : σ.StoredWell ⟨w, s⟩) :
    (execute (dependencies settings) w s).wp (serviceMachine env) F (Outcome F w s σ) σ := by
  rw [execute, Program.wp_bind]
  refine wp_getSession hσ (fun session hreads => ?_) (fun _ => .rejected _)
    fun _ e _ => .rejected e
  refine wp_ofExcept_bind (fun _ hvalid => ?_) fun e _ => .rejected e
  have hactive : ¬ session.status.Terminal := validate_eq_ok hvalid
  have hkey : session.markAborted.key = ⟨w, s⟩ := hreads.key_eq
  rw [Program.wp_bind]
  refine wp_updateSession (hkey ▸ hreads.valid) ?_ ?_ fun _ e _ => .rejected e
  · rw [hkey]
    exact fun h => nomatch (hreads.stored.symm.trans h)
  dsimp only
  rw [Program.wp_bind]
  have herase : (σ.putSession session.markAborted).sessions.erase ⟨w, s⟩ =
      σ.sessions.erase ⟨w, s⟩ := by
    simp [World.putSession, hkey, Keyspace.erase, Keyspace.overwrite, Keyspace.put]
  have hremoved : { σ.putSession session.markAborted with
      sessions := (σ.putSession session.markAborted).sessions.erase ⟨w, s⟩
      expiry := (σ.putSession session.markAborted).expiry.erase s } = removed σ w s := by
    rw [herase]
    rfl
  refine wp_deleteSession hreads.valid ?_ fun hcan e _ =>
    .marked e session hreads hactive hcan
  rw [hremoved]
  dsimp only
  rw [wp_tryExcept]
  refine wp_decrement (.removed _ session _ hreads hactive (.inl rfl) (.inl rfl)) ?_
  intro hwhy e _
  have hcan : CanFail F .counters := hwhy.resolve_left hreads.valid.1
  refine ⟨⟨fun _ => ?_, fun _ => ?_⟩, fun hlt => ⟨fun _ => ?_, fun _ => ?_⟩⟩
  · exact .removed _ session _ hreads hactive (.inl rfl) (.inr ⟨hcan, .inl rfl⟩)
  · exact .removed _ session _ hreads hactive (.inr hcan) (.inr ⟨hcan, .inl rfl⟩)
  · exact .removed _ session _ hreads hactive (.inl rfl) (.inr ⟨hcan, .inr ⟨hlt, rfl⟩⟩)
  · exact .removed _ session _ hreads hactive (.inr hcan) (.inr ⟨hcan, .inr ⟨hlt, rfl⟩⟩)

end AbortUploadUseCase

/-! ## Outcomes of an initiation -/

namespace InitiateUploadUseCase

variable {request : InitiateUploadRequest} {sessionId : UUID} {createdAt expiresAt : DateTime}
  {session : UploadSession}

theorem newSession_eq_ok (h : newSession request sessionId createdAt expiresAt = .ok session) :
    session.key = ⟨request.workspaceId, sessionId⟩ ∧ session.status = .pending ∧
      session.offset = 0 ∧ session.chunkManifest = [] ∧ session.size = request.size ∧
      session.sha256Checksum.value = request.sha256Checksum := by
  simp only [newSession, except_bind_eq_ok, UploadSession.new_eq_ok_iff] at h
  obtain ⟨hash, hhash, hfields⟩ := h
  simp [UploadSession.key, hfields, SHA256Hash.new_eq_ok hhash]

theorem raises_validateFilename {filename : String} :
    Raises Exc.isPlain (RagFileUploader.validateFilename filename) :=
  raises_bind (raises_raiseIf rfl) fun _ => raises_bind (raises_raiseIf rfl)
    fun _ => raises_bind (raises_raiseIf rfl) fun _ => raises_raiseIf rfl

theorem raises_validate : Raises Exc.isPlain (validate request) :=
  raises_bind raises_validateFilename fun _ => raises_bind
    (raises_bind (raises_raiseIf rfl) fun _ => raises_raiseIf rfl) fun _ => raises_bind
      (raises_bind (raises_raiseIf rfl) fun _ => raises_raiseIf rfl) fun _ => raises_raiseIf rfl

theorem raises_postInit (f : SessionFields) : Raises Exc.isPlain f.postInit :=
  raises_bind raises_validateFilename fun _ => raises_bind (raises_raiseIf rfl)
    fun _ => raises_bind (raises_raiseIf rfl) fun _ => raises_bind (raises_raiseIf rfl)
      fun _ => raises_bind (raises_raiseIf rfl) fun _ => raises_bind (raises_raiseIf rfl)
        fun _ => raises_bind (raises_raiseIf rfl) fun _ => raises_raiseIf rfl

theorem raises_newSession :
    Raises Exc.isPlain (newSession request sessionId createdAt expiresAt) :=
  raises_bind (SHA256Hash.raises_new (fun _ => rfl) _)
    fun _ => raises_checked_iff.mpr (raises_postInit _)

/-- The world in which a slot is taken and an id and a timestamp are used up. -/
def reserved (σ : World) (w : UUID) : World :=
  { σ.setCounter w (σ.counter w + 1) with
    drawn := σ.drawn + 1, clockReads := σ.clockReads + 1 }

/-- The world with a fresh session in it. -/
def created (σ : World) (session : UploadSession) : World :=
  { reserved σ session.workspaceId with
    sessions := σ.sessions.put session.key (RedisSessionStore.serializeSession session)
      (σ.deadline RedisSessionStore.ttlSeconds)
    expiry := σ.expiry.put session.sessionId (RedisSessionStore.expiryMetadata session)
      (σ.deadline RedisSessionStore.expiryTtlSeconds) }

/-- An initiation is refused, takes a slot and gives it back, or creates a session. -/
inductive Outcome (env : Environment) (settings : Settings) (F : Fault → Prop)
    (request : InitiateUploadRequest) (σ : World) : Except Exc InitiateUploadResponse → World → Prop
  | refused (e : Exc) (hlimit : e.isRateLimitExceededError = true →
        settings.maxConcurrentUploads ≤ σ.counter request.workspaceId ∨ CanFail F .counters) :
      Outcome env settings F request σ (.error e) σ
  | rolledBack (e : Exc) (n : ℤ) (hlimit : e.isRateLimitExceededError = false ∨ CanFail F .sessions)
      (hcounter : n = max 0 (σ.counter request.workspaceId) ∨ CanFail F .counters ∧
        (n = σ.counter request.workspaceId + 1 ∨
          σ.counter request.workspaceId < 0 ∧ n = σ.counter request.workspaceId)) :
      Outcome env settings F request σ (.error e)
        ((reserved σ request.workspaceId).setCounter request.workspaceId n)
  | created (session : UploadSession) (createdAt expiresAt : DateTime)
      (hvalid : session.key.Valid)
      (hnew : newSession request (env.uuid4 σ.drawn) createdAt expiresAt = .ok session) :
      Outcome env settings F request σ (.ok ⟨env.uuid4 σ.drawn, 0, expiresAt⟩) (created σ session)

theorem wp_createSession (request : InitiateUploadRequest) {Q : Except Exc _ → World → Prop}
    (hok : ∀ session createdAt expiresAt, session.key.Valid →
      newSession request (env.uuid4 σ.drawn) createdAt expiresAt = .ok session →
      Q (.ok ⟨env.uuid4 σ.drawn, 0, expiresAt⟩) { σ with
        drawn := σ.drawn + 1
        clockReads := σ.clockReads + 1
        sessions := σ.sessions.put session.key (RedisSessionStore.serializeSession session)
          (σ.deadline RedisSessionStore.ttlSeconds)
        expiry := σ.expiry.put session.sessionId (RedisSessionStore.expiryMetadata session)
          (σ.deadline RedisSessionStore.expiryTtlSeconds) })
    (hfail : ∀ e, e.isException = true → e.isPlain = true ∨ CanFail F .sessions →
      Q (.error e) { σ with drawn := σ.drawn + 1, clockReads := σ.clockReads + 1 }) :
    (createSession (dependencies settings) request).wp (serviceMachine env) F Q σ := by
  rw [createSession, Program.wp_bind]
  refine wp_send_runtime rfl ?_
  simp only [Command.act]
  rw [Program.wp_bind]
  refine wp_send_runtime rfl ?_
  simp only [Command.act]
  refine wp_ofExcept_bind (fun session hnew => ?_) fun e he =>
    hfail e (Exc.isException_of_isPlain (raises_newSession e he)) (.inl (raises_newSession e he))
  rw [Program.wp_bind]
  refine RagFileUploader.wp_createSession (fun hvalid => ?_) hfail
  have hresponse : ∀ t, InitiateUploadResponse.new (env.uuid4 σ.drawn) 0
      ((DateTime.utc t).addHours 24) = .ok ⟨env.uuid4 σ.drawn, 0, (DateTime.utc t).addHours 24⟩ :=
    fun _ => rfl
  refine wp_ofExcept (fun response h => ?_) fun e h => ?_
  · cases (hresponse _).symm.trans h
    exact hok session _ _ hvalid hnew
  · cases (hresponse _).symm.trans h

theorem wp_execute (request : InitiateUploadRequest) :
    (execute (dependencies settings) request).wp (serviceMachine env) F
      (Outcome env settings F request σ) σ := by
  refine wp_ofExcept_bind (fun _ _ => ?_) fun e he => .refused e fun h =>
    nomatch (Exc.isRateLimitExceededError_of_isPlain (raises_validate e he)).symm.trans h
  rw [Program.wp_bind]
  refine wp_checkAndIncrement (fun hw _ => ?_) (fun hmax => .refused _ fun _ => .inl hmax)
    fun e _ hwhy => .refused e fun h => .inr (hwhy.resolve_left fun hn => by simp [h] at hn)
  dsimp only
  rw [wp_tryExcept]
  set σ₁ := σ.setCounter request.workspaceId (σ.counter request.workspaceId + 1) with hσ₁
  refine wp_createSession request (fun session createdAt expiresAt hvalid hnew => ?_)
    fun e he hwhy => ⟨fun _ => ?_, fun hno => nomatch he.symm.trans hno⟩
  · have hworkspace : session.workspaceId = request.workspaceId :=
      congrArg SessionKey.workspaceId (newSession_eq_ok hnew).1
    have : Outcome env settings F request σ _ _ := .created session createdAt expiresAt hvalid hnew
    rw [InitiateUploadUseCase.created, hworkspace] at this
    exact this
  · -- the slot is given back, if that gets through
    have hlimit : e.isRateLimitExceededError = false ∨ CanFail F .sessions :=
      hwhy.imp_left Exc.isRateLimitExceededError_of_isPlain
    have hcount : (reserved σ request.workspaceId).counter request.workspaceId =
        σ.counter request.workspaceId + 1 := by
      change (σ.setCounter _ _).counter _ = _
      simp
    have hsame : (reserved σ request.workspaceId).setCounter request.workspaceId
        (σ.counter request.workspaceId + 1) = reserved σ request.workspaceId := by
      simp [reserved, World.setCounter]
    rw [Program.wp_bind]
    refine wp_swallow (s := reserved σ request.workspaceId) (wp_decrement ?_ ?_)
    · rw [hcount, Int.add_sub_cancel]
      exact .rolledBack e _ hlimit (.inl rfl)
    · intro hdec e' he'
      have hcan : CanFail F .counters := hdec.resolve_left hw
      rw [hcount, Int.add_sub_cancel]
      refine ⟨⟨he', ?_⟩, fun hlt => ⟨he', ?_⟩⟩
      · have : Outcome env settings F request σ _ _ :=
          .rolledBack e _ hlimit (.inr ⟨hcan, .inl rfl⟩)
        rw [hsame] at this
        exact this
      · exact .rolledBack e _ hlimit (.inr ⟨hcan, .inr ⟨by omega, rfl⟩⟩)

end InitiateUploadUseCase

end RagFileUploader
