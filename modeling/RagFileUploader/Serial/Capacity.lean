import RagFileUploader.Serial.Slots

/-!
# Capacity over whole runs

The counter of a workspace over a healthy Redis, in every run.  `initiate_not_limited` is what an
operator can rely on although sessions expire behind the counter's back, and `slots_returned` says
when the counter is the number of sessions under way.

* `slotted_steps` carries the invariant of `Slots.lean`, that the counter is the number of open
  sessions, expired ones included, over a run on a healthy Redis.
* `Unobstructed.no_obstacle` says which completions go through, and `CallOutcome.storedActive` what
  a call does to the sessions under way.
* `Run.Settled` is the invariant of the orderly runs, in which nothing expires and whatever is
  completed goes through; `CallOutcome.settled` is its step and `slots_returned` reads the counter
  off it.
-/

namespace RagFileUploader

open Effects Stores

variable {env : Environment} {settings : Settings} {F : Fault → Prop} {σ σ' : World} {w s : UUID}
  {run : Run}

/-- The counter counts the open sessions in every run over a healthy Redis. -/
theorem slotted_steps {C : Run → Op → Prop} {ops : List Op}
    (hhealthy : ∀ run op, C run op → op.RedisHealthy)
    (hC : Run.Within env settings C Run.start ops)
    (hids : ((Run.steps env settings Run.start ops).world.ids env).Nodup) :
    (Run.steps env settings Run.start ops).Slotted env := by
  refine (Run.steps_induction (C := C) (I := fun run => (run.world.ids env).Nodup →
    run.Slotted env) (fun run c faults r σ' _ h hop houtcome hids => ?_)
    (fun run ms _ h _ hids => ?_) Run.wellStored_start (fun _ => ?_) hC).2 hids
  · exact houtcome.slotted (Spared.not_canFail (hhealthy run _ hop)) hids
      (h (hids.sublist (ids_sublist houtcome.drawn_le)))
  · exact ⟨(h hids).issued, (h hids).known, (h hids).open_of_active, (h hids).counter⟩
  · refine ⟨fun _ _ h => (nomatch h), fun _ _ _ h => (nomatch h), fun _ _ _ h => (nomatch h),
      fun w => ?_⟩
    have hempty : openSessions Run.start.history w = ∅ :=
      Set.eq_empty_of_forall_notMem fun s ⟨⟨_, h, _⟩, _⟩ => nomatch h
    rw [hempty, Set.ncard_empty]
    rfl

/-! ## Room for another upload -/

/-- The counter of a workspace counts its sessions that are neither completed nor aborted, expired
or not; and while they are fewer than the limit, no initiation is turned away by the rate
limiter. -/
theorem initiate_not_limited (env : Environment) (settings : Settings) (ops : List Op)
    (request : InitiateUploadRequest) (hhealthy : ∀ op ∈ ops, op.RedisHealthy)
    (hids : ((Run.steps env settings Run.start ops).world.ids env).Nodup) :
    (Run.steps env settings Run.start ops).world.counter request.workspaceId =
        (openSessions (Run.steps env settings Run.start ops).history request.workspaceId).ncard ∧
      (((openSessions (Run.steps env settings Run.start ops).history
          request.workspaceId).ncard : ℤ) < settings.maxConcurrentUploads →
        ∀ faults, (Op.call (.initiate request) faults).RedisHealthy →
          ∀ e, (Run.call env settings (Run.steps env settings Run.start ops).world
              (.initiate request) faults).1 = .error e → e.isRateLimitExceededError = false) := by
  have hslotted : (Run.steps env settings Run.start ops).Slotted env :=
    slotted_steps (C := fun _ op => op.RedisHealthy) (fun _ _ h => h)
      (Run.within_of_forall (fun op hop _ => hhealthy op hop) _) hids
  refine ⟨hslotted.counter _, fun hroom faults hfaults e hraises => ?_⟩
  have houtcome : CallOutcome env settings (some · ∈ faults)
      (Run.steps env settings Run.start ops).world (.initiate request) _ _ :=
    call_outcome (Run.wellStored_steps ops) (.initiate request) faults
  have hcounters : ¬ CanFail (some · ∈ faults) .counters := Spared.not_canFail hfaults _ (by simp)
  have hsessions : ¬ CanFail (some · ∈ faults) .sessions := Spared.not_canFail hfaults _ (by simp)
  rw [hraises] at houtcome
  generalize (Run.call env settings (Run.steps env settings Run.start ops).world
    (.initiate request) faults).2 = σ' at houtcome
  generalize hr : (Except.error e : Except Exc Response) = r at houtcome
  cases houtcome with
  | initiate ho =>
      cases ho with
      | refused e' hlimit =>
          cases hr
          by_contra hlimited
          rcases hlimit (by simpa using hlimited) with hmax | hcan
          · rw [hslotted.counter] at hmax
            omega
          · exact hcounters hcan
      | rolledBack e' n hlimit =>
          cases hr
          exact hlimit.resolve_right hsessions
      | created => cases hr

namespace Sample

/-- The session that is initiated has been gone for a millisecond. -/
def expired : List Op := [.call (.initiate upload) [], .tick 86400001]

end Sample

/-- A session that expired keeps its slot: the workspace has no session under way, and yet the
next upload is turned away. -/
theorem expired_keeps_slot :
    (Run.steps Sample.environment Sample.settings Run.start
        Sample.expired).world.activeSessions Sample.workspace = ∅ ∧
      InitiateUploadUseCase.validate Sample.upload = .ok () ∧
      (Run.call Sample.environment Sample.settings (Run.steps Sample.environment Sample.settings
          Run.start Sample.expired).world (.initiate Sample.upload) []).1 =
        .error (.rateLimitExceededError Sample.workspace.str 1 1 60) :=
  ⟨activeSessions_eq_empty (traced_steps _).issued (by decide +kernel), by decide +kernel,
    by decide +kernel⟩

/-- The first session has expired and still holds one of two slots. -/
theorem initiate_not_limited_sample :
    (Run.steps Sample.environment Sample.twoUploads Run.start
        Sample.expired).world.counter Sample.workspace =
        (openSessions (Run.steps Sample.environment Sample.twoUploads Run.start
          Sample.expired).history Sample.workspace).ncard ∧
      (((openSessions (Run.steps Sample.environment Sample.twoUploads Run.start
          Sample.expired).history Sample.workspace).ncard : ℤ) < 2 →
        ∀ faults, (Op.call (.initiate Sample.upload) faults).RedisHealthy →
          ∀ e, (Run.call Sample.environment Sample.twoUploads (Run.steps Sample.environment
              Sample.twoUploads Run.start Sample.expired).world (.initiate Sample.upload)
              faults).1 = .error e → e.isRateLimitExceededError = false) :=
  initiate_not_limited Sample.environment Sample.twoUploads Sample.expired Sample.upload
    (by decide) (by decide +kernel)

/-! ## Completions that go through -/

namespace CompleteUploadUseCase

variable {request : CompleteUploadRequest} {session : UploadSession}

/-- The bytes under the chunk keys of a session, in the order of the indices. -/
def storedChunks (σ : World) (request : CompleteUploadRequest) (session : UploadSession) :
    List Bytes :=
  (sortManifest session.chunkManifest).map fun chunkMeta =>
    (σ.chunk? ⟨request.workspaceId, request.sessionId, chunkMeta.index⟩).getD []

theorem Retrieved.eq_storedChunks {chunks : List Bytes}
    (h : Retrieved σ request.workspaceId request.sessionId (sortManifest session.chunkManifest)
      chunks) : chunks = storedChunks σ request session := by
  unfold storedChunks Retrieved at *
  generalize sortManifest session.chunkManifest = manifest at h ⊢
  induction h with
  | nil => rfl
  | cons hchunk _ ih => rw [List.map_cons, hchunk, Option.getD_some, ← ih]

/-- Nothing stands between a ready session and its event: no file at its key, content that fits
the checksum and S3's part limit, no registered duplicate, a clock that does not run backwards
between two readings, and no fault in S3, in the duplicate lookup or in the publisher. -/
structure Unobstructed (env : Environment) (σ : World) (request : CompleteUploadRequest)
    (session : UploadSession) (faults : List (Option Fault)) : Prop where
  absent : σ.objects (fileKey request) = none
  sha : sha256Hexdigest (storedChunks σ request session).flatten = session.sha256Checksum.value
  parts : session.chunkManifest.length ≤ 10000
  unregistered : σ.dedup request.workspaceId session.sha256Checksum.value = none
  clock : env.wallClock σ.clockReads ≤ env.wallClock (σ.clockReads + 1)
  faults : Spared [.s3, .dedupLookup, .publisher] faults

instance {faults : List (Option Fault)} :
    Decidable (Unobstructed env σ request session faults) :=
  decidable_of_iff (σ.objects (fileKey request) = none ∧
      sha256Hexdigest (storedChunks σ request session).flatten = session.sha256Checksum.value ∧
      session.chunkManifest.length ≤ 10000 ∧
      σ.dedup request.workspaceId session.sha256Checksum.value = none ∧
      env.wallClock σ.clockReads ≤ env.wallClock (σ.clockReads + 1) ∧
      Spared [.s3, .dedupLookup, .publisher] faults)
    ⟨fun ⟨h₁, h₂, h₃, h₄, h₅, h₆⟩ => ⟨h₁, h₂, h₃, h₄, h₅, h₆⟩,
      fun ⟨h₁, h₂, h₃, h₄, h₅, h₆⟩ => ⟨h₁, h₂, h₃, h₄, h₅, h₆⟩⟩

theorem s3Path_prefix (key : S3Key) :
    "s3://".toList <+: (S3StorageClient.s3Path settings key).toList := by
  simp [S3StorageClient.s3Path, ToString.toString, List.append_assoc]

theorem s3Path_workspace (key : S3Key) :
    contains s!"/workspace_{key.workspaceId}/" (S3StorageClient.s3Path settings key) := by
  refine ⟨"s3://".toList ++ settings.s3BucketName.toList, (s!"{key.fileId}.pdf").toList, ?_⟩
  simp [S3StorageClient.s3Path, ToString.toString, S3Key.str, List.append_assoc]

theorem s3Path_fileId (key : S3Key) :
    contains key.fileId.str (S3StorageClient.s3Path settings key) := by
  refine ⟨(s!"s3://{settings.s3BucketName}/workspace_{key.workspaceId}/").toList, ".pdf".toList, ?_⟩
  simp [S3StorageClient.s3Path, ToString.toString, S3Key.str, List.append_assoc]

/-- The event of a file of a legal size is valid if the clock does not go back. -/
theorem postInit_event {size t t' : ℤ} (sha256Checksum : SHA256Hash)
    (hkey : SessionKey.Valid ⟨request.workspaceId, request.sessionId⟩) (hpos : 0 < size)
    (hle : size ≤ maxFileSizeBytes) (hclock : t ≤ t') :
    EventFields.postInit
      { fileId := request.sessionId
        workspaceId := request.workspaceId
        s3Path := S3StorageClient.s3Path settings (fileKey request)
        sha256Checksum
        sizeBytes := size
        uploadedAt := .utc t
        timestamp := .utc t' } = .ok () := by
  have hworkspace : request.workspaceId ≠ .nil := fun h => hkey.1 (congrArg UUID.int h)
  have hfile : request.sessionId ≠ .nil := fun h => hkey.2 (congrArg UUID.int h)
  have hsafe : size ≤ maxSafeJsonInteger := hle.trans (by decide)
  rw [EventFields.postInit_eq_ok_iff]
  exact ⟨rfl, rfl, hfile, hworkspace, nofun, nofun, hpos, hsafe, .inl sha256Checksum.isHex,
    s3Path_prefix (fileKey request), s3Path_workspace (fileKey request),
    s3Path_fileId (fileKey request), hclock⟩

/-- The event of a file of a legal size is valid. -/
theorem postInit_eventFields {chunks : List Bytes}
    (hkey : SessionKey.Valid ⟨request.workspaceId, request.sessionId⟩)
    (hpos : (0 : ℤ) < chunks.flatten.length) (hle : (chunks.flatten.length : ℤ) ≤ maxFileSizeBytes)
    (hclock : env.wallClock σ.clockReads ≤ env.wallClock (σ.clockReads + 1)) :
    (eventFields env settings σ request session chunks).postInit = .ok () :=
  postInit_event _ hkey hpos hle hclock

/-- Over a healthy Redis nothing but an obstruction keeps a ready session from its event. -/
theorem Unobstructed.no_obstacle {faults : List (Option Fault)} {D : SessionKey → List Bytes}
    (h : Unobstructed env σ request session faults)
    (hreads : σ.Reads request.workspaceId request.sessionId session) (hrep : Represented σ D)
    (hready : validateSession request session = .ok ())
    (hchunks : ¬ CanFail (some · ∈ faults) .chunks) :
    ¬ Obstacle env settings (some · ∈ faults) σ request session := by
  obtain ⟨hstatus, hoffset, hne⟩ := validateSession_eq_ok hready
  obtain ⟨d, hentry, hlive⟩ := hreads.exists_entry
  have hrepresents := hrep _ _ hentry
  set datas := D ⟨request.workspaceId, request.sessionId⟩ with hdatas
  have hmanifest : session.chunkManifest = manifestOf datas := hrepresents.manifest
  have hretrieved : ∀ chunks, Retrieved σ request.workspaceId request.sessionId
      (sortManifest session.chunkManifest) chunks → chunks = datas := fun chunks hr =>
    hr.eq hrepresents hstatus
  have hfault := h.faults.not_canFail
  -- the five kinds of obstacle, one after another
  rintro (⟨c, hmem, hnone⟩ | ⟨area, harea, hcan⟩ | hdup | ⟨chunks, hr, hassembly⟩ |
    ⟨chunks, e, hr, hevent⟩)
  · obtain ⟨bytes, hbytes, -⟩ :=
      hrepresents.backs hlive (congrArg SessionStatus.value hstatus) c hmem
    cases hbytes.symm.trans hnone
  · simp only [List.mem_cons, List.not_mem_nil, or_false] at harea
    rcases harea with rfl | rfl | rfl
    · exact hchunks hcan
    · exact hfault _ (by simp) hcan
    · exact hfault _ (by simp) hcan
  · exact hdup h.unregistered
  · have hdata := hretrieved chunks hr
    rcases hassembly with hinvalid | hpresent | hsha | hcan
    · refine hinvalid ?_
      simp only [S3StorageClient.validateChunkData, except_bind_eq_ok, raiseIf_eq_ok]
      refine ⟨(), ?_, (), ?_, ?_⟩
      · rw [hmanifest, ← hdata] at hne
        simpa using hne
      · rintro ⟨chunk, hchunk, hzero⟩
        have := (hrepresents.sizes chunk (hdata ▸ hchunk)).1
        omega
      · have hparts := h.parts
        rw [hmanifest, length_manifestOf, ← hdata] at hparts
        omega
    · exact hpresent h.absent
    · exact hsha (hr.eq_storedChunks ▸ h.sha)
    · exact hfault _ (by simp) hcan
  -- the event is built from values that pass its checks
  · have hsize : session.size = chunks.flatten.length := by
      rw [← hoffset, hretrieved chunks hr]
      exact hrepresents.offset
    have hvalid : (eventFields env settings σ request session chunks).postInit = .ok () :=
      postInit_eventFields hreads.valid (hsize ▸ session.size_pos) (hsize ▸ session.size_le)
        h.clock
    have hnew : FileLoadCompletedEvent.new
        (eventFields env settings σ request session chunks) = .ok ⟨_, hvalid⟩ :=
      FileLoadCompletedEvent.new_eq_ok_iff.mpr rfl
    cases hnew.symm.trans hevent

end CompleteUploadUseCase

/-! ## Slots that are returned -/

/-- A session is stored and its upload is under way. -/
def StoredActive (σ : World) (w s : UUID) : Prop :=
  ∃ entry, σ.sessions ⟨w, s⟩ = some entry ∧ entry.value.Active

/-- Over a healthy Redis and with nothing in the way of completions, a session stays under way
until its slot is returned. -/
theorem CallOutcome.storedActive {c : Call} {r : Except Exc Response}
    (houtcome : CallOutcome env settings F σ c r σ')
    (hhealthy : ∀ area ∈ [Area.sessions, .chunks, .counters], ¬ CanFail F area)
    (hsettles : ∀ request session, c = .complete request →
      σ.Reads request.workspaceId request.sessionId session →
      CompleteUploadUseCase.validateSession request session = .ok () →
      ¬ CompleteUploadUseCase.Obstacle env settings F σ request session) :
    (∀ w s, Record.takes w ⟨c, r⟩ = some s → StoredActive σ' w s) ∧
      ∀ w s, StoredActive σ w s → Record.returns w ⟨c, r⟩ ≠ some s → StoredActive σ' w s := by
  have hsessions : ¬ CanFail F .sessions := hhealthy _ (by simp)
  have hcounters : ¬ CanFail F .counters := hhealthy _ (by simp)
  cases houtcome with
  | @initiate request r σ' ho =>
      cases ho with
      | refused => exact ⟨fun _ _ h => (by cases h), fun _ _ h _ => h⟩
      | rolledBack => exact ⟨fun _ _ h => (by cases h), fun _ _ h _ => h⟩
      | created session createdAt expiresAt hvalid hnew =>
          obtain ⟨hkey, hstatus, -⟩ := InitiateUploadUseCase.newSession_eq_ok hnew
          -- the fresh session is stored as PENDING
          have hactive : (RedisSessionStore.serializeSession session).Active :=
            active_serialize.mpr (by rw [hstatus]; decide)
          have hput : ∀ w s, (⟨w, s⟩ : SessionKey) = session.key →
              StoredActive (InitiateUploadUseCase.created σ session) w s := by
            intro w s heq
            refine ⟨⟨RedisSessionStore.serializeSession session,
              σ.deadline RedisSessionStore.ttlSeconds⟩, ?_, hactive⟩
            rw [heq]
            exact Keyspace.put_self
          refine ⟨fun w s htakes => hput w s ?_, ?_⟩
          · change (if request.workspaceId = w then some (env.uuid4 σ.drawn) else none) = _
              at htakes
            split at htakes
            · next hw =>
                cases htakes
                rw [hkey, hw]
            · cases htakes
          · rintro w s ⟨entry, hentry, hact⟩ -
            by_cases heq : (⟨w, s⟩ : SessionKey) = session.key
            · exact hput w s heq
            · exact ⟨entry, (Keyspace.put_of_ne heq).trans hentry, hact⟩
  | @processChunk request r σ' ho =>
      cases ho with
      | rejected => exact ⟨fun _ _ h => (by cases h), fun _ _ h _ => h⟩
      | stray => exact ⟨fun _ _ h => (by cases h), fun _ _ h _ => h⟩
      | accepted session session' index reads hvalid hrecord =>
          have hactive := (ProcessChunkUseCase.validate_eq_ok hvalid).1
          have hkey : session'.key = ⟨request.workspaceId, request.sessionId⟩ :=
            (ProcessChunkUseCase.key_recordChunk hrecord hactive).trans reads.key_eq
          have hprogress : session'.status = .inProgress := by
            rw [ProcessChunkUseCase.recordChunk_eq_ok hrecord hactive]
          obtain ⟨d, hstored, hlive⟩ := reads.exists_entry
          refine ⟨fun _ _ h => (by cases h), ?_⟩
          rintro w s ⟨entry, hentry, hact⟩ -
          -- the chunk's own session is IN_PROGRESS now; the others are as before
          by_cases heq : (⟨w, s⟩ : SessionKey) = ⟨request.workspaceId, request.sessionId⟩
          · rw [StoredActive, heq]
            exact ⟨_, putSession_self hkey hstored hlive,
              active_serialize.mpr (by rw [hprogress]; decide)⟩
          · refine ⟨entry, ?_, hact⟩
            simp only [World.putSession, hkey]
            exact (Keyspace.overwrite_of_ne heq).trans hentry
  | @complete request r σ' ho =>
      cases ho with
      | notReady => exact ⟨fun _ _ h => (by cases h), fun _ _ h _ => h⟩
      | unpublished e session σ' reads ready obstacle =>
          exact absurd obstacle (hsettles request session rfl reads ready)
      | unsettled e session chunks σ' _ _ _ why =>
          exact absurd why (not_or.mpr ⟨hsessions, hcounters⟩)
      | completed session chunks σ₁ σ' reads ready hpublished hframe hcompleted =>
          refine ⟨fun _ _ h => (by cases h), ?_⟩
          rintro w s ⟨entry, hentry, hact⟩ hreturns
          -- a session that the call returns is another one
          have hne : (⟨w, s⟩ : SessionKey) ≠ session.key := by
            rw [reads.key_eq]
            intro heq
            cases heq
            exact hreturns (if_pos rfl)
          refine ⟨entry, ?_, hact⟩
          rw [hcompleted.sessions]
          simp only [World.putSession, hframe.1]
          exact (Keyspace.overwrite_of_ne hne).trans hentry
  | @abort w s r σ' ho =>
      cases ho with
      | rejected => exact ⟨fun _ _ h => (by cases h), fun _ _ h _ => h⟩
      | marked e session reads hactive why => exact absurd why hsessions
      | removed r session counters reads hactive hr =>
          obtain rfl : r = .ok () := hr.resolve_right hcounters
          refine ⟨fun _ _ h => (by cases h), ?_⟩
          rintro w' s' ⟨entry, hentry, hact⟩ hreturns
          have hne : (⟨w', s'⟩ : SessionKey) ≠ ⟨w, s⟩ := by
            intro heq
            cases heq
            exact hreturns (if_pos rfl)
          exact ⟨entry, (Keyspace.erase_of_ne hne).trans hentry, hact⟩

/-- Time passing does not let a stored session expire. -/
def Op.Unexpiring (run : Run) : Op → Prop
  | .call _ _ => True
  | .tick ms => ∀ key entry, run.world.sessions key = some entry →
      entry.Live (run.world.clock + ms)

/-- The session that a reader of the key gets. -/
def World.stored? (σ : World) (w s : UUID) : Option UploadSession :=
  (σ.session? ⟨w, s⟩).bind fun data => (RedisSessionStore.deserializeSession data).toOption

theorem World.Reads.stored?_eq {session : UploadSession} (h : σ.Reads w s session) :
    σ.stored? w s = some session := by
  rw [World.stored?, h.stored, Option.bind_some, RedisSessionStore.deserialize_serialize]
  rfl

/-- A completion of a session that is ready meets no obstruction. -/
def Op.Settles (env : Environment) (run : Run) : Op → Prop
  | .call (.complete request) faults =>
      ∀ session ∈ run.world.stored? request.workspaceId request.sessionId,
        CompleteUploadUseCase.validateSession request session = .ok () →
        CompleteUploadUseCase.Unobstructed env run.world request session faults
  | _ => True

instance (env : Environment) (run : Run) : (op : Op) → Decidable (op.Settles env run)
  | .call (.complete request) _ => inferInstanceAs (Decidable
      (∀ session ∈ run.world.stored? request.workspaceId request.sessionId, _ → _))
  | .call (.initiate _) _ => isTrue trivial
  | .call (.processChunk _) _ => isTrue trivial
  | .call (.abort _ _) _ => isTrue trivial
  | .tick _ => isTrue trivial

/-- Every stored session is live. -/
def World.Unexpired (σ : World) : Prop :=
  ∀ key entry, σ.sessions key = some entry → entry.Live σ.clock

theorem CallOutcome.unexpired {c : Call} {r : Except Exc Response}
    (houtcome : CallOutcome env settings F σ c r σ') (h : σ.Unexpired) : σ'.Unexpired := by
  intro key entry hentry
  rw [houtcome.clock_eq]
  cases houtcome.sessionsChange with
  | same hs => exact h key entry (hs ▸ hentry)
  | created session _ _ _ hs =>
      rw [hs] at hentry
      rcases Keyspace.of_put_eq_some hentry with ⟨-, rfl⟩ | ⟨-, hold⟩
      · simp [World.deadline, RedisSessionStore.ttlSeconds]
      · exact h key entry hold
  | written w s session session' reads hkey hs =>
      rw [hs] at hentry
      obtain ⟨d, hstored, hlive⟩ := reads.exists_entry
      have hkey' : session'.key = ⟨w, s⟩ := hkey.trans reads.key_eq
      by_cases hsame : key = ⟨w, s⟩
      · rw [hsame, putSession_self hkey' hstored hlive] at hentry
        cases hentry
        exact hlive
      · simp only [World.putSession, hkey'] at hentry
        exact h key entry ((Keyspace.overwrite_of_ne hsame).symm.trans hentry)
  | erased key' hs =>
      rw [hs] at hentry
      exact h key entry (Keyspace.of_erase_eq_some hentry).2

/-- The invariant behind `slots_returned`: nothing has expired, and open sessions are under way. -/
structure Run.Settled (run : Run) : Prop where
  represented : Represented run.world (received run.history)
  unexpired : run.world.Unexpired
  active_of_open : ∀ w, ∀ s ∈ openSessions run.history w, StoredActive run.world w s

theorem CallOutcome.settled {c : Call} {r : Except Exc Response} {faults : List (Option Fault)}
    (houtcome : CallOutcome env settings (some · ∈ faults) run.world c r σ')
    (hhealthy : (Op.call c faults).RedisHealthy) (hsettles : (Op.call c faults).Settles env run)
    (h : run.Settled) : Run.Settled ⟨σ', ⟨c, r⟩ :: run.history⟩ := by
  obtain ⟨htakes, hkeeps⟩ := houtcome.storedActive (Spared.not_canFail hhealthy)
    fun request session hc hreads hready => by
      subst hc
      exact (hsettles session hreads.stored?_eq hready).no_obstacle hreads h.represented hready
        (Spared.not_canFail hhealthy _ (by simp))
  refine ⟨represented_step h.represented houtcome, houtcome.unexpired h.unexpired,
    fun w s ⟨⟨record, hrecord, htaken⟩, hreturned⟩ => ?_⟩
  rcases List.mem_cons.mp hrecord with rfl | hrecord
  · exact htakes w s htaken
  · refine hkeeps w s (h.active_of_open w s ⟨⟨record, hrecord, htaken⟩, fun record' hr => ?_⟩) ?_
    · exact hreturned record' (List.mem_cons_of_mem _ hr)
    · exact hreturned _ List.mem_cons_self

/-- What is asked of every step: Redis is healthy, nothing expires, and nothing stands in the way
of completions. -/
def Op.Orderly (env : Environment) (run : Run) (op : Op) : Prop :=
  op.RedisHealthy ∧ op.Unexpiring run ∧ op.Settles env run

theorem settled_steps {ops : List Op}
    (hC : Run.Within env settings (fun run op => op.Orderly env run) Run.start ops) :
    (Run.steps env settings Run.start ops).Settled := by
  refine (Run.steps_induction (C := fun run op => op.Orderly env run) (I := Run.Settled)
    (fun run c faults r σ' _ h hop houtcome => houtcome.settled hop.1 hop.2.2 h)
    (fun run ms _ h hop => ⟨h.represented.same rfl (Nat.le_add_right _ _) rfl, hop.2.1,
      h.active_of_open⟩) Run.wellStored_start ?_ hC).2
  exact ⟨fun _ _ h => (nomatch h), fun _ _ h => (nomatch h),
    fun _ _ ⟨⟨_, h, _⟩, _⟩ => (nomatch h)⟩

/-- In an orderly run the counter of a workspace is the number of its sessions under way. -/
theorem slots_returned (env : Environment) (settings : Settings) (ops : List Op) (w : UUID)
    (hids : ((Run.steps env settings Run.start ops).world.ids env).Nodup)
    (horderly : Run.Within env settings (fun run op => op.Orderly env run) Run.start ops) :
    (Run.steps env settings Run.start ops).world.counter w =
      ((Run.steps env settings Run.start ops).world.activeSessions w).ncard := by
  have hslotted : (Run.steps env settings Run.start ops).Slotted env :=
    slotted_steps (fun _ _ h => h.1) horderly hids
  have hsettled := settled_steps horderly
  have hsame : (Run.steps env settings Run.start ops).world.activeSessions w =
      openSessions (Run.steps env settings Run.start ops).history w := by
    ext s
    constructor
    · rintro ⟨data, hdata, hactive⟩
      obtain ⟨d, hentry, -⟩ := Keyspace.get?_eq_some_iff.mp hdata
      exact hslotted.open_of_active w s ⟨data, d⟩ hentry hactive
    · intro hopen
      obtain ⟨entry, hentry, hactive⟩ := hsettled.active_of_open w s hopen
      have hlive := hsettled.unexpired _ _ hentry
      exact ⟨entry.value, Keyspace.get?_eq_some_iff.mpr ⟨entry.deadline, hentry, hlive⟩, hactive⟩
  rw [hsame]
  exact hslotted.counter w

theorem slots_returned_sample :
    (Run.steps Sample.environment Sample.settings Run.start Sample.completed).world.counter
        Sample.workspace =
      ((Run.steps Sample.environment Sample.settings Run.start
        Sample.completed).world.activeSessions Sample.workspace).ncard :=
  slots_returned Sample.environment Sample.settings Sample.completed Sample.workspace
    (by decide +kernel) ⟨⟨by decide, trivial, trivial⟩, ⟨by decide, trivial, trivial⟩,
      ⟨by decide, trivial, by decide +kernel⟩, trivial⟩

/-- A session that fails keeps its slot: after one fault of S3 the session is FAILED and no longer
under way, but the counter still counts it. -/
theorem failed_keeps_slot :
    (∀ op ∈ Sample.failed, op.RedisHealthy) ∧
      ((Run.steps Sample.environment Sample.settings Run.start Sample.failed).world.ids
          Sample.environment).Nodup ∧
      (Run.steps Sample.environment Sample.settings Run.start Sample.failed).world.counter
          Sample.workspace = 1 ∧
      ((Run.steps Sample.environment Sample.settings Run.start Sample.failed).world.activeSessions
          Sample.workspace).ncard = 0 :=
  have hrun : ((Run.steps Sample.environment Sample.settings Run.start Sample.failed).world.ids
        Sample.environment).Nodup ∧
      (Run.steps Sample.environment Sample.settings Run.start Sample.failed).world.counter
        Sample.workspace = 1 ∧
      ∀ s ∈ (Run.steps Sample.environment Sample.settings Run.start Sample.failed).world.ids
          Sample.environment,
        ∀ data ∈ (Run.steps Sample.environment Sample.settings Run.start
          Sample.failed).world.session? ⟨Sample.workspace, s⟩, ¬ data.Active := by
    decide +kernel
  have hempty : (Run.steps Sample.environment Sample.settings Run.start
      Sample.failed).world.activeSessions Sample.workspace = ∅ :=
    activeSessions_eq_empty (traced_steps _).issued hrun.2.2
  ⟨by decide, hrun.1, hrun.2.1, by rw [hempty, Set.ncard_empty]⟩

end RagFileUploader
