import RagFileUploader.Serial.Capacity
import RagFileUploader.Serial.Resumption

/-!
# Fully uploaded files

A session that has received all its bytes, with the declared checksum and no registered duplicate,
and that nobody tried to complete or to abort before, can be completed.  What the chunk use case
accepts passes the manifest check and the checks of the event; it passes those of the S3 client
as long as the chunks are no more than the parts of one multipart upload.

* `World.Open` is what a session keeps that nobody has concluded: it is under way, and there is no
  object at its key.
  `CallOutcome.keeps_open` is the step and `open_steps` the run.
* `validateSession_of_represents` and `retrieved_of_represents` pass the checks of the completion,
  by the representation of sessions, and `completes_iff_length` finds the number of parts to be the
  only condition that is left.
* `ReceivedZeros` follows the upload of one byte after another, up to a file that cannot be
  completed (`long_upload_not_completed`).
-/

namespace RagFileUploader

open Effects Stores

variable {env : Environment} {settings : Settings} {F : Fault → Prop} {σ σ' : World} {w s : UUID}

/-! ## Sessions that nobody has concluded -/

/-- The call asks for the end of the session. -/
def Call.Concludes (w s : UUID) : Call → Prop
  | .complete request => request.workspaceId = w ∧ request.sessionId = s
  | .abort workspaceId sessionId => workspaceId = w ∧ sessionId = s
  | .initiate _ | .processChunk _ => False

instance (w s : UUID) : (c : Call) → Decidable (c.Concludes w s)
  | .complete _ => inferInstanceAs (Decidable (_ ∧ _))
  | .abort _ _ => inferInstanceAs (Decidable (_ ∧ _))
  | .initiate _ => isFalse id
  | .processChunk _ => isFalse id

/-- There is no file at the session's key, and the session is under way if it is stored. -/
structure World.Open (σ : World) (w s : UUID) : Prop where
  absent : σ.objects ⟨w, s⟩ = none
  active : ∀ entry, σ.sessions ⟨w, s⟩ = some entry → entry.value.Active

theorem World.Open.write {session : UploadSession} {w' s' : UUID} (session' : UploadSession)
    (h : σ.Open w s) (hreads : σ.Reads w' s' session) (hkey : session'.key = session.key)
    (habsent : σ'.objects ⟨w, s⟩ = none)
    (hsessions : σ'.sessions = (σ.putSession session').sessions)
    (hactive : (⟨w, s⟩ : SessionKey) = ⟨w', s'⟩ → ¬ session'.status.Terminal) : σ'.Open w s := by
  refine ⟨habsent, fun entry hentry => ?_⟩
  rw [hsessions] at hentry
  rcases active_putSession session' hreads hkey hentry with ⟨heq, hvalue⟩ | ⟨-, hentry'⟩
  · rw [hvalue]
    exact active_serialize.mpr (hactive heq)
  · exact h.active entry hentry'

/-- Only a call that concludes the session puts a file at its key or ends it. -/
theorem CallOutcome.keeps_open {c : Call} {r : Except Exc Response}
    (houtcome : CallOutcome env settings F σ c r σ') (hother : ¬ c.Concludes w s)
    (h : σ.Open w s) : σ'.Open w s := by
  cases houtcome with
  | initiate ho =>
      cases ho with
      | refused => exact h
      | rolledBack => exact ⟨h.absent, h.active⟩
      | created session createdAt expiresAt hvalid hnew =>
          refine ⟨h.absent, fun entry hentry => ?_⟩
          rcases Keyspace.of_put_eq_some hentry with ⟨-, rfl⟩ | ⟨-, hold⟩
          · refine active_serialize.mpr ?_
            rw [(InitiateUploadUseCase.newSession_eq_ok hnew).2.1]
            decide
          · exact h.active entry hold
  | processChunk ho =>
      cases ho with
      | rejected => exact h
      | stray => exact ⟨h.absent, h.active⟩
      | accepted session session' index reads hvalid hrecord =>
          have hactive := (ProcessChunkUseCase.validate_eq_ok hvalid).1
          refine h.write session' reads (ProcessChunkUseCase.key_recordChunk hrecord hactive)
            h.absent rfl fun _ => ?_
          rw [congrArg SessionFields.status (ProcessChunkUseCase.recordChunk_eq_ok hrecord hactive)]
          exact (by decide : ¬ SessionStatus.Terminal .inProgress)
  | @complete request r σ' ho =>
      -- the completion is of another session, so neither the object nor the hash is this one's
      have hne : (⟨w, s⟩ : SessionKey) ≠ ⟨request.workspaceId, request.sessionId⟩ :=
        fun heq => hother ⟨congrArg SessionKey.workspaceId heq.symm,
          congrArg SessionKey.documentId heq.symm⟩
      have habsent : ∀ content, Function.update σ.objects
          (CompleteUploadUseCase.fileKey request) content ⟨w, s⟩ = none := fun content => by
        rw [Function.update_of_ne]
        · exact h.absent
        · exact fun heq => hne (by cases heq; rfl)
      cases ho with
      | notReady => exact h
      | unpublished e session σ' reads _ _ hu =>
          have hobject : σ'.objects ⟨w, s⟩ = none := by
            rcases hu.objects with ho | ⟨-, content, ho⟩
            · rw [ho, h.absent]
            · rw [ho, habsent]
          rcases hu.sessions with hs | hs
          · exact ⟨hobject, fun entry hentry => h.active entry (hs ▸ hentry)⟩
          · exact h.write session.markFailed reads rfl hobject hs (absurd · hne)
      | unsettled e session chunks σ' reads _ hpublished _ hs =>
          have hobject : σ'.objects ⟨w, s⟩ = none := by rw [hpublished.objects, habsent]
          rcases hs with hs | ⟨status, -, hs⟩
          · exact ⟨hobject, fun entry hentry => h.active entry (hs ▸ hentry)⟩
          · exact h.write (session.withStatus status) reads rfl hobject hs
              (absurd · hne)
      | completed session chunks σ₁ σ' reads _ hpublished hframe hcompleted =>
          refine h.write (session.withStatus .complete) reads rfl ?_ ?_ (absurd · hne)
          · rw [hcompleted.objects, hpublished.objects, habsent]
          · rw [hcompleted.sessions]
            exact CompleteUploadUseCase.sessions_putSession_congr hframe.1 hpublished.clock
  | @abort w' s' r σ' ho =>
      have hne : (⟨w, s⟩ : SessionKey) ≠ ⟨w', s'⟩ := fun heq =>
        hother (by cases heq; exact ⟨rfl, rfl⟩)
      cases ho with
      | rejected => exact h
      | marked e session reads =>
          exact h.write session.markAborted reads rfl h.absent rfl (absurd · hne)
      | removed =>
          exact ⟨h.absent, fun entry hentry =>
            h.active entry ((Keyspace.erase_of_ne hne).symm.trans hentry)⟩

/-- No call so far has tried to complete or to abort the session. -/
def Undecided (history : List Record) (w s : UUID) : Prop :=
  ∀ record ∈ history, ¬ record.call.Concludes w s

theorem open_steps (ops : List Op) (w s : UUID)
    (h : Undecided (Run.steps env settings Run.start ops).history w s) :
    (Run.steps env settings Run.start ops).world.Open w s := by
  refine (Run.steps_induction (C := fun _ _ => True)
    (I := fun run => Undecided run.history w s → run.world.Open w s)
    (fun run c faults r σ' _ hopen _ houtcome hundecided => ?_)
    (fun run ms _ hopen _ hundecided => ?_) Run.wellStored_start
    (fun _ => ⟨rfl, fun _ hentry => nomatch hentry⟩) (Run.within_true _ ops)).2 h
  · obtain ⟨hother, hbefore⟩ := List.forall_mem_cons.mp hundecided
    exact houtcome.keeps_open hother (hopen hbefore)
  · exact ⟨(hopen hundecided).absent, (hopen hundecided).active⟩

/-! ## Completions of uploaded files -/

namespace CompleteUploadUseCase

variable {request : CompleteUploadRequest} {session : UploadSession} {datas : List Bytes}
  {d : Option ℕ}

/-- A manifest in order, with all bytes, passes the validation. -/
theorem validateSession_of_represents
    (hreads : σ.Reads request.workspaceId request.sessionId session)
    (h : Represents σ ⟨request.workspaceId, request.sessionId⟩
      ⟨RedisSessionStore.serializeSession session, d⟩ datas)
    (hactive : ¬ session.status.Terminal) (huploaded : session.offset = session.size) :
    validateSession request session = .ok () := by
  have hworkspace : session.workspaceId = request.workspaceId :=
    congrArg SessionKey.workspaceId hreads.key_eq
  have hmanifest : session.chunkManifest = manifestOf datas := h.manifest
  have hsize : (datas.flatten.length : ℤ) = session.size := h.offset.symm.trans huploaded
  have hne : datas ≠ [] := by
    rintro rfl
    have hpos := session.size_pos
    rw [← hsize] at hpos
    exact absurd hpos (by decide)
  have hstatus : session.status = .inProgress := by
    obtain ⟨status, hvalue, hwhich⟩ := h.status
    have heq : session.status = status := SessionStatus.value_injective hvalue
    rcases hwhich with hterminal | hwhich
    · exact absurd (heq ▸ hterminal) hactive
    · rw [heq, hwhich, activeStatus, if_neg hne]
  have hindices : ((manifestOf datas).map ChunkMeta.index).dedup =
      (List.range (manifestOf datas).length).map Int.ofNat := by
    rw [indices_manifestOf, length_manifestOf]
    exact List.dedup_eq_self.mpr (List.nodup_range.map fun a b h => Int.ofNat.inj h)
  have hchunks : validateChunkManifest session = .ok () := by
    simp only [validateChunkManifest, hmanifest, hindices, sum_size_manifestOf,
      except_bind_eq_ok, raiseIf_eq_ok]
    refine ⟨(), by simpa using hne, (), ?_, not_not_intro hsize⟩
    rintro (h | h) <;> exact h (List.filter_eq_nil_iff.mpr fun i hi => by simpa using hi)
  simp only [validateSession, except_bind_eq_ok, raiseIf_eq_ok]
  exact ⟨(), not_not_intro hworkspace, (), not_not_intro hstatus, (), hchunks,
    not_not_intro huploaded⟩

/-- The chunks are there. -/
theorem retrieved_of_represents
    (h : Represents σ ⟨w, s⟩ ⟨RedisSessionStore.serializeSession session, d⟩ datas)
    (hlive : (Entry.mk (RedisSessionStore.serializeSession session) d).Live σ.clock)
    (hstatus : session.status = .inProgress) :
    Retrieved σ w s (sortManifest session.chunkManifest) datas := by
  have hmanifest : session.chunkManifest = manifestOf datas := h.manifest
  rw [hmanifest, sortManifest_manifestOf]
  refine List.forall₂_iff_get.mpr ⟨length_manifestOf datas, fun i hi hi' => ?_⟩
  have hindex : ((manifestOf datas).get ⟨i, hi⟩).index = i := by simp [manifestOf]
  obtain ⟨d', hstored, hle⟩ := h.backed (congrArg SessionStatus.value hstatus) i datas[i]
    (List.getElem?_eq_getElem hi')
  obtain ⟨d'', hd'', -⟩ := h.deadline
  rw [hindex]
  refine Keyspace.get?_eq_some_iff.mpr ⟨some d', hstored, ?_⟩
  simpa using lt_of_lt_of_le (hlive d'' hd'') (hle d'' hd'')

/-- Chunks that the S3 client refuses do not make a file. -/
theorem wp_execute_of_refused (hreads : σ.Reads request.workspaceId request.sessionId session)
    (hready : validateSession request session = .ok ())
    (hrefused : ∀ chunks, Retrieved σ request.workspaceId request.sessionId
      (sortManifest session.chunkManifest) chunks →
        S3StorageClient.validateChunkData chunks ≠ .ok ()) :
    (execute (dependencies settings) request).wp (serviceMachine env) F
      (fun r _ => r.isOk = false) σ := by
  have hfailed : ∀ e, (settle (dependencies settings) session e).wp (serviceMachine env) F
      (fun r _ => r.isOk = false) σ := fun e =>
    wp_settle (hreads.key_eq ▸ hreads.valid) (live_of_reads hreads) (fun _ => rfl) fun _ => rfl
  rw [execute, Program.wp_bind]
  refine wp_getSession hreads.storedWell (fun session' hreads' => ?_) (fun _ => rfl)
    fun _ _ _ => rfl
  obtain rfl := RedisSessionStore.serialize_injective
    (Option.some.inj (hreads'.stored.symm.trans hreads.stored))
  dsimp only
  rw [Program.wp_tryCatch, body]
  refine wp_ofExcept_bind (fun _ _ => ?_) fun e he => by cases hready.symm.trans he
  rw [Program.wp_bind, assemble, Program.wp_bind, retrieveChunks]
  refine wp_retrieveAll _ (fun chunks hchunks => ?_) (fun _ e _ => hfailed e) fun _ e _ => hfailed e
  dsimp only
  rw [Program.wp_bind]
  exact wp_ofExcept_bind (fun _ h => absurd h (hrefused chunks hchunks)) fun e _ => hfailed e

end CompleteUploadUseCase

/-- The session has received its file, nothing else happened to it, and the file is new. -/
structure Run.FullyUploaded (run : Run) (w s : UUID) (data : SessionHash) : Prop where
  stored : run.world.session? ⟨w, s⟩ = some data
  all : data.offset = data.size
  undecided : Undecided run.history w s
  sha : sha256Hexdigest (received run.history ⟨w, s⟩).flatten = data.sha256Checksum
  unregistered : run.world.dedup w data.sha256Checksum = none

/-- A call of `complete_upload` has returned and the session is stored COMPLETE. -/
def Completes (w s : UUID) (out : Except Exc Response × World) : Prop :=
  (∃ response, out.1 = .ok (.completed response)) ∧
    ∃ data, out.2.session? ⟨w, s⟩ = some data ∧ data.status = SessionStatus.complete.value

/-- What decides whether the completion goes through is the number of chunks. -/
theorem completes_iff_length {run : Run} {data : SessionHash} (hclock : Monotone env.wallClock)
    (hwell : run.world.WellStored) (hrep : Represented run.world (received run.history))
    (hopen : run.world.Open w s) (huploaded : run.FullyUploaded w s data) :
    Completes w s (Run.call env settings run.world (.complete ⟨w, s⟩) []) ↔
      (received run.history ⟨w, s⟩).length ≤ 10000 := by
  obtain ⟨hstored, hall, -, hsha, hunregistered⟩ := huploaded
  obtain ⟨d, hentry, hlive⟩ := Keyspace.get?_eq_some_iff.mp hstored
  obtain ⟨hvalid, session, hkey, hdata⟩ := hwell _ _ hentry
  obtain rfl : data = RedisSessionStore.serializeSession session := hdata
  have hreads : run.world.Reads w s session := ⟨hvalid, hkey, hstored⟩
  have hrepresents := hrep _ _ hentry
  set datas := received run.history ⟨w, s⟩
  -- all bytes are there, so the completion gets through its checks
  have hactive : ¬ session.status.Terminal := active_serialize.mp (hopen.active _ hentry)
  have hready : CompleteUploadUseCase.validateSession ⟨w, s⟩ session = .ok () :=
    CompleteUploadUseCase.validateSession_of_represents hreads hrepresents hactive hall
  obtain ⟨hstatus, -, hne⟩ := CompleteUploadUseCase.validateSession_eq_ok hready
  have hretrieved : CompleteUploadUseCase.Retrieved run.world w s
      (CompleteUploadUseCase.sortManifest session.chunkManifest) datas :=
    CompleteUploadUseCase.retrieved_of_represents hrepresents hlive hstatus
  have hcan : ∀ area, ¬ CanFail (some · ∈ ([] : List (Option Fault))) area :=
    fun _ ⟨_, hf, _⟩ => nomatch hf
  constructor
  -- with too many parts the assembly refuses before anything is uploaded
  · rintro ⟨⟨response, hresponse⟩, -⟩
    by_contra hmany
    have hrefused : S3StorageClient.validateChunkData datas ≠ .ok () := by
      intro h
      simp only [S3StorageClient.validateChunkData, except_bind_eq_ok, raiseIf_eq_ok] at h
      omega
    have hwp : ((Call.complete ⟨w, s⟩).program settings).wp (serviceMachine env)
        (some · ∈ ([] : List (Option Fault))) (fun r _ => r.isOk = false) run.world := by
      refine wp_map (Program.wp_mono (CompleteUploadUseCase.wp_execute_of_refused hreads hready
        fun chunks hchunks => ?_) fun r _ hr => ?_)
      · rw [CompleteUploadUseCase.Retrieved.eq hrepresents hstatus hchunks]
        exact hrefused
      · cases r <;> exact hr
    have hfailed := Program.run_of_wp hwp fun f hf => hf
    have hok : ((Run.call env settings run.world (.complete ⟨w, s⟩) []).1).isOk = true := by
      rw [hresponse]
      rfl
    exact absurd (hok.symm.trans hfailed) (by decide)
  -- otherwise nothing obstructs a completion that meets no fault
  · intro hparts
    have hlength : session.chunkManifest.length = datas.length := by
      have hmanifest : session.chunkManifest = manifestOf datas := hrepresents.manifest
      rw [hmanifest, length_manifestOf]
    have hchunks : datas = CompleteUploadUseCase.storedChunks run.world ⟨w, s⟩ session :=
      hretrieved.eq_storedChunks
    have hunobstructed : CompleteUploadUseCase.Unobstructed env run.world ⟨w, s⟩ session [] :=
      { absent := hopen.absent
        sha := hchunks ▸ hsha
        parts := by omega
        unregistered := hunregistered
        clock := hclock (Nat.le_succ _)
        faults := fun _ h => nomatch h }
    have hobstacle : ¬ CompleteUploadUseCase.Obstacle env settings (some · ∈ []) run.world ⟨w, s⟩
        session := hunobstructed.no_obstacle hreads hrep hready (hcan _)
    have hwp : ((Call.complete ⟨w, s⟩).program settings).wp (serviceMachine env)
        (some · ∈ ([] : List (Option Fault))) (fun r σ' => Completes w s (r, σ')) run.world := by
      refine wp_map (Program.wp_mono (CompleteUploadUseCase.wp_execute_of_ready hreads hready
        hobstacle fun area _ => hcan area) fun r σ' hr => ?_)
      obtain ⟨hok, hcomplete⟩ := hr
      cases r with
      | ok response => exact ⟨⟨response, rfl⟩, _, hcomplete.stored, rfl⟩
      | error e => cases hok
    exact Program.run_of_wp hwp fun f hf => hf

/-- With a clock that does not run backwards and no fault, a fully uploaded file can be completed
exactly when it came in at most as many chunks as S3 takes parts. -/
theorem uploaded_completes_iff (env : Environment) (settings : Settings) (ops : List Op)
    (w s : UUID) (data : SessionHash) (hclock : Monotone env.wallClock)
    (huploaded : (Run.steps env settings Run.start ops).FullyUploaded w s data) :
    Completes w s (Run.call env settings (Run.steps env settings Run.start ops).world
        (.complete ⟨w, s⟩) []) ↔
      (received (Run.steps env settings Run.start ops).history ⟨w, s⟩).length ≤ 10000 :=
  completes_iff_length hclock (Run.wellStored_steps ops) (represented_steps ops)
    (open_steps ops w s huploaded.undecided) huploaded

namespace Sample

theorem monotone_wallClock : Monotone environment.wallClock := fun a b h => by
  simp only [environment]
  omega

/-- The hash of a session whose only byte is there. -/
def uploadedHash : SessionHash :=
  { RedisSessionStore.serializeSession pendingSession with
    offset := 1
    status := "in_progress"
    chunkManifest := [⟨0, 1, sha256Hexdigest [1]⟩] }

end Sample

theorem uploaded_completes_iff_sample :
    Completes Sample.workspace Sample.session (Run.call Sample.environment Sample.settings
      (Run.steps Sample.environment Sample.settings Run.start
        [.call (.initiate Sample.upload) [], .call (.processChunk Sample.chunk) []]).world
      (.complete ⟨Sample.workspace, Sample.session⟩) []) :=
  (uploaded_completes_iff Sample.environment Sample.settings
    [.call (.initiate Sample.upload) [], .call (.processChunk Sample.chunk) []] Sample.workspace
    Sample.session Sample.uploadedHash Sample.monotone_wallClock
    ⟨by decide +kernel, by decide, by unfold Undecided; decide +kernel, by decide +kernel,
      by decide +kernel⟩).mpr (by decide +kernel)

/-! ## A file in too many chunks -/

namespace Sample

/-- A zero byte at this offset. -/
def zeroByte (offset : ℕ) : ProcessChunkRequest :=
  ⟨workspace, session, [0], offset, sha256Hexdigest [0], Int.natCast_nonneg _, by decide,
    .inl (isHex64_sha256Hexdigest _)⟩

/-- Zero bytes from this offset on, one chunk each. -/
def zeroBytes (offset count : ℕ) : List Op :=
  (List.range' offset count).map fun i => .call (.processChunk (zeroByte i)) []

/-- A file of 10,001 zero bytes. -/
def longUpload : InitiateUploadRequest :=
  { upload with
    size := 10001
    sha256Checksum := sha256Hexdigest (List.replicate 10001 [0]).flatten }

end Sample

/-- An initiation alone: a valid request below the limit creates its session. -/
theorem InitiateUploadUseCase.run_of_new (env : Environment) (settings : Settings) {σ : World}
    {request : InitiateUploadRequest} {session : UploadSession}
    (hvalidate : validate request = .ok ())
    (hcount : σ.counter request.workspaceId < settings.maxConcurrentUploads)
    (hnew : newSession request (env.uuid4 σ.drawn) (.utc (env.wallClock σ.clockReads))
      ((DateTime.utc (env.wallClock σ.clockReads)).addHours 24) = .ok session)
    (hvalid : session.key.Valid) :
    (execute (dependencies settings) request).run (serviceMachine env) [] σ =
      (.ok ⟨env.uuid4 σ.drawn, 0, (DateTime.utc (env.wallClock σ.clockReads)).addHours 24⟩,
        created σ session) := by
  have hkey : session.key = ⟨request.workspaceId, env.uuid4 σ.drawn⟩ := (newSession_eq_ok hnew).1
  have hworkspace : session.workspaceId = request.workspaceId :=
    congrArg SessionKey.workspaceId hkey
  have hslot : (RedisRateLimiter.checkAndIncrement settings request.workspaceId).run
      (serviceMachine env) [] σ =
        (.ok (), σ.setCounter request.workspaceId (σ.counter request.workspaceId + 1)) := by
    have hwp : (RedisRateLimiter.checkAndIncrement settings request.workspaceId).wp
        (serviceMachine env) (fun _ => False) (fun r σ' => (r, σ') =
          (.ok (), σ.setCounter request.workspaceId (σ.counter request.workspaceId + 1))) σ := by
      refine wp_checkAndIncrement (fun _ _ => rfl) (fun hmax => absurd hmax (not_le.mpr hcount))
        fun e _ hwhy => ?_
      rcases hwhy with ⟨hzero, -⟩ | ⟨_, hf, _⟩
      · exact absurd ((congrArg UUID.int hworkspace).trans hzero) hvalid.1
      · exact absurd hf id
    exact Program.run_of_wp hwp fun _ h => nomatch h
  have hcreate : (createSession (dependencies settings) request).run (serviceMachine env) []
      (σ.setCounter request.workspaceId (σ.counter request.workspaceId + 1)) =
      (.ok ⟨env.uuid4 σ.drawn, 0, (DateTime.utc (env.wallClock σ.clockReads)).addHours 24⟩,
        created σ session) := by
    refine (Program.run_calm_bind_ok (Program.run_calm_perform _ _ _)).trans ?_
    refine (Program.run_calm_bind_ok (Program.run_calm_perform _ _ _)).trans ?_
    refine (Program.run_calm_bind_ok (run_ofExcept.trans (congrArg (·, _) hnew))).trans ?_
    refine (Program.run_calm_bind_ok (RedisSessionStore.run_createSession hvalid)).trans ?_
    rw [created, hworkspace]
    rfl
  refine (Program.run_calm_bind_ok (run_ofExcept.trans (congrArg (·, σ) hvalidate))).trans ?_
  refine (Program.run_calm_bind_ok hslot).trans ?_
  exact Program.run_calm_tryCatch_ok hcreate

/-- The session has received this many zero bytes, one at a time. -/
structure ReceivedZeros (settings : Settings) (run : Run) (n : ℕ) (session : UploadSession) :
    Prop where
  reads : run.world.Reads Sample.workspace Sample.session session
  active : ¬ session.status.Terminal
  offset : session.offset = n
  size : session.size = 10001
  sha : session.sha256Checksum.value = Sample.longUpload.sha256Checksum
  manifest : session.chunkManifest = manifestOf (List.replicate n [0])
  received : received run.history ⟨Sample.workspace, Sample.session⟩ = List.replicate n [0]
  undecided : Undecided run.history Sample.workspace Sample.session
  unregistered : run.world.dedup = World.empty.dedup

/-- One more byte. -/
theorem ReceivedZeros.step {run : Run} {n : ℕ} {session : UploadSession}
    (h : ReceivedZeros settings run n session) (hn : n < 10001) :
    ∃ session', ReceivedZeros settings (Run.step env settings run
      (.call (.processChunk (Sample.zeroByte n)) [])) (n + 1) session' := by
  have hlength : (n : ℤ) = session.chunkManifest.length := by
    rw [h.manifest, length_manifestOf, List.length_replicate]
  have hfree : ∀ c ∈ session.chunkManifest, c.index ≠ session.chunkManifest.length := by
    intro c hc hindex
    rw [h.manifest] at hc
    obtain ⟨i, data, hi, rfl⟩ := mem_manifestOf.mp hc
    have hlt := (List.getElem?_eq_some_iff.mp hi).1
    rw [List.length_replicate] at hlt
    dsimp only at hindex
    omega
  have hone : ((Sample.zeroByte n).chunkData.length : ℤ) = 1 := rfl
  -- the byte passes the checks and is recorded
  have hplan : ∃ plan : ProcessChunkUseCase.Plan (Sample.zeroByte n), plan.session = session :=
    ProcessChunkUseCase.exists_plan_of_fits h.active h.offset.symm (hone.trans_le (by decide)) rfl
      hfree (by rw [h.offset, h.size, hone]; omega)
  obtain ⟨plan, rfl⟩ := hplan
  have hindex : plan.index = n :=
    (ProcessChunkUseCase.validate_eq_ok plan.validated).2.2.2.2.trans hlength.symm
  have hrun : Run.call env settings run.world (.processChunk (Sample.zeroByte n)) [] = _ :=
    (Run.call_processChunk _).trans
      (congrArg _ (ProcessChunkUseCase.run_of_plan env settings plan h.reads))
  have hfields := plan.toSessionFields_next
  have hkey : plan.next.key = ⟨Sample.workspace, Sample.session⟩ :=
    plan.key_next.trans h.reads.key_eq
  refine ⟨plan.next, ?_⟩
  simp only [Run.step, hrun, Prod.map, id, Except.map]
  refine ⟨⟨h.reads.valid, hkey, World.session?_putSession hkey⟩, ?_, ?_, ?_, ?_, ?_, ?_, ?_,
    h.unregistered⟩
  · rw [congrArg SessionFields.status hfields]
    exact (by decide : ¬ SessionStatus.Terminal .inProgress)
  · rw [congrArg SessionFields.offset hfields]
    dsimp only
    rw [h.offset, hone]
    rfl
  · rw [congrArg SessionFields.size hfields]
    exact h.size
  · rw [congrArg SessionFields.sha256Checksum hfields]
    exact h.sha
  · rw [plan.manifest_next, h.manifest, hindex, List.replicate_succ', manifestOf_append,
      List.length_replicate]
    rfl
  · rw [RagFileUploader.received, Record.receive,
      show (⟨(Sample.zeroByte n).workspaceId, (Sample.zeroByte n).sessionId⟩ : SessionKey) =
        ⟨Sample.workspace, Sample.session⟩ from rfl, Function.update_self, h.received,
      List.replicate_succ']
    rfl
  · exact List.forall_mem_cons.mpr ⟨id, h.undecided⟩

theorem ReceivedZeros.steps (env : Environment) (m : ℕ) {run : Run} {n : ℕ}
    {session : UploadSession} (h : ReceivedZeros settings run n session) (hn : n + m ≤ 10001) :
    ∃ session', ReceivedZeros settings (Run.steps env settings run (Sample.zeroBytes n m)) (n + m)
      session' := by
  induction m generalizing run n session with
  | zero => exact ⟨session, h⟩
  | succ m ih =>
      have hstep : ∃ session', ReceivedZeros settings (Run.step env settings run _) _ session' :=
        h.step (by omega)
      obtain ⟨session', h'⟩ := hstep
      have hrest := ih h' (by omega)
      rwa [show n + 1 + m = n + (m + 1) by omega] at hrest

namespace Sample

/-- The session that the long upload is given. -/
def longSession : UploadSession :=
  { pendingSession with
    size := 10001
    sha256Checksum := .fromBytes (List.replicate 10001 [0]).flatten
    valid := by decide +kernel }

theorem newSession_longUpload :
    InitiateUploadUseCase.newSession longUpload session (.utc (environment.wallClock 0))
      ((DateTime.utc (environment.wallClock 0)).addHours 24) = .ok longSession := by
  have hhash : SHA256Hash.new longUpload.sha256Checksum = .ok longSession.sha256Checksum :=
    SHA256Hash.new_value (.fromBytes (List.replicate 10001 [0]).flatten)
  rw [InitiateUploadUseCase.newSession, hhash]
  exact UploadSession.new_toSessionFields longSession

theorem validate_longUpload : InitiateUploadUseCase.validate longUpload = .ok () := by
  have hhex := isHex64_sha256Hexdigest (List.replicate 10001 [0]).flatten
  have hname : longUpload.validateFilename = .ok () := by decide +kernel
  have hchecksum : longUpload.validateChecksum = .ok () := by
    simp only [InitiateUploadRequest.validateChecksum, except_bind_eq_ok, raiseIf_eq_ok, not_not]
    exact ⟨(), hhex.1, hhex.2⟩
  have hsize : longUpload.validateSize = .ok () := by decide +kernel
  have htype : longUpload.validateMimeType = .ok () := by decide +kernel
  simp only [InitiateUploadUseCase.validate, hname, hchecksum, hsize, htype]
  rfl

/-- The whole file. -/
def longRun : List Op := .call (.initiate longUpload) [] :: zeroBytes 0 10001

end Sample

theorem receivedZeros_initiate : ReceivedZeros Sample.settings
    (Run.step Sample.environment Sample.settings Run.start (.call (.initiate Sample.longUpload) []))
    0 Sample.longSession := by
  have hrun := InitiateUploadUseCase.run_of_new Sample.environment Sample.settings
    (σ := World.empty) Sample.validate_longUpload (by decide) Sample.newSession_longUpload
    (by decide)
  have hcall : Run.call Sample.environment Sample.settings Run.start.world
      (.initiate Sample.longUpload) [] = _ :=
    (Program.run_calm_map _ _ _ _).trans (congrArg _ hrun)
  simp only [Run.step, hcall, Prod.map, id, Except.map]
  refine ⟨⟨by decide, rfl, ?_⟩, by decide, rfl, rfl, rfl, rfl, rfl, ?_, rfl⟩
  · exact Keyspace.get?_put_self fun t ht => by cases ht; decide
  · exact List.forall_mem_cons.mpr ⟨id, fun _ h => nomatch h⟩

theorem ReceivedZeros.not_completed {run : Run} {session : UploadSession}
    (h : ReceivedZeros Sample.settings run 10001 session) (hwell : run.world.WellStored)
    (hrep : Represented run.world (RagFileUploader.received run.history))
    (hopen : run.world.Open Sample.workspace Sample.session) :
    run.FullyUploaded Sample.workspace Sample.session (RedisSessionStore.serializeSession session) ∧
      ¬ Completes Sample.workspace Sample.session (Run.call Sample.environment Sample.settings
        run.world (.complete ⟨Sample.workspace, Sample.session⟩) []) := by
  have hsha : sha256Hexdigest (List.replicate 10001 [0]).flatten =
      session.sha256Checksum.value := by
    rw [h.sha, Sample.longUpload]
  have huploaded : run.FullyUploaded Sample.workspace Sample.session
      (RedisSessionStore.serializeSession session) := by
    refine ⟨h.reads.stored, h.offset.trans h.size.symm, h.undecided, ?_, ?_⟩
    · rw [h.received, hsha, RedisSessionStore.serializeSession]
    · rw [h.unregistered]
      rfl
  refine ⟨huploaded, fun hcompletes => ?_⟩
  have hlength := (completes_iff_length Sample.monotone_wallClock hwell hrep hopen
    huploaded).mp hcompletes
  rw [h.received, List.length_replicate] at hlength
  omega

/-- A file of 10,001 chunks is accepted chunk by chunk and cannot be completed. -/
theorem long_upload_not_completed : ∃ data,
    (Run.steps Sample.environment Sample.settings Run.start Sample.longRun).FullyUploaded
        Sample.workspace Sample.session data ∧
      ¬ Completes Sample.workspace Sample.session
        (Run.call Sample.environment Sample.settings
          (Run.steps Sample.environment Sample.settings Run.start Sample.longRun).world
          (.complete ⟨Sample.workspace, Sample.session⟩) []) := by
  have hreceived := receivedZeros_initiate.steps Sample.environment 10001 (by omega)
  rw [Nat.zero_add, ← Run.steps_cons, ← Sample.longRun] at hreceived
  obtain ⟨session, h⟩ := hreceived
  have hopen := open_steps Sample.longRun Sample.workspace Sample.session h.undecided
  exact ⟨_, h.not_completed (Run.wellStored_steps Sample.longRun)
    (represented_steps Sample.longRun) hopen⟩

end RagFileUploader
