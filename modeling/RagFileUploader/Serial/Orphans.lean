import RagFileUploader.Serial.Capacity

/-!
# Files without a completed upload

The file of an upload is put together before the duplicate check and before its event, and only a
checksum mismatch takes it away again.  So a workspace is free of orphans and of redundant copies
as long as every completion that gets its file together goes on to the end: then each file is that
of a session which became COMPLETE, and the fingerprints that the completions register keep a
second file with the same content from being accepted.

* `FilesChange` lists what a call may do to files and fingerprints; by `Op.Commits.filesChange`, a
  call that goes on to the end does one of these.
* `FilesChange.filesInOrder` is the step of the run, with `World.Registered` for the fingerprints.
-/

namespace RagFileUploader

open Effects Stores

variable {env : Environment} {settings : Settings} {F : Fault → Prop} {σ σ' : World} {w s : UUID}

/-! ## Completions that go on to the end -/

/-- No command of Redis or S3 that the step sends fails. -/
def Op.StoresHealthy : Op → Prop
  | .call _ faults =>
      Spared [.sessions, .chunks, .counters, .dedupLookup, .dedupRegister, .s3] faults
  | .tick _ => True

instance : (op : Op) → Decidable op.StoresHealthy
  | .call _ faults => inferInstanceAs (Decidable (Spared _ faults))
  | .tick _ => isTrue trivial

namespace CompleteUploadUseCase

variable {request : CompleteUploadRequest} {session : UploadSession}

/-- S3 takes the file of the session: its key is free, and the stored chunks fit the checksum and
the part limit. -/
structure Assembles (σ : World) (request : CompleteUploadRequest) (session : UploadSession) :
    Prop where
  absent : σ.objects (fileKey request) = none
  sha : sha256Hexdigest (storedChunks σ request session).flatten = session.sha256Checksum.value
  parts : session.chunkManifest.length ≤ 10000

instance : Decidable (Assembles σ request session) :=
  decidable_of_iff (σ.objects (fileKey request) = none ∧
      sha256Hexdigest (storedChunks σ request session).flatten = session.sha256Checksum.value ∧
      session.chunkManifest.length ≤ 10000)
    ⟨fun ⟨h₁, h₂, h₃⟩ => ⟨h₁, h₂, h₃⟩, fun ⟨h₁, h₂, h₃⟩ => ⟨h₁, h₂, h₃⟩⟩

theorem Assemblable.assembles {chunks : List Bytes} (h : Assemblable σ request session chunks) :
    Assembles σ request session := by
  refine ⟨h.absent, ?_, ?_⟩
  · rw [← h.retrieved.eq_storedChunks]
    exact h.sha
  · have hlength : session.chunkManifest.length = chunks.length := by
      rw [← h.retrieved.length_eq]
      exact (List.length_insertionSort _ _).symm
    have hvalid := h.valid
    simp only [S3StorageClient.validateChunkData, except_bind_eq_ok, raiseIf_eq_ok] at hvalid
    obtain ⟨-, -, -, -, hparts⟩ := hvalid
    omega

/-- A file that was put together is announced: it is the first of its kind, its event is valid,
and the publisher takes it. -/
def Announced (env : Environment) (σ : World) (request : CompleteUploadRequest)
    (session : UploadSession) (faults : List (Option Fault)) : Prop :=
  σ.dedup request.workspaceId session.sha256Checksum.value = none ∧
    env.wallClock σ.clockReads ≤ env.wallClock (σ.clockReads + 1) ∧ Spared [.publisher] faults

instance {faults : List (Option Fault)} : Decidable (Announced env σ request session faults) :=
  inferInstanceAs (Decidable (_ ∧ _ ∧ _))

end CompleteUploadUseCase

/-- If the step is a completion of a session that is ready and S3 takes its file, then the file is
announced as well. -/
def Op.Commits (env : Environment) (run : Run) : Op → Prop
  | .call (.complete request) faults =>
      ∀ session ∈ run.world.stored? request.workspaceId request.sessionId,
        CompleteUploadUseCase.validateSession request session = .ok () →
        CompleteUploadUseCase.Assembles run.world request session →
        CompleteUploadUseCase.Announced env run.world request session faults
  | _ => True

instance (env : Environment) (run : Run) : (op : Op) → Decidable (op.Commits env run)
  | .call (.complete request) _ => inferInstanceAs (Decidable
      (∀ session ∈ run.world.stored? request.workspaceId request.sessionId, _ → _ → _))
  | .call (.initiate _) _ => isTrue trivial
  | .call (.processChunk _) _ => isTrue trivial
  | .call (.abort _ _) _ => isTrue trivial
  | .tick _ => isTrue trivial

/-! ## What a call does to the files -/

/-- The session is stored with status COMPLETE. -/
def World.Completed (σ : World) (w s : UUID) : Prop :=
  ∃ data, σ.session? ⟨w, s⟩ = some data ∧ data.status = SessionStatus.complete.value

/-- The ways in which a call that goes on to the end changes files and fingerprints: not at all,
or by a new file of a session that is now COMPLETE, with a fingerprint that was not registered
before. -/
inductive FilesChange (σ σ' : World) : Prop
  | same (hobjects : σ'.objects = σ.objects) (hdedup : σ'.dedup = σ.dedup)
  | added (key : S3Key) (content : Bytes) (completed : σ'.Completed key.workspaceId key.fileId)
      (absent : σ.objects key = none)
      (hobjects : σ'.objects = Function.update σ.objects key (some content))
      (unregistered : σ.dedup key.workspaceId (sha256Hexdigest content) = none)
      (registered : σ'.dedup key.workspaceId (sha256Hexdigest content) ≠ none)
      (hdedup : ∀ w sha256, σ.dedup w sha256 ≠ none → σ'.dedup w sha256 ≠ none)

namespace CompleteUploadUseCase

variable {request : CompleteUploadRequest} {session : UploadSession}

/-- Where every file that S3 takes is announced, nothing is left behind. -/
theorem filesChange_of_leftover {faults : List (Option Fault)} {D : SessionKey → List Bytes}
    (hreads : σ.Reads request.workspaceId request.sessionId session)
    (hready : validateSession request session = .ok ()) (hrep : Represented σ D)
    (hhealthy : Spared [.s3, .dedupLookup, .chunks] faults)
    (hannounced : Assembles σ request session → Announced env σ request session faults)
    (hobstacle : Obstacle env settings (some · ∈ faults) σ request session)
    (hunpublished : Unpublished request session σ σ')
    (hleftover : Leftover (some · ∈ faults) request session σ σ') : FilesChange σ σ' := by
  rcases hleftover with hsame | hcan | ⟨chunks, hassemblable⟩
  · exact .same hsame hunpublished.dedup
  · exact absurd hcan (hhealthy.not_canFail _ (by simp))
  · have hassembles : Assembles σ request session := hassemblable.assembles
    obtain ⟨hnone, hclock, hpublisher⟩ := hannounced hassembles
    have hfaults : Spared ([.s3, .dedupLookup] ++ [.publisher]) faults :=
      (hhealthy.mono (by simp)).append hpublisher
    have hfree : Unobstructed env σ request session faults :=
      ⟨hassembles.absent, hassembles.sha, hassembles.parts, hnone, hclock, hfaults⟩
    exact absurd hobstacle
      (hfree.no_obstacle hreads hrep hready (hhealthy.not_canFail _ (by simp)))

/-- A completion that goes through adds its file and registers the fingerprint. -/
theorem Completed.filesChange {chunks : List Bytes} {σ₁ : World}
    (hreads : σ.Reads request.workspaceId request.sessionId session)
    (hpublished : Published env settings request session chunks σ σ₁)
    (hdedup : σ₁.dedup = σ.dedup) (hcan : ¬ CanFail F .dedupRegister)
    (h : Completed F request session σ₁ σ') : FilesChange σ σ' := by
  have hregistered := h.registered hcan
  refine .added (fileKey request) chunks.flatten ?_ hpublished.absent
    (h.objects.trans hpublished.objects) (hpublished.sha ▸ hpublished.unregistered)
    (hpublished.sha ▸ hregistered) fun w sha256 hne => ?_
  · refine ⟨RedisSessionStore.serializeSession (session.withStatus .complete), ?_, rfl⟩
    rw [session?_congr h.sessions h.clock]
    exact World.session?_putSession hreads.key_eq
  · by_cases hsame : w = request.workspaceId ∧ sha256 = session.sha256Checksum.value
    · rw [hsame.1, hsame.2]
      exact hregistered
    · rw [h.dedup w sha256 (not_and_or.mp hsame), hdedup]
      exact hne

theorem filesChange (request : CompleteUploadRequest) (faults : List (Option Fault)) {run : Run}
    (hwell : run.world.WellStored) (hrep : Represented run.world (received run.history))
    (hhealthy : (Op.call (.complete request) faults).StoresHealthy)
    (hcommits : (Op.call (.complete request) faults).Commits env run) :
    FilesChange run.world (Run.call env settings run.world (.complete request) faults).2 := by
  have hcan := Spared.not_canFail hhealthy
  suffices h : ((Call.complete request).program settings).wp (serviceMachine env)
      (some · ∈ faults) (fun _ σ' => FilesChange run.world σ') run.world from
    Program.run_of_wp h fun f hf => hf
  refine wp_map ?_
  rw [execute, Program.wp_bind]
  refine wp_getSession (hwell _) (fun session hreads => ?_) (fun _ => .same rfl rfl)
    fun _ _ _ => .same rfl rfl
  dsimp only
  cases hready : validateSession request session with
  | ok _ =>
      refine wp_settled hreads hready (fun e σ' hobstacle hunpublished hleftover => ?_)
        (fun _ _ _ _ why _ _ => ?_) fun chunks σ₁ σ' hpublished hframe h => ?_
      · exact filesChange_of_leftover hreads hready hrep (Spared.mono hhealthy (by simp))
          (hcommits session hreads.stored?_eq hready) hobstacle hunpublished hleftover
      · exact why.elim (fun h => absurd h (hcan _ (by simp))) fun h => absurd h (hcan _ (by simp))
      · exact h.filesChange hreads hpublished hframe.2.2.2 (hcan _ (by simp))
  | error e =>
      have hpass : passes e = true := raises_validateSession e hready
      rw [Program.wp_tryCatch, body, hready]
      change (settle (dependencies settings) session e).wp _ _ _ _
      rw [settle_eq, if_neg (by simp [marks, hpass])]
      exact .same rfl rfl

end CompleteUploadUseCase

/-- Only completions move files and fingerprints. -/
theorem CallOutcome.files_eq {c : Call} {r : Except Exc Response}
    (houtcome : CallOutcome env settings F σ c r σ') (hc : ∀ request, c ≠ .complete request) :
    σ'.objects = σ.objects ∧ σ'.dedup = σ.dedup := by
  cases houtcome with
  | initiate ho => cases ho <;> exact ⟨rfl, rfl⟩
  | processChunk ho => cases ho <;> exact ⟨rfl, rfl⟩
  | @complete request _ _ _ => exact absurd rfl (hc request)
  | abort ho => cases ho <;> exact ⟨rfl, rfl⟩

theorem Op.Commits.filesChange {run : Run} {c : Call} {faults : List (Option Fault)}
    (hwell : run.world.WellStored) (hrep : Represented run.world (received run.history))
    (hhealthy : (Op.call c faults).StoresHealthy) (hcommits : (Op.call c faults).Commits env run) :
    FilesChange run.world (Run.call env settings run.world c faults).2 := by
  by_cases hc : ∃ request, c = .complete request
  · obtain ⟨request, rfl⟩ := hc
    exact CompleteUploadUseCase.filesChange request faults hwell hrep hhealthy hcommits
  · have houtcome : CallOutcome env settings (some · ∈ faults) run.world c _ _ :=
      call_outcome hwell c faults
    obtain ⟨hobjects, hdedup⟩ := houtcome.files_eq fun request h => hc ⟨request, h⟩
    exact .same hobjects hdedup

/-! ## Runs -/

/-- At some point of the run the session was stored with status COMPLETE. -/
def ReachedComplete (env : Environment) (settings : Settings) (ops : List Op) (w s : UUID) :
    Prop :=
  ∃ earlier, earlier <+: ops ∧ (Run.steps env settings Run.start earlier).world.Completed w s

theorem ReachedComplete.concat {ops : List Op} (h : ReachedComplete env settings ops w s)
    (op : Op) : ReachedComplete env settings (ops ++ [op]) w s := by
  obtain ⟨earlier, hleading, hcompleted⟩ := h
  exact ⟨earlier, hleading.trans (List.prefix_append ops [op]), hcompleted⟩

/-- The files after a run: each is that of a session which became COMPLETE, and no workspace has
two with the same SHA-256. -/
structure FilesInOrder (env : Environment) (settings : Settings) (ops : List Op) : Prop where
  complete : ∀ w f, (Run.steps env settings Run.start ops).world.objects ⟨w, f⟩ ≠ none →
    ReachedComplete env settings ops w f
  distinct : ∀ w f f' content content',
    (Run.steps env settings Run.start ops).world.objects ⟨w, f⟩ = some content →
    (Run.steps env settings Run.start ops).world.objects ⟨w, f'⟩ = some content' →
    sha256Hexdigest content = sha256Hexdigest content' → f = f'

/-- The content of every file is registered in its workspace. -/
def World.Registered (σ : World) : Prop :=
  ∀ key content, σ.objects key = some content →
    σ.dedup key.workspaceId (sha256Hexdigest content) ≠ none

theorem FilesChange.registered (h : FilesChange σ σ') (hσ : σ.Registered) : σ'.Registered := by
  intro key content hcontent
  cases h with
  | same hobjects hdedup =>
      rw [hobjects] at hcontent
      rw [hdedup]
      exact hσ key content hcontent
  | added key' content' _ _ hobjects _ hregistered hdedup =>
      rw [hobjects] at hcontent
      by_cases hkey : key = key'
      · subst hkey
        rw [Function.update_self] at hcontent
        cases hcontent
        exact hregistered
      · rw [Function.update_of_ne hkey] at hcontent
        exact hdedup _ _ (hσ key content hcontent)

theorem FilesChange.filesInOrder {ops : List Op} {op : Op}
    (h : FilesChange (Run.steps env settings Run.start ops).world
      (Run.steps env settings Run.start (ops ++ [op])).world)
    (hregistered : (Run.steps env settings Run.start ops).world.Registered)
    (horder : FilesInOrder env settings ops) : FilesInOrder env settings (ops ++ [op]) := by
  cases h with
  | same hobjects _ =>
      refine ⟨fun w f hf => ?_, fun w f f' content content' hf hf' => ?_⟩
      · rw [hobjects] at hf
        exact (horder.complete w f hf).concat op
      · rw [hobjects] at hf hf'
        exact horder.distinct w f f' content content' hf hf'
  | added key content hcompleted _ hobjects hnone _ _ =>
      -- a file that was there before has another fingerprint than the new one
      have hnew : ∀ f content', (⟨key.workspaceId, f⟩ : S3Key) ≠ key →
          (Run.steps env settings Run.start (ops ++ [op])).world.objects ⟨key.workspaceId, f⟩ =
            some content' → sha256Hexdigest content' ≠ sha256Hexdigest content := by
        intro f content' hne hf hsame
        rw [hobjects, Function.update_of_ne hne] at hf
        refine hregistered _ _ hf ?_
        rw [hsame]
        exact hnone
      refine ⟨fun w f hf => ?_, fun w f f' c c' hf hf' hsame => ?_⟩
      · by_cases hkey : (⟨w, f⟩ : S3Key) = key
        · subst hkey
          exact ⟨ops ++ [op], List.prefix_rfl, hcompleted⟩
        · rw [hobjects, Function.update_of_ne hkey] at hf
          exact (horder.complete w f hf).concat op
      · by_cases hkey : (⟨w, f⟩ : S3Key) = key
        · by_cases hkey' : (⟨w, f'⟩ : S3Key) = key
          · exact congrArg S3Key.fileId (hkey.trans hkey'.symm)
          · subst hkey
            rw [hobjects, Function.update_self] at hf
            cases hf
            exact absurd hsame.symm (hnew f' c' hkey' hf')
        · by_cases hkey' : (⟨w, f'⟩ : S3Key) = key
          · subst hkey'
            rw [hobjects, Function.update_self] at hf'
            cases hf'
            exact absurd hsame (hnew f c hkey hf)
          · rw [hobjects, Function.update_of_ne hkey] at hf
            rw [hobjects, Function.update_of_ne hkey'] at hf'
            exact horder.distinct w f f' c c' hf hf' hsame

/-- With healthy stores, a run whose completions go on to the end once their file is put together
leaves neither orphans nor redundant copies. -/
theorem no_orphans (env : Environment) (settings : Settings) (ops : List Op)
    (hhealthy : ∀ op ∈ ops, op.StoresHealthy)
    (hcommits : Run.Within env settings (fun run op => op.Commits env run) Run.start ops) :
    FilesInOrder env settings ops := by
  suffices h : (Run.steps env settings Run.start ops).world.Registered ∧
      FilesInOrder env settings ops from h.2
  induction ops using List.reverseRecOn with
  | nil =>
      exact ⟨fun _ _ h => (nomatch h), fun _ _ h => absurd rfl h, fun _ _ _ _ _ h => (nomatch h)⟩
  | append_singleton ops op ih =>
      obtain ⟨hbefore, hop⟩ := Run.within_concat.mp hcommits
      obtain ⟨hregistered, horder⟩ := ih
        (fun op' h => hhealthy op' (List.mem_append_left _ h)) hbefore
      have hchange : FilesChange (Run.steps env settings Run.start ops).world
          (Run.steps env settings Run.start (ops ++ [op])).world := by
        rw [Run.steps_concat]
        cases op with
        | call c faults =>
            exact hop.filesChange (Run.wellStored_steps ops) (represented_steps ops)
              (hhealthy _ (List.mem_append_right _ List.mem_cons_self))
        | tick ms => exact .same rfl rfl
      exact ⟨hchange.registered hregistered, hchange.filesInOrder hregistered horder⟩

namespace Sample

/-- The same file, uploaded a second time under a session of its own. -/
def uploadedTwice : List Op :=
  completed ++ [.call (.initiate upload) [],
    .call (.processChunk { chunk with sessionId := ⟨8⟩ }) [],
    .call (.complete ⟨workspace, ⟨8⟩⟩) []]

/-- Another file under a session of its own. -/
def uploadedBoth : List Op :=
  completed ++ [.call (.initiate { upload with sha256Checksum := sha256Hexdigest [2] }) [],
    .call (.processChunk { rival with sessionId := ⟨8⟩ }) [],
    .call (.complete ⟨workspace, ⟨8⟩⟩) []]

end Sample

theorem no_orphans_sample : FilesInOrder Sample.environment Sample.settings Sample.uploadedBoth :=
  no_orphans Sample.environment Sample.settings Sample.uploadedBoth (by decide)
    ⟨trivial, trivial, by decide +kernel, trivial, trivial, by decide +kernel, trivial⟩

/-- A second upload of the same file is refused as a duplicate after its file has been put
together, and the file stays: it is a redundant copy, and its session is FAILED. -/
theorem duplicate_left_behind :
    (∀ op ∈ Sample.uploadedTwice, op.StoresHealthy) ∧
      ¬ FilesInOrder Sample.environment Sample.settings Sample.uploadedTwice := by
  refine ⟨by decide, fun h => ?_⟩
  have hfiles : (Run.steps Sample.environment Sample.settings Run.start
        Sample.uploadedTwice).world.objects ⟨Sample.workspace, Sample.session⟩ = some [1] ∧
      (Run.steps Sample.environment Sample.settings Run.start
        Sample.uploadedTwice).world.objects ⟨Sample.workspace, ⟨8⟩⟩ = some [1] := by
    decide +kernel
  exact absurd (h.distinct _ _ _ _ _ hfiles.1 hfiles.2 rfl) (by decide)

end RagFileUploader
