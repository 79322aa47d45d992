import RagFileUploader.Infrastructure.Service
import RagFileUploader.Application.Rules

/-!
# Footprints

Which commands the parts of the service may issue: those of one area, on behalf of one workspace.
Everything that a part leaves alone whatever happens to it follows from its footprint.
-/

namespace RagFileUploader

open Effects

variable {settings : Settings} {w s f : UUID} {α : Type}

/-- A command of the area on behalf of the workspace. -/
def InArea (area : Area) (w : UUID) (c : Command) : Prop :=
  c.area = area ∧ c.workspace? = some w

theorem issues_send {P : Command → Prop} {c : Command} (h : P c) : (send c).Issues P :=
  Program.issues_perform.mpr h

/-- Sending a command and going on whatever it returns. -/
theorem issues_send_bind {P : Command → Prop} {c : Command} {next : c.Reply → Service α}
    (h : P c) (hnext : ∀ reply, (next reply).Issues P) : (send c >>= next).Issues P :=
  (issues_send h).bind hnext

/-! ## The stores -/

theorem sessionKey_bind_issues {P : Command → Prop} {f : SessionKey → Service α}
    (h : (f ⟨w, s⟩).Issues P) : (MonadExcept.ofExcept (sessionKey w s) >>= f).Issues P := by
  cases hkey : sessionKey w s with
  | error e => trivial
  | ok key =>
      simp only [sessionKey, validateWorkspaceId, validateDocumentId, except_bind_eq_ok,
        raiseIf_eq_ok] at hkey
      obtain ⟨-, -, -, -, hkey⟩ := hkey
      cases hkey
      exact h

theorem workspaceKey_bind_issues {P : Command → Prop} {f : UUID → Service α}
    (h : (f w).Issues P) : (MonadExcept.ofExcept (workspaceKey w) >>= f).Issues P := by
  cases hkey : workspaceKey w with
  | error e => trivial
  | ok key =>
      simp only [workspaceKey, validateWorkspaceId, except_bind_eq_ok, raiseIf_eq_ok] at hkey
      obtain ⟨-, -, hkey⟩ := hkey
      cases hkey
      exact h

theorem issues_checkAndIncrement :
    (RedisRateLimiter.checkAndIncrement settings w).Issues (InArea .counters w) := by
  refine workspaceKey_bind_issues (Program.Issues.tryCatch ?_ fun _ => trivial)
  refine issues_send_bind ⟨rfl, rfl⟩ fun count? => Program.Issues.bind ?_ fun _ =>
    issues_map (issues_send ⟨rfl, rfl⟩)
  unfold raiseIf
  split <;> trivial

theorem issues_decrement : (RedisRateLimiter.decrement w).Issues (InArea .counters w) := by
  refine workspaceKey_bind_issues (Program.Issues.tryCatch ?_ fun _ => trivial)
  refine issues_send_bind ⟨rfl, rfl⟩ fun count => ?_
  split
  · exact issues_send ⟨rfl, rfl⟩
  · trivial

theorem issues_checkDuplicate {sha256 : SHA256Hash} :
    (RedisDeduplicationStore.checkDuplicate w sha256).Issues (InArea .dedupLookup w) := by
  refine issues_tryExcept (workspaceKey_bind_issues ?_) fun _ => trivial
  refine issues_send_bind ⟨rfl, rfl⟩ fun found => ?_
  split
  · refine issues_send_bind ⟨rfl, rfl⟩ fun metadata? => ?_
    cases metadata? with
    | none => trivial
    | some metadata => exact issues_map issues_ofExcept
  · trivial

theorem issues_registerFile {sha256 : SHA256Hash} {metadata : FileMetadata} :
    (RedisDeduplicationStore.registerFile w sha256 metadata).Issues
      (InArea .dedupRegister w) :=
  issues_tryExcept (workspaceKey_bind_issues (issues_ofExcept.bind fun _ =>
    issues_send ⟨rfl, rfl⟩)) fun _ => trivial

/-! ## Storage -/

namespace S3StorageClient

variable {key : S3Key} {uploadId : UploadId}

theorem issues_checkFileExists (key : S3Key) :
    (checkFileExists key f).Issues (InArea .s3 key.workspaceId) := by
  refine issues_tryExcept (issues_send_bind ⟨rfl, rfl⟩ fun _ => trivial) fun e => ?_
  split <;> trivial

theorem issues_gather {P : Command → Prop} {tasks : List (Service α)}
    (h : ∀ task ∈ tasks, task.Issues P) : (gather tasks).Issues P := by
  induction tasks with
  | nil => trivial
  | cons task tasks ih =>
      obtain ⟨htask, htasks⟩ := List.forall_mem_cons.mp h
      refine Program.Issues.bind ((issues_map htask).tryCatch fun _ => trivial) fun r => ?_
      cases r with
      | ok a => exact (ih htasks).bind fun _ => trivial
      | error e =>
          exact Program.Issues.bind (issues_map
            (Program.Issues.tryCatch (issues_map (ih htasks)) fun _ => trivial)) fun _ => trivial

theorem issues_uploadPart {partNum : ℕ} {chunk : Bytes} :
    (uploadPart key uploadId partNum chunk).Issues (InArea .s3 key.workspaceId) := by
  refine issues_send_bind ⟨rfl, rfl⟩ fun etag? => ?_
  cases etag? <;> trivial

theorem issues_uploadParts (key : S3Key) {chunks : List Bytes} {expected : SHA256Hash} :
    (uploadParts settings key f uploadId chunks expected).Issues (InArea .s3 key.workspaceId) := by
  refine Program.Issues.bind (issues_gather fun task htask => ?_) fun parts =>
    issues_send_bind ⟨rfl, rfl⟩ fun _ => ?_
  · obtain ⟨⟨chunk, partNum⟩, -, rfl⟩ := List.mem_map.mp htask
    exact issues_uploadPart
  · split
    · exact Program.Issues.bind
        (issues_tryExcept (issues_send ⟨rfl, rfl⟩) fun _ => trivial) fun _ => trivial
    · trivial

theorem issues_abortMultipartUpload (uploadId : Option UploadId) :
    (abortMultipartUpload key uploadId).Issues (InArea .s3 key.workspaceId) := by
  cases uploadId with
  | none => trivial
  | some uploadId => exact issues_tryExcept (issues_send ⟨rfl, rfl⟩) fun _ => trivial

theorem issues_assembleFailed (key : S3Key) (uploadId : Option UploadId) (e : Exc) :
    (assembleFailed settings key uploadId e : Service α).Issues
      (InArea .s3 key.workspaceId) := by
  unfold assembleFailed
  split
  · trivial
  · split
    · exact (issues_abortMultipartUpload uploadId).bind fun _ => trivial
    · split
      · exact (issues_abortMultipartUpload uploadId).bind fun _ => trivial
      · trivial

theorem issues_assembleFile {chunks : List Bytes} {expected : SHA256Hash} :
    (assembleFile settings w f chunks expected).Issues (InArea .s3 w) := by
  have hfailed : ∀ {α : Type} (uploadId : Option UploadId) (e : Exc),
      (assembleFailed settings ⟨w, f⟩ uploadId e : Service α).Issues (InArea .s3 w) :=
    fun uploadId e => issues_assembleFailed ⟨w, f⟩ uploadId e
  have hbegin : (beginUpload ⟨w, f⟩ f).Issues (InArea .s3 w) :=
    (issues_checkFileExists ⟨w, f⟩).bind fun _ =>
      issues_send_bind ⟨rfl, rfl⟩ fun _ => issues_ofExcept
  refine issues_ofExcept.bind fun _ => issues_ofExcept.bind fun _ =>
    (hbegin.tryCatch (hfailed none)).bind fun uploadId => ?_
  exact Program.Issues.tryCatch (issues_uploadParts ⟨w, f⟩) (hfailed (some uploadId))

theorem ends_assembleFailed {Q : Except Exc α → Prop} {uploadId : Option UploadId} {e : Exc}
    (hQ : ∀ e, Q (.error e)) : (assembleFailed settings key uploadId e : Service α).Ends Q := by
  have habort : ∀ e', (abortMultipartUpload key uploadId >>= fun _ => throw e' :
      Service α).Ends Q := fun e' => Program.ends_bind_of_forall (fun _ => hQ e') hQ
  unfold assembleFailed
  split
  · exact hQ _
  · split
    · exact habort _
    · split
      · exact habort _
      · exact hQ _

/-- Whatever S3 answers, a file that was assembled has the path of its key and the size of its
chunks. -/
theorem ends_assembleFile {chunks : List Bytes} {expected : SHA256Hash} :
    (assembleFile settings w f chunks expected).Ends fun r => ∀ file, r = .ok file →
      file = (s3Path settings ⟨w, f⟩, ((chunks.map List.length).sum : ℤ)) := by
  refine Program.ends_bind_of_forall (fun _ => ?_) fun _ _ h => nomatch h
  refine Program.ends_bind_of_forall (fun _ => ?_) fun _ _ h => nomatch h
  refine Program.ends_bind_of_forall (fun uploadId => ?_) fun _ _ h => nomatch h
  refine Program.ends_tryCatch.mpr ?_
  refine Program.ends_bind_of_forall (fun parts => ?_) fun e =>
    ends_assembleFailed fun _ _ h => nomatch h
  refine Program.ends_bind_of_forall (fun _ => ?_) fun e =>
    ends_assembleFailed fun _ _ h => nomatch h
  split
  · refine Program.ends_bind_of_forall (fun _ => ?_) fun e =>
      ends_assembleFailed fun _ _ h => nomatch h
    exact ends_assembleFailed fun _ _ h => nomatch h
  · rintro _ ⟨⟩
    rfl

end S3StorageClient

/-! ## The steps of a completion -/

namespace CompleteUploadUseCase

variable {request : CompleteUploadRequest} {session : UploadSession} {s3Path : String}
  {finalSize : ℤ}

theorem issues_retrieveAll (manifest : List ChunkMeta) :
    (manifest.mapM (retrieveChunk (dependencies settings) w s)).Issues
      (InArea .chunks w) := by
  have hchunk : ∀ c, (retrieveChunk (dependencies settings) w s c).Issues
      (InArea .chunks w) := by
    intro c
    refine issues_tryExcept (issues_send_bind ⟨rfl, rfl⟩ fun data? => ?_) fun e => ?_
    · cases data? <;> trivial
    · split <;> trivial
  induction manifest with
  | nil => trivial
  | cons c manifest ih =>
      rw [List.mapM_cons]
      exact (hchunk c).bind fun _ => ih.bind fun _ => trivial

theorem issues_cleanup (manifest : List ChunkMeta) :
    (cleanupChunks (dependencies settings) w s manifest).Issues (InArea .chunks w) := by
  unfold cleanupChunks
  induction manifest with
  | nil => trivial
  | cons c manifest ih =>
      exact Program.Issues.bind (issues_tryExcept (issues_send ⟨rfl, rfl⟩) fun _ => trivial)
        fun _ => ih

/-- Registering the fingerprint reads the clock first. -/
theorem issues_registration :
    (register (dependencies settings) request session s3Path finalSize).Issues fun c : Command =>
      c = .now ∨ InArea .dedupRegister request.workspaceId c :=
  issues_send_bind (.inl rfl) fun _ => issues_ofExcept.bind fun _ =>
    issues_registerFile.mono fun _ h => .inr h

end CompleteUploadUseCase

end RagFileUploader
