import RagFileUploader.Contracts.Manifests
import RagFileUploader.Contracts.Rejections

/-!
# What is checked before a completion

A session's chunks and offset are written together, in one hash, and the next chunk is numbered and
added up from what has been read.  However calls interleave and whatever fails, the manifest of a
stored session therefore has its indices in order and its sizes make up the offset.  Of the checks
of `_validate_chunk_manifest` only those on an empty manifest and on the sizes can fail, and the
check of the offset that comes after them cannot.
-/

namespace RagFileUploader

open Effects

variable {env : Environment} {settings : Settings} {σ : World} {session : UploadSession}
  {w s : UUID}

/-- The manifest lists the chunks in the order of their indices, each of an accepted size, and its
sizes make up the offset. -/
structure Accounted (session : UploadSession) : Prop where
  indices : session.chunkManifest.map ChunkMeta.index =
    CompleteUploadUseCase.indicesBelow session.chunkManifest.length
  sizes : ∀ c ∈ session.chunkManifest, 1 ≤ c.size ∧ c.size ≤ ProcessChunkUseCase.maxChunkSize
  total : (session.chunkManifest.map ChunkMeta.size).sum = session.offset

theorem indicesBelow_succ (n : ℕ) : CompleteUploadUseCase.indicesBelow (n + 1) =
    CompleteUploadUseCase.indicesBelow n ++ [(n : ℤ)] := by
  simp [CompleteUploadUseCase.indicesBelow, List.range_succ]

/-- The next chunk continues the numbers and the sum. -/
theorem Accounted.record {request : ProcessChunkRequest} {session' : UploadSession} {index : ℤ}
    (h : Accounted session) (hvalid : ProcessChunkUseCase.validate session request = .ok index)
    (hrecord : ProcessChunkUseCase.recordChunk session request index
      (session.offset + request.chunkData.length) = .ok session') : Accounted session' := by
  obtain ⟨hactive, -, hsize, -, rfl⟩ := ProcessChunkUseCase.validate_eq_ok hvalid
  have hpos := ProcessChunkUseCase.length_chunkData_pos request
  have hsession' := ProcessChunkUseCase.recordChunk_eq_ok hrecord hactive
  have hmanifest : session'.chunkManifest = session.chunkManifest ++
      [⟨session.chunkManifest.length, request.chunkData.length, request.chunkChecksum⟩] := by
    rw [hsession']
  have hoffset : session'.offset = session.offset + request.chunkData.length := by
    rw [hsession']
  refine ⟨?_, fun c hc => ?_, ?_⟩
  · rw [hmanifest, List.map_append, h.indices, List.length_append, List.length_singleton,
      indicesBelow_succ]
    rfl
  · rw [hmanifest] at hc
    rcases List.mem_append.mp hc with hc | hc
    · exact h.sizes c hc
    · obtain rfl := List.mem_singleton.mp hc
      exact ⟨by dsimp only; omega, hsize⟩
  · rw [hmanifest, hoffset, List.map_append, List.sum_append, h.total]
    simp

theorem preserved_accounted : Preserved Accounted where
  fresh := fun hnew => by
    obtain ⟨-, -, hoffset, hmanifest, -⟩ := InitiateUploadUseCase.newSession_eq_ok hnew
    refine ⟨?_, fun c hc => ?_, ?_⟩
    · rw [hmanifest]
      rfl
    · rw [hmanifest] at hc
      cases hc
    · rw [hmanifest, hoffset]
      rfl
  record := Accounted.record
  status := fun _ h => ⟨h.indices, h.sizes, h.total⟩

/-- An accounted manifest is empty exactly as long as the offset is 0. -/
theorem Accounted.manifest_eq_nil_iff (h : Accounted session) :
    session.chunkManifest = [] ↔ session.offset = 0 := by
  constructor
  · intro hnil
    rw [← h.total, hnil]
    rfl
  · intro hzero
    by_contra hne
    have hle : ∀ c ∈ session.chunkManifest.map ChunkMeta.size, 0 ≤ c := fun c hc => by
      obtain ⟨m, hm, rfl⟩ := List.mem_map.mp hc
      exact le_trans zero_le_one (h.sizes m hm).1
    obtain ⟨c, hc⟩ := List.exists_mem_of_ne_nil _ hne
    have hsingle := List.single_le_sum hle c.size (List.mem_map_of_mem hc)
    rw [h.total, hzero] at hsingle
    exact absurd (h.sizes c hc).1 (by omega)

namespace CompleteUploadUseCase

/-- What `_validate_chunk_manifest` says of an accounted manifest. -/
theorem validateChunkManifest_of_accounted (h : Accounted session) :
    validateChunkManifest session =
      if session.offset = 0 then
        .error (.invalidSessionStateError session.sessionId "chunk_manifest is empty"
          "validate_completeness")
      else if session.offset ≠ session.size then
        .error (.invalidSessionStateError session.sessionId
          s!"chunk_manifest size mismatch: {session.offset} != {session.size}"
          "validate_completeness")
      else .ok () := by
  have hmem : ∀ i ∈ (session.chunkManifest.map ChunkMeta.index).dedup,
      i ∈ (List.range session.chunkManifest.length).map Int.ofNat := fun i hi => by
    rw [List.mem_dedup, h.indices] at hi
    exact hi
  have hmem' : ∀ i ∈ (List.range session.chunkManifest.length).map Int.ofNat,
      i ∈ (session.chunkManifest.map ChunkMeta.index).dedup := fun i hi => by
    rw [List.mem_dedup, h.indices]
    exact hi
  have hmissing : ((List.range session.chunkManifest.length).map Int.ofNat).filter
      (· ∉ (session.chunkManifest.map ChunkMeta.index).dedup) = [] := by
    simpa [List.filter_eq_nil_iff] using hmem'
  have hextra : ((session.chunkManifest.map ChunkMeta.index).dedup).filter
      (· ∉ (List.range session.chunkManifest.length).map Int.ofNat) = [] := by
    simpa [List.filter_eq_nil_iff] using hmem
  rw [validateChunkManifest]
  simp only [hmissing, hextra, h.total, h.manifest_eq_nil_iff, raiseIf, ne_eq, not_true_eq_false,
    or_self, if_false]
  by_cases hzero : session.offset = 0
  · rw [if_pos hzero, if_pos hzero]
    rfl
  · rw [if_neg hzero, if_neg hzero]
    by_cases hsize : session.offset = session.size
    · rw [if_neg (not_not.mpr hsize), if_neg (not_not.mpr hsize)]
      rfl
    · rw [if_pos hsize, if_pos hsize]
      rfl

/-- Whether a completion starts depends on the status and the offset alone. -/
def admission (s : UUID) (status : SessionStatus) (offset size : ℤ) : Except Exc Unit :=
  if status ≠ .inProgress then
    .error (.invalidSessionStateError s status.value "complete_upload")
  else if offset = 0 then
    .error (.invalidSessionStateError s "chunk_manifest is empty" "validate_completeness")
  else if offset ≠ size then
    .error (.invalidSessionStateError s s!"chunk_manifest size mismatch: {offset} != {size}"
      "validate_completeness")
  else .ok ()

theorem validateSession_of_accounted (h : Accounted session) (hkey : session.key = ⟨w, s⟩) :
    validateSession ⟨w, s⟩ session = admission s session.status session.offset session.size := by
  obtain ⟨hworkspace, hsession⟩ := SessionKey.mk.inj hkey
  rw [validateSession, validateChunkManifest_of_accounted h, hworkspace, hsession, admission]
  simp only [raiseIf, ne_eq, not_true_eq_false, if_false]
  by_cases hstatus : session.status = .inProgress
  · rw [if_neg (not_not.mpr hstatus), if_neg (not_not.mpr hstatus)]
    by_cases hzero : session.offset = 0
    · rw [if_pos hzero]
      rfl
    · rw [if_neg hzero]
      by_cases hsize : session.offset = session.size
      · simp only [hsize, not_true_eq_false, if_false]
        rfl
      · simp only [hsize, not_false_eq_true, if_true]
        rfl
  · rw [if_pos hstatus, if_pos hstatus]
    rfl

end CompleteUploadUseCase

/-- In every reachable world the session that a reader gets is accounted, and what is checked
before it is completed comes down to its status and its offset; a completion that is not admitted
raises what the check raises and changes nothing. -/
theorem completion_admitted (hσ : σ.Reachable env settings) (hreads : σ.Reads w s session) :
    Accounted session ∧
      CompleteUploadUseCase.validateSession ⟨w, s⟩ session =
        CompleteUploadUseCase.admission s session.status session.offset session.size ∧
      ∀ e, CompleteUploadUseCase.admission s session.status session.offset session.size =
          .error e →
        (CompleteUploadUseCase.execute (dependencies settings) ⟨w, s⟩).run (serviceMachine env)
          [] σ = (.error e, σ) := by
  have haccounted := hσ.of_reads preserved_accounted hreads
  have hvalidate := CompleteUploadUseCase.validateSession_of_accounted haccounted hreads.key_eq
  refine ⟨haccounted, hvalidate, fun e he => ?_⟩
  rw [← hvalidate] at he
  rw [CompleteUploadUseCase.execute]
  refine (Program.run_calm_bind_ok (ProcessChunkUseCase.run_getSession_of_reads hreads)).trans ?_
  have hpass : CompleteUploadUseCase.passes e = true :=
    CompleteUploadUseCase.raises_validateSession e he
  have hbody : (CompleteUploadUseCase.body (dependencies settings) ⟨w, s⟩ session).run
      (serviceMachine env) [] σ = (.error e, σ) := by
    refine Program.run_calm_bind_error ?_
    rw [run_ofExcept, he]
  rw [Program.run_calm_tryCatch, hbody]
  change (CompleteUploadUseCase.settle (dependencies settings) session e).run _ _ _ = _
  rw [CompleteUploadUseCase.settle_eq, if_neg (by simp [CompleteUploadUseCase.marks, hpass])]
  rfl

namespace Sample

/-- One of the two bytes has arrived. -/
def halfway : World :=
  (Run.steps environment Sample.settings Run.start
    [.call (.initiate pairUpload) [], .call (.processChunk chunk) []]).world

def halfSession : UploadSession where
  toSessionFields := { pendingSession.toSessionFields with
    size := 2
    sha256Checksum := .fromBytes [1, 2]
    offset := 1
    status := .inProgress
    chunkManifest := [⟨0, 1, chunk.chunkChecksum⟩] }
  valid := by decide +kernel

end Sample

theorem completion_admitted_sample :
    Accounted Sample.halfSession ∧
      CompleteUploadUseCase.validateSession ⟨Sample.workspace, Sample.session⟩
          Sample.halfSession =
        CompleteUploadUseCase.admission Sample.session Sample.halfSession.status
          Sample.halfSession.offset Sample.halfSession.size ∧
      ∀ e, CompleteUploadUseCase.admission Sample.session Sample.halfSession.status
          Sample.halfSession.offset Sample.halfSession.size = .error e →
        (CompleteUploadUseCase.execute (dependencies Sample.settings)
          ⟨Sample.workspace, Sample.session⟩).run (serviceMachine Sample.environment) []
            Sample.halfway = (.error e, Sample.halfway) :=
  completion_admitted (Run.reachable_steps
    [.call (.initiate Sample.pairUpload) [], .call (.processChunk Sample.chunk) []])
    ⟨by decide, rfl, by decide +kernel⟩

end RagFileUploader
