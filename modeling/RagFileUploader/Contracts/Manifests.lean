import RagFileUploader.Serial.CompleteSpec

/-!
# The manifest of a complete upload

`_validate_chunk_manifest` compares the set of the indices with the numbers below the length of the
manifest.  All of these occur only if none occurs twice, so that a manifest passes exactly if its
indices are those numbers in some order.  `_retrieve_chunks` then reads the same chunks in the same
order from every reordering.
-/

namespace RagFileUploader.CompleteUploadUseCase

open Effects

/-- The numbers below `n`, as indices. -/
def indicesBelow (n : ℕ) : List ℤ := (List.range n).map Int.ofNat

/-- The indices run from 0 without gaps or duplicates, and the sizes make up the file. -/
structure Exact (session : UploadSession) : Prop where
  nonempty : session.chunkManifest ≠ []
  indices : (session.chunkManifest.map ChunkMeta.index).Perm
    (indicesBelow session.chunkManifest.length)
  sizes : (session.chunkManifest.map ChunkMeta.size).sum = session.size

/-- The bytes under the first indices, in their order. -/
def HoldsChunks (σ : World) (w s : UUID) (chunks : List Bytes) : Prop :=
  ∀ i (hi : i < chunks.length), σ.chunk? ⟨w, s, i⟩ = some chunks[i]

variable {session : UploadSession} {manifest : List ChunkMeta} {σ : World} {w s : UUID}
  {chunks : List Bytes}

/-! ## Validation -/

theorem nodup_indicesBelow (n : ℕ) : (indicesBelow n).Nodup :=
  List.nodup_range.map fun _ _ h => Int.ofNat.inj h

/-- As many indices as entries leave no room for a duplicate. -/
theorem perm_indicesBelow_iff (indices : List ℤ) :
    indices.Perm (indicesBelow indices.length) ↔
      ∀ i ∈ indicesBelow indices.length, i ∈ indices := by
  constructor
  · intro h i hi
    exact h.mem_iff.mpr hi
  · intro h
    have hsub : (indicesBelow indices.length).Subperm indices :=
      List.subperm_of_subset (nodup_indicesBelow _) h
    refine (hsub.perm_of_length_le ?_).symm
    simp [indicesBelow]

theorem validateChunkManifest_eq_ok_iff :
    validateChunkManifest session = .ok () ↔ Exact session := by
  have hindices : ((session.chunkManifest.map ChunkMeta.index).Perm
      (indicesBelow session.chunkManifest.length)) ↔
      ∀ i ∈ indicesBelow session.chunkManifest.length,
        i ∈ session.chunkManifest.map ChunkMeta.index := by
    have hcount := perm_indicesBelow_iff (session.chunkManifest.map ChunkMeta.index)
    rwa [List.length_map] at hcount
  simp only [validateChunkManifest, except_bind_eq_ok, raiseIf_eq_ok, Unique.exists_iff, not_not,
    not_or, List.filter_eq_nil_iff, decide_eq_true_eq, List.mem_dedup]
  constructor
  · rintro ⟨hne, ⟨hmissing, -⟩, hsum⟩
    exact ⟨hne, hindices.mpr hmissing, hsum⟩
  · rintro ⟨hne, hperm, hsum⟩
    exact ⟨hne, ⟨hindices.mp hperm, fun i hi => hperm.mem_iff.mp hi⟩, hsum⟩

/-! ## Retrieval -/

theorem sorted_indicesBelow (n : ℕ) : (indicesBelow n).Pairwise (· ≤ ·) := by
  refine List.pairwise_map.mpr (List.pairwise_le_range.imp fun h => ?_)
  exact Int.ofNat_le.mpr h

/-- Sorting puts the entries in the order of the numbers. -/
theorem indices_sortManifest
    (h : (manifest.map ChunkMeta.index).Perm (indicesBelow manifest.length)) :
    (sortManifest manifest).map ChunkMeta.index = indicesBelow manifest.length := by
  have hperm : ((sortManifest manifest).map ChunkMeta.index).Perm (indicesBelow manifest.length) :=
    ((List.perm_insertionSort _ manifest).map _).trans h
  refine hperm.eq_of_pairwise' (List.pairwise_map.mpr ?_) (sorted_indicesBelow _)
  exact List.pairwise_insertionSort _ manifest

theorem Retrieved.map_some (h : Retrieved σ w s manifest chunks) :
    chunks.map some = (manifest.map ChunkMeta.index).map fun i => σ.chunk? ⟨w, s, i⟩ := by
  induction h with
  | nil => rfl
  | cons hchunk _ ih => rw [List.map_cons, List.map_cons, List.map_cons, hchunk, ih]

theorem HoldsChunks.map_some (h : HoldsChunks σ w s chunks) :
    chunks.map some = (indicesBelow chunks.length).map fun i => σ.chunk? ⟨w, s, i⟩ := by
  refine List.ext_getElem (by simp [indicesBelow]) fun i hi _ => ?_
  have hi' : i < chunks.length := by simpa using hi
  simp [indicesBelow, h i hi']

/-- The chunks come in the order of their indices, whatever the order of the manifest. -/
theorem run_retrieveChunks {env : Environment} {settings : Settings}
    (hindices : (manifest.map ChunkMeta.index).Perm (indicesBelow manifest.length))
    (hlength : chunks.length = manifest.length) (h : HoldsChunks σ w s chunks) :
    (retrieveChunks (dependencies settings) w s manifest).run (serviceMachine env) [] σ =
      (.ok chunks, σ) := by
  have hsorted := indices_sortManifest hindices
  rw [← hlength] at hsorted
  have hwp : (retrieveChunks (dependencies settings) w s manifest).wp (serviceMachine env)
      (fun _ => False) (fun r σ' => (r, σ') = (.ok chunks, σ)) σ := by
    refine wp_retrieveAll _ (fun chunks' hread => ?_) (fun hmissing => ?_) fun hfail => ?_
    · have hsame : chunks'.map some = chunks.map some := by
        rw [hread.map_some, hsorted, h.map_some]
      rw [List.map_injective_iff.mpr (Option.some_injective _) hsame]
    · obtain ⟨c, hc, hnone⟩ := hmissing
      have hmem : c.index ∈ indicesBelow chunks.length := hsorted ▸ List.mem_map_of_mem hc
      obtain ⟨i, hi, hindex⟩ := List.mem_map.mp hmem
      have hsome := h i (List.mem_range.mp hi)
      rw [← hindex] at hnone
      exact nomatch hsome.symm.trans hnone
    · obtain ⟨_, h, _⟩ := hfail
      exact h.elim
  exact Program.wp_calm_iff.mp hwp

/-- Validation is exact, and what passes is retrieved in the order of the indices from every
reordering. -/
theorem manifest_exact (session : UploadSession) :
    (validateChunkManifest session = .ok () ↔ Exact session) ∧
      (validateChunkManifest session = .ok () →
        ∀ (env : Environment) (settings : Settings) (σ : World) (w s : UUID) (chunks : List Bytes),
          chunks.length = session.chunkManifest.length → HoldsChunks σ w s chunks →
          ∀ manifest, manifest.Perm session.chunkManifest →
            (retrieveChunks (dependencies settings) w s manifest).run (serviceMachine env) [] σ =
              (.ok chunks, σ)) := by
  refine ⟨validateChunkManifest_eq_ok_iff, fun hvalid env settings σ w s chunks hlength h
    manifest hperm => ?_⟩
  have hexact := validateChunkManifest_eq_ok_iff.mp hvalid
  refine run_retrieveChunks ?_ (hlength.trans hperm.length_eq.symm) h
  rw [hperm.length_eq]
  exact (hperm.map _).trans hexact.indices

end RagFileUploader.CompleteUploadUseCase
