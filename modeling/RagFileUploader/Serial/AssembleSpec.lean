import RagFileUploader.Serial.StoreSpecs

/-!
# What assembling a file does

`assembleFile` ends in one of three ways: it changed nothing but the bookkeeping of multipart
uploads, it left a corrupt object at a key that was free, or it put the concatenation of the
chunks there.  The parts go through S3 one command at a time; `wp_gather` carries the uploaded
prefix through that loop.
-/

namespace RagFileUploader

open Effects Stores

variable {env : Environment} {F : Fault → Prop} {α β : Type} {σ : World}

/-- The world with other multipart uploads under way. -/
def World.setUploads (σ : World) (uploads : UploadId → Option Upload) : World :=
  { σ with uploads }

/-- The world with other multipart bookkeeping. -/
def World.withUploads (σ : World) (uploads : UploadId → Option Upload) (nextUpload : UploadId) :
    World := { σ with uploads, nextUpload }

namespace S3StorageClient

/-! ## Uploading the parts -/

/-- The parts that the chunks become, numbered from `k`. -/
def partsFrom (k : ℕ) (chunks : List Bytes) : List Part :=
  (chunks.zipIdx k).map fun (chunk, partNum) => ⟨partNum, chunk⟩

@[simp] theorem partsFrom_cons (k : ℕ) (chunk : Bytes) (chunks : List Bytes) :
    partsFrom k (chunk :: chunks) = ⟨k, chunk⟩ :: partsFrom (k + 1) chunks := by
  simp [partsFrom, List.zipIdx_cons]

theorem le_partNumber {k : ℕ} {chunks : List Bytes} {part : Part}
    (h : part ∈ partsFrom k chunks) : k ≤ part.partNumber := by
  induction chunks generalizing k with
  | nil => simp [partsFrom] at h
  | cons chunk chunks ih =>
      rw [partsFrom_cons, List.mem_cons] at h
      rcases h with rfl | h
      · exact le_rfl
      · exact Nat.le_of_succ_le (ih h)

theorem partsFrom_append (k : ℕ) (chunk : Bytes) (chunks : List Bytes) :
    partsFrom k (chunks ++ [chunk]) = partsFrom k chunks ++ [⟨k + chunks.length, chunk⟩] := by
  simp [partsFrom, List.zipIdx_append]

theorem partNumber_lt {k : ℕ} {part : Part} (h : part ∈ partsFrom k chunks) :
    part.partNumber < k + chunks.length := by
  induction chunks generalizing k with
  | nil => simp [partsFrom] at h
  | cons chunk chunks ih =>
      rw [partsFrom_cons, List.mem_cons] at h
      rw [List.length_cons]
      rcases h with rfl | h
      · dsimp only
        omega
      · have := ih h
        omega

theorem partsFrom_ascending (k : ℕ) (chunks : List Bytes) :
    ((partsFrom k chunks).map Part.partNumber).Pairwise (· < ·) := by
  induction chunks generalizing k with
  | nil => simp [partsFrom]
  | cons chunk chunks ih =>
      rw [partsFrom_cons, List.map_cons, List.pairwise_cons]
      refine ⟨fun n hn => ?_, ih (k + 1)⟩
      obtain ⟨part, hpart, rfl⟩ := List.mem_map.mp hn
      exact le_partNumber hpart

/-- An upload that holds every listed part under its tag collects to their concatenation. -/
theorem collect_eq {u : Upload} {parts : List Part}
    (h : ∀ part ∈ parts, u.parts part.partNumber = some part.etag) :
    u.collect parts = some (parts.map Part.etag).flatten := by
  induction parts with
  | nil => rfl
  | cons part parts ih =>
      obtain ⟨hpart, hparts⟩ := List.forall_mem_cons.mp h
      simp [Upload.collect, hpart, ih hparts]

theorem collect_partsFrom {u : Upload} {k : ℕ} {chunks : List Bytes}
    (h : ∀ part ∈ partsFrom k chunks, u.parts part.partNumber = some part.etag) :
    u.collect (partsFrom k chunks) = some chunks.flatten := by
  have hetags : (partsFrom k chunks).map Part.etag = chunks := by
    simp only [partsFrom, List.map_map]
    exact (List.map_congr_left fun _ _ => rfl).trans (List.zipIdx_map_fst k chunks)
  rw [collect_eq h, hetags]

/-- A task that is watched for its exception does not raise it. -/
theorem wp_observe {p : Service α} {Q : Except Exc (Except Exc α) → World → Prop}
    (h : p.wp (serviceMachine env) F (fun r σ' => Q (.ok r) σ') σ) :
    (tryCatch (Except.ok <$> p) (fun e => pure (Except.error e)) :
      Service (Except Exc α)).wp (serviceMachine env) F Q σ := by
  rw [Program.wp_tryCatch]
  refine wp_map (Program.wp_mono h fun r σ' hr => ?_)
  cases r with
  | ok a => exact hr
  | error e => exact hr

/-- The state of an upload whose parts below `k` are those of `u`, and from `k` on the chunks. -/
structure Uploaded (σ σ' : World) (key : S3Key) (uploadId : UploadId) (u : Upload) (k : ℕ) :
    Prop where
  frame : ∃ uploads, σ' = σ.setUploads uploads
  upload : ∃ u', σ'.upload? key uploadId = some u' ∧ ∀ n < k, u'.parts n = u.parts n

@[simp] theorem upload?_setUpload {key : S3Key} {uploadId : UploadId} {u : Upload}
    (hkey : u.key = key) : (σ.setUpload uploadId (some u)).upload? key uploadId = some u := by
  simp [World.setUpload, World.upload?, hkey]

theorem upload?_key {key : S3Key} {uploadId : UploadId} {u : Upload}
    (h : σ.upload? key uploadId = some u) : u.key = key := by
  simpa using (Option.filter_eq_some_iff.mp h).2

/-- Every task runs.  If all succeed the listed parts are there; otherwise a fault hit S3. -/
theorem wp_gather {key : S3Key} {uploadId : UploadId} {chunks : List Bytes} {k : ℕ} {u : Upload}
    (hu : σ.upload? key uploadId = some u) :
    (gather ((chunks.zipIdx k).map fun (chunk, partNum) =>
        uploadPart key uploadId partNum chunk)).wp (serviceMachine env) F
      (fun r σ' => Uploaded σ σ' key uploadId u k ∧
        match r with
        | .ok parts => parts = partsFrom k chunks ∧ ∃ u', σ'.upload? key uploadId = some u' ∧
            ∀ part ∈ partsFrom k chunks, u'.parts part.partNumber = some part.etag
        | .error e => e.isException = true ∧ CanFail F .s3) σ := by
  induction chunks generalizing σ k u with
  | nil =>
      exact ⟨⟨⟨σ.uploads, rfl⟩, u, hu, fun _ _ => rfl⟩, rfl, u, hu, by simp [partsFrom]⟩
  | cons chunk chunks ih =>
      rw [List.zipIdx_cons, List.map_cons, gather, Program.wp_bind]
      refine wp_observe ?_
      change (uploadPart key uploadId k chunk).wp (serviceMachine env) F _ σ
      rw [uploadPart, Program.wp_bind]
      refine wp_send ?_ fun hcan e he _ => ?_
      · -- this part got through; the others follow in the upload that now holds it
        set u₁ := u.addPart k chunk with hu₁
        have hkey : u₁.key = key := by
          rw [hu₁]
          exact (upload?_key hu : u.key = key)
        simp only [Command.act, hu, ← hu₁]
        rw [wp_pure, Program.wp_bind]
        refine Program.wp_mono (ih (k := k + 1) (upload?_setUpload hkey)) ?_
        rintro r σ' ⟨⟨⟨uploads, hframe⟩, u', hu', hbelow⟩, hr⟩
        have hframe' : Uploaded σ σ' key uploadId u k := by
          refine ⟨⟨uploads, hframe⟩, u', hu', fun n hn => ?_⟩
          rw [hbelow n (by omega), hu₁]
          simp [Upload.addPart, Nat.ne_of_lt hn]
        cases r with
        | ok parts =>
            obtain ⟨rfl, u'', hu'', hparts⟩ := hr
            obtain rfl : u' = u'' := Option.some_injective _ (hu'.symm.trans hu'')
            refine ⟨hframe', by rw [partsFrom_cons], u', hu', fun part hpart => ?_⟩
            rw [partsFrom_cons, List.mem_cons] at hpart
            rcases hpart with rfl | hpart
            · rw [hbelow k (by omega), hu₁]
              simp [Upload.addPart]
            · exact hparts part hpart
        | error e => exact ⟨hframe', hr⟩
      · -- this part failed; the others still run, and their outcome is dropped
        dsimp only
        rw [Program.wp_bind]
        refine wp_map (wp_observe (Program.wp_mono (ih (k := k + 1) hu) ?_))
        rintro r σ' ⟨⟨hframe, u', hu', hbelow⟩, -⟩
        exact ⟨⟨hframe, u', hu', fun n hn => hbelow n (by omega)⟩, he, hcan⟩

/-! ## The whole operation -/

variable {settings : Settings} {w f : UUID} {key : S3Key} {chunks : List Bytes}
  {expected : SHA256Hash}

theorem wp_checkFileExists {Q : Except Exc Unit → World → Prop}
    (habsent : σ.objects key = none → Q (.ok ()) σ)
    (hfail : σ.objects key ≠ none ∨ CanFail F .s3 →
      ∀ e, e.isException = true → Q (.error e) σ) :
    (checkFileExists key f).wp (serviceMachine env) F Q σ := by
  rw [checkFileExists, wp_tryExcept, Program.wp_bind]
  refine wp_send ?_ fun hcan e he habs => ⟨fun _ => ?_, fun _ => hfail (.inr hcan) e he⟩
  · simp only [Command.act]
    cases hobject : σ.objects key with
    | none => exact ⟨fun _ => habsent hobject, fun h => by cases h⟩
    | some content =>
        have hwhy : σ.objects key ≠ none ∨ CanFail F .s3 := .inl (by simp [hobject])
        exact ⟨fun h => (by cases h), fun _ => hfail hwhy (.integrityError _ _ _ _) rfl⟩
  · have hother : e.saysAbsent = false := by
      simpa [Command.asksPresence] using habs
    simp only [hother]
    exact hfail (.inr hcan) e he

/-- The handlers of `assemble_file` abort the upload, if there is one, and raise. -/
theorem wp_assembleFailed {uploadId : Option UploadId} {e : Exc}
    {Q : Except Exc α → World → Prop} (he : e.isException = true)
    (h : ∀ e' uploads, e'.isException = true → Q (.error e') (σ.setUploads uploads)) :
    (assembleFailed settings key uploadId e).wp (serviceMachine env) F Q σ := by
  have habort : ∀ e' : Exc, e'.isException = true →
      (abortMultipartUpload key uploadId >>= fun _ => throw e' : Service α).wp
        (serviceMachine env) F Q σ := by
    intro e' he'
    rw [Program.wp_bind]
    cases uploadId with
    | none => exact h e' σ.uploads he'
    | some id =>
        refine wp_swallow (wp_send ?_ fun _ e he _ => ⟨he, h e' σ.uploads he'⟩)
        simp only [Command.act]
        cases σ.upload? key id with
        | none => exact ⟨rfl, h e' σ.uploads he'⟩
        | some u => exact h e' _ he'
  unfold assembleFailed
  split
  · exact h e σ.uploads he
  · split
    · exact habort _ rfl
    · exact habort _ rfl

/-- What keeps a file from being assembled. -/
def AssemblyObstacle (F : Fault → Prop) (σ : World) (key : S3Key) (chunks : List Bytes)
    (expected : SHA256Hash) : Prop :=
  validateChunkData chunks ≠ .ok () ∨ σ.objects key ≠ none ∨
    sha256Hexdigest chunks.flatten ≠ expected.value ∨ CanFail F .s3

/-- The outcomes of the upload once it has an id. -/
inductive UploadOutcome (settings : Settings) (F : Fault → Prop) (key : S3Key)
    (chunks : List Bytes) (expected : SHA256Hash) (σ : World) :
    Except Exc (String × ℤ) → World → Prop
  | failed (e : Exc) (uploads) (he : e.isException = true)
      (why : sha256Hexdigest chunks.flatten ≠ expected.value ∨ CanFail F .s3) :
      UploadOutcome settings F key chunks expected σ (.error e) (σ.setUploads uploads)
  | corrupt (e : Exc) (uploads) (he : e.isIntegrityError = true)
      (hsha : sha256Hexdigest chunks.flatten ≠ expected.value) (hcan : CanFail F .s3) :
      UploadOutcome settings F key chunks expected σ (.error e)
        ((σ.setUploads uploads).setObject key (some chunks.flatten))
  | uploaded (uploads) (hsha : sha256Hexdigest chunks.flatten = expected.value) :
      UploadOutcome settings F key chunks expected σ
        (.ok (s3Path settings key, chunks.flatten.length))
        ((σ.setUploads uploads).setObject key (some chunks.flatten))

theorem isException_of_isIntegrityError {e : Exc} (h : e.isIntegrityError = true) :
    e.isException = true := by
  cases e <;> first | rfl | cases h

theorem setObject_setObject_none (habsent : σ.objects key = none) (content : Option Bytes) :
    (σ.setObject key content).setObject key none = σ := by
  have : Function.update (Function.update σ.objects key content) key none = σ.objects := by
    rw [Function.update_idem, ← habsent, Function.update_eq_self]
  simp only [World.setObject, this]

theorem wp_uploadParts {uploadId : UploadId} {u : Upload}
    (hu : σ.upload? key uploadId = some u) (habsent : σ.objects key = none) :
    (uploadParts settings key f uploadId chunks expected).wp (serviceMachine env) F
      (UploadOutcome settings F key chunks expected σ) σ := by
  rw [uploadParts, Program.wp_bind]
  refine Program.wp_mono (wp_gather hu) ?_
  rintro r σ₁ ⟨⟨⟨uploads, rfl⟩, -⟩, hr⟩
  cases r with
  | error e => exact .failed e uploads hr.1 (.inr hr.2)
  | ok parts =>
      obtain ⟨rfl, u', hu', hparts⟩ := hr
      dsimp only
      rw [Program.wp_bind]
      refine wp_send ?_ fun hcan e he _ => .failed e uploads he (.inr hcan)
      simp only [Command.act, hu', partsFrom_ascending, collect_partsFrom hparts, if_true]
      by_cases hsha : sha256Hexdigest chunks.flatten = expected.value
      · rw [if_neg (not_not_intro hsha)]
        have hlen : ((chunks.map List.length).sum : ℤ) = chunks.flatten.length := by
          rw [List.length_flatten]
        rw [hlen, wp_pure]
        exact .uploaded (Function.update uploads uploadId none) hsha
      · -- the corrupt object is deleted again, if the deletion gets through
        rw [if_pos hsha, Program.wp_bind]
        refine wp_swallow (wp_send ?_ fun hcan e he _ => ⟨he, ?_⟩)
        rotate_left
        · exact UploadOutcome.corrupt (.integrityError _ _ _ _)
            (Function.update uploads uploadId none) rfl hsha hcan
        have hdeleted : ((σ.setUploads (Function.update uploads uploadId none)).setObject key
            (some chunks.flatten)).setObject key none =
              σ.setUploads (Function.update uploads uploadId none) :=
          setObject_setObject_none
            (σ := σ.setUploads (Function.update uploads uploadId none)) habsent _
        have houtcome : ∀ e : Exc, e.isException = true →
            UploadOutcome settings F key chunks expected σ (.error e)
              (((σ.setUploads (Function.update uploads uploadId none)).setObject key
                (some chunks.flatten)).setObject key none) := fun e he => by
          rw [hdeleted]
          exact .failed e _ he (.inl hsha)
        exact houtcome _ rfl

/-- The outcomes of assembling a file. -/
inductive AssembleOutcome (settings : Settings) (F : Fault → Prop) (key : S3Key)
    (chunks : List Bytes) (expected : SHA256Hash) (σ : World) :
    Except Exc (String × ℤ) → World → Prop
  | failed (e : Exc) (uploads nextUpload) (he : e.isException = true)
      (why : AssemblyObstacle F σ key chunks expected) :
      AssembleOutcome settings F key chunks expected σ (.error e)
        (σ.withUploads uploads nextUpload)
  | corrupt (e : Exc) (uploads nextUpload) (he : e.isException = true)
      (habsent : σ.objects key = none)
      (hsha : sha256Hexdigest chunks.flatten ≠ expected.value) (hcan : CanFail F .s3) :
      AssembleOutcome settings F key chunks expected σ (.error e)
        ((σ.withUploads uploads nextUpload).setObject key (some chunks.flatten))
  | assembled (uploads nextUpload) (habsent : σ.objects key = none)
      (hsha : sha256Hexdigest chunks.flatten = expected.value)
      (hvalid : validateChunkData chunks = .ok ()) :
      AssembleOutcome settings F key chunks expected σ
        (.ok (s3Path settings key, chunks.flatten.length))
        ((σ.withUploads uploads nextUpload).setObject key (some chunks.flatten))

theorem raises_validateChunkData : Raises Exc.isPlain (validateChunkData chunks) :=
  raises_bind (raises_raiseIf rfl) fun _ => raises_bind (raises_raiseIf rfl)
    fun _ => raises_raiseIf rfl

theorem validateChecksumFormat_eq_ok : validateChecksumFormat expected = .ok () :=
  raiseIf_eq_ok.mpr (not_not_intro (.inl expected.isHex))

theorem wp_assembleFile :
    (assembleFile settings w f chunks expected).wp (serviceMachine env) F
      (AssembleOutcome settings F ⟨w, f⟩ chunks expected σ) σ := by
  refine wp_ofExcept_bind (fun _ hvalid => ?_) fun e he =>
    .failed e σ.uploads σ.nextUpload (Exc.isException_of_isPlain (raises_validateChunkData e he))
      (.inl fun h => by cases h.symm.trans he)
  refine wp_ofExcept_bind (fun _ _ => ?_) fun e he => by
    cases validateChecksumFormat_eq_ok.symm.trans he
  rw [Program.wp_bind, Program.wp_tryCatch, beginUpload, Program.wp_bind]
  -- whatever goes wrong before the upload is complete leaves only uploads behind
  have hfailed : ∀ e uploads, e.isException = true →
      AssemblyObstacle F σ ⟨w, f⟩ chunks expected →
      AssembleOutcome settings F ⟨w, f⟩ chunks expected σ (.error e) (σ.setUploads uploads) :=
    fun e uploads he hwhy => .failed e uploads σ.nextUpload he hwhy
  refine wp_checkFileExists (fun habsent => ?_) fun hwhy e he =>
    wp_assembleFailed he fun e' uploads he' => hfailed e' uploads he'
      (hwhy.elim (fun h => .inr (.inl h)) fun h => .inr (.inr (.inr h)))
  rw [Program.wp_bind]
  refine wp_send ?_ fun hcan e he _ => wp_assembleFailed he fun e' uploads he' =>
    hfailed e' uploads he' (.inr (.inr (.inr hcan)))
  simp only [Command.act]
  set σ₁ : World := { σ.setUpload σ.nextUpload (some ⟨⟨w, f⟩, fun _ => none⟩) with
    nextUpload := σ.nextUpload + 1 } with hσ₁
  have hu : σ₁.upload? ⟨w, f⟩ σ.nextUpload = some ⟨⟨w, f⟩, fun _ => none⟩ := by
    simp [hσ₁, World.upload?, World.setUpload]
  refine wp_ofExcept (fun uploadId hid => ?_) fun e he => by cases he
  obtain rfl : σ.nextUpload = uploadId := by
    simpa [getUploadId] using hid
  dsimp only
  rw [Program.wp_tryCatch]
  refine Program.wp_mono (wp_uploadParts hu habsent) fun r σ₂ hr => ?_
  cases hr with
  | failed e uploads he why =>
      refine wp_assembleFailed he fun e' uploads' he' => ?_
      exact .failed e' uploads' (σ.nextUpload + 1) he' (.inr (.inr why))
  | corrupt e uploads he hsha hcan =>
      -- an `IntegrityError` passes the handlers, and the object is still there or deleted
      have hthrow : assembleFailed settings ⟨w, f⟩ (some σ.nextUpload) e =
          (throw e : Service (String × ℤ)) := if_pos he
      dsimp only
      rw [hthrow, wp_throw]
      exact .corrupt e uploads (σ.nextUpload + 1) (isException_of_isIntegrityError he) habsent hsha
        hcan
  | uploaded uploads hsha => exact .assembled uploads (σ.nextUpload + 1) habsent hsha hvalid

end S3StorageClient

end RagFileUploader
