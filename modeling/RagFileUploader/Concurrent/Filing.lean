import RagFileUploader.Concurrent.Standing
import RagFileUploader.Serial.AssembleSpec

/-!
# Filing a file

Assembling a file takes one S3 command after another, and the commands of other calls come in
between.  `Follows` says that a monitor keeps up with a call through the multipart upload, which is
all that `obeys_assembleFile` needs.  On the side of the world, `World.Uploading` says that an
upload holds the parts sent so far: the call's own commands extend it, and those of others leave it
alone.  `Sending` says so of all the calls at once.

* `obeys_assembleFile` is the walk through the upload, with `Follows.obeys_gather` for the parts.
* `World.Uploading.begin`, `part`, `complete` and `other` are the steps of one upload;
  `Sending.move` and its cases do the same for all calls.
-/

namespace RagFileUploader

open Effects Stores

variable {env : Environment} {settings : Settings} {σ : World} {w f : UUID} {key : S3Key}
  {uploadId : UploadId} {done chunks : List Bytes} {expected : SHA256Hash}

/-! ## Under a monitor -/

namespace S3StorageClient

section Monitor

variable {Γ : Type} {W : Monitor serviceSignature Γ} {present : Prop} {start stored : Γ}
  {uploading : UploadId → List Bytes → Γ}

/-- The monitor follows a call through the upload of these chunks.  It expects an object at the key
only if `present`, and a stored object is taken for deleted when it is not the expected one. -/
structure Follows (W : Monitor serviceSignature Γ) (key : S3Key) (chunks : List Bytes)
    (expected : SHA256Hash) (present : Prop) (start : Γ) (uploading : UploadId → List Bytes → Γ)
    (stored : Γ) : Prop where
  head : (send (.headObject key)).Obeys W (fun r γ => γ = start ∧
    (r = .ok () ∧ present ∨ ∃ e : Exc, r = .error e ∧ e.saysAbsent = true)) start
  create : (send (.createMultipartUpload key)).Obeys W
    (fun r γ => ∃ uploadId, r = .ok (some uploadId) ∧ γ = uploading uploadId []) start
  part : ∀ uploadId done body, (send (.uploadPart key uploadId (done.length + 1) body)).Obeys W
    (fun r γ => r = .ok (some body) ∧ γ = uploading uploadId (done ++ [body]))
    (uploading uploadId done)
  complete : ∀ uploadId,
    (send (.completeMultipartUpload key uploadId (partsFrom 1 chunks))).Obeys W
      (fun r γ => r = .ok () ∧ γ = stored) (uploading uploadId chunks)
  delete : sha256Hexdigest chunks.flatten ≠ expected.value →
    (send (.deleteObject key)).Obeys W (fun r γ => r = .ok () ∧ γ = start) stored

variable (h : Follows W key chunks expected present start uploading stored)
include h

/-- The tasks send their parts one after another. -/
theorem Follows.obeys_gather (uploadId : UploadId) (done rest : List Bytes) :
    (gather ((rest.zipIdx (done.length + 1)).map fun (chunk, partNum) =>
        uploadPart key uploadId partNum chunk)).Obeys W
      (fun r γ => r = .ok (partsFrom (done.length + 1) rest) ∧
        γ = uploading uploadId (done ++ rest)) (uploading uploadId done) := by
  induction rest generalizing done with
  | nil => exact ⟨rfl, by rw [List.append_nil]⟩
  | cons chunk rest ih =>
      rw [List.zipIdx_cons, List.map_cons, gather, Program.obeys_bind, Program.obeys_tryCatch]
      refine obeys_map ?_
      change (uploadPart key uploadId (done.length + 1) chunk).Obeys W _ _
      rw [uploadPart, Program.obeys_bind]
      refine Program.obeys_mono (h.part uploadId done chunk) fun r γ hr => ?_
      obtain ⟨rfl, rfl⟩ := hr
      -- the next part has the next number
      have hrest := ih (done ++ [chunk])
      rw [List.length_append, List.length_singleton] at hrest
      refine Program.obeys_bind.mpr (Program.obeys_mono hrest fun r γ hr => ?_)
      obtain ⟨rfl, rfl⟩ := hr
      exact ⟨by rw [partsFrom_cons], by rw [List.append_assoc]; rfl⟩

/-- The existence check, up to the upload id. -/
theorem Follows.obeys_beginUpload {Q : Except Exc UploadId → Γ → Prop}
    (hpresent : present → ∀ e : Exc, e.isIntegrityError = true → Q (.error e) start)
    (hbegun : ∀ uploadId, Q (.ok uploadId) (uploading uploadId [])) :
    (beginUpload key f).Obeys W Q start := by
  rw [beginUpload, Program.obeys_bind]
  refine obeys_tryExcept (Program.obeys_bind.mpr (Program.obeys_mono h.head fun r γ hr => ?_))
  obtain ⟨rfl, ⟨rfl, hobject⟩ | ⟨e, rfl, habsent⟩⟩ := hr
  · exact ⟨fun h => (by cases h), fun _ => hpresent hobject (.integrityError _ _ _ _) rfl⟩
  · have hclient : e.isClientError = true := by
      cases e <;> first | rfl | cases habsent
    refine ⟨fun _ => ?_, fun hno => by cases hclient.symm.trans hno⟩
    rw [habsent]
    refine Program.obeys_bind.mpr (Program.obeys_mono h.create fun r γ hr => ?_)
    obtain ⟨uploadId, rfl, rfl⟩ := hr
    exact hbegun uploadId

theorem Follows.obeys_uploadParts {Q : Except Exc (String × ℤ) → Γ → Prop} (uploadId : UploadId)
    (hcorrupt : sha256Hexdigest chunks.flatten ≠ expected.value →
      ∀ e : Exc, e.isIntegrityError = true → Q (.error e) start)
    (hstored : sha256Hexdigest chunks.flatten = expected.value →
      Q (.ok (s3Path settings key, chunks.flatten.length)) stored) :
    (uploadParts settings key f uploadId chunks expected).Obeys W Q (uploading uploadId []) := by
  rw [uploadParts, Program.obeys_bind]
  refine Program.obeys_mono (h.obeys_gather uploadId [] chunks) fun r γ hr => ?_
  obtain ⟨rfl, rfl⟩ := hr
  refine Program.obeys_bind.mpr (Program.obeys_mono (h.complete uploadId) fun r γ hr => ?_)
  obtain ⟨rfl, rfl⟩ := hr
  dsimp only
  split
  · next hsha =>
      refine Program.obeys_bind.mpr (obeys_tryExcept ?_)
      refine Program.obeys_mono (h.delete hsha) fun r γ hr => ?_
      obtain ⟨rfl, rfl⟩ := hr
      exact hcorrupt hsha (.integrityError _ _ _ _) rfl
  · next hsha =>
      have hlen : ((chunks.map List.length).sum : ℤ) = chunks.flatten.length := by
        rw [List.length_flatten]
      rw [hlen]
      exact hstored (not_not.mp hsha)

omit h in
/-- An integrity error goes through the handlers as it is. -/
theorem obeys_integrityFailed {α : Type} {Q : Except Exc α → Γ → Prop} {γ : Γ}
    {uploadId : Option UploadId} {e : Exc} (he : e.isIntegrityError = true) (hQ : Q (.error e) γ) :
    (assembleFailed settings key uploadId e : Service α).Obeys W Q γ := by
  rw [assembleFailed, if_pos he]
  exact hQ

end Monitor

/-- A call that is followed ends where it began, or it has stored its chunks and they are the
expected file. -/
theorem obeys_assembleFile {Γ : Type} {W : Monitor serviceSignature Γ} {present : Prop}
    {start stored : Γ} {uploading : UploadId → List Bytes → Γ}
    {Q : Except Exc (String × ℤ) → Γ → Prop}
    (h : Follows W ⟨w, f⟩ chunks expected present start uploading stored)
    (hfailed : (present ∨ validateChunkData chunks ≠ .ok () ∨
        sha256Hexdigest chunks.flatten ≠ expected.value) →
      ∀ e : Exc, e.isException = true → Q (.error e) start)
    (hstored : sha256Hexdigest chunks.flatten = expected.value →
      Q (.ok (s3Path settings ⟨w, f⟩, chunks.flatten.length)) stored) :
    (assembleFile settings w f chunks expected).Obeys W Q start := by
  refine obeys_ofExcept_bind (fun _ hvalid => ?_) fun e he => hfailed
    (.inr (.inl fun hvalid => by cases hvalid.symm.trans he)) e
    (Exc.isException_of_isPlain (raises_validateChunkData e he))
  refine obeys_ofExcept_bind (fun _ _ => ?_) fun e he => by
    cases validateChecksumFormat_eq_ok.symm.trans he
  dsimp only
  rw [Program.obeys_bind, Program.obeys_tryCatch]
  refine h.obeys_beginUpload (fun hpresent e he => ?_) fun uploadId => ?_
  · exact obeys_integrityFailed he
      (hfailed (.inl hpresent) e (isException_of_isIntegrityError he))
  · dsimp only
    rw [Program.obeys_tryCatch]
    refine h.obeys_uploadParts uploadId (fun hsha e he => ?_) hstored
    exact obeys_integrityFailed he
      (hfailed (.inr (.inr hsha)) e (isException_of_isIntegrityError he))

end S3StorageClient

/-! ## In the world -/

open S3StorageClient

/-- The upload holds these parts, and its id has been handed out. -/
structure World.Uploading (σ : World) (key : S3Key) (uploadId : UploadId) (done : List Bytes) :
    Prop where
  issued : uploadId < σ.nextUpload
  upload : ∃ u, σ.upload? key uploadId = some u ∧
    ∀ part ∈ partsFrom 1 done, u.parts part.partNumber = some part.etag

/-- The upload that the command adds to or ends. -/
def Command.uploadId? : Command → Option UploadId
  | .uploadPart _ uploadId _ _ | .completeMultipartUpload _ uploadId _
  | .abortMultipartUpload _ uploadId => some uploadId
  | _ => none

/-- The key whose object the command writes or deletes. -/
def Command.objectKey? : Command → Option S3Key
  | .completeMultipartUpload key _ _ | .deleteObject key => some key
  | _ => none

/-- The event that the command publishes. -/
def Command.event? : Command → Option FileLoadCompletedEvent
  | .publish event => some event
  | _ => none

/-- A command outside S3 leaves objects and uploads alone. -/
theorem Command.storage_act_of_area {c : Command} (h : c.area ≠ .s3) :
    (c.act env σ).2.objects = σ.objects ∧ (c.act env σ).2.uploads = σ.uploads ∧
      (c.act env σ).2.nextUpload = σ.nextUpload := by
  cases c <;> first | exact ⟨rfl, rfl, rfl⟩ | exact absurd rfl h

theorem Command.objects_act {c : Command} (h : c.objectKey? ≠ some key) :
    (c.act env σ).2.objects key = σ.objects key := by
  by_cases hc : c.area = .s3
  · cases c with
    | headObject key' =>
        simp only [act]
        split <;> rfl
    | createMultipartUpload key' => rfl
    | uploadPart key' uploadId partNumber body =>
        simp only [act]
        split <;> rfl
    | completeMultipartUpload key' uploadId parts =>
        have hne : key ≠ key' := fun heq => h (congrArg some heq.symm)
        simp only [act]
        split
        · rfl
        · split
          · split
            · exact Function.update_of_ne hne _ _
            · rfl
          · rfl
    | abortMultipartUpload key' uploadId =>
        simp only [act]
        split <;> rfl
    | deleteObject key' =>
        exact Function.update_of_ne (fun heq => h (congrArg some heq.symm)) _ _
    | _ => cases hc
  · rw [(storage_act_of_area hc).1]

/-- An upload is there for those who know its id. -/
theorem Command.upload_act {c : Command} (h : c.uploadId? ≠ some uploadId)
    (hissued : uploadId < σ.nextUpload) :
    (c.act env σ).2.uploads uploadId = σ.uploads uploadId ∧
      uploadId < (c.act env σ).2.nextUpload := by
  by_cases hc : c.area = .s3
  · cases c with
    | headObject key' =>
        simp only [act]
        split <;> exact ⟨rfl, hissued⟩
    | createMultipartUpload key' =>
        exact ⟨Function.update_of_ne hissued.ne _ _, Nat.lt_succ_of_lt hissued⟩
    | uploadPart key' uploadId' partNumber body =>
        have hne : uploadId ≠ uploadId' := fun heq => h (congrArg some heq.symm)
        simp only [act]
        split
        · exact ⟨Function.update_of_ne hne _ _, hissued⟩
        · exact ⟨rfl, hissued⟩
    | completeMultipartUpload key' uploadId' parts =>
        have hne : uploadId ≠ uploadId' := fun heq => h (congrArg some heq.symm)
        simp only [act]
        split
        · exact ⟨rfl, hissued⟩
        · split
          · split
            · exact ⟨Function.update_of_ne hne _ _, hissued⟩
            · exact ⟨rfl, hissued⟩
          · exact ⟨rfl, hissued⟩
    | abortMultipartUpload key' uploadId' =>
        have hne : uploadId ≠ uploadId' := fun heq => h (congrArg some heq.symm)
        simp only [act]
        split
        · exact ⟨Function.update_of_ne hne _ _, hissued⟩
        · exact ⟨rfl, hissued⟩
    | deleteObject key' => exact ⟨rfl, hissued⟩
    | _ => cases hc
  · obtain ⟨-, huploads, hnext⟩ := @storage_act_of_area env σ _ hc
    rw [huploads, hnext]
    exact ⟨rfl, hissued⟩

namespace World.Uploading

/-- The commands that name another upload do not matter. -/
theorem other (h : σ.Uploading key uploadId done) {c : Command}
    (hc : c.uploadId? ≠ some uploadId) : (c.act env σ).2.Uploading key uploadId done := by
  obtain ⟨hupload, hissued⟩ := @Command.upload_act env _ _ _ hc h.issued
  obtain ⟨u, hu, hparts⟩ := h.upload
  refine ⟨hissued, u, ?_, hparts⟩
  rw [World.upload?, hupload]
  exact hu

/-- A new upload has an id of its own, and no parts. -/
theorem begin (key : S3Key) :
    ((Command.createMultipartUpload key).act env σ).2.Uploading key σ.nextUpload [] := by
  refine ⟨Nat.lt_succ_self _, ⟨key, fun _ => none⟩, ?_, by simp [partsFrom]⟩
  simp [Command.act, World.upload?, World.setUpload]

theorem part (h : σ.Uploading key uploadId done) (body : Bytes) :
    ((Command.uploadPart key uploadId (done.length + 1) body).act env σ).1 = .ok (some body) ∧
      ((Command.uploadPart key uploadId (done.length + 1) body).act env σ).2.Uploading key uploadId
        (done ++ [body]) := by
  obtain ⟨u, hu, hparts⟩ := h.upload
  simp only [Command.act, hu]
  refine ⟨trivial, h.issued, u.addPart (done.length + 1) body,
    upload?_setUpload (upload?_key hu :), fun part hpart => ?_⟩
  rw [partsFrom_append, List.mem_append, List.mem_singleton] at hpart
  rcases hpart with hpart | rfl
  · have hne : part.partNumber ≠ done.length + 1 := by
      have := partNumber_lt hpart
      omega
    rw [← hparts part hpart]
    exact Function.update_of_ne hne _ _
  · rw [Nat.add_comm 1 done.length]
    exact Function.update_self _ _ _

/-- The parts make up the object. -/
theorem complete (h : σ.Uploading key uploadId done) :
    (Command.completeMultipartUpload key uploadId (partsFrom 1 done)).act env σ =
      (.ok (), (σ.setObject key (some done.flatten)).setUpload uploadId none) := by
  obtain ⟨u, hu, hparts⟩ := h.upload
  simp only [Command.act, hu, partsFrom_ascending, collect_partsFrom hparts, if_true]

end World.Uploading

/-! ## All the uploads of some calls -/

/-- An entry of a list after one of them has been replaced. -/
theorem getElem?_set_cases {α : Type} {l : List α} {i j : ℕ} {a b : α}
    (h : (l.set i a)[j]? = some b) : j = i ∧ b = a ∨ j ≠ i ∧ l[j]? = some b := by
  rw [List.getElem?_set] at h
  split at h
  · next hij =>
      split at h
      · exact .inl ⟨hij.symm, (Option.some_injective _ h).symm⟩
      · cases h
  · next hij => exact .inr ⟨Ne.symm hij, h⟩

/-- An upload that a call has under way, with the parts that the call has sent. -/
structure Sent where
  key : S3Key
  uploadId : UploadId
  done : List Bytes

/-- The uploads of the calls hold what the calls have sent, and no two calls share one. -/
structure Sending {Γ : Type} (under : Γ → Option Sent) (γs : List Γ) (σ : World) : Prop where
  fits : ∀ (i : ℕ) γ u, γs[i]? = some γ → under γ = some u →
    σ.Uploading u.key u.uploadId u.done
  apart : ∀ (i j : ℕ) γ γ' u u', γs[i]? = some γ → γs[j]? = some γ' → under γ = some u →
    under γ' = some u' → u.uploadId = u'.uploadId → i = j

namespace Sending

variable {Γ : Type} {under : Γ → Option Sent} {γs : List Γ} {γ γ' : Γ} {c : Command} {i : ℕ}

/-- One call moves on, and its command is about no upload but its own. -/
theorem move (h : Sending under γs σ) (hγ : γs[i]? = some γ)
    (hown : ∀ id, c.uploadId? = some id → ∃ u, under γ = some u ∧ u.uploadId = id)
    (hfits : ∀ u, under γ' = some u → (c.act env σ).2.Uploading u.key u.uploadId u.done)
    (hid : ∀ u, under γ' = some u →
      (∃ u₀, under γ = some u₀ ∧ u₀.uploadId = u.uploadId) ∨ σ.nextUpload ≤ u.uploadId) :
    Sending under (γs.set i γ') (c.act env σ).2 := by
  -- the upload of another call is not the one that this call has from now on
  have hother : ∀ (j : ℕ) γ₁ u u', j ≠ i → γs[j]? = some γ₁ → under γ₁ = some u →
      under γ' = some u' → u.uploadId ≠ u'.uploadId := by
    intro j γ₁ u u' hne hj hu hu' heq
    rcases hid u' hu' with ⟨u₀, hu₀, hsame⟩ | hfresh
    · exact hne (h.apart j i _ _ _ _ hj hγ hu hu₀ (heq.trans hsame.symm))
    · have hissued := (h.fits j _ _ hj hu).issued
      rw [heq] at hissued
      exact absurd hissued (Nat.not_lt.mpr hfresh)
  refine ⟨fun j γ₁ u hj hu => ?_, fun j k γ₁ γ₂ u u' hj hk hu hu' heq => ?_⟩
  · rcases getElem?_set_cases hj with ⟨-, rfl⟩ | ⟨hne, hj'⟩
    · exact hfits u hu
    · refine (h.fits j _ _ hj' hu).other fun hc => hne ?_
      obtain ⟨u₀, hu₀, hid₀⟩ := hown _ hc
      exact h.apart j i _ _ _ _ hj' hγ hu hu₀ hid₀.symm
  · rcases getElem?_set_cases hj with ⟨hji, rfl⟩ | ⟨hnej, hj'⟩
    · rcases getElem?_set_cases hk with ⟨hki, -⟩ | ⟨hnek, hk'⟩
      · exact hji.trans hki.symm
      · exact absurd heq.symm (hother k γ₂ u' u hnek hk' hu' hu)
    · rcases getElem?_set_cases hk with ⟨-, rfl⟩ | ⟨hnek, hk'⟩
      · exact absurd heq (hother j γ₁ u u' hnej hj' hu hu')
      · exact h.apart j k _ _ _ _ hj' hk' hu hu' heq

/-- The command is about no upload. -/
theorem same (h : Sending under γs σ) (hγ : γs[i]? = some γ) (hc : c.uploadId? = none)
    (hunder : under γ' = under γ) : Sending under (γs.set i γ') (c.act env σ).2 := by
  refine h.move hγ (fun id hid => ?_) (fun u hu => ?_) fun u hu => .inl ⟨u, hunder ▸ hu, rfl⟩
  · cases hc.symm.trans hid
  · refine (h.fits i γ u hγ (hunder ▸ hu)).other fun hid => ?_
    cases hc.symm.trans hid

theorem begin {key : S3Key} (h : Sending under γs σ) (hγ : γs[i]? = some γ)
    (hunder : under γ' = some ⟨key, σ.nextUpload, []⟩) :
    Sending under (γs.set i γ') ((Command.createMultipartUpload key).act env σ).2 := by
  refine h.move hγ (fun id hid => by cases hid) (fun u hu => ?_) fun u hu => .inr ?_
  · cases hunder.symm.trans hu
    exact World.Uploading.begin key
  · cases hunder.symm.trans hu
    exact le_rfl

theorem part {key : S3Key} {uploadId : UploadId} {done : List Bytes} {body : Bytes}
    (h : Sending under γs σ) (hγ : γs[i]? = some γ) (hbefore : under γ = some ⟨key, uploadId, done⟩)
    (hunder : under γ' = some ⟨key, uploadId, done ++ [body]⟩) :
    Sending under (γs.set i γ')
      ((Command.uploadPart key uploadId (done.length + 1) body).act env σ).2 := by
  refine h.move hγ (fun id hid => ⟨_, hbefore, Option.some_injective _ hid⟩) (fun u hu => ?_)
    fun u hu => .inl ⟨_, hbefore, ?_⟩
  · cases hunder.symm.trans hu
    exact ((h.fits i γ _ hγ hbefore).part body).2
  · cases hunder.symm.trans hu
    rfl

/-- The call has no upload any more. -/
theorem ended (h : Sending under γs σ) (hγ : γs[i]? = some γ)
    (hown : ∀ id, c.uploadId? = some id → ∃ u, under γ = some u ∧ u.uploadId = id)
    (hunder : under γ' = none) : Sending under (γs.set i γ') (c.act env σ).2 := by
  refine h.move hγ hown (fun u hu => ?_) fun u hu => ?_
  · cases hunder.symm.trans hu
  · cases hunder.symm.trans hu

end Sending

end RagFileUploader
