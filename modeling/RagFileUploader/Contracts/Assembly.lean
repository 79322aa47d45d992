import RagFileUploader.Infrastructure.Assigned
import RagFileUploader.Infrastructure.PartTasks
import RagFileUploader.Serial.AssembleSpec

/-!
# Assembling a file is atomic

Every S3 command of one assembly succeeds or raises without effect, and the part tasks reach S3 in
any order, some of them perhaps after the upload has been aborted.  Either the object is there with
the right content, or everything at the key is as it was; no upload is left open.

No command is issued twice, so an assignment of outcomes to commands is any schedule of failures.

* `Ran` is what the part tasks have come to when they are gathered: either all parts are there, or
  one has failed and others may still be on their way.  `wp_runTasks` is the induction over the
  order of the tasks, and `wp_late` covers those that come after the abort.
* `wp_finishUpload` and `wp_assembleFailed_some` end the upload one way or the other, and
  `atomic_assembled` and `atomic_aborted` find the result atomic.
-/

namespace RagFileUploader

open Effects

/-- The world with a new upload for the key. -/
def World.begun (σ : World) (key : S3Key) : World :=
  { σ.setUpload σ.nextUpload (some ⟨key, fun _ => none⟩) with nextUpload := σ.nextUpload + 1 }

namespace S3StorageClient

variable {env : Environment} {settings : Settings} {outcome : Command → Option Exc} {σ : World}
  {w f : UUID} {key : S3Key} {uploadId : UploadId} {chunks : List Bytes} {expected : SHA256Hash}
  {order : List (Bytes × ℕ)} {early : ℕ} {F : Empty → Prop} {α : Type}

/-- What S3 is relied on for: no cancellation, none of the service's own exceptions, clean-up that
succeeds, and no false report that an object is absent. -/
structure Reliable (outcome : Command → Option Exc) (σ : World) : Prop where
  fails : ∀ c e, outcome c = some e → e.isException = true ∧ e.isIntegrityError = false
  abort : ∀ key uploadId, outcome (.abortMultipartUpload key uploadId) = none
  delete : ∀ key, outcome (.deleteObject key) = none
  head : ∀ key e, outcome (.headObject key) = some e → e.saysAbsent = true → σ.objects key = none

/-- The file is there as a whole or nothing has changed, and no upload of this call is left. -/
structure Atomic (settings : Settings) (key : S3Key) (chunks : List Bytes) (expected : SHA256Hash)
    (σ : World) (r : Except Exc (String × ℤ)) (σ' : World) : Prop where
  result : match r with
    | .ok (path, size) =>
        path = s3Path settings key ∧ size = chunks.flatten.length ∧
          sha256Hexdigest chunks.flatten = expected.value ∧ σ.objects key = none ∧
            σ'.objects key = some chunks.flatten
    | .error _ => σ'.objects key = σ.objects key
  otherKeys : ∀ key' ≠ key, σ'.objects key' = σ.objects key'
  closed : ∀ id, σ.nextUpload ≤ id → id < σ'.nextUpload → σ'.uploads id = none
  otherUploads : ∀ id, id < σ.nextUpload ∨ σ'.nextUpload ≤ id → σ'.uploads id = σ.uploads id
  rest : σ' = { σ with
    objects := σ'.objects, uploads := σ'.uploads, nextUpload := σ'.nextUpload }

/-! ## The part tasks -/

theorem wp_observe_assigned {p : Service α} {Q : Except Exc (Except Exc α) → World → Prop}
    (h : p.wp (assignedMachine env outcome) F (fun r σ' => Q (.ok r) σ') σ) :
    (observe p).wp (assignedMachine env outcome) F Q σ := by
  rw [observe, Program.wp_tryCatch]
  refine wp_map (Program.wp_mono h fun r σ' hr => ?_)
  cases r with
  | ok a => exact hr
  | error e => exact hr

theorem uploads_of_upload? {u : Upload} (h : σ.upload? key uploadId = some u) :
    σ.uploads uploadId = some u := (Option.filter_eq_some_iff.mp h).1

theorem setUpload_self {u : Upload} (h : σ.upload? key uploadId = some u) :
    σ.setUpload uploadId (some u) = σ := by
  rw [World.setUpload, ← uploads_of_upload? h, Function.update_eq_self]

theorem setUpload_setUpload (u u' : Option Upload) :
    (σ.setUpload uploadId u).setUpload uploadId u' = σ.setUpload uploadId u' := by
  simp only [World.setUpload, Function.update_idem]

/-- A part gets through and is in the upload, or nothing happens. -/
theorem wp_uploadPart_assigned {σ₀ : World} {u : Upload} {partNum : ℕ} {chunk : Bytes}
    {Q : Except Exc Part → World → Prop} (hs : Reliable outcome σ₀)
    (hu : σ.upload? key uploadId = some u)
    (hok : Q (.ok ⟨partNum, chunk⟩) (σ.setUpload uploadId (some (u.addPart partNum chunk))))
    (herror : ∀ e, e.isException = true → e.isIntegrityError = false → Q (.error e) σ) :
    (uploadPart key uploadId partNum chunk).wp (assignedMachine env outcome) F Q σ := by
  rw [uploadPart, Program.wp_bind]
  refine wp_assigned ?_ fun e he => herror e (hs.fails _ e he).1 (hs.fails _ e he).2
  simp only [Command.act, hu]
  exact hok

/-- What the tasks have come to when the main task goes on. -/
structure Ran (σ : World) (key : S3Key) (uploadId : UploadId) (u : Upload)
    (order : List (Bytes × ℕ)) (failed : Option Exc) (results : List (ℕ × Part))
    (g : Gathered Part) (σ' : World) : Prop where
  upload : ∃ u', σ' = σ.setUpload uploadId (some u') ∧ u'.key = key ∧
    (∀ n ∉ order.map Prod.snd, u'.parts n = u.parts n) ∧
      (g.failed = none → ∀ x ∈ order, u'.parts x.2 = some x.1)
  late : ∀ task ∈ g.late, ∃ n chunk, task = uploadPart key uploadId n chunk
  all : g.failed = none → failed = none ∧ g.late = [] ∧
    g.results = results ++ order.map fun x => (x.2, ⟨x.2, x.1⟩)
  failed : ∀ e, g.failed = some e →
    failed = some e ∨ e.isException = true ∧ e.isIntegrityError = false

theorem wp_runTasks {u : Upload} {failed : Option Exc} {results : List (ℕ × Part)} {σ₀ : World}
    (hs : Reliable outcome σ₀) (hu : σ.upload? key uploadId = some u)
    (hnodup : (order.map Prod.snd).Nodup) :
    (runTasks early (order.map fun (chunk, partNum) =>
        (partNum, uploadPart key uploadId partNum chunk)) failed results).wp
      (assignedMachine env outcome) F
      (fun r σ' => ∃ g, r = .ok g ∧ Ran σ key uploadId u order failed results g σ') σ := by
  induction order generalizing σ early u failed results with
  | nil =>
      refine ⟨_, rfl, ⟨u, (setUpload_self hu).symm, upload?_key hu, fun _ _ => rfl, nofun⟩, nofun,
        fun hnone => ⟨hnone, rfl, (List.append_nil _).symm⟩, fun e he => .inl he⟩
  | cons x order ih =>
      obtain ⟨chunk, partNum⟩ := x
      obtain ⟨hnot, hnodup⟩ := List.nodup_cons.mp hnodup
      rw [List.map_cons, runTasks]
      split
      · next hgo =>
          -- the main task goes on, and this task and those after it are late
          refine ⟨_, rfl, ⟨u, (setUpload_self hu).symm, upload?_key hu, fun _ _ => rfl,
            fun hnone => ?_⟩, ?_, fun hnone => ?_, fun e he => .inl he⟩
          · rw [show failed = none from hnone] at hgo
            cases hgo.1
          · intro task htask
            rcases List.mem_cons.mp htask with rfl | htask
            · exact ⟨partNum, chunk, rfl⟩
            · simp only [List.map_map, List.mem_map] at htask
              obtain ⟨⟨chunk', n⟩, -, rfl⟩ := htask
              exact ⟨n, chunk', rfl⟩
          · rw [show failed = none from hnone] at hgo
            cases hgo.1
      rw [Program.wp_bind]
      refine wp_observe_assigned (wp_uploadPart_assigned hs hu ?_ fun e hexc hown => ?_)
      · -- the part is there, and no later task touches it
        have hkey : (u.addPart partNum chunk).key = key := (upload?_key hu : u.key = key)
        refine Program.wp_mono (ih (upload?_setUpload hkey) hnodup) ?_
        rintro r σ' ⟨g, rfl, ⟨u', hσ', hkey', hframe, hheld⟩, hlate, hall, hfailed⟩
        rw [setUpload_setUpload] at hσ'
        refine ⟨g, rfl, ⟨u', hσ', hkey', fun n hn => ?_, fun hnone y hy => ?_⟩, hlate,
          fun hnone => ?_, hfailed⟩
        · rw [List.map_cons, List.mem_cons, not_or] at hn
          rw [hframe n hn.2]
          exact Function.update_of_ne hn.1 _ _
        · rcases List.mem_cons.mp hy with rfl | hy
          · rw [hframe partNum hnot]
            exact Function.update_self _ _ _
          · exact hheld hnone y hy
        · obtain ⟨hbefore, hlate, hresults⟩ := hall hnone
          refine ⟨hbefore, hlate, ?_⟩
          rw [hresults, List.append_assoc]
          rfl
      · refine Program.wp_mono (ih hu hnodup) ?_
        rintro r σ' ⟨g, rfl, ⟨u', hσ', hkey', hframe, -⟩, hlate, hall, hfailed⟩
        have hsome : g.failed ≠ none := fun hnone => by
          have := (hall hnone).1
          cases failed <;> cases this
        refine ⟨g, rfl, ⟨u', hσ', hkey', fun n hn => ?_, fun hnone => absurd hnone hsome⟩, hlate,
          fun hnone => absurd hnone hsome, fun e' he' => ?_⟩
        · rw [List.map_cons, List.mem_cons, not_or] at hn
          exact hframe n hn.2
        · rcases hfailed e' he' with hbefore | hown'
          · cases failed with
            | some e₀ => exact .inl hbefore
            | none =>
                cases hbefore
                exact .inr ⟨hexc, hown⟩
          · exact .inr hown'

theorem lookup_of_mem {β : Type} {l : List (ℕ × β)} {n : ℕ} {b : β}
    (hnodup : (l.map Prod.fst).Nodup) (h : (n, b) ∈ l) : l.lookup n = some b := by
  induction l with
  | nil => cases h
  | cons x l ih =>
      obtain ⟨hnot, hnodup⟩ := List.nodup_cons.mp hnodup
      rcases List.mem_cons.mp h with rfl | h
      · exact List.lookup_cons_self
      · have hne : (n == x.1) = false := beq_false_of_ne fun heq =>
          hnot (heq ▸ List.mem_map.mpr ⟨(n, b), h, rfl⟩)
        rw [List.lookup_cons, hne]
        exact ih hnodup h

theorem nodup_numbers (horder : order.Perm (chunks.zipIdx 1)) : (order.map Prod.snd).Nodup := by
  rw [(horder.map Prod.snd).nodup_iff, List.zipIdx_map_snd]
  exact List.nodup_range'

/-- In whatever order they arrive, the results are handed on in the order of the parts. -/
theorem filterMap_lookup_order (horder : order.Perm (chunks.zipIdx 1)) :
    ((chunks.zipIdx 1).map Prod.snd).filterMap (fun number =>
      (order.map fun x => (x.2, (⟨x.2, x.1⟩ : Part))).lookup number) = partsFrom 1 chunks := by
  have hkeys : (order.map fun x => (x.2, (⟨x.2, x.1⟩ : Part))).map Prod.fst =
      order.map Prod.snd := by
    rw [List.map_map]
    rfl
  have hlookup : ∀ x ∈ chunks.zipIdx 1, ((fun number =>
      (order.map fun x => (x.2, (⟨x.2, x.1⟩ : Part))).lookup number) ∘ Prod.snd) x =
        (some ∘ fun x => ⟨x.2, x.1⟩) x := fun x hx => by
    refine lookup_of_mem ?_ (List.mem_map.mpr ⟨x, horder.mem_iff.mpr hx, rfl⟩)
    rw [hkeys]
    exact nodup_numbers horder
  rw [List.filterMap_map, List.filterMap_congr hlookup, List.filterMap_eq_map]
  rfl

/-! ## The handlers -/

theorem wp_assembleFailed_none {e : Exc} {Q : Except Exc α → World → Prop}
    (he : e.isException = true) (h : ∀ e', Q (.error e') σ) :
    (assembleFailed settings key none e : Service α).wp (assignedMachine env outcome) F Q σ := by
  unfold assembleFailed
  split
  · exact h e
  split
  · exact h _
  · exact h _

/-- An exception from S3 aborts the upload. -/
theorem wp_assembleFailed_some {e : Exc} {u : Upload} {σ₀ : World}
    {Q : Except Exc α → World → Prop} (hs : Reliable outcome σ₀)
    (hu : σ.upload? key uploadId = some u) (he : e.isException = true)
    (hown : e.isIntegrityError = false) (h : ∀ e', Q (.error e') (σ.setUpload uploadId none)) :
    (assembleFailed settings key (some uploadId) e : Service α).wp (assignedMachine env outcome)
      F Q σ := by
  have habort : ∀ e' : Exc,
      (abortMultipartUpload key (some uploadId) >>= fun _ => throw e' : Service α).wp
        (assignedMachine env outcome) F Q σ := by
    intro e'
    rw [Program.wp_bind]
    refine wp_swallow (wp_assigned_none (.inr (hs.abort key uploadId)) ?_)
    simp only [Command.act, hu]
    exact h e'
  simp only [assembleFailed, hown, he, if_true]
  rw [if_neg Bool.false_ne_true]
  split
  · exact habort _
  · exact habort _

/-- A part that reaches S3 after the upload is gone is refused. -/
theorem wp_late {tasks : List (Service Part)} {Q : Except Exc Unit → World → Prop}
    (hgone : σ.upload? key uploadId = none)
    (htasks : ∀ task ∈ tasks, ∃ n chunk, task = uploadPart key uploadId n chunk)
    (h : Q (.ok ()) σ) :
    (tasks.forM fun task => discard (observe task)).wp (assignedMachine env outcome) F Q σ := by
  induction tasks with
  | nil => exact h
  | cons task tasks ih =>
      obtain ⟨⟨n, chunk, rfl⟩, htail⟩ := List.forall_mem_cons.mp htasks
      refine Program.wp_bind.mpr (wp_map (wp_observe_assigned ?_))
      rw [uploadPart, Program.wp_bind]
      refine wp_assigned ?_ fun _ _ => ih htail
      simp only [Command.act, hgone]
      exact ih htail

/-! ## The end of the upload -/

/-- With all parts there, the object is put together and kept, or there is no upload any more. -/
theorem wp_finishUpload {u : Upload} {σ₀ : World} {Q : Except Exc (String × ℤ) → World → Prop}
    (hs : Reliable outcome σ₀) (hu : σ.upload? key uploadId = some u)
    (hparts : ∀ part ∈ partsFrom 1 chunks, u.parts part.partNumber = some part.etag)
    (habsent : σ.objects key = none)
    (hok : sha256Hexdigest chunks.flatten = expected.value →
      Q (.ok (s3Path settings key, chunks.flatten.length))
        ((σ.setUpload uploadId none).setObject key (some chunks.flatten)))
    (herror : ∀ e, Q (.error e) (σ.setUpload uploadId none)) :
    (tryCatch (finishUpload settings key f uploadId chunks expected (partsFrom 1 chunks))
      (assembleFailed settings key (some uploadId))).wp (assignedMachine env outcome) F Q σ := by
  rw [Program.wp_tryCatch, finishUpload, Program.wp_bind]
  refine wp_assigned ?_ fun e he => ?_
  rotate_left
  · obtain ⟨hexc, hown⟩ := hs.fails _ e he
    exact wp_assembleFailed_some hs hu hexc hown herror
  simp only [Command.act, hu, partsFrom_ascending, collect_partsFrom hparts, if_true]
  by_cases hsha : sha256Hexdigest chunks.flatten = expected.value
  · rw [if_neg (not_not_intro hsha)]
    have hlen : ((chunks.map List.length).sum : ℤ) = chunks.flatten.length := by
      rw [List.length_flatten]
    rw [hlen, wp_pure]
    exact hok hsha
  · -- the corrupt object is deleted again
    rw [if_pos hsha, Program.wp_bind]
    refine wp_swallow (wp_assigned_none (.inr (hs.delete key)) ?_)
    have hdeleted : ((σ.setUpload uploadId none).setObject key (some chunks.flatten)).setObject key
        none = σ.setUpload uploadId none :=
      setObject_setObject_none (σ := σ.setUpload uploadId none) habsent _
    have hend : ∀ e : Exc, e.isIntegrityError = true →
        (assembleFailed settings key (some uploadId) e : Service (String × ℤ)).wp
          (assignedMachine env outcome) F Q
          (((σ.setUpload uploadId none).setObject key (some chunks.flatten)).setObject key
            none) := by
      intro e he
      rw [hdeleted, assembleFailed, if_pos he]
      exact herror e
    exact hend _ rfl

/-! ## The whole operation -/

theorem atomic_unchanged (e : Exc) : Atomic settings key chunks expected σ (.error e) σ where
  result := rfl
  otherKeys := fun _ _ => rfl
  closed := fun _ hle hlt => absurd hlt (Nat.not_lt.mpr hle)
  otherUploads := fun _ _ => rfl
  rest := rfl

theorem uploads_begun (id : UploadId) :
    ((σ.begun key).setUpload σ.nextUpload none).uploads id =
      if id = σ.nextUpload then none else σ.uploads id := by
  simp only [World.begun, World.setUpload, Function.update_idem, Function.update_apply]

theorem closed_begun (id : UploadId) (hle : σ.nextUpload ≤ id)
    (hlt : id < ((σ.begun key).setUpload σ.nextUpload none).nextUpload) :
    ((σ.begun key).setUpload σ.nextUpload none).uploads id = none := by
  rw [uploads_begun]
  exact if_pos (Nat.le_antisymm (Nat.le_of_lt_succ hlt) hle)

theorem otherUploads_begun (id : UploadId)
    (hid : id < σ.nextUpload ∨ ((σ.begun key).setUpload σ.nextUpload none).nextUpload ≤ id) :
    ((σ.begun key).setUpload σ.nextUpload none).uploads id = σ.uploads id := by
  rw [uploads_begun]
  refine if_neg fun heq => ?_
  rcases hid with hid | hid
  · exact hid.ne heq
  · exact Nat.not_succ_le_self _ (heq ▸ hid)

theorem atomic_aborted (e : Exc) :
    Atomic settings key chunks expected σ (.error e)
      ((σ.begun key).setUpload σ.nextUpload none) where
  result := rfl
  otherKeys := fun _ _ => rfl
  closed := closed_begun
  otherUploads := otherUploads_begun
  rest := rfl

theorem atomic_assembled (habsent : σ.objects key = none)
    (hsha : sha256Hexdigest chunks.flatten = expected.value) :
    Atomic settings key chunks expected σ (.ok (s3Path settings key, chunks.flatten.length))
      (((σ.begun key).setUpload σ.nextUpload none).setObject key (some chunks.flatten)) where
  result := ⟨rfl, rfl, hsha, habsent, Function.update_self _ _ _⟩
  otherKeys := fun _ hne => Function.update_of_ne hne _ _
  closed := closed_begun
  otherUploads := otherUploads_begun
  rest := rfl

/-- The check passes and there is no object, or nothing happens. -/
theorem wp_checkFileExists_assigned {Q : Except Exc Unit → World → Prop}
    (hs : Reliable outcome σ) (habsent : σ.objects key = none → Q (.ok ()) σ)
    (herror : ∀ e, e.isException = true → Q (.error e) σ) :
    (checkFileExists key f).wp (assignedMachine env outcome) F Q σ := by
  rw [checkFileExists, wp_tryExcept, Program.wp_bind]
  refine wp_assigned ?_ fun e he => ⟨fun _ => ?_, fun _ => herror e (hs.fails _ e he).1⟩
  · simp only [Command.act]
    cases hobject : σ.objects key with
    | none => exact ⟨fun _ => habsent hobject, fun h => by cases h⟩
    | some content => exact ⟨fun h => (by cases h), fun _ => herror (.integrityError _ _ _ _) rfl⟩
  · by_cases hmissing : e.saysAbsent = true
    · rw [if_pos hmissing]
      exact habsent (hs.head key e he hmissing)
    · rw [if_neg hmissing]
      exact herror e (hs.fails _ e he).1

/-- There is no object and a new upload, or nothing happens. -/
theorem wp_beginUpload_assigned {Q : Except Exc UploadId → World → Prop}
    (hs : Reliable outcome σ)
    (hok : σ.objects key = none → Q (.ok σ.nextUpload) (σ.begun key))
    (herror : ∀ e, e.isException = true → Q (.error e) σ) :
    (beginUpload key f).wp (assignedMachine env outcome) F Q σ := by
  rw [beginUpload, Program.wp_bind]
  refine wp_checkFileExists_assigned hs (fun habsent => ?_) herror
  dsimp only
  rw [Program.wp_bind]
  refine wp_assigned ?_ fun e he => herror e (hs.fails _ e he).1
  exact hok habsent

/-- The tasks that are left change nothing once the upload is gone, and the outcome stands. -/
theorem wp_settled {late : List (Service Part)} {r : Except Exc α}
    {Q : Except Exc α → World → Prop} (hgone : σ.upload? key uploadId = none)
    (hlate : ∀ task ∈ late, ∃ n chunk, task = uploadPart key uploadId n chunk) (h : Q r σ) :
    (late.forM (fun task => discard (observe task)) >>= fun _ => MonadExcept.ofExcept r).wp
      (assignedMachine env outcome) F Q σ := by
  rw [Program.wp_bind]
  refine wp_late hgone hlate ?_
  cases r <;> exact h

theorem wp_assembleFileIn (hs : Reliable outcome σ) (horder : order.Perm (chunks.zipIdx 1)) :
    (assembleFileIn settings order early w f chunks expected).wp (assignedMachine env outcome) F
      (Atomic settings ⟨w, f⟩ chunks expected σ) σ := by
  refine wp_ofExcept_bind (fun _ _ => ?_) fun e _ => atomic_unchanged e
  refine wp_ofExcept_bind (fun _ _ => ?_) fun e _ => atomic_unchanged e
  dsimp only
  rw [Program.wp_bind, Program.wp_tryCatch]
  refine wp_beginUpload_assigned hs (fun habsent => ?_) fun e he =>
    wp_assembleFailed_none he atomic_unchanged
  dsimp only
  have hbegun : (σ.begun ⟨w, f⟩).upload? ⟨w, f⟩ σ.nextUpload = some ⟨⟨w, f⟩, fun _ => none⟩ :=
    upload?_setUpload rfl
  rw [Program.wp_bind]
  refine Program.wp_mono (wp_runTasks hs hbegun (nodup_numbers horder)) ?_
  rintro _ σ' ⟨⟨failed, results, late⟩, rfl, ⟨u, rfl, hkey, -, hheld⟩, hlate, hall, hfailed⟩
  have hu : ((σ.begun ⟨w, f⟩).setUpload σ.nextUpload (some u)).upload? ⟨w, f⟩ σ.nextUpload =
      some u := upload?_setUpload hkey
  have hgone : ∀ σ' : World, σ'.uploads σ.nextUpload = none →
      σ'.upload? ⟨w, f⟩ σ.nextUpload = none := fun σ' h => by rw [World.upload?, h]; rfl
  dsimp only
  rw [Program.wp_bind]
  refine wp_observe_assigned ?_
  cases failed with
  | some e =>
      -- the upload is aborted while tasks may be under way
      obtain ⟨hexc, hown⟩ := (hfailed e rfl).resolve_left (by rintro ⟨⟩)
      rw [Program.wp_tryCatch]
      refine wp_assembleFailed_some hs hu hexc hown fun e' => ?_
      rw [setUpload_setUpload]
      exact wp_settled (hgone _ (Function.update_self _ _ _)) hlate (atomic_aborted e')
  | none =>
      obtain ⟨-, rfl, hresults⟩ := hall rfl
      have hparts : (⟨none, results, []⟩ : Gathered Part).parts ((chunks.zipIdx 1).map Prod.snd) =
          .ok (partsFrom 1 chunks) := by
        rw [Gathered.parts, hresults]
        exact congrArg Except.ok (filterMap_lookup_order horder)
      rw [hparts]
      refine wp_finishUpload hs hu (fun part hpart => ?_) habsent (fun hsha => ?_) fun e => ?_
      · obtain ⟨x, hx, rfl⟩ := List.mem_map.mp hpart
        exact hheld rfl x (horder.mem_iff.mpr hx)
      · rw [setUpload_setUpload]
        exact wp_settled (hgone _ (Function.update_self _ _ _)) (List.forall_mem_nil _)
          (atomic_assembled habsent hsha)
      · rw [setUpload_setUpload]
        exact wp_settled (hgone _ (Function.update_self _ _ _)) (List.forall_mem_nil _)
          (atomic_aborted e)

/-- Whatever part tasks run before the upload is aborted and whatever of S3 fails, an assembly
leaves the file as a whole or no trace. -/
theorem assembleFile_atomic (hs : Reliable outcome σ) (horder : order.Perm (chunks.zipIdx 1)) :
    Atomic settings ⟨w, f⟩ chunks expected σ
      ((assembleFileIn settings order early w f chunks expected).run (assignedMachine env outcome)
        [] σ).1
      ((assembleFileIn settings order early w f chunks expected).run (assignedMachine env outcome)
        [] σ).2 :=
  Program.run_calm_of_wp (F := fun _ => True) (wp_assembleFileIn hs horder)

end S3StorageClient

namespace Sample

/-- The second part of every upload times out. -/
def secondPartTimesOut : Command → Option Exc
  | .uploadPart _ _ 2 _ => some .timeoutError
  | _ => none

end Sample

namespace S3StorageClient

/-- The second part fails first, and the first one is still under way when the upload is gone. -/
theorem assembleFile_atomic_sample :
    Atomic Sample.settings ⟨Sample.workspace, Sample.session⟩ [[1], [2]] (.fromBytes [1, 2])
      World.empty
      ((assembleFileIn Sample.settings [([2], 2), ([1], 1)] 0 Sample.workspace Sample.session
        [[1], [2]] (.fromBytes [1, 2])).run
          (assignedMachine Sample.environment Sample.secondPartTimesOut) [] World.empty).1
      ((assembleFileIn Sample.settings [([2], 2), ([1], 1)] 0 Sample.workspace Sample.session
        [[1], [2]] (.fromBytes [1, 2])).run
          (assignedMachine Sample.environment Sample.secondPartTimesOut) [] World.empty).2 := by
  have hfails : ∀ c e, Sample.secondPartTimesOut c = some e → e = .timeoutError := by
    intro c e he
    unfold Sample.secondPartTimesOut at he
    split at he
    · exact (Option.some_injective _ he).symm
    · cases he
  refine assembleFile_atomic ⟨fun c e he => ?_, fun _ _ => rfl, fun _ => rfl, fun _ _ => nofun⟩ ?_
  · rw [hfails c e he]
    exact ⟨rfl, rfl⟩
  · exact List.Perm.swap _ _ _

end S3StorageClient

end RagFileUploader
