import RagFileUploader.Infrastructure.StorageClient

/-!
# Part uploads as concurrent tasks

`asyncio.gather` starts one task a part.  The tasks reach S3 in any order, and when one of them
raises the main task goes on as soon as the event loop lets it, while others may still be under
way; these reach S3 after the main task has aborted the upload.  An order of the tasks and the
number of them that run before the main task goes on determine all of this.

`assembleFile` is the case where all tasks run in the order of the parts before the main task goes
on (`assembleFileIn_zipIdx`).
-/

namespace RagFileUploader.S3StorageClient

open Effects

variable {α β : Type}

/-- Let a task run to its end and take its exception for a result. -/
def observe (p : Service α) : Service (Except Exc α) :=
  tryCatch (Except.ok <$> p) fun e => pure (Except.error e)

/-- What the tasks have come to when the main task goes on. -/
structure Gathered (α : Type) where
  /-- The first exception. -/
  failed : Option Exc
  /-- The results so far, each with the number of its task. -/
  results : List (ℕ × α)
  /-- The tasks that have not run yet. -/
  late : List (Service α)

/-- Run the tasks one after the other.  Once one has raised, the main task goes on when at least
`early` more have run. -/
def runTasks : ℕ → List (ℕ × Service α) → Option Exc → List (ℕ × α) → Service (Gathered α)
  | _, [], failed, results => pure ⟨failed, results, []⟩
  | early, (number, task) :: tasks, failed, results =>
      if failed.isSome ∧ early = 0 then pure ⟨failed, results, task :: tasks.map Prod.snd⟩
      else do
        match ← observe task with
        | .ok a => runTasks (early - 1) tasks failed (results ++ [(number, a)])
        | .error e => runTasks (early - 1) tasks (failed <|> some e) results

/-- The results of all tasks in the order of their numbers, or the first exception. -/
def Gathered.parts (gathered : Gathered α) (numbers : List ℕ) : Except Exc (List α) :=
  match gathered.failed with
  | some e => .error e
  | none => .ok (numbers.filterMap fun number => gathered.results.lookup number)

variable (settings : Settings)

/-- `uploadParts` from the point where all parts are there. -/
def finishUpload (key : S3Key) (fileId : UUID) (uploadId : UploadId) (chunkData : List Bytes)
    (expectedChecksum : SHA256Hash) (parts : List Part) : Service (String × ℤ) := do
  let totalSize : ℤ := (chunkData.map List.length).sum
  let computedChecksum := sha256Hexdigest chunkData.flatten
  send (.completeMultipartUpload key uploadId parts)
  if computedChecksum ≠ expectedChecksum.value then do
    tryExcept (send (.deleteObject key)) Exc.isException fun _ => pure ()
    throw (.integrityError s!"Assembled file checksum mismatch for {key}"
      (some expectedChecksum.value) (some computedChecksum) fileId)
  else pure (s3Path settings key, totalSize)

theorem uploadParts_eq (key : S3Key) (fileId : UUID) (uploadId : UploadId)
    (chunkData : List Bytes) (expectedChecksum : SHA256Hash) :
    uploadParts settings key fileId uploadId chunkData expectedChecksum =
      gather ((chunkData.zipIdx 1).map fun (chunk, partNum) =>
        uploadPart key uploadId partNum chunk) >>=
          finishUpload settings key fileId uploadId chunkData expectedChecksum := rfl

/-- `assemble_file` with its part tasks in this order, and so many of them before the main task
goes on after an exception. -/
def assembleFileIn (order : List (Bytes × ℕ)) (early : ℕ) (workspaceId fileId : UUID)
    (chunkData : List Bytes) (expectedChecksum : SHA256Hash) : Service (String × ℤ) := do
  MonadExcept.ofExcept (validateChunkData chunkData)
  MonadExcept.ofExcept (validateChecksumFormat expectedChecksum)
  let key : S3Key := ⟨workspaceId, fileId⟩
  let uploadId ← tryCatch (beginUpload key fileId) (assembleFailed settings key none)
  let gathered ← runTasks early
    (order.map fun (chunk, partNum) => (partNum, uploadPart key uploadId partNum chunk)) none []
  let outcome ← observe <| tryCatch
    (do
      let parts ← MonadExcept.ofExcept (gathered.parts ((chunkData.zipIdx 1).map Prod.snd))
      finishUpload settings key fileId uploadId chunkData expectedChecksum parts)
    (assembleFailed settings key (some uploadId))
  -- the tasks that are still under way
  gathered.late.forM fun task => discard (observe task)
  MonadExcept.ofExcept outcome

/-! ## The parts in order -/

section Observe

variable {γ : Type}

theorem observe_bind (p : Service α) (f : α → Service β) (g : Except Exc β → Service γ) :
    observe (p >>= f) >>= g = observe p >>= fun r => match r with
      | .ok a => observe (f a) >>= g
      | .error e => g (.error e) := by
  induction p with
  | done r => cases r <;> rfl
  | call command next ih => exact congrArg (Program.call command) (funext ih)

theorem observe_observe_bind (p : Service α) (f : Except Exc α → Service β)
    (g : Except Exc β → Service γ) :
    observe (observe p >>= f) >>= g = observe p >>= fun r => observe (f r) >>= g := by
  induction p with
  | done r => cases r <;> rfl
  | call command next ih => exact congrArg (Program.call command) (funext ih)

theorem bind_tryCatch_observe (p : Service α) (f : α → Service β) (handler : Exc → Service β) :
    tryCatch (p >>= f) handler = observe p >>= fun r =>
      tryCatch (MonadExcept.ofExcept r >>= f) handler := by
  induction p with
  | done r => cases r <;> rfl
  | call command next ih => exact congrArg (Program.call command) (funext ih)

theorem ofExcept_observe (p : Service α) : (observe p >>= MonadExcept.ofExcept) = p := by
  induction p with
  | done r => cases r <;> rfl
  | call command next ih => exact congrArg (Program.call command) (funext ih)

/-- Continuations that agree on everything a program may end with. -/
theorem observe_bind_congr {p : Service α} {Q : Except Exc α → Prop}
    {f g : Except Exc α → Service β} (hp : p.Ends Q) (hfg : ∀ r, Q r → f r = g r) :
    observe p >>= f = observe p >>= g := by
  induction p with
  | done r => cases r <;> exact hfg _ hp
  | call command next ih =>
      exact congrArg (Program.call command) (funext fun reply => ih reply (hp reply))

theorem gather_cons (task : Service α) (tasks : List (Service α)) :
    gather (task :: tasks) = observe task >>= fun r => match r with
      | .ok a => gather tasks >>= fun rest => pure (a :: rest)
      | .error e => observe (gather tasks) >>= fun _ => throw e := by
  rw [gather]
  refine bind_congr fun r => ?_
  cases r with
  | ok a => rfl
  | error e => exact bind_map_left _ _ _

theorem ends_gather (tasks : List (Service α)) :
    (gather tasks).Ends fun r => match r with
      | .ok l => l.length = tasks.length
      | .error _ => True := by
  induction tasks with
  | nil => rfl
  | cons task tasks ih =>
      rw [gather_cons]
      refine Program.ends_bind_of_forall (fun r => ?_) fun _ => trivial
      cases r with
      | error e => exact Program.ends_bind_of_forall (fun _ => trivial) fun _ => trivial
      | ok a =>
          refine Program.ends_bind.mpr (Program.ends_mono ih fun r hr => ?_)
          cases r with
          | error e => trivial
          | ok rest => exact congrArg (· + 1) hr

/-- All remaining tasks run, for nothing. -/
theorem runTasks_failed {early : ℕ} {tasks : List (ℕ × Service α)} {e : Exc}
    {results : List (ℕ × α)} {g : Gathered α → Service β} (hearly : tasks.length ≤ early)
    (hg : ∀ results results', g ⟨some e, results, []⟩ = g ⟨some e, results', []⟩) :
    runTasks early tasks (some e) results >>= g =
      observe (gather (tasks.map Prod.snd)) >>= fun _ => g ⟨some e, [], []⟩ := by
  induction tasks generalizing early results with
  | nil => exact hg results []
  | cons task tasks ih =>
      obtain ⟨number, task⟩ := task
      have hmore : ¬ ((some e).isSome ∧ early = 0) := by
        rw [List.length_cons] at hearly
        omega
      have hrest : tasks.length ≤ early - 1 := by
        rw [List.length_cons] at hearly
        omega
      rw [runTasks, if_neg hmore, List.map_cons, gather_cons, observe_observe_bind, bind_assoc]
      refine bind_congr fun r => ?_
      cases r with
      | ok a =>
          dsimp only
          rw [ih hrest, observe_bind]
          refine bind_congr fun r => ?_
          cases r <;> rfl
      | error e' =>
          dsimp only
          rw [observe_observe_bind]
          exact ih hrest

/-- With all tasks run before the main task goes on, this is `gather`. -/
theorem runTasks_eq {early : ℕ} {tasks : List (ℕ × Service α)} {results : List (ℕ × α)}
    {g : Gathered α → Service β} (hearly : tasks.length ≤ early)
    (hg : ∀ e results results', g ⟨some e, results, []⟩ = g ⟨some e, results', []⟩) :
    runTasks early tasks none results >>= g =
      observe (gather (tasks.map Prod.snd)) >>= fun r => match r with
        | .ok l => g ⟨none, results ++ (tasks.map Prod.fst).zip l, []⟩
        | .error e => g ⟨some e, [], []⟩ := by
  induction tasks generalizing early results with
  | nil =>
      change g ⟨none, results, []⟩ = g ⟨none, results ++ [], []⟩
      rw [List.append_nil]
  | cons task tasks ih =>
      obtain ⟨number, task⟩ := task
      have hmore : ¬ ((none : Option Exc).isSome ∧ early = 0) := nofun
      have hrest : tasks.length ≤ early - 1 := by
        rw [List.length_cons] at hearly
        omega
      rw [runTasks, if_neg hmore, List.map_cons, gather_cons, observe_observe_bind, bind_assoc]
      refine bind_congr fun r => ?_
      cases r with
      | ok a =>
          dsimp only
          rw [ih hrest, observe_bind]
          refine bind_congr fun r => ?_
          cases r with
          | ok l =>
              dsimp only
              rw [List.append_assoc]
              rfl
          | error e => rfl
      | error e =>
          dsimp only
          rw [observe_observe_bind]
          exact runTasks_failed hrest (hg e)

end Observe

theorem lookup_zip {numbers : List ℕ} {l : List α} (hnodup : numbers.Nodup)
    (hlength : l.length = numbers.length) :
    numbers.filterMap (fun number => (numbers.zip l).lookup number) = l := by
  induction numbers generalizing l with
  | nil => exact (List.eq_nil_of_length_eq_zero hlength).symm
  | cons number numbers ih =>
      obtain ⟨hnot, hnodup⟩ := List.nodup_cons.mp hnodup
      cases l with
      | nil => cases hlength
      | cons a l =>
          have hhead : ((number, a) :: numbers.zip l).lookup number = some a :=
            List.lookup_cons_self
          rw [List.zip_cons_cons, List.filterMap_cons, hhead]
          refine congrArg (a :: ·) ((List.filterMap_congr fun n hn => ?_).trans
            (ih hnodup (Nat.succ.inj hlength)))
          have hne : (n == number) = false := beq_false_of_ne fun h => hnot (h ▸ hn)
          rw [List.lookup_cons, hne]

/-- If all tasks run in order before the main task goes on, this is `assembleFile`. -/
theorem assembleFileIn_zipIdx {early : ℕ} (workspaceId fileId : UUID) (chunkData : List Bytes)
    (expectedChecksum : SHA256Hash) (hearly : chunkData.length ≤ early) :
    assembleFileIn settings (chunkData.zipIdx 1) early workspaceId fileId chunkData
        expectedChecksum =
      assembleFile settings workspaceId fileId chunkData expectedChecksum := by
  unfold assembleFileIn assembleFile
  refine bind_congr fun _ => bind_congr fun _ => bind_congr fun uploadId => ?_
  rw [runTasks_eq (by simpa using hearly) fun _ _ _ => rfl, uploadParts_eq, bind_tryCatch_observe]
  have htasks : ((chunkData.zipIdx 1).map fun (chunk, partNum) =>
      (partNum, uploadPart ⟨workspaceId, fileId⟩ uploadId partNum chunk)).map Prod.snd =
      (chunkData.zipIdx 1).map fun (chunk, partNum) =>
        uploadPart ⟨workspaceId, fileId⟩ uploadId partNum chunk := by
    rw [List.map_map]
    rfl
  have hnumbers : ((chunkData.zipIdx 1).map fun (chunk, partNum) =>
      (partNum, uploadPart ⟨workspaceId, fileId⟩ uploadId partNum chunk)).map Prod.fst =
      (chunkData.zipIdx 1).map Prod.snd := by
    rw [List.map_map]
    rfl
  rw [htasks, hnumbers]
  refine observe_bind_congr (ends_gather _) fun r hr => ?_
  cases r with
  | error e => exact ofExcept_observe _
  | ok parts =>
      have hlookup : ((chunkData.zipIdx 1).map Prod.snd).filterMap
          (fun number =>
            (((chunkData.zipIdx 1).map Prod.snd).zip parts).lookup number) = parts := by
        refine lookup_zip ?_ ?_
        · rw [List.zipIdx_map_snd]
          exact List.nodup_range'
        · simpa using hr
      dsimp only [Gathered.parts]
      rw [List.nil_append, hlookup]
      exact ofExcept_observe _

end RagFileUploader.S3StorageClient
