import RagFileUploader.Workspaces.Requests
import RagFileUploader.Effects.InStep

/-!
# The same work in two runs

Two runs of the service may differ in what they hold of other workspaces.  To a caller of one
workspace this shows in three places: S3 numbers the caller's uploads differently, expiry metadata
of another workspace may turn up under an id that the caller asks for, and `DEL` counts it.  As the
service looks at none of the three, it does the same work in both runs.

* `tie` says which commands and replies are not told apart, and `Mirrored` that a program keeps in
  step with itself.
* `mirrored_of_ordinary` passes over everything that meets none of the three differences, which
  leaves `mirrored_deleteSession`, `mirrored_getSessionWithExpiryInfo` and the multipart upload
  (`mirrored_assembleFile`).
* `Request.mirrored_program` is what is used of this module: every request keeps in step.
-/

namespace RagFileUploader

open Effects

variable {settings : Settings} {w s f : UUID} {γ : Set (UploadId × UploadId)} {α β : Type}

/-! ## What is not told apart -/

/-- The command names a multipart upload. -/
def Command.namesUpload : Command → Bool
  | .uploadPart .. | .completeMultipartUpload .. | .abortMultipartUpload .. => true
  | _ => false

/-- Commands that differ only in the ids of multipart uploads, which are paired. -/
inductive Same (γ : Set (UploadId × UploadId)) : Command → Command → Prop
  | plain {c : Command} (h : c.namesUpload = false) : Same γ c c
  | uploadPart {key : S3Key} {id id' : UploadId} {partNumber : ℕ} {body : Bytes}
      (h : (id, id') ∈ γ) :
      Same γ (.uploadPart key id partNumber body) (.uploadPart key id' partNumber body)
  | completeMultipartUpload {key : S3Key} {id id' : UploadId} {parts : List Part}
      (h : (id, id') ∈ γ) :
      Same γ (.completeMultipartUpload key id parts) (.completeMultipartUpload key id' parts)
  | abortMultipartUpload {key : S3Key} {id id' : UploadId} (h : (id, id') ∈ γ) :
      Same γ (.abortMultipartUpload key id) (.abortMultipartUpload key id')

/-- Both succeed, with related values, or both raise the same. -/
def Agreed (R : α → α → Prop) : Except Exc α → Except Exc α → Prop
  | .ok a, .ok b => R a b
  | .error e, .error e' => e = e'
  | _, _ => False

/-- Replies that a caller of the workspace does not tell apart: metadata of another workspace
counts as none, the number of deleted keys does not count, and the ids of new uploads are paired. -/
def Alike (w : UUID) (γ : Set (UploadId × UploadId)) :
    (c c' : Command) → Except Exc c.Reply → Except Exc c'.Reply → Prop
  | .hgetallExpiry _, .hgetallExpiry _, reply, reply' =>
      Agreed (fun metadata? metadata?' => metadata?.filter (·.workspaceId = w.str) =
        metadata?'.filter (·.workspaceId = w.str)) reply reply'
  | .deleteSession _, .deleteSession _, reply, reply' => Agreed (fun _ _ => True) reply reply'
  | .createMultipartUpload _, .createMultipartUpload _, reply, reply' =>
      Agreed (Option.Rel fun id id' => (id, id') ∈ γ) reply reply'
  | _, _, reply, reply' => HEq reply reply'

/-- Two runs, to a caller of the workspace. -/
def tie (w : UUID) : Tie serviceSignature (Set (UploadId × UploadId)) where
  same := Same
  replies := Alike w
  same_mono := fun hle h => by
    cases h with
    | plain h => exact .plain h
    | uploadPart h => exact .uploadPart (hle h)
    | completeMultipartUpload h => exact .completeMultipartUpload (hle h)
    | abortMultipartUpload h => exact .abortMultipartUpload (hle h)

/-- The command is the same in both runs, and so is the reply. -/
def Command.Ordinary : Command → Prop
  | .hgetallExpiry _ | .deleteSession _ | .createMultipartUpload _ | .uploadPart ..
  | .completeMultipartUpload .. | .abortMultipartUpload .. => False
  | _ => True

theorem Command.Ordinary.plain {c : Command} (h : c.Ordinary) : c.namesUpload = false := by
  cases c <;> first | rfl | exact h.elim

theorem Command.Ordinary.reply_eq {c : Command} (h : c.Ordinary) {reply reply' : Except Exc c.Reply}
    (halike : Alike w γ c c reply reply') : reply = reply' := by
  cases c <;> first | exact eq_of_heq halike | exact h.elim

theorem InArea.ordinary {area : Area} {c : Command} (h : InArea area w c)
    (hsessions : area ≠ .sessions) (hs3 : area ≠ .s3) : c.Ordinary := by
  obtain ⟨rfl, -⟩ := h
  cases c <;> trivial

/-! ## Parts of programs -/

/-- The program does the same in both runs. -/
abbrev Mirrored (w : UUID) (γ : Set (UploadId × UploadId)) (p : Service α) : Prop :=
  Program.Matches (tie w) p p γ

theorem mirrored_of_ordinary {p : Service α} (hp : p.Issues Command.Ordinary) : Mirrored w γ p :=
  Program.matches_of_issues hp (fun _ _ hc => .plain hc.plain) fun _ _ _ _ hc => hc.reply_eq

theorem mirrored_ofExcept_bind {r : Except Exc α} {h : α → Service β}
    (hh : ∀ a, r = .ok a → Mirrored w γ (h a)) :
    Mirrored w γ (MonadExcept.ofExcept r >>= h) := by
  cases r with
  | ok a => exact hh a rfl
  | error e => rfl

theorem matches_tryExcept {p p' : Service α} {catches : Exc → Bool}
    {handler handler' : Exc → Service α} (hp : Program.Matches (tie w) p p' γ)
    (hh : ∀ e γ', γ ≤ γ' → Program.Matches (tie w) (handler e) (handler' e) γ') :
    Program.Matches (tie w) (tryExcept p catches handler) (tryExcept p' catches handler') γ :=
  hp.tryCatch fun e γ' hle => by
    cases catches e with
    | true => exact hh e γ' hle
    | false => rfl

/-! ## The stores -/

theorem ordinary_getSession : (RedisSessionStore.getSession w s).Issues Command.Ordinary := by
  refine sessionKey_bind_issues (Program.Issues.tryCatch ?_ fun _ => trivial)
  refine issues_send_bind trivial fun data? => ?_
  cases data? with
  | none => trivial
  | some data => exact issues_map issues_ofExcept

theorem ordinary_updateSession {session : UploadSession} :
    (RedisSessionStore.updateSession session).Issues Command.Ordinary := by
  refine sessionKey_bind_issues (Program.Issues.tryCatch ?_ fun _ => trivial)
  refine issues_send_bind trivial fun ttl => Program.Issues.bind ?_ fun _ => issues_send trivial
  unfold raiseIf
  split <;> trivial

theorem ordinary_decrement : (RedisRateLimiter.decrement w).Issues Command.Ordinary :=
  issues_decrement.mono fun _ hc => hc.ordinary (by decide) (by decide)

theorem mirrored_deleteSession : Mirrored w γ (RedisSessionStore.deleteSession w s) := by
  refine mirrored_ofExcept_bind fun key _ => matches_tryExcept ?_ fun _ _ _ => rfl
  refine Program.inStep_call.mpr ⟨.plain rfl, fun γ' _ reply reply' hreply => ?_⟩
  rcases reply with e | n <;> rcases reply' with e' | n'
  · cases (hreply : e = e')
    rfl
  · exact hreply.elim
  · exact hreply.elim
  · rfl

theorem mirrored_getSessionWithExpiryInfo :
    Mirrored w γ (RedisSessionStore.getSessionWithExpiryInfo w s) := by
  refine mirrored_ofExcept_bind fun key _ => Program.Matches.tryCatch ?_ fun _ _ _ => rfl
  refine Program.Matches.bind (mirrored_of_ordinary (issues_send trivial)) fun data? γ _ => ?_
  cases data? with
  | some data => exact mirrored_ofExcept_bind fun _ _ => rfl
  | none =>
      refine Program.InStep.bind (Program.inStep_perform.mpr
        ⟨.plain rfl, fun γ' _ reply reply' hreply => ?_⟩)
      rcases reply with e | metadata? <;> rcases reply' with e' | metadata?'
      · cases (hreply : e = e')
        rfl
      · exact hreply.elim
      · exact hreply.elim
      · have hfilter : metadata?.filter (·.workspaceId = w.str) =
            metadata?'.filter (·.workspaceId = w.str) := hreply
        have hhidden : ∀ metadata : ExpiryMetadata,
            (some metadata).filter (·.workspaceId = w.str) = none → metadata.workspaceId ≠ w.str :=
          fun metadata h => by simpa [Option.filter_eq_none_iff] using h
        rcases metadata? with _ | metadata <;> rcases metadata?' with _ | metadata'
        · rfl
        · dsimp only [Program.Follow]
          rw [if_pos (hhidden metadata' hfilter.symm)]
          rfl
        · dsimp only [Program.Follow]
          rw [if_pos (hhidden metadata hfilter)]
          rfl
        · dsimp only [Program.Follow]
          by_cases h : metadata.workspaceId = w.str
          · rw [Option.filter_some_pos (by simpa using h)] at hfilter
            obtain ⟨heq, -⟩ := Option.filter_eq_some_iff.mp hfilter.symm
            cases heq
            rw [if_neg (not_not.mpr h)]
            rfl
          · rw [Option.filter_some_neg (by simpa using h)] at hfilter
            rw [if_pos h, if_pos (hhidden metadata' hfilter.symm)]
            rfl

/-! ## Storage -/

namespace S3StorageClient

variable {key : S3Key} {id id' : UploadId}

theorem ordinary_checkFileExists : (checkFileExists key f).Issues Command.Ordinary := by
  refine issues_tryExcept (issues_send_bind trivial fun _ => trivial) fun e => ?_
  split <;> trivial

/-- The ids of the new uploads are paired. -/
theorem inStep_beginUpload : (beginUpload key f).InStep (tie w)
    (fun γ' => Agreed fun id id' => (id, id') ∈ γ') (beginUpload key f) γ := by
  refine Program.InStep.bind ((mirrored_of_ordinary ordinary_checkFileExists).mono
    fun γ' r r' hr => ?_)
  obtain rfl := hr
  cases r with
  | error e => rfl
  | ok _ =>
      refine Program.InStep.bind (Program.inStep_perform.mpr
        ⟨.plain rfl, fun γ' _ reply reply' hreply => ?_⟩)
      rcases reply with e | id? <;> rcases reply' with e' | id?'
      · exact hreply
      · exact hreply.elim
      · exact hreply.elim
      · rcases hreply with hid | _
        · exact hid
        · rfl

/-- Without an upload there is nothing to abort. -/
theorem assembleFailed_none (e : Exc) :
    ∃ e', (assembleFailed settings key none e : Service α) = .done (.error e') := by
  unfold assembleFailed
  split
  · exact ⟨_, rfl⟩
  · split
    · exact ⟨_, rfl⟩
    · split <;> exact ⟨_, rfl⟩

theorem matches_abortMultipartUpload (h : (id, id') ∈ γ) :
    Program.Matches (tie w) (abortMultipartUpload key (some id))
      (abortMultipartUpload key (some id')) γ :=
  matches_tryExcept (Program.inStep_perform.mpr
    ⟨.abortMultipartUpload h, fun _ _ _ _ hreply => eq_of_heq hreply⟩) fun _ _ _ => rfl

theorem matches_assembleFailed (h : (id, id') ∈ γ) (e : Exc) :
    Program.Matches (tie w) (assembleFailed settings key (some id) e : Service α)
      (assembleFailed settings key (some id') e) γ := by
  have habort : ∀ e' : Exc, Program.Matches (tie w)
      (abortMultipartUpload key (some id) >>= fun _ => throw e' : Service α)
      (abortMultipartUpload key (some id') >>= fun _ => throw e') γ :=
    fun e' => (matches_abortMultipartUpload h).bind fun _ _ _ => rfl
  unfold assembleFailed
  split
  · rfl
  · split
    · exact habort _
    · split
      · exact habort _
      · rfl

theorem matches_uploadPart {partNum : ℕ} {chunk : Bytes} (h : (id, id') ∈ γ) :
    Program.Matches (tie w) (uploadPart key id partNum chunk) (uploadPart key id' partNum chunk)
      γ := by
  refine Program.Matches.bind (Program.inStep_perform.mpr
    ⟨.uploadPart h, fun _ _ _ _ hreply => eq_of_heq hreply⟩) fun etag? _ _ => ?_
  cases etag? <;> rfl

/-- What a task returns or raises. -/
theorem matches_caught {task task' : Service α} (h : Program.Matches (tie w) task task' γ) :
    Program.Matches (tie w) (tryCatch (Except.ok <$> task) fun e => pure (Except.error e))
      (tryCatch (Except.ok <$> task') fun e => pure (Except.error e)) γ :=
  h.map.tryCatch fun _ _ _ => rfl

/-- Tasks that do the same, gathered. -/
theorem matches_gather {tasks tasks' : List (Service α)}
    (h : List.Forall₂ (fun task task' => Program.Matches (tie w) task task' γ) tasks tasks') :
    ∀ γ', γ ≤ γ' → Program.Matches (tie w) (gather tasks) (gather tasks') γ' := by
  induction h with
  | nil => exact fun _ _ => rfl
  | cons htask _ ih =>
      intro γ₁ hle₁
      refine (matches_caught (htask.of_le hle₁)).bind fun r γ₂ hle₂ => ?_
      have hrest := ih γ₂ (hle₁.trans hle₂)
      cases r with
      | ok a => exact hrest.bind fun _ _ _ => rfl
      | error e =>
          exact (matches_caught hrest).map.bind fun _ _ _ => rfl

theorem matches_uploadParts {chunks : List Bytes} {expected : SHA256Hash} (h : (id, id') ∈ γ) :
    Program.Matches (tie w) (uploadParts settings key f id chunks expected)
      (uploadParts settings key f id' chunks expected) γ := by
  refine (matches_gather ?_ γ le_rfl).bind fun parts γ₁ hle₁ => Program.Matches.bind
    (Program.inStep_perform.mpr ⟨.completeMultipartUpload (hle₁ h),
      fun _ _ _ _ hreply => eq_of_heq hreply⟩) fun _ γ₂ _ => ?_
  · generalize chunks.zipIdx 1 = numbered
    induction numbered with
    | nil => exact .nil
    | cons chunk numbered ih => exact .cons (matches_uploadPart h) ih
  · refine mirrored_of_ordinary ?_
    split
    · exact Program.Issues.bind (issues_tryExcept (issues_send trivial) fun _ => trivial)
        fun _ => trivial
    · trivial

theorem mirrored_assembleFile {chunks : List Bytes} {expected : SHA256Hash} :
    Mirrored w γ (assembleFile settings w f chunks expected) := by
  refine mirrored_ofExcept_bind fun _ _ => mirrored_ofExcept_bind fun _ _ =>
    Program.InStep.bind (Program.InStep.tryCatch (inStep_beginUpload.mono fun γ' r r' hr => ?_))
  rcases r with e | id <;> rcases r' with e' | id'
  · cases (hr : e = e')
    obtain ⟨e', hfailed⟩ :=
      @assembleFailed_none settings UploadId ⟨w, f⟩ e
    change Program.InStep _ _ (assembleFailed settings ⟨w, f⟩ none e)
      (assembleFailed settings ⟨w, f⟩ none e) γ'
    rw [hfailed]
    rfl
  · exact hr.elim
  · exact hr.elim
  · exact (matches_uploadParts hr).tryCatch fun e _ hle => matches_assembleFailed (hle hr) e

end S3StorageClient

/-! ## The use cases -/

theorem ordinary_createSession {session : UploadSession} :
    (RedisSessionStore.createSession session).Issues Command.Ordinary :=
  sessionKey_bind_issues (Program.Issues.tryCatch (issues_send trivial) fun _ => trivial)

theorem InitiateUploadUseCase.ordinary_execute {request : InitiateUploadRequest} :
    (execute (dependencies settings) request).Issues Command.Ordinary := by
  refine issues_ofExcept.bind fun _ => (issues_checkAndIncrement.mono fun _ hc =>
    hc.ordinary (by decide) (by decide)).bind fun _ => issues_tryExcept ?_ fun e =>
      Program.Issues.bind (issues_tryExcept ordinary_decrement fun _ => trivial) fun _ => trivial
  exact issues_send_bind trivial fun _ => issues_send_bind trivial fun _ =>
    issues_ofExcept.bind fun _ => ordinary_createSession.bind fun _ => issues_ofExcept

theorem ProcessChunkUseCase.ordinary_execute {request : ProcessChunkRequest} :
    (execute (dependencies settings) request).Issues Command.Ordinary := by
  refine ordinary_getSession.bind fun session? => ?_
  cases session? with
  | none => trivial
  | some session =>
      exact issues_ofExcept.bind fun _ => Program.Issues.bind
        (issues_tryExcept (issues_send trivial) fun _ => trivial) fun _ =>
          issues_ofExcept.bind fun _ => ordinary_updateSession.bind fun _ => trivial

theorem AbortUploadUseCase.mirrored_execute :
    Mirrored w γ (execute (dependencies settings) w s) := by
  refine (mirrored_of_ordinary ordinary_getSession).bind fun session? γ₁ _ => ?_
  cases session? with
  | none => rfl
  | some session =>
      refine mirrored_ofExcept_bind fun _ _ =>
        (mirrored_of_ordinary ordinary_updateSession).bind fun _ _ _ =>
          mirrored_deleteSession.bind fun _ _ _ => ?_
      exact mirrored_of_ordinary (issues_tryExcept ordinary_decrement fun _ => trivial)

namespace CompleteUploadUseCase

variable {request : CompleteUploadRequest} {session : UploadSession} {s3Path : String}
  {finalSize : ℤ}

theorem ordinary_markFailed (e : Exc) :
    (RedisSessionStore.updateSession session.markFailed >>= fun _ => throw e :
      Service α).Issues Command.Ordinary :=
  ordinary_updateSession.bind fun _ => trivial

theorem mirrored_assemble :
    Mirrored request.workspaceId γ (assemble (dependencies settings) request session) := by
  refine (mirrored_of_ordinary ((issues_retrieveAll _).mono fun _ hc => hc.ordinary (by decide)
    (by decide))).bind fun chunks _ _ =>
      S3StorageClient.mirrored_assembleFile.bind fun file _ _ => ?_
  refine mirrored_of_ordinary ((issues_checkDuplicate.mono fun _ hc => hc.ordinary (by decide)
    (by decide)).bind fun duplicate? => ?_)
  cases duplicate? with
  | none => trivial
  | some duplicate => exact ordinary_markFailed _

theorem ordinary_publish : (publish (dependencies settings) request session s3Path
    finalSize).Issues Command.Ordinary :=
  issues_send_bind trivial fun _ => issues_send_bind trivial fun _ => issues_ofExcept.bind fun _ =>
    issues_tryExcept (issues_send trivial) fun e => ordinary_markFailed e

theorem ordinary_register : (register (dependencies settings) request session s3Path
    finalSize).Issues Command.Ordinary :=
  issues_registration.mono fun c hc => by
    rcases hc with rfl | hc
    · trivial
    · exact hc.ordinary (by decide) (by decide)

theorem ordinary_finish : (finish (dependencies settings) request session s3Path
    finalSize).Issues Command.Ordinary :=
  issues_ofExcept.bind fun _ => ordinary_updateSession.bind fun _ =>
    Program.Issues.bind (issues_tryExcept ordinary_decrement fun _ => trivial) fun _ =>
    Program.Issues.bind (issues_tryExcept ordinary_register fun _ => trivial) fun _ =>
    Program.Issues.bind (issues_tryExcept ((issues_cleanup _).mono fun _ hc =>
      hc.ordinary (by decide) (by decide)) fun _ => trivial) fun _ => issues_ofExcept

theorem mirrored_execute :
    Mirrored request.workspaceId γ (execute (dependencies settings) request) := by
  refine (mirrored_of_ordinary ordinary_getSession).bind fun session? _ _ => ?_
  cases session? with
  | none => rfl
  | some session =>
      refine Program.Matches.tryCatch (mirrored_ofExcept_bind fun _ _ =>
        mirrored_assemble.bind fun _ _ _ => mirrored_of_ordinary (ordinary_publish.bind fun _ =>
          ordinary_finish)) fun e _ _ => mirrored_of_ordinary ?_
      rw [settle_eq]
      split
      · exact Program.Issues.bind (issues_tryExcept ordinary_updateSession fun _ => trivial)
          fun _ => trivial
      · trivial

end CompleteUploadUseCase

theorem Call.mirrored_program (c : Call) : Mirrored c.workspaceId γ (c.program settings) := by
  cases c with
  | initiate request =>
      exact mirrored_of_ordinary (issues_map InitiateUploadUseCase.ordinary_execute)
  | processChunk request =>
      exact mirrored_of_ordinary (issues_map ProcessChunkUseCase.ordinary_execute)
  | complete request => exact CompleteUploadUseCase.mirrored_execute.map
  | abort w s => exact AbortUploadUseCase.mirrored_execute.map

/-! ## Requests -/

/-- What the handlers do when there is no session. -/
theorem mirrored_missing {expired : ExpiryMetadata → ℤ → HTTPException} {notFound : HTTPException} :
    Mirrored w γ (do
      let (_, metadata?) ← RedisSessionStore.getSessionWithExpiryInfo w s
      notFoundOrExpired (dependencies settings) metadata? expired notFound) :=
  mirrored_getSessionWithExpiryInfo.bind fun _ _ _ =>
    mirrored_of_ordinary (issues_notFoundOrExpired trivial)

theorem QueryUploadOffset.mirrored_execute :
    Mirrored w γ (execute (dependencies settings) w s) := by
  refine Program.Matches.bind (Program.Matches.tryCatch mirrored_getSessionWithExpiryInfo.map
    fun e _ _ => mirrored_of_ordinary (issues_map ?_)) fun looked _ _ => mirrored_of_ordinary ?_
  · unfold lookupError
    repeat' split
    all_goals trivial
  · rcases looked with e | ⟨_ | session, metadata?⟩
    · trivial
    · exact issues_map (issues_notFoundOrExpired trivial)
    · trivial

theorem UploadChunk.mirrored_failed {chunkData : Bytes} (e : Exc) :
    Mirrored w γ (failed (dependencies settings) w s chunkData e) := by
  unfold failed
  split
  · exact mirrored_missing
  · rfl
  · rfl
  · repeat' split
    all_goals rfl

theorem UploadChunk.mirrored_execute {request : Request} :
    Mirrored w γ (execute (dependencies settings) w request) := by
  unfold execute
  cases validate request with
  | error e => rfl
  | ok chunkChecksum =>
      cases request.body with
      | error e =>
          dsimp only
          split <;> rfl
      | ok chunkData =>
          refine mirrored_ofExcept_bind fun chunk hchunk => ?_
          obtain rfl : chunk.workspaceId = w := workspaceId_of_new hchunk
          exact Program.Matches.tryCatch
            (mirrored_of_ordinary (issues_map ProcessChunkUseCase.ordinary_execute)) fun e _ _ =>
              (mirrored_failed e).map

theorem AbortUpload.mirrored_failed (e : Exc) :
    Mirrored w γ (failed (dependencies settings) w s e) := by
  unfold failed
  split
  · exact mirrored_missing
  · repeat' split
    all_goals rfl

theorem AbortUpload.mirrored_execute : Mirrored w γ (execute (dependencies settings) w s) :=
  Program.Matches.tryCatch AbortUploadUseCase.mirrored_execute.map fun e _ _ =>
    (mirrored_failed e).map

theorem InitiateUpload.mirrored_execute {body : Body} :
    Mirrored w γ (execute (dependencies settings) w body) := by
  refine Program.Matches.tryCatch
    (mirrored_of_ordinary (issues_map InitiateUploadUseCase.ordinary_execute)) fun e _ _ =>
      Program.Matches.map ?_
  unfold failed
  repeat' split
  all_goals rfl

theorem Route.mirrored_handle {route : Route} :
    Mirrored w γ (route.handle (dependencies settings) w) := by
  cases route with
  | post body =>
      rw [handle]
      split
      · rfl
      · exact InitiateUpload.mirrored_execute.map
  | patch _ => exact UploadChunk.mirrored_execute.map
  | head _ => exact QueryUploadOffset.mirrored_execute.map
  | delete _ => exact AbortUpload.mirrored_execute.map

/-- A request does the same in two runs. -/
theorem Request.mirrored_program {request : Request} (hw : request.workspace? = some w) :
    Mirrored w γ (request.program settings) := by
  cases request with
  | call c =>
      obtain rfl : c.workspaceId = w := Option.some_injective _ hw
      exact c.mirrored_program.map
  | http request =>
      refine Program.Matches.map ?_
      unfold HttpRequest.handle
      cases huser : request.currentUser with
      | error refusal => rfl
      | ok claims =>
          rw [workspace?, huser] at hw
          obtain rfl : claims.workspaceId = w := Option.some_injective _ hw
          exact Route.mirrored_handle

end RagFileUploader
