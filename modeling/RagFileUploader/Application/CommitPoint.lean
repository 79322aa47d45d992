import RagFileUploader.Application.Rules
import RagFileUploader.Infrastructure.Service

/-!
# The commit point of a completion

Completing an upload against ports that succeed or raise in any way whatsoever, each call
independently.  An assignment of outcomes says what the n-th call of a port method does.  Once the
event is out, the session ends FAILED exactly if an exception escapes from the write of COMPLETE
or from the decrement that follows it, the handlers do not let it pass, and their own write of
FAILED succeeds.

* `Fresh`, `Out` and `Done` are the stages of a completion: before its event, with the event out and
  the session not yet written, and with all that decides settled.  `wp_assemble_mocked`,
  `wp_publish_mocked` and `wp_finish_mocked` lead from one to the next.
* `Raised` is where the handlers take over, and `wp_settle_raised` what they make of it.
* `Verdict` says whether the session ends FAILED; all paths of `wp_execute_mocked` arrive there, and
  `not_failed_iff_settledWrites` reads the condition off it.
-/

namespace RagFileUploader

open Effects

/-! ## Ports as commands -/

/-- The calls of port methods. -/
inductive PortCommand where
  | createSession (session : UploadSession)
  | getSession (workspaceId sessionId : UUID)
  | getSessionWithExpiryInfo (workspaceId sessionId : UUID)
  | updateSession (session : UploadSession)
  | deleteSession (workspaceId sessionId : UUID)
  | checkAndIncrement (workspaceId : UUID)
  | decrement (workspaceId : UUID)
  | getCurrentCount (workspaceId : UUID)
  | reset (workspaceId : UUID)
  | assembleFile (workspaceId fileId : UUID) (chunkData : List Bytes) (expected : SHA256Hash)
  | checkDuplicate (workspaceId : UUID) (sha256 : SHA256Hash)
  | registerFile (workspaceId : UUID) (sha256 : SHA256Hash) (metadata : FileMetadata)
  | publish (event : FileLoadCompletedEvent)
  | redisSet (key : ChunkKey) (data : Bytes) (seconds : ℕ)
  | redisGet (key : ChunkKey)
  | redisDelete (key : ChunkKey)
  | uuid4
  | now

@[reducible] def PortCommand.Reply : PortCommand → Type
  | .getSession _ _ => Option UploadSession
  | .getSessionWithExpiryInfo _ _ => Option UploadSession × Option ExpiryMetadata
  | .getCurrentCount _ => ℤ
  | .assembleFile .. => String × ℤ
  | .checkDuplicate _ _ => Option FileMetadata
  | .redisGet _ => Option Bytes
  | .uuid4 => UUID
  | .now => DateTime
  | .createSession _ | .updateSession _ | .deleteSession _ _ | .checkAndIncrement _
  | .decrement _ | .reset _ | .registerFile .. | .publish _ | .redisSet .. | .redisDelete _ => Unit

@[reducible] def portSignature : Signature where
  Command := PortCommand
  Reply := PortCommand.Reply
  Exn := Exc

/-- A use case over ports of which nothing is known. -/
abbrev Mocked := Program portSignature

def mock (c : PortCommand) : Mocked c.Reply := Program.perform (S := portSignature) c

/-- The ports of a use case, each method a command. -/
def mockDependencies : Dependencies Mocked where
  sessionStore :=
    { createSession := fun session => mock (.createSession session)
      getSession := fun workspaceId sessionId => mock (.getSession workspaceId sessionId)
      getSessionWithExpiryInfo := fun workspaceId sessionId =>
        mock (.getSessionWithExpiryInfo workspaceId sessionId)
      updateSession := fun session => mock (.updateSession session)
      deleteSession := fun workspaceId sessionId => mock (.deleteSession workspaceId sessionId) }
  storageClient :=
    { assembleFile := fun workspaceId fileId chunkData expected =>
        mock (.assembleFile workspaceId fileId chunkData expected) }
  dedupStore :=
    { checkDuplicate := fun workspaceId sha256 => mock (.checkDuplicate workspaceId sha256)
      registerFile := fun workspaceId sha256 metadata =>
        mock (.registerFile workspaceId sha256 metadata) }
  eventPublisher := { publish := fun event => mock (.publish event) }
  rateLimiter :=
    { checkAndIncrement := fun workspaceId => mock (.checkAndIncrement workspaceId)
      decrement := fun workspaceId => mock (.decrement workspaceId)
      getCurrentCount := fun workspaceId => mock (.getCurrentCount workspaceId)
      reset := fun workspaceId => mock (.reset workspaceId) }
  redis :=
    { set := fun key data seconds => mock (.redisSet key data seconds)
      get := fun key => mock (.redisGet key)
      delete := fun key => mock (.redisDelete key) }
  runtime := { uuid4 := mock .uuid4, now := mock .now }

/-! ## Assigned outcomes -/

/-- What the n-th call of a method does: the value it returns or the exception it raises. -/
abbrev Outcomes := (c : PortCommand) → ℕ → Except Exc c.Reply

/-- The stored session, the events that went out, and how often each method was called. -/
structure Stage where
  stored : UploadSession
  published : List FileLoadCompletedEvent
  calls : ℕ → ℕ

/-- The method of a call, as a number. -/
def PortCommand.method (c : PortCommand) : ℕ := c.ctorIdx

/-- The assigned reply; a read of the session that succeeds returns the stored one. -/
def Outcomes.reply (o : Outcomes) (stage : Stage) : (c : PortCommand) → Except Exc c.Reply
  | .getSession workspaceId sessionId =>
      (o (.getSession workspaceId sessionId)
        (stage.calls (PortCommand.getSession workspaceId sessionId).method)).map
          fun _ => some stage.stored
  | c => o c (stage.calls c.method)

/-- A call that returns takes effect, one that raises does not. -/
def Stage.after (stage : Stage) : (c : PortCommand) → Except Exc c.Reply → Stage
  | .updateSession session, .ok _ => { stage with stored := session }
  | .publish event, .ok _ => { stage with published := event :: stage.published }
  | _, _ => stage

def Stage.count (stage : Stage) (c : PortCommand) : Stage :=
  { stage with calls := Function.update stage.calls c.method (stage.calls c.method + 1) }

/-- The ports under an assignment of outcomes. -/
def mockMachine (o : Outcomes) : Machine portSignature Stage Empty where
  act := fun c stage => (o.reply stage c, (stage.after c (o.reply stage c)).count c)
  fails := fun f => nomatch f

namespace Sample

/-- A session with all its bytes, one of them. -/
def full : UploadSession where
  sessionId := session
  workspaceId := workspace
  filename := "a.pdf"
  size := 1
  mimeType := "application/pdf"
  sha256Checksum := .fromBytes [1]
  offset := 1
  status := .inProgress
  createdAt := .utc 0
  expiresAt := .utc 86400000000
  chunkManifest := [⟨0, 1, sha256Hexdigest [1]⟩]
  valid := by decide +kernel

/-- Every call returns. -/
def healthy : Outcomes
  | .getSession _ _, _ => .ok (some full)
  | .getSessionWithExpiryInfo _ _, _ => .ok (some full, none)
  | .getCurrentCount _, _ => .ok 1
  | .assembleFile workspaceId fileId chunkData _, _ =>
      .ok (s!"s3://uploads/workspace_{workspaceId}/{fileId}.pdf", chunkData.flatten.length)
  | .checkDuplicate _ _, _ => .ok none
  | .redisGet _, _ => .ok (some [1])
  | .uuid4, _ => .ok session
  | .now, n => .ok (.utc n)
  | .createSession _, _ | .updateSession _, _ | .deleteSession _ _, _ | .checkAndIncrement _, _
  | .decrement _, _ | .reset _, _ | .registerFile .., _ | .publish _, _ | .redisSet .., _
  | .redisDelete _, _ => .ok ()

/-- Every call returns, but for the write of COMPLETE. -/
def failingComplete : Outcomes
  | .updateSession s, _ =>
      if s.status = .complete then .error (.infrastructureError "unavailable") else .ok ()
  | c, n => healthy c n

end Sample

namespace CompleteUploadUseCase

variable {o : Outcomes} {F : Empty → Prop} {request : CompleteUploadRequest}
  {session : UploadSession} {stage stage' : Stage} {α : Type}

theorem wp_mock {c : PortCommand} {Q : Except Exc c.Reply → Stage → Prop} :
    (mock c).wp (mockMachine o) F Q stage ↔
      Q (o.reply stage c) ((stage.after c (o.reply stage c)).count c) :=
  Program.wp_perform.trans (and_iff_left fun f => nomatch f)

/-! ## Before the event -/

/-- The session is as it was read, nothing was written to it, and no event is out. -/
structure Fresh (session : UploadSession) (stage : Stage) : Prop where
  stored : stage.stored = session
  published : stage.published = []
  updates : stage.calls (PortCommand.updateSession session).method = 0
  decrements : ∀ w, stage.calls (PortCommand.decrement w).method = 0

/-- The calls that leave session, events and slots alone. -/
def Harmless : PortCommand → Prop
  | .updateSession _ | .publish _ | .decrement _ => False
  | _ => True

theorem Fresh.step (h : Fresh session stage) (c : PortCommand) (hc : Harmless c)
    (r : Except Exc c.Reply) : Fresh session ((stage.after c r).count c) := by
  obtain ⟨hstored, hpublished, hupdates, hdecrements⟩ := h
  cases c with
  | updateSession => cases hc
  | publish => cases hc
  | decrement => cases hc
  | _ => exact ⟨hstored, hpublished, hupdates, hdecrements⟩

theorem Fresh.wp {p : Mocked α} (h : Fresh session stage) (hp : p.Issues Harmless) :
    p.wp (mockMachine o) F (fun _ stage' => Fresh session stage') stage :=
  hp.wp (fun c _ hc hstage => hstage.step c hc _) h

theorem issues_retrieveChunks (w s : UUID) (manifest : List ChunkMeta) :
    (retrieveChunks mockDependencies w s manifest).Issues Harmless := by
  have hchunk : ∀ c, (retrieveChunk mockDependencies w s c).Issues Harmless := fun c => by
    refine issues_tryExcept (Program.Issues.bind (Program.issues_perform.mpr trivial) fun r => ?_)
      fun e => ?_
    · cases r <;> trivial
    · split <;> trivial
  unfold retrieveChunks
  induction sortManifest manifest with
  | nil => trivial
  | cons c manifest ih =>
      rw [List.mapM_cons]
      exact (hchunk c).bind fun _ => ih.bind fun _ => trivial

/-- A harmless call, whatever it returns or raises. -/
theorem Fresh.wp_mock_bind {c : PortCommand} {f : c.Reply → Mocked α}
    {Q : Except Exc α → Stage → Prop} (h : Fresh session stage) (hc : Harmless c)
    (hok : ∀ a stage', Fresh session stage' → (f a).wp (mockMachine o) F Q stage')
    (herror : ∀ e stage', Fresh session stage' → Q (.error e) stage') :
    (mock c >>= f).wp (mockMachine o) F Q stage := by
  rw [Program.wp_bind]
  refine wp_mock.mpr ?_
  have hstep := h.step c hc (o.reply stage c)
  revert hstep
  generalize (stage.after c (o.reply stage c)).count c = stage'
  intro hstep
  cases o.reply stage c with
  | ok a => exact hok a stage' hstep
  | error e => exact herror e stage' hstep

/-- A write to the session, the next of its kind. -/
theorem wp_updateSession_mocked {t : UploadSession} {Q : Except Exc Unit → Stage → Prop} {n : ℕ}
    (hn : stage.calls (PortCommand.updateSession t).method = n)
    (hok : o (.updateSession t) n = .ok () →
      Q (.ok ()) ({ stage with stored := t }.count (.updateSession t)))
    (herror : ∀ e, o (.updateSession t) n = .error e →
      Q (.error e) (stage.count (.updateSession t))) :
    (mock (.updateSession t)).wp (mockMachine o) F Q stage := by
  subst hn
  refine wp_mock.mpr ?_
  change Q (o (.updateSession t) _) ((stage.after _ (o (.updateSession t) _)).count _)
  cases hr : o (.updateSession t) (stage.calls (PortCommand.updateSession t).method) with
  | ok _ => exact hok hr
  | error e => exact herror e hr

/-- Marking the session FAILED and raising publishes nothing. -/
theorem wp_markFailed_mocked {e : Exc} {Q : Except Exc α → Stage → Prop}
    (h : stage.published = [])
    (hQ : ∀ e' stage', stage'.published = [] → Q (.error e') stage') :
    (mock (.updateSession session.markFailed) >>= fun _ => throw e : Mocked α).wp
      (mockMachine o) F Q stage := by
  rw [Program.wp_bind]
  exact wp_updateSession_mocked rfl (fun _ => hQ e _ h) fun e' _ => hQ e' _ h

theorem wp_assemble_mocked (h : Fresh session stage) :
    (assemble mockDependencies request session).wp (mockMachine o) F
      (fun r stage' => match r with
        | .ok _ => Fresh session stage'
        | .error _ => stage'.published = []) stage := by
  rw [assemble, Program.wp_bind]
  refine Program.wp_mono (h.wp (issues_retrieveChunks _ _ _)) fun r stage₁ h₁ => ?_
  cases r with
  | error e => exact h₁.published
  | ok chunks =>
      refine h₁.wp_mock_bind trivial (fun file stage₂ h₂ => ?_) fun _ _ h₂ => h₂.published
      refine h₂.wp_mock_bind trivial (fun duplicate stage₃ h₃ => ?_) fun _ _ h₃ => h₃.published
      cases duplicate with
      | none => exact h₃
      | some _ => exact wp_markFailed_mocked h₃.published fun _ _ h => h

/-- The event is out, and nothing has been written to the session since it was read. -/
structure Out (session : UploadSession) (stage : Stage) : Prop where
  stored : stage.stored = session
  published : stage.published ≠ []
  updates : stage.calls (PortCommand.updateSession session).method = 0
  decrements : ∀ w, stage.calls (PortCommand.decrement w).method = 0

theorem wp_publish_mocked {s3Path : String} {finalSize : ℤ} (h : Fresh session stage) :
    (publish mockDependencies request session s3Path finalSize).wp (mockMachine o) F
      (fun r stage' => match r with
        | .ok _ => Out session stage' ∧ s3Path ≠ "" ∧ 0 < finalSize
        | .error _ => stage'.published = []) stage := by
  refine h.wp_mock_bind trivial (fun uploadedAt stage₁ h₁ => ?_) fun _ _ h₁ => h₁.published
  refine h₁.wp_mock_bind trivial (fun timestamp stage₂ h₂ => ?_) fun _ _ h₂ => h₂.published
  refine wp_ofExcept_bind (fun event hevent => ?_) fun e _ => h₂.published
  rw [wp_tryExcept]
  refine wp_mock.mpr ?_
  cases o.reply stage₂ (.publish event) with
  | ok _ =>
      have hvalid := event.valid
      rw [FileLoadCompletedEvent.new_eq_ok_iff.mp hevent, EventFields.postInit_eq_ok_iff] at hvalid
      obtain ⟨-, -, -, -, -, -, hsize, -, -, hleading, -⟩ := hvalid
      refine ⟨⟨h₂.stored, List.cons_ne_nil _ _, h₂.updates, h₂.decrements⟩, ?_, hsize⟩
      rintro rfl
      exact absurd (show "s3://".toList <+: "".toList from hleading) (by decide)
  | error e =>
      exact ⟨fun _ => wp_markFailed_mocked h₂.published fun _ _ h => h, fun _ => h₂.published⟩

/-! ## After the event -/

/-- An exception leaves the write of COMPLETE or the decrement that follows it. -/
def Escapes (o : Outcomes) (request : CompleteUploadRequest) (session : UploadSession) (e : Exc) :
    Prop :=
  o (.updateSession (session.withStatus .complete)) 0 = .error e ∨
    (o (.updateSession (session.withStatus .complete)) 0 = .ok () ∧
      o (.decrement request.workspaceId) 0 = .error e ∧ e.isInfrastructureError = false)

/-- When an exception escapes that makes the handlers mark the session, their write of FAILED, the
second write of the session, does not succeed. -/
def SettledWrites (o : Outcomes) (request : CompleteUploadRequest) (session : UploadSession) :
    Prop :=
  ∀ e, Escapes o request session e → marks e = true →
    o (.updateSession session.markFailed) 1 ≠ .ok ()

theorem Escapes.unique {e e' : Exc} (h : Escapes o request session e)
    (h' : Escapes o request session e') : e' = e := by
  rcases h with h | ⟨hok, h, -⟩ <;> rcases h' with h' | ⟨hok', h', -⟩
  · exact (Except.error.inj (h.symm.trans h')).symm
  · exact nomatch h.symm.trans hok'
  · exact nomatch hok.symm.trans h'
  · exact (Except.error.inj (h.symm.trans h')).symm

/-- The stage in which the exception `e` reaches the handlers: it is the one that escaped, or it
is none that they see. -/
structure Raised (o : Outcomes) (request : CompleteUploadRequest) (session : UploadSession)
    (e : Exc) (stage : Stage) : Prop where
  updates : stage.calls (PortCommand.updateSession session).method = 1
  status : stage.stored.status ≠ .failed
  escapes : Escapes o request session e ∨
    e.isException = false ∧ ∀ e', ¬ Escapes o request session e'

/-- What is to be shown of the end of the call. -/
def Verdict (o : Outcomes) (request : CompleteUploadRequest) (session : UploadSession)
    (stage : Stage) : Prop :=
  stage.published ≠ [] →
    (stage.stored.status ≠ .failed ↔ SettledWrites o request session)

theorem wp_settle_raised {e : Exc} (h : Raised o request session e stage) :
    (settle mockDependencies session e).wp (mockMachine o) F
      (fun _ stage' => Verdict o request session stage') stage := by
  rw [settle_eq]
  split
  · next hmarks =>
      have hescapes : Escapes o request session e := h.escapes.resolve_right fun ⟨hexc, _⟩ => by
        simp [marks, hexc] at hmarks
      rw [Program.wp_bind, wp_tryExcept]
      refine wp_updateSession_mocked h.updates (fun hok _ => ?_) fun e' herror => ?_
      · -- the write of FAILED succeeds
        exact ⟨fun hne => absurd rfl hne, fun hsettled => absurd hok (hsettled e hescapes hmarks)⟩
      · have hsettled : SettledWrites o request session := fun _ _ _ hok =>
          nomatch herror.symm.trans hok
        exact ⟨fun _ _ => ⟨fun _ => hsettled, fun _ => h.status⟩,
          fun _ _ => ⟨fun _ => hsettled, fun _ => h.status⟩⟩
  · next hmarks =>
      refine fun _ => ⟨fun _ e' hescapes' hmarks' => ?_, fun _ => h.status⟩
      rcases h.escapes with hescapes | ⟨-, hnone⟩
      · rw [hescapes.unique hescapes'] at hmarks'
        exact absurd hmarks' hmarks
      · exact absurd hescapes' (hnone e')

/-- The session is COMPLETE and no exception has escaped. -/
structure Done (o : Outcomes) (request : CompleteUploadRequest) (session : UploadSession)
    (stage : Stage) : Prop where
  updates : stage.calls (PortCommand.updateSession session).method = 1
  stored : stage.stored = session.withStatus .complete
  silent : ∀ e, ¬ Escapes o request session e

/-- The calls after the decrement. -/
def Clearing : PortCommand → Prop
  | .registerFile .. | .redisDelete _ | .now => True
  | _ => False

theorem Done.wp {p : Mocked α} (h : Done o request session stage) (hp : p.Issues Clearing) :
    p.wp (mockMachine o) F (fun _ stage' => Done o request session stage') stage := by
  refine hp.wp (fun c stage hc hstage => ?_) h
  obtain ⟨hupdates, hstored, hsilent⟩ := hstage
  cases c with
  | registerFile => exact ⟨hupdates, hstored, hsilent⟩
  | redisDelete => exact ⟨hupdates, hstored, hsilent⟩
  | now => exact ⟨hupdates, hstored, hsilent⟩
  | _ => cases hc

theorem issues_register (s3Path : String) (finalSize : ℤ) :
    (register mockDependencies request session s3Path finalSize).Issues Clearing := by
  refine Program.Issues.bind (Program.issues_perform.mpr trivial) fun uploadedAt => ?_
  refine Program.Issues.bind ?_ fun metadata => Program.issues_perform.mpr trivial
  generalize FileMetadata.new _ = r
  cases r <;> trivial

theorem issues_cleanupChunks (w s : UUID) (manifest : List ChunkMeta) :
    (cleanupChunks mockDependencies w s manifest).Issues Clearing := by
  unfold cleanupChunks
  induction manifest with
  | nil => trivial
  | cons c manifest ih =>
      exact Program.Issues.bind (issues_tryExcept (Program.issues_perform.mpr trivial)
        fun _ => trivial) fun _ => ih

/-- `except Exception` lets through what is no `Exception`. -/
theorem Done.wp_swallow_bind {p : Mocked Unit} {f : Unit → Mocked α}
    {Q : Except Exc α → Stage → Prop} (h : Done o request session stage)
    (hp : p.Issues Clearing)
    (hok : ∀ stage', Done o request session stage' → (f ()).wp (mockMachine o) F Q stage')
    (herror : ∀ e stage', e.isException = false → Done o request session stage' →
      Q (.error e) stage') :
    (tryExcept p Exc.isException (fun _ => pure ()) >>= f).wp (mockMachine o) F Q stage := by
  rw [Program.wp_bind, wp_tryExcept]
  refine Program.wp_mono (h.wp hp) fun r stage' hstage' => ?_
  cases r with
  | ok _ => exact hok stage' hstage'
  | error e => exact ⟨fun _ => hok stage' hstage', fun hexc => herror e stage' hexc hstage'⟩

theorem wp_finish_mocked {s3Path : String} {finalSize : ℤ} (h : Out session stage)
    (hpath : s3Path ≠ "") (hsize : 0 < finalSize) (hstatus : session.status = .inProgress)
    (hoffset : session.offset = session.size) :
    (finish mockDependencies request session s3Path finalSize).wp (mockMachine o) F
      (fun r stage' => match r with
        | .ok _ => Done o request session stage'
        | .error e => Raised o request session e stage') stage := by
  have hmark := UploadSession.markComplete_eq hstatus hoffset
  refine wp_ofExcept_bind (fun session' hsession' => ?_) fun e he => by
    cases hmark.symm.trans he
  cases hmark.symm.trans hsession'
  rw [Program.wp_bind]
  -- if the COMPLETE write fails, the session is stored as it was
  refine wp_updateSession_mocked h.updates (fun hok => ?_) fun e herror => ?_
  rotate_left
  · refine ⟨?_, ?_, .inl (.inl herror)⟩
    · exact congrArg (· + 1) h.updates
    · rw [show (stage.count _).stored = session from h.stored, hstatus]
      decide
  -- behind the decrement everything is swallowed, unless it is no `Exception`
  have hrest : ∀ stage', Done o request session stage' →
      (do
        tryExcept (register mockDependencies request (session.withStatus .complete) s3Path
          finalSize) Exc.isException fun _ => pure ()
        tryExcept (cleanupChunks mockDependencies request.workspaceId request.sessionId
          (session.withStatus .complete).chunkManifest) Exc.isException fun _ => pure ()
        MonadExcept.ofExcept (CompleteUploadResponse.new request.sessionId s3Path finalSize) :
          Mocked CompleteUploadResponse).wp (mockMachine o) F
        (fun r stage' => match r with
          | .ok _ => Done o request session stage'
          | .error e => Raised o request session e stage') stage' := by
    intro stage' hdone
    have hraised : ∀ e stage', e.isException = false → Done o request session stage' →
        Raised o request session e stage' := fun e stage' hexc hstage' =>
      ⟨hstage'.updates, hstage'.stored ▸ (by decide : SessionStatus.complete ≠ .failed),
        .inr ⟨hexc, hstage'.silent⟩⟩
    refine hdone.wp_swallow_bind (issues_register _ _) (fun stage₁ h₁ => ?_) hraised
    refine h₁.wp_swallow_bind (issues_cleanupChunks _ _ _) (fun stage₂ h₂ => ?_) hraised
    have hresponse : CompleteUploadResponse.new request.sessionId s3Path finalSize =
        .ok ⟨request.sessionId, s3Path, finalSize⟩ := by
      simp [CompleteUploadResponse.new, raiseIf, hpath, not_lt.mpr hsize.le, pure, Except.pure,
        bind, Except.bind]
    rw [hresponse]
    exact h₂
  set stage₁ := { stage with stored := session.withStatus .complete }.count
    (.updateSession (session.withStatus .complete)) with hstage₁
  have hupdates : stage₁.calls (PortCommand.updateSession session).method = 1 :=
    congrArg (· + 1) h.updates
  have hreply : o.reply stage₁ (.decrement request.workspaceId) =
      o (.decrement request.workspaceId) 0 :=
    congrArg (o (.decrement request.workspaceId)) (h.decrements request.workspaceId)
  dsimp only
  rw [Program.wp_bind, wp_tryExcept]
  refine wp_mock.mpr ?_
  rw [hreply]
  -- the decrement is caught if it is an `InfrastructureError`
  cases hdecrement : o (.decrement request.workspaceId) 0 with
  | ok _ =>
      refine hrest _ ⟨hupdates, rfl, ?_⟩
      rintro e (herror | ⟨-, herror, -⟩)
      · cases hok.symm.trans herror
      · cases hdecrement.symm.trans herror
  | error e =>
      refine ⟨fun hinfra => hrest _ ⟨hupdates, rfl, ?_⟩, fun hinfra => ?_⟩
      · rintro e' (herror | ⟨-, herror, hnot⟩)
        · cases hok.symm.trans herror
        · cases hdecrement.symm.trans herror
          cases hinfra.symm.trans hnot
      · exact ⟨hupdates, (by decide : SessionStatus.complete ≠ .failed),
          .inl (.inr ⟨hok, hdecrement, hinfra⟩)⟩

/-! ## The whole call -/

/-- Before any call. -/
def opening (session : UploadSession) : Stage := ⟨session, [], fun _ => 0⟩

/-- What a completion does against ports with these outcomes. -/
def complete (o : Outcomes) (request : CompleteUploadRequest) (session : UploadSession) :
    Except Exc CompleteUploadResponse × Stage :=
  (execute mockDependencies request).run (mockMachine o) [] (opening session)

theorem wp_settle_silent {e : Exc} (h : stage.published = []) :
    (settle mockDependencies session e).wp (mockMachine o) F
      (fun _ stage' => Verdict o request session stage') stage := by
  have hverdict : ∀ stage' : Stage, stage'.published = [] → Verdict o request session stage' :=
    fun _ hnone hne => absurd hnone hne
  rw [settle_eq]
  split
  · rw [Program.wp_bind, wp_tryExcept]
    refine wp_updateSession_mocked rfl (fun _ => hverdict _ h) fun e' _ => ?_
    exact ⟨fun _ => hverdict _ h, fun _ => hverdict _ h⟩
  · exact hverdict _ h

theorem wp_execute_mocked :
    (execute mockDependencies request).wp (mockMachine o) F
      (fun _ stage' => Verdict o request session stage') (opening session) := by
  -- before the first command nothing is published
  have hfresh : Fresh session (opening session) := ⟨rfl, rfl, rfl, fun _ => rfl⟩
  have hsilent : ∀ stage' : Stage, stage'.published = [] → Verdict o request session stage' :=
    fun _ hnone hne => absurd hnone hne
  rw [execute, Program.wp_bind]
  refine wp_mock.mpr ?_
  have hread := hfresh.step (.getSession request.workspaceId request.sessionId) trivial
    (o.reply (opening session) (.getSession request.workspaceId request.sessionId))
  have hreply : o.reply (opening session) (.getSession request.workspaceId request.sessionId) =
      (o (.getSession request.workspaceId request.sessionId) 0).map fun _ => some session := rfl
  revert hread
  generalize ((opening session).after _ _).count _ = stage
  intro hread
  rw [hreply]
  cases o (.getSession request.workspaceId request.sessionId) 0 with
  | error e => exact hsilent stage hread.published
  | ok _ =>
      simp only [Except.map]
      rw [Program.wp_tryCatch, body]
      refine wp_ofExcept_bind (fun _ hready => ?_) fun e _ => wp_settle_silent hread.published
      obtain ⟨hstatus, hoffset, -⟩ := validateSession_eq_ok hready
      rw [Program.wp_bind]
      refine Program.wp_mono (wp_assemble_mocked hread) fun r stage₁ h₁ => ?_
      cases r with
      | error e => exact wp_settle_silent h₁
      | ok file =>
          obtain ⟨s3Path, finalSize⟩ := file
          dsimp only
          rw [Program.wp_bind]
          refine Program.wp_mono (wp_publish_mocked h₁) fun r stage₂ h₂ => ?_
          cases r with
          | error e => exact wp_settle_silent h₂
          | ok _ =>
              obtain ⟨hout, hpath, hsize⟩ := h₂
              refine Program.wp_mono (wp_finish_mocked hout hpath hsize hstatus hoffset)
                fun r stage₃ h₃ => ?_
              cases r with
              | error e => exact wp_settle_raised h₃
              | ok _ =>
                  -- nothing raised: the session is COMPLETE, and nothing escaped
                  refine fun _ => ⟨fun _ e hescapes => absurd hescapes (h₃.silent e), fun _ => ?_⟩
                  rw [h₃.stored]
                  exact (by decide : SessionStatus.complete ≠ .failed)

/-- Once the event is out, the stored session does not end FAILED exactly if its writes settle. -/
theorem not_failed_iff_settledWrites (o : Outcomes) (request : CompleteUploadRequest)
    (session : UploadSession) (hpublished : (complete o request session).2.published ≠ []) :
    (complete o request session).2.stored.status ≠ .failed ↔ SettledWrites o request session :=
  Program.run_of_wp (F := fun _ => True) wp_execute_mocked (fun f => nomatch f) hpublished

/-- With ports that never fail the session ends COMPLETE. -/
theorem not_failed_iff_settledWrites_sample :
    (complete Sample.healthy Sample.completion Sample.full).2.published ≠ [] ∧
      ((complete Sample.healthy Sample.completion Sample.full).2.stored.status ≠ .failed ↔
        SettledWrites Sample.healthy Sample.completion Sample.full) :=
  have hpublished : (complete Sample.healthy Sample.completion Sample.full).2.published ≠ [] := by
    decide +kernel
  ⟨hpublished, not_failed_iff_settledWrites _ _ _ hpublished⟩

/-- The write of COMPLETE raises and that of FAILED goes through: the file is published and its
session says FAILED. -/
theorem published_marked_failed :
    ¬ ((complete Sample.failingComplete Sample.completion Sample.full).2.published ≠ [] →
      (complete Sample.failingComplete Sample.completion Sample.full).2.stored.status ≠
        .failed) := by
  decide +kernel

end CompleteUploadUseCase

end RagFileUploader
