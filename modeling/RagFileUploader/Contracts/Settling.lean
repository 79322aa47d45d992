import RagFileUploader.Application.CommitPoint

/-!
# When a completion settles its session

A completion whose session store never fails either returns with the session COMPLETE or raises
with the session FAILED, unless one of its other calls slips through the handlers: the outer
`except` clauses let four domain exceptions pass unmarked, wherever they come from, and one of
them is what `_retrieve_chunks` raises for a chunk that is gone.

* The run is recorded, and a record is `Clean` if none of its calls slipped through.
* `Kept`, `Lost` and `Excused` are the three things that may hold on the way: the session is as it
  was read, or it is not and something has slipped, or an exception is excused that the handlers
  let pass.  Every part of the completion has a `_recorded` rule about them.
* `wp_execute_recorded` assembles the rules, and `settles_iff` reads the record both ways.
-/

namespace RagFileUploader

open Effects

namespace Sample

/-- Every call returns, but no chunk is there any more. -/
def chunkless : Outcomes
  | .redisGet _, _ => .ok none
  | c, n => healthy c n

end Sample

namespace CompleteUploadUseCase

/-- The calls made so far with what they came back with, the last one first. -/
abbrev Record := List ((c : PortCommand) × Except Exc c.Reply)

/-- Outcomes that the handlers let pass without marking the session. -/
def slips : (c : PortCommand) → Except Exc c.Reply → Bool
  -- a missing chunk raises `InvalidSessionStateError`; other exceptions are wrapped
  | .redisGet _, .ok none => true
  | .redisGet _, .error e => e.isInvalidSessionStateError || !e.isException
  | .assembleFile .., .error e => !marks e
  | .checkDuplicate _ _, .error e => !marks e
  | .publish _, .error e => !marks e
  | .decrement _, .error e => !marks e
  -- the session is COMPLETE by now, and `except Exception` logs what goes wrong
  | .registerFile .., .error e => !e.isException
  | .redisDelete _, .error e => !e.isException
  | _, _ => false

/-- The calls of a completion against ports with these outcomes. -/
def calls (o : Outcomes) (request : CompleteUploadRequest) (session : UploadSession) : Record :=
  ((execute mockDependencies request).run (mockMachine o).recording [] (opening session, [])).2.2

/-- The call has returned and the session is COMPLETE, or it has raised and the session is
FAILED. -/
def Settled (outcome : Except Exc CompleteUploadResponse × Stage) : Prop :=
  match outcome.1 with
  | .ok _ => outcome.2.stored.status = .complete
  | .error _ => outcome.2.stored.status = .failed

instance : DecidablePred Settled
  | (.ok _, stage) => inferInstanceAs (Decidable (stage.stored.status = .complete))
  | (.error _, stage) => inferInstanceAs (Decidable (stage.stored.status = .failed))

/-- The session store and the clock never fail. -/
structure Serves (o : Outcomes) : Prop where
  reads : ∀ w s n, ∃ found, o (.getSession w s) n = .ok found
  writes : ∀ session n, o (.updateSession session) n = .ok ()
  clock : ∀ n, ∃ t, o .now n = .ok t

/-! ## Exceptions of the constructors -/

theorem marks_of_isValueError {e : Exc} (h : e.isValueError = true) : marks e = true := by
  cases e with
  | valueError => rfl
  | _ => cases h

theorem isException_of_isValueError {e : Exc} (h : e.isValueError = true) :
    e.isException = true := by
  cases e with
  | valueError => rfl
  | _ => cases h

theorem marks_of_isInfrastructureError {e : Exc} (h : e.isInfrastructureError = true) :
    marks e = true := by
  cases e with
  | infrastructureError => rfl
  | serializationError => rfl
  | _ => cases h

theorem marks_of_not_isException {e : Exc} (h : e.isException = false) : marks e = false := by
  rw [marks, h]
  rfl

/-! ## One call -/

variable {o : Outcomes} {F : Empty → Prop} {request : CompleteUploadRequest}
  {session : UploadSession} {x : Stage × Record} {α : Type}

/-- None of the calls has slipped. -/
def Clean (record : Record) : Prop := ∀ call ∈ record, slips call.1 call.2 = false

theorem clean_cons {c : PortCommand} {r : Except Exc c.Reply} {record : Record} :
    Clean (⟨c, r⟩ :: record) ↔ slips c r = false ∧ Clean record := List.forall_mem_cons

/-- No call has slipped, and the store holds this session. -/
structure Kept (session : UploadSession) (x : Stage × Record) : Prop where
  stored : x.1.stored = session
  clean : Clean x.2

/-- A call has slipped, and the store holds this session. -/
structure Lost (session : UploadSession) (x : Stage × Record) : Prop where
  stored : x.1.stored = session
  slipped : ¬ Clean x.2

/-- What the handlers find when an exception reaches them. -/
structure Excused (e : Exc) (x : Stage × Record) : Prop where
  of_clean : Clean x.2 → marks e = true ∨ x.1.stored.status = .failed
  of_slip : ¬ Clean x.2 → marks e = false ∧ x.1.stored.status ≠ .failed

theorem Kept.excused {e : Exc} (h : Kept session x) (he : marks e = true) : Excused e x :=
  ⟨fun _ => .inl he, fun hslip => absurd h.clean hslip⟩

theorem Lost.excused {e : Exc} (h : Lost session x) (hstatus : session.status ≠ .failed)
    (he : marks e = false) : Excused e x :=
  ⟨fun hclean => absurd hclean h.slipped, fun _ => ⟨he, h.stored ▸ hstatus⟩⟩

/-- The calls of everything but the session store. -/
def Foreign : PortCommand → Prop
  | .getSession _ _ | .updateSession _ => False
  | _ => True

theorem wp_recorded {c : PortCommand} {Q : Except Exc c.Reply → Stage × Record → Prop} :
    (mock c).wp (mockMachine o).recording F Q x ↔
      Q (o.reply x.1 c) ((x.1.after c (o.reply x.1 c)).count c, ⟨c, o.reply x.1 c⟩ :: x.2) :=
  Program.wp_perform.trans (and_iff_left fun f => nomatch f)

/-- A call slips or it does not. -/
theorem Kept.wp_mock {c : PortCommand} {Q : Except Exc c.Reply → Stage × Record → Prop}
    (h : Kept session x) (hc : Foreign c)
    (hQ : ∀ n x', (slips c (o c n) = false → Kept session x') →
      (slips c (o c n) = true → Lost session x') → Q (o c n) x') :
    (mock c).wp (mockMachine o).recording F Q x := by
  have hreply : o.reply x.1 c = o c (x.1.calls c.method) := by
    cases c with
    | getSession => cases hc
    | _ => rfl
  have hstored : ((x.1.after c (o.reply x.1 c)).count c).stored = session := by
    rw [← h.stored]
    cases c with
    | updateSession => cases hc
    | publish event =>
        cases hr : o.reply x.1 (.publish event) <;> rfl
    | _ => rfl
  refine wp_recorded.mpr ?_
  revert hstored
  rw [hreply]
  intro hstored
  refine hQ _ _ (fun hslip => ⟨hstored, clean_cons.mpr ⟨hslip, h.clean⟩⟩) fun hslip =>
    ⟨hstored, fun hclean => ?_⟩
  rw [(clean_cons.mp hclean).1] at hslip
  cases hslip

/-- A call whose exceptions reach the handlers as they are. -/
theorem Kept.wp_mock_bind {c : PortCommand} {f : c.Reply → Mocked α}
    {Q : Except Exc α → Stage × Record → Prop} (h : Kept session x)
    (hstatus : session.status ≠ .failed) (hc : Foreign c)
    (hslips : ∀ a, slips c (.ok a) = false) (hslips' : ∀ e, slips c (.error e) = !marks e)
    (hok : ∀ a x', Kept session x' → (f a).wp (mockMachine o).recording F Q x')
    (herror : ∀ e x', Excused e x' → Q (.error e) x') :
    (mock c >>= f).wp (mockMachine o).recording F Q x := by
  rw [Program.wp_bind]
  refine h.wp_mock hc fun n x' hkept hlost => ?_
  cases hr : o c n with
  | ok a => exact hok a x' (hkept (hr ▸ hslips a))
  | error e =>
      rw [hr, hslips'] at hkept hlost
      cases he : marks e with
      | true => exact herror e x' ((hkept (by rw [he]; rfl)).excused he)
      | false => exact herror e x' ((hlost (by rw [he]; rfl)).excused hstatus he)

/-- A reading of the clock. -/
theorem Kept.wp_now_bind {f : DateTime → Mocked α} {Q : Except Exc α → Stage × Record → Prop}
    (h : Kept session x) (ho : Serves o)
    (hok : ∀ t x', Kept session x' → (f t).wp (mockMachine o).recording F Q x') :
    (mock .now >>= f).wp (mockMachine o).recording F Q x := by
  rw [Program.wp_bind]
  refine h.wp_mock trivial fun n x' hkept _ => ?_
  obtain ⟨t, ht⟩ := ho.clock n
  rw [ht] at hkept ⊢
  exact hok t x' (hkept rfl)

/-- A read of the session store. -/
theorem Kept.wp_getSession_bind {w s : UUID} {f : Option UploadSession → Mocked α}
    {Q : Except Exc α → Stage × Record → Prop} (h : Kept session x) (ho : Serves o)
    (hok : ∀ x', Kept session x' → (f (some session)).wp (mockMachine o).recording F Q x') :
    (mock (.getSession w s) >>= f).wp (mockMachine o).recording F Q x := by
  rw [Program.wp_bind]
  refine wp_recorded.mpr ?_
  have hreply : o.reply x.1 (.getSession w s) = .ok (some session) := by
    obtain ⟨found, hfound⟩ := ho.reads w s (x.1.calls (PortCommand.getSession w s).method)
    rw [Outcomes.reply, hfound, ← h.stored]
    rfl
  rw [hreply]
  exact hok _ ⟨h.stored, clean_cons.mpr ⟨rfl, h.clean⟩⟩

/-- A write to the session store. -/
theorem wp_updateSession_recorded {t : UploadSession} {Q : Except Exc Unit → Stage × Record → Prop}
    (ho : Serves o) (hclean : Clean x.2) (hok : ∀ x', Kept t x' → Q (.ok ()) x') :
    (mock (.updateSession t)).wp (mockMachine o).recording F Q x := by
  refine wp_recorded.mpr ?_
  have hreply : o.reply x.1 (.updateSession t) = .ok () := ho.writes t _
  rw [hreply]
  exact hok _ ⟨rfl, clean_cons.mpr ⟨rfl, hclean⟩⟩

/-- Marking the session FAILED and raising, whatever is raised. -/
theorem Kept.wp_markFailed {e : Exc} {Q : Except Exc α → Stage × Record → Prop}
    (h : Kept session x) (ho : Serves o)
    (hQ : ∀ x', Excused e x' → Q (.error e) x') :
    (mock (.updateSession session.markFailed) >>= fun _ => throw e : Mocked α).wp
      (mockMachine o).recording F Q x := by
  rw [Program.wp_bind]
  refine wp_updateSession_recorded ho h.clean fun x' h' => hQ x' ⟨fun _ => .inr ?_, fun hslip => ?_⟩
  · rw [h'.stored]
    rfl
  · exact absurd h'.clean hslip

/-! ## The steps of a completion -/

/-- A chunk that is there keeps the session as it is; one that is not slips through. -/
theorem wp_retrieveChunk_recorded {w s : UUID} {c : ChunkMeta} (h : Kept session x)
    (hstatus : session.status ≠ .failed) :
    (retrieveChunk mockDependencies w s c).wp (mockMachine o).recording F
      (fun r x' => match r with
        | .ok _ => Kept session x'
        | .error e => Excused e x') x := by
  refine wp_tryExcept.mpr ?_
  rw [Program.wp_bind]
  refine h.wp_mock (c := .redisGet ⟨w, s, c.index⟩) trivial fun n x' hkept hlost => ?_
  cases hr : o (.redisGet ⟨w, s, c.index⟩) n with
  | ok data =>
      rw [hr] at hkept hlost
      cases data with
      | none => exact ⟨fun _ => (hlost rfl).excused hstatus rfl, fun hexc => nomatch hexc⟩
      | some _ => exact hkept rfl
  | error e =>
      rw [hr] at hkept hlost
      refine ⟨fun hexc => ?_, fun hexc => ?_⟩
      · split
        · next hstate =>
            refine (hlost (by simp [slips, hstate])).excused hstatus ?_
            simp [marks, passes, hstate]
        · next hstate => exact (hkept (by simp [slips, hstate, hexc])).excused rfl
      · exact (hlost (by simp [slips, hexc])).excused hstatus (marks_of_not_isException hexc)

theorem wp_retrieveChunks_recorded {w s : UUID} {manifest : List ChunkMeta} (h : Kept session x)
    (hstatus : session.status ≠ .failed) :
    (retrieveChunks mockDependencies w s manifest).wp (mockMachine o).recording F
      (fun r x' => match r with
        | .ok _ => Kept session x'
        | .error e => Excused e x') x := by
  unfold retrieveChunks
  induction sortManifest manifest generalizing x with
  | nil => exact h
  | cons c manifest ih =>
      rw [List.mapM_cons, Program.wp_bind]
      refine Program.wp_mono (wp_retrieveChunk_recorded h hstatus) fun r x₁ h₁ => ?_
      cases r with
      | error e => exact h₁
      | ok data =>
          dsimp only at h₁ ⊢
          rw [Program.wp_bind]
          refine Program.wp_mono (ih h₁) fun r x₂ h₂ => ?_
          cases r <;> exact h₂

theorem wp_assemble_recorded (h : Kept session x) (ho : Serves o)
    (hstatus : session.status ≠ .failed) :
    (assemble mockDependencies request session).wp (mockMachine o).recording F
      (fun r x' => match r with
        | .ok _ => Kept session x'
        | .error e => Excused e x') x := by
  rw [assemble, Program.wp_bind]
  refine Program.wp_mono (wp_retrieveChunks_recorded h hstatus) fun r x₁ h₁ => ?_
  cases r with
  | error e => exact h₁
  | ok chunks =>
      refine Kept.wp_mock_bind h₁ hstatus trivial (fun _ => rfl) (fun _ => rfl)
        (fun file x₂ h₂ => ?_) fun _ _ h₂ => h₂
      refine Kept.wp_mock_bind h₂ hstatus trivial (fun _ => rfl) (fun _ => rfl)
        (fun duplicate x₃ h₃ => ?_) fun _ _ h₃ => h₃
      cases duplicate with
      | none => exact h₃
      | some _ => exact h₃.wp_markFailed ho fun _ h => h

theorem wp_publish_recorded {s3Path : String} {finalSize : ℤ} (h : Kept session x)
    (ho : Serves o) (hstatus : session.status ≠ .failed) :
    (publish mockDependencies request session s3Path finalSize).wp (mockMachine o).recording F
      (fun r x' => match r with
        | .ok _ => Kept session x' ∧ s3Path ≠ "" ∧ 0 < finalSize
        | .error e => Excused e x') x := by
  refine h.wp_now_bind ho fun uploadedAt x₁ h₁ => ?_
  refine h₁.wp_now_bind ho fun timestamp x₂ h₂ => ?_
  refine wp_ofExcept_bind (fun event hevent => ?_) fun e he =>
    h₂.excused (marks_of_isValueError (FileLoadCompletedEvent.raises_new (fun _ => rfl) _ e he))
  rw [wp_tryExcept]
  refine h₂.wp_mock trivial fun n x₃ hkept hlost => ?_
  cases hr : o (.publish event) n with
  | ok _ =>
      rw [hr] at hkept
      have hvalid := event.valid
      rw [FileLoadCompletedEvent.new_eq_ok_iff.mp hevent, EventFields.postInit_eq_ok_iff] at hvalid
      obtain ⟨-, -, -, -, -, -, hsize, -, -, hleading, -⟩ := hvalid
      refine ⟨hkept rfl, ?_, hsize⟩
      rintro rfl
      exact absurd (show "s3://".toList <+: "".toList from hleading) (by decide)
  | error e =>
      rw [hr] at hkept hlost
      refine ⟨fun hinfra => ?_, fun _ => ?_⟩
      · -- the event went to the dead letter queue
        have hmarks := marks_of_isInfrastructureError hinfra
        exact (hkept (by simp [slips, hmarks])).wp_markFailed ho fun _ h => h
      · cases hmarks : marks e with
        | true => exact (hkept (by simp [slips, hmarks])).excused hmarks
        | false => exact (hlost (by simp [slips, hmarks])).excused hstatus hmarks

/-- An exception that `except Exception` does not catch, after COMPLETE has been written. -/
theorem Kept.wp_swallow_bind {p : Mocked Unit} {f : Unit → Mocked α}
    {Q : Except Exc α → Stage × Record → Prop}
    (hp : p.wp (mockMachine o).recording F (fun r x' => match r with
      | .ok _ => Kept session x'
      | .error e => (e.isException = true → Kept session x') ∧
          (e.isException = false → Lost session x')) x)
    (hstatus : session.status ≠ .failed)
    (hok : ∀ x', Kept session x' → (f ()).wp (mockMachine o).recording F Q x')
    (herror : ∀ e x', Excused e x' → Q (.error e) x') :
    (tryExcept p Exc.isException (fun _ => pure ()) >>= f).wp (mockMachine o).recording F Q x := by
  rw [Program.wp_bind, wp_tryExcept]
  refine Program.wp_mono hp fun r x' h' => ?_
  cases r with
  | ok _ => exact hok x' h'
  | error e =>
      exact ⟨fun hexc => hok x' (h'.1 hexc), fun hexc =>
        herror e x' ((h'.2 hexc).excused hstatus (marks_of_not_isException hexc))⟩

theorem wp_register_recorded {s3Path : String} {finalSize : ℤ} (h : Kept session x)
    (ho : Serves o) :
    (register mockDependencies request session s3Path finalSize).wp (mockMachine o).recording F
      (fun r x' => match r with
        | .ok _ => Kept session x'
        | .error e => (e.isException = true → Kept session x') ∧
            (e.isException = false → Lost session x')) x := by
  refine h.wp_now_bind ho fun uploadedAt x₁ h₁ => ?_
  refine wp_ofExcept_bind (fun metadata _ => ?_) fun e he => ⟨fun _ => h₁, fun hexc => ?_⟩
  · refine h₁.wp_mock trivial fun n x₂ hkept hlost => ?_
    cases hr : o (.registerFile request.workspaceId session.sha256Checksum metadata) n with
    | ok _ => exact hkept (by rw [hr]; rfl)
    | error e =>
        rw [hr] at hkept hlost
        exact ⟨fun hexc => hkept (by simp [slips, hexc]), fun hexc => hlost (by simp [slips, hexc])⟩
  · rw [isException_of_isValueError (FileMetadata.raises_new (fun _ => rfl) _ e he)] at hexc
    cases hexc

theorem wp_cleanupChunks_recorded {w s : UUID} {manifest : List ChunkMeta} (h : Kept session x) :
    (cleanupChunks mockDependencies w s manifest).wp (mockMachine o).recording F
      (fun r x' => match r with
        | .ok _ => Kept session x'
        | .error e => (e.isException = true → Kept session x') ∧
            (e.isException = false → Lost session x')) x := by
  unfold cleanupChunks
  induction manifest generalizing x with
  | nil => exact h
  | cons c manifest ih =>
      refine Program.wp_bind.mpr (wp_tryExcept.mpr ?_)
      refine h.wp_mock trivial fun n x' hkept hlost => ?_
      cases hr : o (.redisDelete ⟨w, s, c.index⟩) n with
      | ok _ => exact ih (hkept (by rw [hr]; rfl))
      | error e =>
          rw [hr] at hkept hlost
          refine ⟨fun hexc => ih (hkept (by simp [slips, hexc])), fun hexc => ⟨fun hexc' => ?_,
            fun _ => hlost (by simp [slips, hexc])⟩⟩
          rw [hexc] at hexc'
          cases hexc'

theorem wp_finish_recorded {s3Path : String} {finalSize : ℤ} (h : Kept session x) (ho : Serves o)
    (hpath : s3Path ≠ "") (hsize : 0 < finalSize) (hstatus : session.status = .inProgress)
    (hoffset : session.offset = session.size) :
    (finish mockDependencies request session s3Path finalSize).wp (mockMachine o).recording F
      (fun r x' => match r with
        | .ok _ => Kept (session.withStatus .complete) x'
        | .error e => Excused e x') x := by
  have hmark := UploadSession.markComplete_eq hstatus hoffset
  have hcomplete : (session.withStatus .complete).status ≠ .failed :=
    (by decide : SessionStatus.complete ≠ .failed)
  refine wp_ofExcept_bind (fun session' hsession' => ?_) fun e he => nomatch hmark.symm.trans he
  cases hmark.symm.trans hsession'
  rw [Program.wp_bind]
  refine wp_updateSession_recorded ho h.clean fun x₁ h₁ => ?_
  -- what follows the decrement raises nothing that would mark the session
  have hrest : ∀ x₂, Kept (session.withStatus .complete) x₂ →
      (do
        tryExcept (register mockDependencies request (session.withStatus .complete) s3Path
          finalSize) Exc.isException fun _ => pure ()
        tryExcept (cleanupChunks mockDependencies request.workspaceId request.sessionId
          (session.withStatus .complete).chunkManifest) Exc.isException fun _ => pure ()
        MonadExcept.ofExcept (CompleteUploadResponse.new request.sessionId s3Path finalSize) :
          Mocked CompleteUploadResponse).wp (mockMachine o).recording F
        (fun r x' => match r with
          | .ok _ => Kept (session.withStatus .complete) x'
          | .error e => Excused e x') x₂ := by
    intro x₂ h₂
    refine Kept.wp_swallow_bind (wp_register_recorded h₂ ho) hcomplete (fun x₃ h₃ => ?_)
      fun _ _ h => h
    refine Kept.wp_swallow_bind (wp_cleanupChunks_recorded h₃) hcomplete (fun x₄ h₄ => ?_)
      fun _ _ h => h
    have hresponse : CompleteUploadResponse.new request.sessionId s3Path finalSize =
        .ok ⟨request.sessionId, s3Path, finalSize⟩ := by
      simp [CompleteUploadResponse.new, raiseIf, hpath, not_lt.mpr hsize.le, pure, Except.pure,
        bind, Except.bind]
    rw [hresponse]
    exact h₄
  dsimp only
  rw [Program.wp_bind, wp_tryExcept]
  refine h₁.wp_mock trivial fun n x₂ hkept hlost => ?_
  cases hr : o (.decrement request.workspaceId) n with
  | ok _ => exact hrest x₂ (hkept (by rw [hr]; rfl))
  | error e =>
      rw [hr] at hkept hlost
      refine ⟨fun hinfra => hrest x₂ (hkept ?_), fun _ => ?_⟩
      · simp [slips, marks_of_isInfrastructureError hinfra]
      -- an exception that marks the session would have been recorded as a slip
      · cases hmarks : marks e with
        | true => exact (hkept (by simp [slips, hmarks])).excused hmarks
        | false => exact (hlost (by simp [slips, hmarks])).excused hcomplete hmarks

/-! ## The whole call -/

theorem wp_settle_recorded {e : Exc} (h : Excused e x) (ho : Serves o) :
    (settle mockDependencies session e).wp (mockMachine o).recording F
      (fun r x' => Settled (r, x'.1) ↔ Clean x'.2) x := by
  rw [settle_eq]
  split
  · next hmarks =>
      have hclean : Clean x.2 := by
        by_contra hslip
        rw [(h.of_slip hslip).1] at hmarks
        cases hmarks
      rw [Program.wp_bind, wp_tryExcept]
      refine wp_updateSession_recorded ho hclean fun x' h' => ?_
      refine iff_of_true ?_ h'.clean
      change x'.1.stored.status = .failed
      rw [h'.stored]
      rfl
  · next hmarks =>
      refine ⟨fun hfailed => ?_, fun hclean => (h.of_clean hclean).resolve_left hmarks⟩
      by_contra hslip
      exact (h.of_slip hslip).2 hfailed

theorem wp_execute_recorded (ho : Serves o) (hready : validateSession request session = .ok ()) :
    (execute mockDependencies request).wp (mockMachine o).recording F
      (fun r x' => Settled (r, x'.1) ↔ Clean x'.2) (opening session, []) := by
  obtain ⟨hstatus, hoffset, -⟩ := validateSession_eq_ok hready
  have hlive : session.status ≠ .failed := by
    rw [hstatus]
    decide
  have hopening : Kept session (opening session, []) := ⟨rfl, List.forall_mem_nil _⟩
  refine hopening.wp_getSession_bind ho fun x h => ?_
  rw [Program.wp_tryCatch, body]
  refine wp_ofExcept_bind (fun _ _ => ?_) fun e he => by cases hready.symm.trans he
  rw [Program.wp_bind]
  refine Program.wp_mono (wp_assemble_recorded h ho hlive) fun r x₁ h₁ => ?_
  cases r with
  | error e => exact wp_settle_recorded h₁ ho
  | ok file =>
      dsimp only
      rw [Program.wp_bind]
      refine Program.wp_mono (wp_publish_recorded h₁ ho hlive) fun r x₂ h₂ => ?_
      cases r with
      | error e => exact wp_settle_recorded h₂ ho
      | ok _ =>
          obtain ⟨h₂, hpath, hsize⟩ := h₂
          refine Program.wp_mono (wp_finish_recorded h₂ ho hpath hsize hstatus hoffset)
            fun r x₃ h₃ => ?_
          cases r with
          | error e => exact wp_settle_recorded h₃ ho
          | ok _ =>
              refine iff_of_true ?_ h₃.clean
              change x₃.1.stored.status = .complete
              rw [h₃.stored]
              rfl

/-- A completion of an IN_PROGRESS session that is ready settles it exactly if none of its calls
slips through the handlers. -/
theorem settles_iff (ho : Serves o) (hready : validateSession request session = .ok ()) :
    Settled (complete o request session) ↔
      ∀ call ∈ calls o request session, slips call.1 call.2 = false := by
  have h := Program.run_calm_of_wp (F := fun _ => True) (wp_execute_recorded ho hready)
  obtain ⟨hresult, hstage⟩ := Program.run_recording (mockMachine o)
    (execute mockDependencies request) [] (opening session) []
  rw [hresult, hstage] at h
  exact h

/-- With ports that never fail the session ends COMPLETE. -/
theorem settles_iff_sample :
    Settled (complete Sample.healthy Sample.completion Sample.full) ↔
      ∀ call ∈ calls Sample.healthy Sample.completion Sample.full,
        slips call.1 call.2 = false :=
  settles_iff ⟨fun _ _ _ => ⟨_, rfl⟩, fun _ _ => rfl, fun _ => ⟨_, rfl⟩⟩ (by decide +kernel)

/-- The chunk is gone: the call raises and the session stays IN_PROGRESS. -/
theorem missing_chunk_not_settled :
    Serves Sample.chunkless ∧
      validateSession Sample.completion Sample.full = .ok () ∧
      ¬ Settled (complete Sample.chunkless Sample.completion Sample.full) ∧
      (complete Sample.chunkless Sample.completion Sample.full).2.stored.status = .inProgress :=
  ⟨⟨fun _ _ _ => ⟨_, rfl⟩, fun _ _ => rfl, fun _ => ⟨_, rfl⟩⟩, by decide +kernel, by decide +kernel,
    by decide +kernel⟩

end CompleteUploadUseCase

end RagFileUploader
