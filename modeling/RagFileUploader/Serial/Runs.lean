import RagFileUploader.Serial.CallSpecs
import RagFileUploader.Serial.CompleteSpec

/-!
# Serial runs

`CallOutcome` gathers the outcomes of the four use cases: what a call returns and the world it
leaves, with the faults it met as evidence.  A property of runs is proved by `steps_induction`
from what one call and one tick preserve.
-/

namespace RagFileUploader

open Effects Stores

variable {env : Environment} {settings : Settings} {F : Fault → Prop} {σ σ' : World}

/-! ## One call -/

/-- The outcomes of a call. -/
inductive CallOutcome (env : Environment) (settings : Settings) (F : Fault → Prop) (σ : World) :
    Call → Except Exc Response → World → Prop
  | initiate {request r σ'} (h : InitiateUploadUseCase.Outcome env settings F request σ r σ') :
      CallOutcome env settings F σ (.initiate request) (r.map .initiated) σ'
  | processChunk {request r σ'} (h : ProcessChunkUseCase.Outcome F request σ r σ') :
      CallOutcome env settings F σ (.processChunk request) (r.map .chunkProcessed) σ'
  | complete {request r σ'} (h : CompleteUploadUseCase.Outcome env settings F request σ r σ') :
      CallOutcome env settings F σ (.complete request) (r.map .completed) σ'
  | abort {w s r σ'} (h : AbortUploadUseCase.Outcome F w s σ r σ') :
      CallOutcome env settings F σ (.abort w s) (r.map fun _ => .aborted) σ'

/-- A call ends in one of its outcomes, with its own faults as evidence. -/
theorem call_outcome (hσ : σ.WellStored) (c : Call) (faults : List (Option Fault)) :
    CallOutcome env settings (some · ∈ faults) σ c (Run.call env settings σ c faults).1
      (Run.call env settings σ c faults).2 := by
  suffices h : (c.program settings).wp (serviceMachine env) (some · ∈ faults)
      (CallOutcome env settings (some · ∈ faults) σ c) σ from
    Program.run_of_wp h fun f hf => hf
  cases c with
  | initiate request =>
      exact wp_map (Program.wp_mono (InitiateUploadUseCase.wp_execute request) fun _ _ => .initiate)
  | processChunk request =>
      exact wp_map (Program.wp_mono (ProcessChunkUseCase.wp_execute request (hσ _)) fun _ _ =>
        .processChunk)
  | complete request =>
      exact wp_map (Program.wp_mono (CompleteUploadUseCase.wp_execute request (hσ _)) fun _ _ =>
        .complete)
  | abort w s =>
      exact wp_map (Program.wp_mono (AbortUploadUseCase.wp_execute w s (hσ _)) fun _ _ => .abort)

/-! ## What happens to the stored sessions -/

/-- The ways in which a call changes the session hashes: not at all, by creating a session, by
writing one that it read under the same key, or by deleting one. -/
inductive SessionsChange (env : Environment) (σ σ' : World) : Prop
  | same (h : σ'.sessions = σ.sessions)
  | created (session : UploadSession) (hvalid : session.key.Valid)
      (hid : session.sessionId = env.uuid4 σ.drawn) (hdrawn : σ'.drawn = σ.drawn + 1)
      (h : σ'.sessions = σ.sessions.put session.key
        (RedisSessionStore.serializeSession session) (σ.deadline RedisSessionStore.ttlSeconds))
  | written (w s : UUID) (session session' : UploadSession) (reads : σ.Reads w s session)
      (hkey : session'.key = session.key) (h : σ'.sessions = (σ.putSession session').sessions)
  | erased (key : SessionKey) (h : σ'.sessions = σ.sessions.erase key)

theorem CallOutcome.sessionsChange {c : Call} {r : Except Exc Response}
    (h : CallOutcome env settings F σ c r σ') : SessionsChange env σ σ' := by
  cases h with
  | initiate h =>
      cases h with
      | refused => exact .same rfl
      | rolledBack => exact .same rfl
      | created session _ _ hvalid hnew =>
          have hid : session.sessionId = env.uuid4 σ.drawn :=
            congrArg SessionKey.documentId (InitiateUploadUseCase.newSession_eq_ok hnew).1
          exact .created session hvalid hid rfl rfl
  | processChunk h =>
      cases h with
      | rejected => exact .same rfl
      | stray => exact .same rfl
      | accepted session session' index reads hvalid hrecord =>
          have hkey := ProcessChunkUseCase.key_recordChunk hrecord
            (ProcessChunkUseCase.validate_eq_ok hvalid).1
          exact .written _ _ session session' reads hkey rfl
  | complete h =>
      cases h with
      | notReady => exact .same rfl
      | unpublished e session σ' reads _ _ h =>
          rcases h.sessions with hs | hs
          · exact .same hs
          · exact .written _ _ session session.markFailed reads rfl hs
      | unsettled e session _ σ' reads _ _ _ hs _ =>
          rcases hs with hs | ⟨status, -, hs⟩
          · exact .same hs
          · exact .written _ _ session (session.withStatus status) reads rfl hs
      | completed session chunks σ₁ σ' reads _ hpublished hframe hcompleted =>
          refine .written _ _ session (session.withStatus .complete) reads rfl ?_
          rw [hcompleted.sessions]
          exact CompleteUploadUseCase.sessions_putSession_congr hframe.1 hpublished.clock
  | abort h =>
      cases h with
      | rejected => exact .same rfl
      | marked e session reads => exact .written _ _ session session.markAborted reads rfl rfl
      | removed => exact .erased _ rfl

theorem wellStored_put {session : UploadSession} {deadline : Option ℕ} (hσ : σ.WellStored)
    (hvalid : session.key.Valid)
    (h : σ'.sessions = σ.sessions.put session.key
      (RedisSessionStore.serializeSession session) deadline) : σ'.WellStored := by
  intro key entry hentry
  rw [h] at hentry
  rcases Keyspace.of_put_eq_some hentry with ⟨rfl, rfl⟩ | ⟨-, hold⟩
  · exact ⟨hvalid, session, rfl, rfl⟩
  · exact hσ key entry hold

theorem CallOutcome.wellStored {c : Call} {r : Except Exc Response}
    (h : CallOutcome env settings F σ c r σ') (hσ : σ.WellStored) : σ'.WellStored := by
  cases h.sessionsChange with
  | same h =>
      intro key entry hentry
      exact hσ key entry (h ▸ hentry)
  | created session hvalid _ _ h => exact wellStored_put hσ hvalid h
  | written w s session session' reads hkey h =>
      refine wellStored_put hσ ?_ h
      rw [hkey, reads.key_eq]
      exact reads.valid
  | erased key h =>
      intro key' entry hentry
      rw [h] at hentry
      exact hσ key' entry (Keyspace.of_erase_eq_some hentry).2

/-! ## The ids that have been handed out -/

/-- The generated session ids, in order. -/
def World.ids (σ : World) (env : Environment) : List UUID := (List.range σ.drawn).map env.uuid4

/-- Every stored session has a generated id. -/
def World.Issued (σ : World) (env : Environment) : Prop :=
  ∀ key entry, σ.sessions key = some entry → key.documentId ∈ σ.ids env

theorem CallOutcome.drawn_le {c : Call} {r : Except Exc Response}
    (h : CallOutcome env settings F σ c r σ') : σ.drawn ≤ σ'.drawn := by
  cases h with
  | initiate h =>
      cases h with
      | refused => exact le_rfl
      | rolledBack => exact Nat.le_succ _
      | created => exact Nat.le_succ _
  | processChunk h => cases h <;> exact le_rfl
  | complete h =>
      cases h with
      | notReady => exact le_rfl
      | unpublished _ _ _ _ _ _ h => exact h.drawn.ge
      | unsettled _ _ _ _ _ _ hpublished => exact hpublished.drawn.ge
      | completed _ _ _ _ _ _ hpublished _ hcompleted =>
          exact (hcompleted.drawn.trans hpublished.drawn).ge
  | abort h => cases h <;> exact le_rfl

/-- No time passes in a call. -/
theorem CallOutcome.clock_eq {c : Call} {r : Except Exc Response}
    (h : CallOutcome env settings F σ c r σ') : σ'.clock = σ.clock := by
  cases h with
  | initiate h => cases h <;> rfl
  | processChunk h => cases h <;> rfl
  | complete h =>
      cases h with
      | notReady => rfl
      | unpublished _ _ _ _ _ _ h => exact h.clock
      | unsettled _ _ _ _ _ _ hpublished => exact hpublished.clock
      | completed _ _ _ _ _ _ hpublished _ hcompleted =>
          exact hcompleted.clock.trans hpublished.clock
  | abort h => cases h <;> rfl

theorem ids_sublist (h : σ.drawn ≤ σ'.drawn) : (σ.ids env).Sublist (σ'.ids env) :=
  (List.range_sublist.mpr h).map env.uuid4

/-- A fresh id is new. -/
theorem uuid4_notMem_ids (hnodup : (σ'.ids env).Nodup) (h : σ.drawn < σ'.drawn) :
    env.uuid4 σ.drawn ∉ σ.ids env := by
  have hsub : (σ.ids env ++ [env.uuid4 σ.drawn]).Sublist (σ'.ids env) := by
    have := (List.range_sublist.mpr h).map env.uuid4
    rwa [List.range_succ, List.map_append] at this
  have hdisjoint := List.disjoint_of_nodup_append (hnodup.sublist hsub)
  exact fun hmem => hdisjoint hmem (List.mem_singleton.mpr rfl)

theorem CallOutcome.issued {c : Call} {r : Except Exc Response}
    (h : CallOutcome env settings F σ c r σ') (hσ : σ.Issued env) : σ'.Issued env := by
  have hsub : (σ.ids env).Sublist (σ'.ids env) := ids_sublist h.drawn_le
  intro key entry hentry
  cases h.sessionsChange with
  | same h => exact hsub.subset (hσ key entry (h ▸ hentry))
  | created session _ hid hdrawn h =>
      rw [h] at hentry
      rcases Keyspace.of_put_eq_some hentry with ⟨rfl, -⟩ | ⟨-, hold⟩
      · change session.sessionId ∈ _
        rw [hid, World.ids, List.mem_map]
        exact ⟨σ.drawn, List.mem_range.mpr (by omega), rfl⟩
      · exact hsub.subset (hσ key entry hold)
  | written w s session session' reads hkey' h =>
      by_cases hkey : key = session'.key
      · obtain ⟨d, hread, -⟩ := Keyspace.get?_eq_some_iff.mp reads.stored
        rw [hkey, hkey', reads.key_eq]
        exact hsub.subset (hσ _ _ hread)
      · rw [h] at hentry
        exact hsub.subset (hσ key entry ((Keyspace.overwrite_of_ne hkey).symm.trans hentry))
  | erased key' h =>
      rw [h] at hentry
      exact hsub.subset (hσ key entry (Keyspace.of_erase_eq_some hentry).2)

/-! ## Runs -/

namespace Run

variable {run : Run} {C : Run → Op → Prop} {I : Run → Prop}

@[simp] theorem steps_nil (run : Run) : steps env settings run [] = run := rfl

@[simp] theorem steps_cons (run : Run) (op : Op) (ops : List Op) :
    steps env settings run (op :: ops) = steps env settings (step env settings run op) ops := rfl

/-- Every step of the run satisfies `C` where it is taken. -/
def Within (env : Environment) (settings : Settings) (C : Run → Op → Prop) : Run → List Op → Prop
  | _, [] => True
  | run, op :: ops => C run op ∧ Within env settings C (step env settings run op) ops

theorem within_of_forall {ops : List Op} (h : ∀ op ∈ ops, ∀ run, C run op) (run : Run) :
    Within env settings C run ops := by
  induction ops generalizing run with
  | nil => trivial
  | cons op ops ih =>
      obtain ⟨hop, hops⟩ := List.forall_mem_cons.mp h
      exact ⟨hop run, ih hops _⟩

theorem steps_concat (run : Run) (ops : List Op) (op : Op) :
    steps env settings run (ops ++ [op]) = step env settings (steps env settings run ops) op := by
  simp [steps]

theorem within_concat {op : Op} {ops : List Op} :
    Within env settings C run (ops ++ [op]) ↔
      Within env settings C run ops ∧ C (steps env settings run ops) op := by
  induction ops generalizing run with
  | nil => simp [Within]
  | cons op' ops ih =>
      rw [List.cons_append, Within, Within, ih, steps_cons, and_assoc]

/-- Every run goes through states of which nothing is asked. -/
theorem within_true (run : Run) (ops : List Op) :
    Within env settings (fun _ _ => True) run ops :=
  within_of_forall (fun _ _ _ => trivial) run

/-- What a call and a tick preserve holds after every run. -/
theorem steps_induction
    (hcall : ∀ run c faults r σ', run.world.WellStored → I run → C run (.call c faults) →
      CallOutcome env settings (some · ∈ faults) run.world c r σ' →
      I ⟨σ', ⟨c, r⟩ :: run.history⟩)
    (htick : ∀ run ms, run.world.WellStored → I run → C run (.tick ms) →
      I { run with world := run.world.tick ms })
    (hwell : run.world.WellStored) (hrun : I run) {ops : List Op}
    (hC : Within env settings C run ops) :
    (steps env settings run ops).world.WellStored ∧ I (steps env settings run ops) := by
  induction ops generalizing run with
  | nil => exact ⟨hwell, hrun⟩
  | cons op ops ih =>
      obtain ⟨hop, hops⟩ := hC
      cases op with
      | call c faults =>
          have houtcome : CallOutcome env settings (some · ∈ faults) _ c _ _ :=
            call_outcome hwell c faults
          exact ih (houtcome.wellStored hwell) (hcall run c faults _ _ hwell hrun hop houtcome) hops
      | tick ms => exact ih hwell (htick run ms hwell hrun hop) hops

theorem wellStored_start : start.world.WellStored := fun _ _ h => nomatch h

/-- Stored hashes are well formed in every run. -/
theorem wellStored_steps (ops : List Op) : (steps env settings start ops).world.WellStored :=
  (steps_induction (C := fun _ _ => True) (I := fun _ => True) (fun _ _ _ _ _ _ _ _ _ => trivial)
    (fun _ _ _ _ _ => trivial) wellStored_start trivial
    (within_true _ ops)).1

end Run

end RagFileUploader
