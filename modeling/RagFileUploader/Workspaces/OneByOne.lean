import RagFileUploader.Workspaces.Noninterference
import RagFileUploader.Workspaces.Ownership
import RagFileUploader.Effects.Alone

/-!
# One request after another

Calls of the use cases and offset queries, one after another, for any workspaces and with any
session ids.  Whoever asks for a workspace leaves the others alone, and is answered in a way that
does not depend on them: two runs in which the same is asked for a workspace, at the same times,
and in which the runtime deals the same ids and clock readings to these requests, give the same
answers and leave the workspace with the same data.

* `World.Parted` is the invariant of all worlds on the way: what is stored is sound, and every
  session id has one owner.  `Ask.parted_run` is the step, with the frame for all other workspaces.
* `Ask.lockstep` is the step of the two runs for a request that both of them see, by `InStep.run`.
* `lockstep` is the induction over the first run.  A move that does not concern the workspace is
  passed over in either of them; at a visit the second run is cut at its own (`visits_eq_cons`).
* `Ask.raises_run` excludes `WorkspaceMismatchError`, by `Ask.matching`.
-/

namespace RagFileUploader

open Effects

variable {env env' : Environment} {settings : Settings} {σ σ' : World} {w : UUID}

/-! ## The runs -/

/-- What is asked of the service: a call of a use case, or how far an upload is. -/
inductive Ask where
  | call (c : Call)
  | head (workspaceId uploadId : UUID)
  deriving DecidableEq

/-- What it returns: the response of a use case, or that of the offset query. -/
abbrev Reply := Response ⊕ Except HTTPException HTTPResponse

namespace Ask

def workspaceId : Ask → UUID
  | call c => c.workspaceId
  | head w _ => w

def program (settings : Settings) : Ask → Service Reply
  | call c => .inl <$> c.program settings
  | head w s => .inr <$> QueryUploadOffset.execute (dependencies settings) w s

/-- The answer, and the world that it leaves. -/
def run (env : Environment) (settings : Settings) (a : Ask) (faults : List (Option Fault))
    (σ : World) : Except Exc Reply × World :=
  (a.program settings).run (serviceMachine env) faults σ

end Ask

/-- A step of a run: something is asked, and meets these faults, or time passes. -/
inductive Move where
  | ask (a : Ask) (faults : List (Option Fault))
  | tick (ms : ℕ)

namespace Move

def step (env : Environment) (settings : Settings) (σ : World) : Move → World
  | ask a faults => (a.run env settings faults σ).2
  | tick ms => σ.tick ms

/-- The world that a run leaves. -/
def run (env : Environment) (settings : Settings) (σ : World) (moves : List Move) : World :=
  moves.foldl (step env settings) σ

@[simp] theorem run_nil : run env settings σ [] = σ := rfl

@[simp] theorem run_cons (move : Move) (moves : List Move) :
    run env settings σ (move :: moves) = run env settings (step env settings σ move) moves := rfl

end Move

/-- What the runtime deals to a command: a generated id, or a reading of the clock. -/
def dealt (env : Environment) (σ : World) : Command → Option (UUID ⊕ ℤ)
  | .uuid4 => some (.inl (env.uuid4 σ.drawn))
  | .now => some (.inr (env.wallClock σ.clockReads))
  | _ => none

/-- A request as it came and was answered. -/
structure Visit where
  ask : Ask
  faults : List (Option Fault)
  /-- The time of Redis. -/
  clock : ℕ
  /-- The ids and readings that it was dealt. -/
  dealt : List (UUID ⊕ ℤ)
  answer : Except Exc Reply

/-- What is asked, and what comes of it. -/
def Ask.visit (env : Environment) (settings : Settings) (a : Ask) (faults : List (Option Fault))
    (σ : World) : Visit where
  ask := a
  faults := faults
  clock := σ.clock
  dealt := (a.program settings).dealt (serviceMachine env) (dealt env) faults σ
  answer := (a.run env settings faults σ).1

/-- The visits that a move is for the workspace. -/
def Move.visits (env : Environment) (settings : Settings) (w : UUID) (σ : World) :
    Move → List Visit
  | ask a faults => if a.workspaceId = w then [a.visit env settings faults σ] else []
  | tick _ => []

/-- The requests of a workspace in a run. -/
def visits (env : Environment) (settings : Settings) (w : UUID) : World → List Move → List Visit
  | _, [] => []
  | σ, move :: moves =>
      move.visits env settings w σ ++ visits env settings w (move.step env settings σ) moves

/-- The same is asked at the same time and meets the same faults, and both requests are dealt the
same ids and readings as far as both ask for them. -/
structure Visit.Alike (v v' : Visit) : Prop where
  ask : v.ask = v'.ask
  faults : v.faults = v'.faults
  clock : v.clock = v'.clock
  dealt : Program.SameSoFar v.dealt v'.dealt

/-! ## One request -/

/-- What is stored is sound, and every session id has at most one owner. -/
structure World.Parted (env : Environment) (σ : World) : Prop where
  sound : σ.Sound
  owned : ∃ owner, σ.Owned env owner

theorem World.parted_empty : World.empty.Parted env := ⟨World.sound_empty, _, World.owned_empty⟩

theorem World.Parted.tick (h : σ.Parted env) (ms : ℕ) : (σ.tick ms).Parted env := by
  obtain ⟨owner, howned⟩ := h.owned
  exact ⟨⟨h.sound.keeps, h.sound.legible, h.sound.uploads⟩, owner,
    howned.sessions, howned.metadata, howned.issued⟩

/-- A later world, in which all other workspaces have what they had. -/
structure World.Later (w : UUID) (σ σ' : World) : Prop where
  share : ∀ w', w ≠ w' → σ'.share w' = σ.share w'
  drawn : σ.drawn ≤ σ'.drawn
  nextUpload : σ.nextUpload ≤ σ'.nextUpload

/-- In the middle of a request that began in `σ`.  Who owns what is known only as long as the ids
differ, and that is asked of the end of the run. -/
structure Parting (env : Environment) (w : UUID) (σ : World) (γ : Caller) (σ' : World) : Prop where
  workspace : γ.workspaceId = w
  sound : σ'.Sound
  drawn : σ.drawn ≤ σ'.drawn
  nextUpload : σ.nextUpload ≤ σ'.nextUpload
  separate : (σ'.ids env).Nodup →
    Separate env [w] [γ] σ' ∧ ∀ w', w ≠ w' → σ'.share w' = σ.share w'

theorem World.Sound.attempt {γ : Caller} {c : Command} (h : σ.Sound) (hmay : γ.May c)
    (fault : Option Fault) :
    callerMonitor.replies γ c ((serviceMachine env).attempt fault c σ).1 ∧
      ((serviceMachine env).attempt fault c σ).2.Sound := by
  rcases (serviceMachine env).attempt_cases fault c σ with hact | ⟨_, _, e, -, hfail⟩
  · rw [hact]
    exact ⟨h.keeps.finds c, h.act hmay⟩
  · rw [hfail]
    refine ⟨?_, h⟩
    change c.Finds _ (.error e)
    cases c <;> trivial

theorem Parting.attempt {γ : Caller} {c : Command} (h : Parting env w σ γ σ') (hmay : γ.May c)
    (fault : Option Fault) :
    Parting env w σ (γ.after c ((serviceMachine env).attempt fault c σ').1)
      ((serviceMachine env).attempt fault c σ').2 := by
  rcases (serviceMachine env).attempt_cases fault c σ' with hact | ⟨_, _, e, -, hfail⟩
  · rw [hact]
    refine ⟨(Caller.workspaceId_after γ c _).trans h.workspace, h.sound.act hmay,
      h.drawn.trans c.drawn_act_le, h.nextUpload.trans c.nextUpload_act_le, fun hids => ?_⟩
    obtain ⟨hseparate, hshare⟩ := h.separate (hids.sublist (ids_sublist c.drawn_act_le))
    refine ⟨hseparate.act (i := 0) hids rfl hmay, fun w' hne => ?_⟩
    calc (c.act env σ').2.share w'
        = σ'.share w' := hseparate.share_act (i := 0) rfl hmay (h.workspace ▸ hne)
      _ = σ.share w' := hshare w' hne
  · rw [hfail]
    have hsame : γ.after c (.error e) = γ := by cases c <;> rfl
    rw [hsame]
    exact h

theorem Ask.confined (settings : Settings) (a : Ask) :
    Confined a.workspaceId none (a.program settings) := by
  cases a with
  | call c => exact confined_map (c.confined_program settings)
  | head w s => exact confined_map (confined_of_looks QueryUploadOffset.looks_execute)

/-- A request leaves a world of the same kind; the other workspaces have what they had. -/
theorem Ask.parted_run (h : σ.Parted env) (a : Ask) (faults : List (Option Fault))
    (hids : ((a.run env settings faults σ).2.ids env).Nodup) :
    (a.run env settings faults σ).2.Parted env ∧
      World.Later a.workspaceId σ (a.run env settings faults σ).2 := by
  obtain ⟨owner, howned⟩ := h.owned
  have hknows : ∀ γ ∈ [(⟨a.workspaceId, none⟩ : Caller)], γ.Knows owner := by
    rintro γ hγ s hs
    cases List.mem_singleton.mp hγ
    cases hs
  have hstart : Parting env a.workspaceId σ ⟨a.workspaceId, none⟩ σ :=
    ⟨rfl, h.sound, le_rfl, le_rfl, fun _ => ⟨⟨rfl, h.sound, owner, howned, hknows⟩, fun _ _ => rfl⟩⟩
  obtain ⟨γ, -, hend⟩ := Program.Obeys.run (F := fun _ => True)
    (fun _ _ _ fault hparting hmay _ =>
      ⟨(hparting.sound.attempt hmay fault).1, hparting.attempt hmay fault⟩)
    (a.confined settings) hstart fun f (_ : some f ∈ faults) => trivial
  obtain ⟨hseparate, hshare⟩ := hend.separate hids
  obtain ⟨owner', howned', -⟩ := hseparate.owned
  exact ⟨⟨hend.sound, owner', howned'⟩, hshare, hend.drawn, hend.nextUpload⟩

/-! ## Runs -/

theorem Ask.drawn_run_le (a : Ask) (faults : List (Option Fault)) :
    σ.drawn ≤ (a.run env settings faults σ).2.drawn := by
  refine Program.run_keeps (I := fun σ' : World => σ.drawn ≤ σ'.drawn) (fun σ' c fault h => ?_)
    (a.program settings) le_rfl faults
  rcases (serviceMachine env).attempt_cases fault c σ' with hact | ⟨_, _, e, -, hfail⟩
  · rw [hact]
    exact h.trans c.drawn_act_le
  · rw [hfail]
    exact h

theorem Move.drawn_run_le (moves : List Move) :
    σ.drawn ≤ (run env settings σ moves).drawn := by
  induction moves generalizing σ with
  | nil => exact le_rfl
  | cons move moves ih =>
      have hstep : σ.drawn ≤ (step env settings σ move).drawn := by
        cases move with
        | ask a faults => exact a.drawn_run_le faults
        | tick ms => exact le_rfl
      calc σ.drawn ≤ (step env settings σ move).drawn := hstep
        _ ≤ (run env settings σ (move :: moves)).drawn := ih

theorem Move.parted_step (h : σ.Parted env) (move : Move) {moves : List Move}
    (hids : ((run env settings σ (move :: moves)).ids env).Nodup) :
    (move.step env settings σ).Parted env := by
  cases move with
  | ask a faults =>
      exact (a.parted_run h faults (hids.sublist (ids_sublist (drawn_run_le moves)))).1
  | tick ms => exact h.tick ms

theorem Move.parted_run (h : σ.Parted env) {moves : List Move}
    (hids : ((run env settings σ moves).ids env).Nodup) :
    (run env settings σ moves).Parted env := by
  induction moves generalizing σ with
  | nil => exact h
  | cons move moves ih => exact ih (parted_step h move hids) hids

theorem Move.run_append (moves moves' : List Move) :
    run env settings σ (moves ++ moves') = run env settings (run env settings σ moves) moves' :=
  List.foldl_append

/-- A move without a visit leaves alone what the workspace has. -/
theorem Move.later_of_hidden (h : σ.Parted env) {move : Move} {moves : List Move}
    (hids : ((run env settings σ (move :: moves)).ids env).Nodup)
    (hhidden : move.visits env settings w σ = []) :
    (move.step env settings σ).share w = σ.share w ∧
      σ.nextUpload ≤ (move.step env settings σ).nextUpload := by
  cases move with
  | ask a faults =>
      have hw : a.workspaceId ≠ w := fun heq => by simp [visits, heq] at hhidden
      obtain ⟨-, hlater⟩ := a.parted_run h faults
        (hids.sublist (ids_sublist (drawn_run_le moves)))
      exact ⟨hlater.share w hw, hlater.nextUpload⟩
  | tick ms => exact ⟨rfl, le_rfl⟩

theorem Move.visits_eq_cons {move : Move} {v : Visit} {vs : List Visit}
    (h : move.visits env settings w σ = v :: vs) :
    ∃ a faults, move = .ask a faults ∧ a.workspaceId = w ∧ v = a.visit env settings faults σ ∧
      vs = [] := by
  cases move with
  | ask a faults =>
      rw [visits] at h
      split at h
      · next hw =>
          cases h
          exact ⟨a, faults, rfl, hw, rfl, rfl⟩
      · cases h
  | tick ms => cases h

/-- The first visit of a run. -/
theorem visits_eq_cons {moves : List Move} {v : Visit} {vs : List Visit}
    (h : visits env settings w σ moves = v :: vs) :
    ∃ before a faults after, moves = before ++ .ask a faults :: after ∧
      visits env settings w σ before = [] ∧ a.workspaceId = w ∧
      v = a.visit env settings faults (Move.run env settings σ before) ∧
      visits env settings w (a.run env settings faults (Move.run env settings σ before)).2 after =
        vs := by
  induction moves generalizing σ with
  | nil => cases h
  | cons move moves ih =>
      rw [visits] at h
      cases hmove : move.visits env settings w σ with
      | nil =>
          rw [hmove] at h
          obtain ⟨before, a, faults, after, rfl, hbefore, hw, hv, hvs⟩ := ih h
          refine ⟨move :: before, a, faults, after, rfl, ?_, hw, hv, hvs⟩
          rw [visits, hmove, hbefore]
          rfl
      | cons v' rest =>
          obtain ⟨a, faults, rfl, hw, rfl, rfl⟩ := Move.visits_eq_cons hmove
          rw [hmove] at h
          obtain ⟨rfl, hvs⟩ := List.cons.inj h
          exact ⟨[], a, faults, moves, rfl, rfl, hw, rfl, hvs⟩

/-- A run without visits. -/
theorem Agree.run_hidden {γ : Set (UploadId × UploadId)} (h : Agree w γ σ σ')
    (hparted : σ'.Parted env') {moves : List Move}
    (hids : ((Move.run env' settings σ' moves).ids env').Nodup)
    (hhidden : visits env' settings w σ' moves = []) :
    Agree w γ σ (Move.run env' settings σ' moves) := by
  induction moves generalizing σ' with
  | nil => exact h
  | cons move moves ih =>
      obtain ⟨hmove, hmoves⟩ := List.append_eq_nil_iff.mp hhidden
      obtain ⟨hshare, hnext⟩ := Move.later_of_hidden hparted hids hmove
      exact ih (h.of_share rfl hshare le_rfl hnext) (Move.parted_step hparted move hids) hids hmoves

/-! ## Two runs -/

theorem Ask.mirrored (settings : Settings) (a : Ask) (γ : Set (UploadId × UploadId)) :
    Mirrored a.workspaceId γ (a.program settings) := by
  cases a with
  | call c => exact c.mirrored_program.map
  | head w s => exact QueryUploadOffset.mirrored_execute.map

theorem isSome_dealt {γ : Set (UploadId × UploadId)} {c c' : Command} (h : Same γ c c') :
    (dealt env σ c).isSome = (dealt env' σ' c').isSome := by
  cases h with
  | plain => cases c <;> rfl
  | uploadPart | completeMultipartUpload | abortMultipartUpload => rfl

theorem sight_eq {γ : Set (UploadId × UploadId)} {c c' : Command} (h : Same γ c c')
    (hclock : σ.clock = σ'.clock) (hdealt : dealt env σ c = dealt env' σ' c') :
    sight env σ c = sight env' σ' c' := by
  cases h with
  | plain =>
      cases c with
      | uuid4 =>
          have hid : env.uuid4 σ.drawn = env'.uuid4 σ'.drawn :=
            Sum.inl_injective (Option.some_injective _ hdealt)
          simp only [sight, hclock, hid]
      | now =>
          have hreading : env.wallClock σ.clockReads = env'.wallClock σ'.clockReads :=
            Sum.inr_injective (Option.some_injective _ hdealt)
          simp only [sight, hclock, hreading]
      | _ => simp only [sight, hclock]
  | uploadPart | completeMultipartUpload | abortMultipartUpload => simp only [sight, hclock]

/-- What holds in the middle of one request, in both runs. -/
structure Both (w : UUID) (γ : Set (UploadId × UploadId)) (κ κ' : Caller) (σ σ' : World) :
    Prop where
  workspace : κ.workspaceId = w
  workspace' : κ'.workspaceId = w
  sound : σ.Sound
  sound' : σ'.Sound
  clock : σ.clock = σ'.clock
  agree : Agree w γ σ σ'

theorem clock_attempt (c : Command) (fault : Option Fault) :
    ((serviceMachine env).attempt fault c σ).2.clock = σ.clock := by
  rcases (serviceMachine env).attempt_cases fault c σ with hact | ⟨_, _, e, -, hfail⟩
  · rw [hact]
    exact c.clock_act
  · rw [hfail]

theorem Both.attempt {γ : Set (UploadId × UploadId)} {κ κ' : Caller} {c c' : Command}
    (h : Both w γ κ κ' σ σ') (hmay : κ.May c) (hmay' : κ'.May c') (hsame : Same γ c c')
    (hdealt : dealt env σ c = dealt env' σ' c') (fault : Option Fault) :
    ∃ γ', γ ⊆ γ' ∧
      Alike w γ' c c' ((serviceMachine env).attempt fault c σ).1
        ((serviceMachine env').attempt fault c' σ').1 ∧
      Both w γ' (κ.after c ((serviceMachine env).attempt fault c σ).1)
        (κ'.after c' ((serviceMachine env').attempt fault c' σ').1)
        ((serviceMachine env).attempt fault c σ).2
        ((serviceMachine env').attempt fault c' σ').2 := by
  have hw : ∀ w' ∈ c.workspace?, w' = w := fun w' hw' =>
    (hmay.workspace w' hw').trans h.workspace
  obtain ⟨γ', hle, halike, hagree⟩ :=
    h.agree.attempt hsame hw (sight_eq hsame h.clock hdealt) fault
  refine ⟨γ', hle, halike, (Caller.workspaceId_after κ c _).trans h.workspace,
    (Caller.workspaceId_after κ' c' _).trans h.workspace', (h.sound.attempt hmay fault).2,
    (h.sound'.attempt hmay' fault).2, ?_, hagree⟩
  rw [clock_attempt, clock_attempt, h.clock]

/-- A request that both runs see is answered in the same way. -/
theorem Ask.lockstep {γ : Set (UploadId × UploadId)} {a : Ask} {faults : List (Option Fault)}
    (h : Agree a.workspaceId γ σ σ') (hparted : σ.Parted env) (hparted' : σ'.Parted env')
    (halike : (a.visit env settings faults σ).Alike (a.visit env' settings faults σ')) :
    (a.run env settings faults σ).1 = (a.run env' settings faults σ').1 ∧
      ∃ γ', Agree a.workspaceId γ' (a.run env settings faults σ).2
        (a.run env' settings faults σ').2 := by
  have hdealt : Program.SameSoFar
      ((a.program settings).dealt (serviceMachine env) (dealt env) faults σ)
      ((a.program settings).dealt (serviceMachine env') (dealt env') faults σ') := halike.dealt
  obtain ⟨γ', κ, κ', hanswer, hboth⟩ := Program.InStep.run
    (I := fun γ κ κ' σ σ' => Both a.workspaceId γ κ κ' σ σ')
    (fun γ c c' σ σ' hsame => isSome_dealt hsame)
    (fun γ κ κ' σ σ' c c' fault hboth hmay hmay' hsame hdealt => by
      obtain ⟨γ', hle, halike, hnext⟩ := hboth.attempt hmay hmay' hsame hdealt fault
      exact ⟨(hboth.sound.attempt hmay fault).1, (hboth.sound'.attempt hmay' fault).1, γ', hle,
        halike, hnext⟩)
    (a.mirrored settings γ) (a.confined settings) (a.confined settings)
    ⟨rfl, rfl, hparted.sound, hparted'.sound, halike.clock, h⟩ hdealt
  exact ⟨hanswer, γ', hboth.agree⟩

/-- Two runs that look the same to a workspace. -/
theorem lockstep {γ : Set (UploadId × UploadId)} {moves moves' : List Move}
    (h : Agree w γ σ σ') (hparted : σ.Parted env) (hparted' : σ'.Parted env')
    (hids : ((Move.run env settings σ moves).ids env).Nodup)
    (hids' : ((Move.run env' settings σ' moves').ids env').Nodup)
    (halike : List.Forall₂ Visit.Alike (visits env settings w σ moves)
      (visits env' settings w σ' moves')) :
    (visits env settings w σ moves).map Visit.answer =
        (visits env' settings w σ' moves').map Visit.answer ∧
      ∃ γ', Agree w γ' (Move.run env settings σ moves) (Move.run env' settings σ' moves') := by
  induction moves generalizing σ σ' γ moves' with
  | nil =>
      have hnone : visits env' settings w σ' moves' = [] := List.forall₂_nil_left_iff.mp halike
      exact ⟨by rw [hnone]; rfl, γ, h.run_hidden hparted' hids' hnone⟩
  | cons move moves ih =>
      have hnext := Move.parted_step hparted move hids
      cases hmove : move.visits env settings w σ with
      | nil =>
          -- the first run goes on, the second one waits
          obtain ⟨hshare, hle⟩ := Move.later_of_hidden hparted hids hmove
          rw [visits, hmove, List.nil_append] at halike ⊢
          exact ih (h.of_share hshare rfl hle le_rfl) hnext hparted' hids hids' halike
      | cons v vs =>
          obtain ⟨a, faults, rfl, rfl, rfl, rfl⟩ := Move.visits_eq_cons hmove
          rw [visits, hmove] at halike ⊢
          obtain ⟨v', vs', halike, hrest, hvisits⟩ := List.forall₂_cons_left_iff.mp halike
          -- the second run catches up before both answer
          obtain ⟨before, a', faults', after, rfl, hbefore, hw, rfl, hafter⟩ :=
            visits_eq_cons hvisits
          obtain rfl : a = a' := halike.ask
          obtain rfl : faults = faults' := halike.faults
          rw [Move.run_append] at hids' ⊢
          have hids₁ : ((Move.run env' settings σ' before).ids env').Nodup :=
            hids'.sublist (ids_sublist (Move.drawn_run_le _))
          have hparted₁ := Move.parted_run hparted' hids₁
          obtain ⟨hanswer, γ', hagree⟩ :=
            Ask.lockstep (h.run_hidden hparted' hids₁ hbefore) hparted hparted₁ halike
          rw [← hafter] at hrest
          obtain ⟨hanswers, hend⟩ :=
            ih hagree hnext (Move.parted_step hparted₁ (.ask a faults) hids') hids hids' hrest
          refine ⟨?_, hend⟩
          rw [hvisits, ← hafter]
          exact congrArg₂ List.cons hanswer hanswers

/-! ## Ownership -/

/-- The clients of Redis and S3 do not raise the service's exception for a failed check. -/
def Visit.Foreign (v : Visit) : Prop :=
  ∀ fault ∈ v.faults, ∀ f ∈ fault, f.exn.isNoMismatch = true

theorem Ask.matching (settings : Settings) (a : Ask) : Matching (a.program settings) := by
  cases a with
  | call c => exact c.matching_program.map
  | head w s => exact QueryUploadOffset.matching_execute.map

/-- What a command may be told as long as the clients behave. -/
theorem World.Sound.replies_foreign {γ : Caller} {c : Command} (h : σ.Sound) (hmay : γ.May c)
    {fault : Option Fault} (hfault : ∀ f ∈ fault, f.exn.isNoMismatch = true) :
    ownershipMonitor.replies () c ((serviceMachine env).attempt fault c σ).1 := by
  refine ⟨?_, (h.attempt hmay fault).1⟩
  rcases (serviceMachine env).attempt_cases fault c σ with hact | ⟨f, hf, e, hhits, hfail⟩
  · rw [hact]
    exact c.raises_act
  · rw [hfail]
    exact raises_error (Fault.exn_of_hits hhits ▸ hfault f hf)

/-- No request finds a session of another workspace. -/
theorem Ask.raises_run (h : σ.Parted env) (a : Ask) {faults : List (Option Fault)}
    (hfaults : ∀ f, some f ∈ faults → f.exn.isNoMismatch = true) :
    Raises Exc.isNoMismatch (a.run env settings faults σ).1 := by
  -- confinement keeps the store sound, and ownership then bounds what is raised
  have hboth := (a.confined settings).both (a.matching settings)
  obtain ⟨_, ⟨-, hanswer⟩, -⟩ := Program.Obeys.run (M := serviceMachine env)
    (I := fun _ σ => σ.Sound)
    (fun κ σ c fault hsound hmay hfault => by
      exact ⟨⟨(hsound.attempt hmay.1 fault).1, hsound.replies_foreign hmay.1 hfault⟩,
        (hsound.attempt hmay.1 fault).2⟩)
    hboth h.sound hfaults
  exact hanswer

/-! ## Workspaces -/

/-- Where a request is in a run. -/
theorem exists_of_mem_visits {moves : List Move} {v : Visit}
    (h : v ∈ visits env settings w σ moves) :
    ∃ before a faults after, moves = before ++ .ask a faults :: after ∧
      v = a.visit env settings faults (Move.run env settings σ before) := by
  induction moves generalizing σ with
  | nil => cases h
  | cons move moves ih =>
      rcases List.mem_append.mp h with hmove | hmoves
      · cases move with
        | tick ms => cases hmove
        | ask a faults =>
            rw [Move.visits] at hmove
            split at hmove
            · exact ⟨[], a, faults, moves, rfl, List.mem_singleton.mp hmove⟩
            · cases hmove
      · obtain ⟨before, a, faults, after, rfl, hv⟩ := ih hmoves
        exact ⟨move :: before, a, faults, after, rfl, hv⟩

/-- The world in which a request of a run begins, and what becomes of it. -/
theorem Move.parted_before {before after : List Move} {a : Ask} {faults : List (Option Fault)}
    (h : σ.Parted env)
    (hids : ((run env settings σ (before ++ .ask a faults :: after)).ids env).Nodup) :
    (run env settings σ before).Parted env ∧
      World.Later a.workspaceId (run env settings σ before)
        (a.run env settings faults (run env settings σ before)).2 := by
  rw [run_append] at hids
  have hparted := parted_run h (hids.sublist (ids_sublist (drawn_run_le _)))
  exact ⟨hparted, (a.parted_run hparted faults (hids.sublist (ids_sublist (drawn_run_le _)))).2⟩

/-- In a run from the empty store, a request for a workspace leaves alone what the others have.  In
another such run that looks the same to the workspace, its requests are answered as in the first,
and it is left with the same data.  No request finds a session of another workspace. -/
theorem workspaces_noninterfering (env : Environment) (settings : Settings) (w : UUID)
    {moves : List Move} (hids : ((Move.run env settings .empty moves).ids env).Nodup) :
    (∀ before a faults after, moves = before ++ .ask a faults :: after →
      ∀ w', a.workspaceId ≠ w' →
        (a.run env settings faults (Move.run env settings .empty before)).2.share w' =
          (Move.run env settings .empty before).share w') ∧
    (∀ env' moves', ((Move.run env' settings .empty moves').ids env').Nodup →
      List.Forall₂ Visit.Alike (visits env settings w .empty moves)
        (visits env' settings w .empty moves') →
      (visits env settings w .empty moves).map Visit.answer =
          (visits env' settings w .empty moves').map Visit.answer ∧
        ((Move.run env settings .empty moves).share w).named =
          ((Move.run env' settings .empty moves').share w).named) ∧
    ∀ v ∈ visits env settings w .empty moves, v.Foreign → Raises Exc.isNoMismatch v.answer := by
  refine ⟨?_, fun env' moves' hids' halike => ?_, fun v hv hforeign => ?_⟩
  · rintro before a faults after rfl w' hne
    exact (Move.parted_before World.parted_empty hids).2.share w' hne
  · obtain ⟨hanswers, γ, hagree⟩ :=
      lockstep (agree_empty w) World.parted_empty World.parted_empty hids hids' halike
    exact ⟨hanswers, hagree.named⟩
  · obtain ⟨before, a, faults, after, rfl, rfl⟩ := exists_of_mem_visits hv
    exact a.raises_run (Move.parted_before World.parted_empty hids).1 fun f hf =>
      hforeign (some f) hf f rfl

namespace Sample

/-- The upload is there. -/
def begun : World :=
  Move.run environment Sample.settings .empty [.ask (.call (.initiate upload)) []]

/-- An upload whose first chunk needs a second try. -/
def ownMoves : List Move :=
  [.ask (.call (.processChunk chunk)) [none, outage .chunks], .tick 1000,
    .ask (.call (.processChunk chunk)) [], .ask (.head workspace session) [],
    .ask (.call (.complete completion)) []]

/-- Someone else tries to abort the upload. -/
def meddling : List Move :=
  .ask (.call (.initiate upload)) [] :: .ask (.call (.abort ⟨2⟩ session)) [] :: ownMoves

/-- Someone else starts an upload, too. -/
def minding : List Move :=
  .ask (.call (.initiate upload)) [] :: .ask (.call (.initiate upload')) [] :: ownMoves

/-- The second reading is the other's. -/
def environment' : Environment where
  uuid4 := environment.uuid4
  wallClock := fun n => environment.wallClock (n - 1)

end Sample

instance (v v' : Visit) : Decidable (v.Alike v') :=
  decidable_of_iff (v.ask = v'.ask ∧ v.faults = v'.faults ∧ v.clock = v'.clock ∧
      (v.dealt <+: v'.dealt ∨ v'.dealt <+: v.dealt))
    ⟨fun h => ⟨h.1, h.2.1, h.2.2.1, h.2.2.2⟩, fun h => ⟨h.ask, h.faults, h.clock, h.dealt⟩⟩

instance (v : Visit) : Decidable v.Foreign :=
  inferInstanceAs (Decidable (∀ fault ∈ v.faults, ∀ f ∈ fault, f.exn.isNoMismatch = true))

/-- The upload goes the same way, and the abort leaves it alone. -/
theorem workspaces_noninterfering_sample :
    (Ask.run Sample.environment Sample.settings (.call (.abort ⟨2⟩ Sample.session)) []
        Sample.begun).2.share Sample.workspace = Sample.begun.share Sample.workspace ∧
    (visits Sample.environment Sample.settings Sample.workspace .empty Sample.meddling).map
        Visit.answer =
      (visits Sample.environment' Sample.settings Sample.workspace .empty Sample.minding).map
        Visit.answer ∧
    ((Move.run Sample.environment Sample.settings .empty Sample.meddling).share
        Sample.workspace).named =
      ((Move.run Sample.environment' Sample.settings .empty Sample.minding).share
        Sample.workspace).named ∧
    ∀ v ∈ visits Sample.environment Sample.settings Sample.workspace .empty Sample.meddling,
      Raises Exc.isNoMismatch v.answer := by
  have hids : ((Move.run Sample.environment Sample.settings .empty Sample.meddling).ids
      Sample.environment).Nodup := by decide +kernel
  obtain ⟨halone, hsame, howned⟩ :=
    workspaces_noninterfering Sample.environment Sample.settings Sample.workspace hids
  obtain ⟨hanswers, hshare⟩ := hsame Sample.environment' Sample.minding (by decide +kernel)
    (by decide +kernel)
  refine ⟨?_, hanswers, hshare, fun v hv => howned v hv ?_⟩
  · exact halone [.ask (.call (.initiate Sample.upload)) []] _ [] Sample.ownMoves rfl
      Sample.workspace (by decide)
  · revert v
    decide +kernel

end RagFileUploader
