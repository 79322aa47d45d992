import RagFileUploader.Concurrent.Limiter
import RagFileUploader.Stores.Clamped

/-!
# Clamping and admissions

A decrement that takes the counter below zero sets it to zero with a command of its own.  Increments
that come in between are overwritten.  Whether the counter ends where some order of the calls would
leave it depends on what the clamping writes overwrite: negative counts are owed to the decrements,
positive ones to the admissions that are lost.

* `ClampState.balance` keeps the books: the counter and what was overwritten make up the steps so
  far, and `ClampState.step` keeps it, by the phase of the call.
* When all calls have returned no clamping write is due (`not_clampDue`), and `order_iff_of_watched`
  compares the counter with the final values that an order of the calls can have.
-/

namespace RagFileUploader

open Effects Stores

variable {env : Environment} {settings : Settings} {w : UUID} {σ σ' : World}
  {γs : List LimiterPhase} {calls : List LimiterCall} {journal : List (ℕ × Command)} {c₀ limit : ℤ}

/-! ## What the clamping writes overwrite -/

/-- The counter of the workspace after the commands of a journal, if it was `c₀` before. -/
def counterAfter (w : UUID) (c₀ : ℤ) : List (ℕ × Command) → ℤ
  | [] => c₀
  | (_, .hincrbyCounter w' amount) :: journal =>
      counterAfter w c₀ journal + if w' = w then amount else 0
  | (_, .hsetCounter w' value) :: journal => if w' = w then value else counterAfter w c₀ journal
  | _ :: journal => counterAfter w c₀ journal

/-- The counts that the HSETs of a journal have found and overwritten, summed up. -/
def overwritten (w : UUID) (c₀ : ℤ) : List (ℕ × Command) → ℤ
  | [] => 0
  | (_, .hsetCounter w' _) :: journal =>
      (if w' = w then counterAfter w c₀ journal else 0) + overwritten w c₀ journal
  | _ :: journal => overwritten w c₀ journal

theorem overwritten_hincrby {i : ℕ} {w' : UUID} {amount : ℤ} :
    overwritten w c₀ ((i, .hincrbyCounter w' amount) :: journal) = overwritten w c₀ journal := rfl

/-! ## Calls that have returned -/

/-- The thread is done and has returned. -/
def Returned {α : Type} : Service α → Bool
  | .done (.ok _) => true
  | _ => false

/-- How many of these calls have returned. -/
def returns (call : LimiterCall) (calls : List LimiterCall)
    (p : Pool serviceSignature World (Option ℤ)) : ℕ :=
  (calls.zip p.threads).countP fun (c, thread) => c = call ∧ Returned thread

/-- How many phases are these. -/
def phases (phase : LimiterPhase) (γs : List LimiterPhase) : ℕ :=
  (γs.map fun γ => if γ = phase then 1 else 0).sum

theorem phases_set {i : ℕ} {γ : LimiterPhase} (hγ : γs[i]? = some γ) (phase γ' : LimiterPhase) :
    phases phase (γs.set i γ') + (if γ = phase then 1 else 0) =
      phases phase γs + if γ' = phase then 1 else 0 :=
  Pool.sum_map_set (fun γ => if γ = phase then 1 else 0) hγ γ'

/-- The calls that have returned are those that have come through. -/
theorem returns_eq_phases {threads : List (Service (Option ℤ))} (call : LimiterCall)
    (h : List.Forall₂ (fun program γ =>
      program.Obeys (limiterMonitor settings w) LimiterPhase.Ended γ) threads γs)
    (hdone : ∀ thread ∈ threads, thread.command? = none) :
    returns call (γs.map LimiterPhase.call) ⟨σ, threads, journal⟩ =
      phases (.through call) γs := by
  unfold returns phases
  induction h with
  | nil => rfl
  | @cons program γ threads γs hobeys _ ih =>
      obtain ⟨hthread, hrest⟩ := List.forall_mem_cons.mp hdone
      obtain ⟨r, rfl⟩ := Program.command?_eq_none.mp hthread
      have hone : (γ.call = call ∧ Returned (.done r : Service (Option ℤ)) = true) ↔
          γ = .through call := by
        have hended : LimiterPhase.Ended r γ := hobeys
        cases r with
        | ok a =>
            have hthrough : γ = .through γ.call := hended
            constructor
            · rintro ⟨rfl, -⟩
              exact hthrough
            · rintro rfl
              exact ⟨rfl, rfl⟩
        | error e =>
            constructor
            · rintro ⟨-, hreturned⟩
              cases hreturned
            · rintro rfl
              rcases hended with h | h <;> cases h
      have := ih hrest
      simp only [List.map_cons, List.zip_cons_cons, List.countP_cons, List.sum_cons,
        decide_eq_true_eq] at this ⊢
      rw [this, Nat.add_comm]
      by_cases hγ : γ = .through call
      · rw [if_pos (hone.mpr hγ), if_pos hγ]
      · rw [if_neg (mt hone.mp hγ), if_neg hγ]

/-! ## The invariant -/

/-- A clamping write is due. -/
def ClampDue (γs : List LimiterPhase) : Prop :=
  ∃ (j : ℕ) (call : LimiterCall), γs[j]? = some (.clamping call)

/-- The steps of the calls so far, and the clamping writes in between, make up the counter; it is
not above what the steps alone would allow, and where it is below zero a clamping write is due. -/
structure ClampState (w : UUID) (c₀ : ℤ) (calls : List LimiterCall) (γs : List LimiterPhase)
    (σ : World) (journal : List (ℕ × Command)) : Prop where
  calls : γs.map LimiterPhase.call = calls
  counter : σ.counter w = counterAfter w c₀ journal
  balance : σ.counter w + overwritten w c₀ journal =
    c₀ + phases (.through .checkAndIncrement) γs -
      (phases (.clamping .decrement) γs + phases (.through .decrement) γs)
  upper : σ.counter w ≤
    max 0 (c₀ - (phases (.clamping .decrement) γs + phases (.through .decrement) γs)) +
      phases (.through .checkAndIncrement) γs
  negative : σ.counter w < 0 → ClampDue γs
  clamps : ∀ γ ∈ γs, ∀ call, γ = .clamping call → call = .decrement

theorem phases_start (calls : List LimiterCall) (phase : LimiterPhase)
    (hphase : ∀ call, phase ≠ .start call) : phases phase (calls.map .start) = 0 := by
  unfold phases
  induction calls with
  | nil => rfl
  | cons c calls ih => simpa [Ne.symm (hphase c)] using ih

theorem ClampState.start (hstart : 0 ≤ σ.counter w) :
    ClampState w (σ.counter w) calls (calls.map .start) σ [] := by
  refine ⟨?_, rfl, ?_, ?_, fun h => by omega, fun γ hγ call heq => ?_⟩
  · simp [Function.comp_def, LimiterPhase.call]
  · rw [phases_start _ (.through _) nofun, phases_start _ (.clamping _) nofun,
      phases_start _ (.through _) nofun]
    simp [overwritten]
  · rw [phases_start _ (.through _) nofun, phases_start _ (.clamping _) nofun,
      phases_start _ (.through _) nofun]
    omega
  · obtain ⟨c, -, rfl⟩ := List.mem_map.mp hγ
    cases heq

/-- A call that is not clamping moves on, and a clamping write that is due stays so. -/
theorem ClampDue.set {i : ℕ} {γ : LimiterPhase} (h : ClampDue γs) (hγ : γs[i]? = some γ)
    (γ' : LimiterPhase) (hother : ∀ call, γ ≠ .clamping call) : ClampDue (γs.set i γ') := by
  obtain ⟨j, call, hj⟩ := h
  have hij : i ≠ j := by
    rintro rfl
    exact hother call (Option.some.inj (hγ.symm.trans hj))
  exact ⟨j, call, (List.getElem?_set_ne hij).trans hj⟩

theorem ClampState.step (h : ClampState w c₀ calls γs σ journal)
    (hcalls : ∀ call ∈ calls, call = .checkAndIncrement ∨ call = .decrement) {i : ℕ} {c : Command}
    {γ γ' : LimiterPhase} (hγ : γs[i]? = some γ) (hstep : LimiterStep limit w σ γ c γ' σ') :
    ClampState w c₀ calls (γs.set i γ') σ' ((i, c) :: journal) := by
  obtain ⟨hlt, hget⟩ := List.getElem?_eq_some_iff.mp hγ
  have hknown : γ.call = .checkAndIncrement ∨ γ.call = .decrement := by
    refine hcalls _ ?_
    rw [← h.calls]
    exact List.mem_map_of_mem (List.mem_of_getElem? hγ)
  have hsame : γ'.call = γ.call → (γs.set i γ').map LimiterPhase.call = calls := by
    intro hcall
    rw [List.map_set, hcall, ← hget, ← List.getElem_map LimiterPhase.call, List.set_getElem_self,
      h.calls]
    simpa using hlt
  -- only decrements clamp
  have hclamps : (∀ call, γ' = .clamping call → call = .decrement) →
      ∀ γ'' ∈ γs.set i γ', ∀ call, γ'' = .clamping call → call = .decrement := by
    intro hnew γ'' hmem
    rcases List.mem_or_eq_of_mem_set hmem with hmem | rfl
    · exact h.clamps γ'' hmem
    · exact hnew
  -- how the number of calls in each phase changes
  have hT := phases_set hγ (.through .checkAndIncrement) γ'
  have hC := phases_set hγ (.clamping .decrement) γ'
  have hD := phases_set hγ (.through .decrement) γ'
  have hcounter := h.counter
  have hbalance := h.balance
  have hupper := h.upper
  cases hstep with
  | enter _ =>
      simp only [reduceCtorEq, if_false, Nat.add_zero] at hT hC hD
      refine ⟨hsame rfl, hcounter, ?_, ?_, fun hneg => (h.negative hneg).set hγ _ nofun,
        hclamps nofun⟩ <;>
        rw [hT, hC, hD]
      · exact hbalance
      · exact hupper
  | refuse _ =>
      simp only [reduceCtorEq, if_false, Nat.add_zero] at hT hC hD
      refine ⟨hsame rfl, hcounter, ?_, ?_, fun hneg => (h.negative hneg).set hγ _ nofun,
        hclamps nofun⟩ <;>
        rw [hT, hC, hD]
      · exact hbalance
      · exact hupper
  | increment =>
      simp only [reduceCtorEq, if_false, if_true, Nat.add_zero,
        LimiterPhase.through.injEq] at hT hC hD
      refine ⟨hsame rfl, ?_, ?_, ?_, fun hneg => ?_, hclamps ?_⟩
      · rw [World.counter_setCounter_self, counterAfter, if_pos rfl, hcounter]
      · rw [World.counter_setCounter_self, overwritten_hincrby, hT, hC, hD]
        omega
      · rw [World.counter_setCounter_self, hT, hC, hD]
        omega
      · rw [World.counter_setCounter_self] at hneg
        exact (h.negative (by omega)).set hγ _ nofun
      · exact nofun
  | release hpos =>
      simp only [reduceCtorEq, if_false, if_true, Nat.add_zero,
        LimiterPhase.through.injEq] at hT hC hD
      refine ⟨hsame rfl, ?_, ?_, ?_, fun hneg => ?_, hclamps ?_⟩
      · rw [World.counter_setCounter_self, counterAfter, if_pos rfl, hcounter]
        rfl
      · rw [World.counter_setCounter_self, overwritten_hincrby, hT, hC, hD]
        omega
      · rw [World.counter_setCounter_self, hT, hC, hD]
        omega
      · rw [World.counter_setCounter_self] at hneg
        omega
      · exact nofun
  -- the counter falls below zero, and this call is about to clamp it
  | undershoot _ =>
      simp only [reduceCtorEq, if_false, if_true, Nat.add_zero] at hT hC hD
      refine ⟨hsame rfl, ?_, ?_, ?_, fun hneg => ?_, hclamps ?_⟩
      · rw [World.counter_setCounter_self, counterAfter, if_pos rfl, hcounter]
        rfl
      · rw [World.counter_setCounter_self, overwritten_hincrby, hT, hC, hD]
        omega
      · rw [World.counter_setCounter_self, hT, hC, hD]
        omega
      · exact ⟨i, .decrement, List.getElem?_set_self hlt⟩
      · rintro call ⟨⟩
        rfl
  | query _ _ => simp [LimiterPhase.call] at hknown
  | reset => simp [LimiterPhase.call] at hknown
  -- the clamp writes over what has been counted in between
  | clamp call =>
      obtain rfl : call = .decrement := h.clamps _ (List.mem_of_getElem? hγ) call rfl
      simp only [reduceCtorEq, if_false, if_true, Nat.add_zero,
        LimiterPhase.through.injEq] at hT hC hD
      refine ⟨hsame rfl, ?_, ?_, ?_, fun hneg => ?_, hclamps ?_⟩
      · rw [World.counter_setCounter_self, counterAfter, if_pos rfl]
      · rw [World.counter_setCounter_self, overwritten, if_pos rfl, hT]
        omega
      · rw [World.counter_setCounter_self, hT]
        omega
      · rw [World.counter_setCounter_self] at hneg
        omega
      · exact nofun

theorem ClampState.sustains {p : Pool serviceSignature World (Option ℤ)} {i : ℕ}
    (h : ClampState w c₀ calls γs p.state p.journal)
    (hcalls : ∀ call ∈ calls, call = .checkAndIncrement ∨ call = .decrement) :
    Pool.Sustains (serviceMachine env) (limiterMonitor settings w) (ClampState w c₀ calls) p γs
      (.issue i none) := by
  intro γ c hγ _ hmay
  rw [Machine.attempt_none]
  exact ⟨trivial, h.step hcalls hγ (limiterStep_act hmay)⟩

/-- Once every call is done, no clamping write is due. -/
theorem not_clampDue {threads : List (Service (Option ℤ))}
    (h : List.Forall₂ (fun program γ =>
      program.Obeys (limiterMonitor settings w) LimiterPhase.Ended γ) threads γs)
    (hdone : ∀ thread ∈ threads, thread.command? = none) (call : LimiterCall) :
    .clamping call ∉ γs := by
  induction h with
  | nil => exact List.not_mem_nil
  | @cons program γ threads γs hobeys _ ih =>
      obtain ⟨hthread, hrest⟩ := List.forall_mem_cons.mp hdone
      obtain ⟨r, rfl⟩ := Program.command?_eq_none.mp hthread
      have hended : LimiterPhase.Ended r γ := hobeys
      refine fun hmem => ?_
      rcases List.mem_cons.mp hmem with rfl | hmem
      · cases r with
        | ok a => cases hended
        | error e => rcases hended with h | h <;> cases h
      · exact ih hrest hmem

theorem phases_eq_zero {phase : LimiterPhase} (h : phase ∉ γs) : phases phase γs = 0 := by
  unfold phases
  induction γs with
  | nil => rfl
  | cons γ γs ih =>
      rw [List.mem_cons, not_or] at h
      obtain ⟨hne, hrest⟩ := h
      simpa [Ne.symm hne] using ih hrest

/-- The bounds of the sequential outcomes, once the calls are done: the upper one always holds. -/
theorem order_iff_of_watched {p : Pool serviceSignature World (Option ℤ)} (hstart : 0 ≤ c₀)
    (hend : Pool.Watched (limiterMonitor settings w) LimiterPhase.Ended (ClampState w c₀ calls) p
      γs)
    (hdone : ∀ thread ∈ p.threads, thread.command? = none) :
    (∃ order : List Clamped.Step, order.count .up = returns .checkAndIncrement calls p ∧
      order.count .down = returns .decrement calls p ∧
      p.state.counter w = Clamped.run c₀ order) ↔ overwritten w c₀ p.journal ≤ 0 := by
  have hreturns : ∀ call, returns call calls p = phases (.through call) γs := by
    intro call
    rw [← hend.holds.calls]
    exact returns_eq_phases call hend.obeys hdone
  have hnone := not_clampDue hend.obeys hdone
  have hbalance := hend.holds.balance
  have hupper := hend.holds.upper
  have hnonneg : 0 ≤ p.state.counter w := by
    by_contra hneg
    obtain ⟨j, call, hj⟩ := hend.holds.negative (by omega)
    exact hnone call (List.mem_of_getElem? hj)
  rw [phases_eq_zero (hnone .decrement)] at hbalance hupper
  rw [Clamped.exists_order_iff hstart, hreturns, hreturns]
  omega

/-- When all decrements and checks are done, the counter is what some order of the decrements and
of the admitted increments makes of it, exactly if the counts that clamping writes have overwritten
do not add up to more than zero. -/
theorem clamping_keeps_admissions_iff (env : Environment) (settings : Settings) (w : UUID)
    (σ : World) (calls : List LimiterCall) (schedule : List ℕ)
    (hcalls : ∀ call ∈ calls, call = .checkAndIncrement ∨ call = .decrement)
    (hstart : 0 ≤ σ.counter w)
    (hdone : ∀ thread ∈ ((limiterPool settings w σ calls).run (serviceMachine env)
      (calm schedule)).threads, thread.command? = none) :
    (∃ order : List Clamped.Step,
        order.count .up = returns .checkAndIncrement calls ((limiterPool settings w σ calls).run
          (serviceMachine env) (calm schedule)) ∧
        order.count .down = returns .decrement calls ((limiterPool settings w σ calls).run
          (serviceMachine env) (calm schedule)) ∧
        ((limiterPool settings w σ calls).run (serviceMachine env)
          (calm schedule)).state.counter w = Clamped.run (σ.counter w) order) ↔
      overwritten w (σ.counter w) ((limiterPool settings w σ calls).run (serviceMachine env)
        (calm schedule)).journal ≤ 0 := by
  obtain ⟨γs, hend⟩ := Pool.run_watched_calm (M := serviceMachine env) (C := fun _ _ => True)
    (fun _ _ _ h _ => ClampState.sustains h hcalls) (watched_limiterPool settings w
      (ClampState.start hstart)) (Pool.within_of_forall (fun _ _ _ => trivial) _)
  exact order_iff_of_watched hstart hend hdone

/-- A decrement at zero and a check that is admitted before its clamping write. -/
theorem clamping_keeps_admissions_iff_sample :
    ∃ order : List Clamped.Step,
      order.count .up = returns .checkAndIncrement [.decrement, .checkAndIncrement]
        ((limiterPool Sample.settings Sample.workspace .empty [.decrement, .checkAndIncrement]).run
          (serviceMachine Sample.environment) (calm [0, 1, 1, 0])) ∧
      order.count .down = returns .decrement [.decrement, .checkAndIncrement]
        ((limiterPool Sample.settings Sample.workspace .empty [.decrement, .checkAndIncrement]).run
          (serviceMachine Sample.environment) (calm [0, 1, 1, 0])) ∧
      ((limiterPool Sample.settings Sample.workspace .empty [.decrement, .checkAndIncrement]).run
        (serviceMachine Sample.environment) (calm [0, 1, 1, 0])).state.counter Sample.workspace =
          Clamped.run 0 order :=
  (clamping_keeps_admissions_iff Sample.environment Sample.settings Sample.workspace .empty
    [.decrement, .checkAndIncrement] [0, 1, 1, 0] (by decide) le_rfl (by decide +kernel)).mpr
      (by decide +kernel)

/-- A decrement at zero and two checks that are admitted before its clamping write: the counter ends
at zero, where every order of the three calls leaves at least one. -/
theorem clamp_overwrites_admissions :
    ¬ ∃ order : List Clamped.Step, order.count .up = 2 ∧ order.count .down = 1 ∧
      ((limiterPool Sample.settings Sample.workspace .empty
        [.decrement, .checkAndIncrement, .checkAndIncrement]).run
          (serviceMachine Sample.environment)
          (calm [0, 1, 1, 2, 2, 0])).state.counter Sample.workspace = Clamped.run 0 order := by
  rw [Clamped.exists_order_iff le_rfl]
  decide +kernel

end RagFileUploader
