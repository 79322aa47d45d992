import RagFileUploader.Concurrent.Limiter

/-!
# How far the limit is overshot

`check_and_increment` reads the counter with one command and increments it with the next, so calls
that overlap in between may all be admitted by the same count.  The counter and the calls that are
admitted but have not incremented it yet stay within the limit together, but for the calls that
overlap.
-/

namespace RagFileUploader

open Effects Stores

variable {env : Environment} {settings : Settings} {w : UUID} {σ σ' : World}
  {γs : List LimiterPhase} {calls : List LimiterCall} {turns : List (Turn World Fault)} {k : ℕ}
  {limit : ℤ}

/-- How many calls are between the HGET that admits them and their HINCRBY. -/
def admissions (w : UUID) (p : Pool serviceSignature World (Option ℤ)) : ℕ :=
  p.threads.countP fun thread => thread.command? = some (.hincrbyCounter w 1)

/-- The increments that a call has still to make. -/
def LimiterPhase.pending : LimiterPhase → ℕ
  | .admitted => 1
  | _ => 0

def pendingIncrements (γs : List LimiterPhase) : ℕ := (γs.map LimiterPhase.pending).sum

theorem pendingIncrements_start (calls : List LimiterCall) :
    pendingIncrements (calls.map .start) = 0 := by
  unfold pendingIncrements
  induction calls with
  | nil => rfl
  | cons c calls ih => simpa [LimiterPhase.pending] using ih

/-- An admitted call has its increment before it. -/
theorem pendingIncrements_le_admissions {threads : List (Service (Option ℤ))}
    {σ : World} {journal : List (ℕ × Command)}
    (h : List.Forall₂ (fun program γ =>
      program.Obeys (limiterMonitor settings w) LimiterPhase.Ended γ) threads γs) :
    pendingIncrements γs ≤ admissions w ⟨σ, threads, journal⟩ := by
  unfold pendingIncrements admissions
  induction h with
  | nil => exact le_rfl
  | @cons program γ threads γs hobeys _ ih =>
      have hhead : γ.pending ≤ if program.command? = some (.hincrbyCounter w 1) then 1 else 0 := by
        cases γ with
        | admitted =>
            cases program with
            | done r => cases r <;> simp [LimiterPhase.Ended] at hobeys
            | call command next =>
                have hcommand : LimiterPhase.admitted.command? w = some command := hobeys.1
                rw [Program.command?, ← hcommand]
                exact le_of_eq (if_pos rfl).symm
        | _ => exact Nat.zero_le _
      rw [List.map_cons, List.sum_cons, List.countP_cons]
      simp only [decide_eq_true_eq] at ih ⊢
      omega

/-- The counter and the pending increments stay within the bound, as long as no more than `k`
are pending. -/
def Bounded (limit : ℤ) (w : UUID) (k : ℕ) (γs : List LimiterPhase) (σ : World)
    (_ : List (ℕ × Command)) : Prop :=
  σ.counter w + pendingIncrements γs ≤ limit + k - 1 ∨ k < pendingIncrements γs

/-- A call moves on, and its increment with it. -/
theorem bounded_set {i : ℕ} {γ γ' : LimiterPhase} {journal : List (ℕ × Command)}
    (hγ : γs[i]? = some γ)
    (h : σ.counter w + γ'.pending ≤ limit + k - 1 - pendingIncrements γs + γ.pending ∨
      k + γ.pending < pendingIncrements γs + γ'.pending) :
    Bounded limit w k (γs.set i γ') σ journal := by
  have hset : pendingIncrements (γs.set i γ') + γ.pending = pendingIncrements γs + γ'.pending :=
    Pool.sum_map_set LimiterPhase.pending hγ γ'
  unfold Bounded
  omega

/-- Of all commands only an increment moves the counter up, and the call has counted for it since it
was admitted. -/
theorem LimiterStep.bounded {c : Command} {γ γ' : LimiterPhase}
    (h : LimiterStep limit w σ γ c γ' σ') (hlimit : 0 < limit) {n : ℕ}
    (hbound : σ.counter w + n ≤ limit + k - 1) (hn : n ≤ k) (hγ : γ.pending ≤ n) :
    σ'.counter w + γ'.pending ≤ limit + k - 1 - n + γ.pending ∨ k + γ.pending < n + γ'.pending := by
  cases h with
  | enter hbelow =>
      change σ.counter w + ((1 : ℕ) : ℤ) ≤ limit + k - 1 - n + ((0 : ℕ) : ℤ) ∨ k + 0 < n + 1
      omega
  | refuse _ =>
      change σ.counter w + ((0 : ℕ) : ℤ) ≤ limit + k - 1 - n + ((0 : ℕ) : ℤ) ∨ _
      omega
  | increment =>
      rw [World.counter_setCounter_self]
      change σ.counter w + 1 + ((0 : ℕ) : ℤ) ≤ limit + k - 1 - n + ((1 : ℕ) : ℤ) ∨ _
      omega
  | release _ =>
      rw [World.counter_setCounter_self]
      change σ.counter w - 1 + ((0 : ℕ) : ℤ) ≤ limit + k - 1 - n + ((0 : ℕ) : ℤ) ∨ _
      omega
  | undershoot _ =>
      rw [World.counter_setCounter_self]
      change σ.counter w - 1 + ((0 : ℕ) : ℤ) ≤ limit + k - 1 - n + ((0 : ℕ) : ℤ) ∨ _
      omega
  | query _ hphase =>
      have hpending : γ'.pending = 0 := by rcases hphase with rfl | rfl <;> rfl
      rw [hpending]
      change σ.counter w + ((0 : ℕ) : ℤ) ≤ limit + k - 1 - n + ((0 : ℕ) : ℤ) ∨ _
      omega
  | reset =>
      rw [World.counter_setCounter_self]
      change (0 : ℤ) + ((0 : ℕ) : ℤ) ≤ limit + k - 1 - n + ((0 : ℕ) : ℤ) ∨ _
      omega
  | clamp call =>
      rw [World.counter_setCounter_self]
      change (0 : ℤ) + ((0 : ℕ) : ℤ) ≤ limit + k - 1 - n + ((0 : ℕ) : ℤ) ∨ _
      omega

theorem bounded_sustains {p : Pool serviceSignature World (Option ℤ)} {turn : Turn World Fault}
    (hbound : p.state.counter w + pendingIncrements γs ≤ settings.maxConcurrentUploads + k - 1)
    (hk : pendingIncrements γs ≤ k) (hturn : Passing turn) :
    Pool.Sustains (serviceMachine env) (limiterMonitor settings w)
      (Bounded settings.maxConcurrentUploads w k) p γs turn := by
  cases turn with
  | drift change =>
      obtain ⟨ms, rfl⟩ := hturn
      exact .inl hbound
  | issue i fault =>
      intro γ c hγ _ hmay
      refine ⟨trivial, bounded_set hγ ?_⟩
      have hle : γ.pending ≤ pendingIncrements γs := by
        have hset := Pool.sum_map_set LimiterPhase.pending hγ (.raised γ.call)
        change _ + _ = pendingIncrements γs + 0 at hset
        omega
      rcases (serviceMachine env).attempt_cases fault c p.state with hact | ⟨_, _, e, -, hfail⟩
      · rw [hact]
        exact (limiterStep_act hmay).bounded settings.max_pos hbound hk hle
      · rw [hfail]
        change p.state.counter w + ((LimiterPhase.after _ γ c (.error e)).pending : ℤ) ≤ _ ∨ _
        rw [LimiterPhase.after_error]
        change p.state.counter w + ((0 : ℕ) : ℤ) ≤ _ ∨ _
        omega

/-- A watched pool whose overlap is within `k` keeps within the bound. -/
theorem Bounded.of_watched {p : Pool serviceSignature World (Option ℤ)}
    (h : Pool.Watched (limiterMonitor settings w) LimiterPhase.Ended (Bounded limit w k) p γs)
    (hk : admissions w p ≤ k) :
    pendingIncrements γs ≤ k ∧ p.state.counter w + pendingIncrements γs ≤ limit + k - 1 := by
  have hle : pendingIncrements γs ≤ admissions w p := by
    obtain ⟨σ, threads, journal⟩ := p
    exact pendingIncrements_le_admissions h.obeys
  exact ⟨hle.trans hk, h.holds.resolve_right (by omega)⟩

/-- If at most `k` calls are ever between their check and their increment, the counter stays at or
below the limit plus `k - 1`. -/
theorem overshoot_bounded (env : Environment) (settings : Settings) (w : UUID) (σ : World)
    (calls : List LimiterCall) (turns : List (Turn World Fault)) (k : ℕ)
    (hturns : ∀ turn ∈ turns, Passing turn)
    (hstart : 0 ≤ σ.counter w ∧ σ.counter w ≤ settings.maxConcurrentUploads) (hk : 1 ≤ k)
    (hoverlap : ∀ before, before <+: turns →
      admissions w ((limiterPool settings w σ calls).run (serviceMachine env) before) ≤ k) :
    ((limiterPool settings w σ calls).run (serviceMachine env) turns).state.counter w ≤
      settings.maxConcurrentUploads + k - 1 := by
  have hwithin : Pool.Within (serviceMachine env)
      (fun p turn => admissions w p ≤ k ∧ Passing turn) (limiterPool settings w σ calls) turns := by
    refine Pool.within_iff.mpr fun before turn after heq => ⟨hoverlap before ⟨_, heq.symm⟩, ?_⟩
    exact hturns turn (heq ▸ List.mem_append_right _ List.mem_cons_self)
  have hstarted : Bounded settings.maxConcurrentUploads w k (calls.map .start) σ [] := by
    refine .inl ?_
    rw [pendingIncrements_start]
    omega
  obtain ⟨γs, hend⟩ := Pool.run_induction
    (I := fun p => ∃ γs, Pool.Watched (limiterMonitor settings w) LimiterPhase.Ended
      (Bounded settings.maxConcurrentUploads w k) p γs)
    (fun p turn ⟨γs, h⟩ hC => by
      obtain ⟨hpending, hbound⟩ := Bounded.of_watched h hC.1
      exact h.step (bounded_sustains hbound hpending hC.2))
    ⟨_, watched_limiterPool settings w hstarted⟩ hwithin
  obtain ⟨-, hbound⟩ := Bounded.of_watched hend (hoverlap turns List.prefix_rfl)
  omega

/-- Two checks that overlap, with one upload allowed: the counter is at most two, and two it is. -/
theorem overshoot_bounded_sample :
    ((limiterPool Sample.settings Sample.workspace .empty
        [.checkAndIncrement, .checkAndIncrement]).run (serviceMachine Sample.environment)
          (calm [0, 1, 0, 1])).state.counter Sample.workspace ≤ 1 + 2 - 1 :=
  overshoot_bounded Sample.environment Sample.settings Sample.workspace .empty
    [.checkAndIncrement, .checkAndIncrement] (calm [0, 1, 0, 1]) 2 (by simp [calm, Passing])
    (by decide) (by decide) fun before hbefore =>
      (by decide +kernel : ∀ before ∈ (calm [0, 1, 0, 1] : List (Turn World Fault)).inits,
        admissions Sample.workspace ((limiterPool Sample.settings Sample.workspace .empty
          [.checkAndIncrement, .checkAndIncrement]).run (serviceMachine Sample.environment)
            before) ≤ 2) before ((List.mem_inits _ _).mpr hbefore)

example : ((limiterPool Sample.settings Sample.workspace .empty
    [.checkAndIncrement, .checkAndIncrement]).run (serviceMachine Sample.environment)
      (calm [0, 1, 0, 1])).state.counter Sample.workspace = 2 := by
  decide +kernel

end RagFileUploader
