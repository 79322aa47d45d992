import RagFileUploader.Concurrent.Reachable

/-!
# What an abort leaves behind

An abort deletes the session hash and its expiry metadata and returns a slot.  It does not know of
the chunk keys, which stay until they expire.
-/

namespace RagFileUploader

open Effects Stores

namespace AbortUploadUseCase

variable {env : Environment} {settings : Settings} {σ σ' : World} {w s : UUID}

/-- No live key of the session is left, the workspace has one slot less in use, and nothing else
has changed. -/
structure CleanedUp (w s : UUID) (σ σ' : World) : Prop where
  session : σ'.sessions.find? σ'.clock ⟨w, s⟩ = none
  expiry : σ'.expiry.find? σ'.clock s = none
  chunks : ∀ i, σ'.chunks.find? σ'.clock ⟨w, s, i⟩ = none
  counter : σ'.counter w = σ.counter w - 1
  otherSessions : ∀ key ≠ ⟨w, s⟩, σ'.sessions key = σ.sessions key
  otherExpiry : ∀ id ≠ s, σ'.expiry id = σ.expiry id
  otherChunks : ∀ key, key.workspaceId ≠ w ∨ key.sessionId ≠ s → σ'.chunks key = σ.chunks key
  otherCounters : ∀ w' ≠ w, σ'.counters w' = σ.counters w'
  rest : σ' = { σ with
    sessions := σ'.sessions, expiry := σ'.expiry, chunks := σ'.chunks, counters := σ'.counters }

/-- What an abort that meets no fault does. -/
theorem eq_of_run (hσ : σ.StoredWell ⟨w, s⟩)
    (hrun : (execute (dependencies settings) w s).run (serviceMachine env) [] σ = (.ok (), σ')) :
    σ' = { removed σ w s with
      counters := (σ.setCounter w (max 0 (σ.counter w - 1))).counters } := by
  have houtcome : Outcome (fun _ => False) w s σ
      ((execute (dependencies settings) w s).run (serviceMachine env) [] σ).1
      ((execute (dependencies settings) w s).run (serviceMachine env) [] σ).2 :=
    Program.run_calm_of_wp (wp_execute w s hσ)
  rw [hrun] at houtcome
  cases houtcome with
  | removed _ _ counters _ _ _ released =>
      rw [released.resolve_right fun ⟨⟨_, hfalse, _⟩, _⟩ => hfalse]

/-- An abort that returns, which it does for a session that is PENDING or IN_PROGRESS, cleans up
exactly if the session has no chunk key left and the counter counts its slot. -/
theorem cleans_up_iff (hσ : σ.Reachable env settings)
    (hrun : (execute (dependencies settings) w s).run (serviceMachine env) [] σ = (.ok (), σ')) :
    CleanedUp w s σ σ' ↔
      (∀ i, σ.chunks.find? σ.clock ⟨w, s, i⟩ = none) ∧ 1 ≤ σ.counter w := by
  have hσ' := eq_of_run (hσ.wellStored _) hrun
  have hcounter : σ'.counter w = max 0 (σ.counter w - 1) := by
    rw [hσ']
    exact World.counter_setCounter_self σ w _
  have hgone : ∀ {K V : Type} [DecidableEq K] (m : Keyspace K V) (now : ℕ) (k : K),
      (m.erase k).find? now k = none := fun m now k => by
    rw [Keyspace.find?, Keyspace.erase_self]
    rfl
  constructor
  · intro h
    refine ⟨fun i => ?_, ?_⟩
    · have := h.chunks i
      rwa [hσ'] at this
    · have := h.counter
      omega
  · rintro ⟨hchunks, hslot⟩
    refine ⟨?_, ?_, ?_, by omega, ?_, ?_, ?_, ?_, ?_⟩ <;> rw [hσ']
    · exact hgone _ _ _
    · exact hgone _ _ _
    · exact hchunks
    · exact fun key hkey => Keyspace.erase_of_ne hkey
    · exact fun id hid => Keyspace.erase_of_ne hid
    · exact fun _ _ => rfl
    · exact fun w' hw => Function.update_of_ne hw _ _
    · rfl

set_option maxRecDepth 4000 in
/-- A fresh session is cleaned up. -/
theorem cleans_up_iff_sample :
    CleanedUp Sample.workspace Sample.session Sample.initiated
      ((execute (dependencies Sample.settings) Sample.workspace Sample.session).run
        (serviceMachine Sample.environment) [] Sample.initiated).2 :=
  have hreachable : Sample.initiated.Reachable Sample.environment Sample.settings :=
    Run.reachable_steps _
  have hrun : (execute (dependencies Sample.settings) Sample.workspace Sample.session).run
      (serviceMachine Sample.environment) [] Sample.initiated = (.ok (), _) :=
    Prod.ext (by decide +kernel) (Eq.refl _)
  have hchunks : ∀ i, Sample.initiated.chunks.find? Sample.initiated.clock
      ⟨Sample.workspace, Sample.session, i⟩ = none := fun _ => rfl
  have hslot : 1 ≤ Sample.initiated.counter Sample.workspace := by decide +kernel
  (cleans_up_iff hreachable hrun).mpr ⟨hchunks, hslot⟩

/-- After one chunk the abort leaves its bytes. -/
theorem abort_leaves_chunk :
    ¬ (((execute (dependencies Sample.settings) Sample.workspace Sample.session).run
        (serviceMachine Sample.environment) []
        (Run.steps Sample.environment Sample.settings Run.start
          [.call (.initiate Sample.upload) [], .call (.processChunk Sample.chunk) []]).world).1 =
          .ok () →
      ((execute (dependencies Sample.settings) Sample.workspace Sample.session).run
        (serviceMachine Sample.environment) []
        (Run.steps Sample.environment Sample.settings Run.start
          [.call (.initiate Sample.upload) [],
            .call (.processChunk Sample.chunk) []]).world).2.chunk?
          ⟨Sample.workspace, Sample.session, 0⟩ = none) := by
  decide +kernel

end AbortUploadUseCase

end RagFileUploader
