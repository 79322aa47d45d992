import RagFileUploader.Sessions.Operations
import RagFileUploader.Infrastructure.Frames
import RagFileUploader.Effects.Interleaving

/-!
# Sessions that come back

Calls of the session store, interleaved command by command, with time passing in between.  As
long as every `HSET` finds the hash that it overwrites, each hash has a deadline and one that is
gone stays gone until the session is created again.  The time-to-live check of `update_session`
is a command of its own, so it does not ensure this: a hash that expires or is deleted after the
check is brought back by the write, without a deadline.
-/

namespace RagFileUploader

open Effects Stores

variable {env : Environment} {σ : World} {key : SessionKey}

/-! ## Runs -/

/-- The program of an operation of the store. -/
def StoreOp.program : StoreOp → Service Unit
  | createSession session => RedisSessionStore.createSession session
  | updateSession session => RedisSessionStore.updateSession session
  | deleteSession workspaceId sessionId => RedisSessionStore.deleteSession workspaceId sessionId
  | getSession workspaceId sessionId => do
      let _ ← RedisSessionStore.getSession workspaceId sessionId
      pure ()
  | getSessionWithExpiryInfo workspaceId sessionId => do
      let _ ← RedisSessionStore.getSessionWithExpiryInfo workspaceId sessionId
      pure ()

/-- Operations of the store on an empty Redis. -/
def storePool (ops : List StoreOp) : Pool serviceSignature World Unit :=
  ⟨.empty, ops.map StoreOp.program, []⟩

/-- A step of such a run: a thread sends a command, which may fail, or time passes. -/
inductive Moment where
  | command (thread : ℕ) (fault : Option Fault)
  | tick (ms : ℕ)

def Moment.turn : Moment → Turn World Fault
  | command thread fault => .issue thread fault
  | tick ms => .drift fun σ => σ.tick ms

/-- The pool after some moments. -/
def interleaved (env : Environment) (ops : List StoreOp) (moments : List Moment) :
    Pool serviceSignature World Unit :=
  (storePool ops).run (serviceMachine env) (moments.map Moment.turn)

/-- The hash that a thread is about to overwrite is there. -/
def FindsHash (p : Pool serviceSignature World Unit) : Turn World Fault → Prop
  | .issue i _ => ∀ c ∈ p.pending i, ∀ key ∈ c.overwrittenKey?, p.state.session? key ≠ none
  | .drift _ => True

instance (p : Pool serviceSignature World Unit) : ∀ turn, Decidable (FindsHash p turn)
  | .issue i _ => inferInstanceAs (Decidable (∀ c ∈ p.pending i, ∀ key ∈ c.overwrittenKey?,
      p.state.session? key ≠ none))
  | .drift _ => isTrue trivial

/-- How often the session was created. -/
def creations (p : Pool serviceSignature World Unit) (key : SessionKey) : ℕ :=
  p.journal.countP fun (_, c) => c.createdKey? = some key

/-! ## One command -/

/-- Every session hash has a deadline. -/
def World.Mortal (σ : World) : Prop :=
  ∀ key entry, σ.sessions key = some entry → entry.deadline ≠ none

theorem mortal_empty : World.empty.Mortal := fun _ _ h => nomatch h

theorem exists_find?_of_session? (h : σ.session? key ≠ none) :
    ∃ entry, σ.sessions.find? σ.clock key = some entry := by
  obtain ⟨data, hdata⟩ := Option.ne_none_iff_exists'.mp h
  obtain ⟨entry, hentry, -⟩ := Option.map_eq_some_iff.mp hdata
  exact ⟨entry, hentry⟩

theorem World.Mortal.act (h : σ.Mortal) (c : Command)
    (hfinds : ∀ key ∈ c.overwrittenKey?, σ.session? key ≠ none) :
    (c.act env σ).2.Mortal := by
  intro key entry hentry
  rw [Command.sessions_act] at hentry
  cases c with
  | createSession key' data ttlSeconds expiryMetadata expiryTtlSeconds =>
      rcases Keyspace.of_put_eq_some hentry with ⟨-, rfl⟩ | ⟨-, hold⟩
      · exact Option.some_ne_none _
      · exact h key entry hold
  | hsetSession key' data =>
      by_cases hkey : key = key'
      · subst hkey
        obtain ⟨old, hold⟩ := exists_find?_of_session? (hfinds key rfl)
        cases (Keyspace.overwrite_self hold).symm.trans hentry
        exact h key old (Keyspace.find?_eq_some_iff.mp hold).1
      · exact h key entry ((Keyspace.overwrite_of_ne hkey).symm.trans hentry)
  | deleteSession key' =>
      exact h key entry (Keyspace.of_erase_eq_some hentry).2
  | _ => exact h key entry hentry

/-- Only creating a session makes its hash appear. -/
theorem session?_act_eq_none (c : Command) (hgone : σ.session? key = none)
    (hfinds : ∀ key ∈ c.overwrittenKey?, σ.session? key ≠ none)
    (hcreates : c.createdKey? ≠ some key) : (c.act env σ).2.session? key = none := by
  have hframe : c.sessionsAfter σ key = σ.sessions key →
      (c.act env σ).2.session? key = none := fun heq => by
    rw [World.session?, Command.clock_act, Command.sessions_act]
    exact (Keyspace.get?_congr heq).trans hgone
  cases c with
  | createSession key' data ttlSeconds expiryMetadata expiryTtlSeconds =>
      exact hframe (Keyspace.put_of_ne fun heq => hcreates (congrArg some heq.symm))
  | hsetSession key' data =>
      refine hframe (Keyspace.overwrite_of_ne fun heq => ?_)
      subst heq
      exact hfinds key rfl hgone
  | deleteSession key' =>
      by_cases hkey : key = key'
      · subst hkey
        rw [World.session?, Command.clock_act, Command.sessions_act, Command.sessionsAfter,
          Keyspace.get?, Keyspace.find?, Keyspace.erase_self]
        rfl
      · exact hframe (Keyspace.erase_of_ne hkey)
  | _ => exact hframe rfl

theorem session?_tick_eq_none (hgone : σ.session? key = none) (ms : ℕ) :
    (σ.tick ms).session? key = none := by
  by_contra hthere
  obtain ⟨entry, hentry⟩ := exists_find?_of_session? hthere
  have hearlier : σ.sessions.find? σ.clock key = some entry :=
    Keyspace.find?_anti hentry (Nat.le_add_right σ.clock ms)
  rw [World.session?, Keyspace.get?, hearlier] at hgone
  cases hgone

/-! ## Whole runs -/

/-- Hashes have deadlines, and the hash under `key` is gone unless it was created once more than
`n` times. -/
structure GoneSince (key : SessionKey) (n : ℕ) (p : Pool serviceSignature World Unit) : Prop where
  mortal : p.state.Mortal
  le_creations : n ≤ creations p key
  gone : creations p key = n → p.state.session? key = none

theorem creations_cons {p : Pool serviceSignature World Unit} {i : ℕ} {c : Command} {σ : World}
    {threads : List (Service Unit)} :
    creations ⟨σ, threads, (i, c) :: p.journal⟩ key =
      creations p key + if c.createdKey? = some key then 1 else 0 := by
  simp [creations, List.countP_cons]

theorem World.Mortal.step {p : Pool serviceSignature World Unit} (h : p.state.Mortal)
    (moment : Moment) (hfinds : FindsHash p moment.turn) :
    (p.step (serviceMachine env) moment.turn).state.Mortal := by
  cases moment with
  | tick ms => exact h
  | command i fault =>
      rcases Pool.step_issue_cases (serviceMachine env) p i fault with
        hidle | ⟨c, next, hget, hstep⟩
      · rw [Moment.turn, hidle]
        exact h
      · have hpending := hfinds c (Pool.pending_eq_some.mpr ⟨next, hget⟩)
        rw [Moment.turn, hstep]
        rcases (serviceMachine env).attempt_cases fault c p.state with hact | ⟨f, -, e, -, hfail⟩
        · rw [hact]
          exact h.act c hpending
        · rw [hfail]
          exact h

theorem GoneSince.step {n : ℕ} {p : Pool serviceSignature World Unit} (h : GoneSince key n p)
    (moment : Moment) (hfinds : FindsHash p moment.turn) :
    GoneSince key n (p.step (serviceMachine env) moment.turn) := by
  have hmortal : (p.step (serviceMachine env) moment.turn).state.Mortal :=
    h.mortal.step moment hfinds
  cases moment with
  | tick ms =>
      exact ⟨hmortal, h.le_creations, fun hcount => session?_tick_eq_none (h.gone hcount) ms⟩
  | command i fault =>
      rcases Pool.step_issue_cases (serviceMachine env) p i fault with
        hidle | ⟨c, next, hget, hstep⟩
      · rw [Moment.turn, hidle]
        exact h
      · refine ⟨hmortal, ?_, ?_⟩
        · rw [Moment.turn, hstep, creations_cons]
          exact h.le_creations.trans (Nat.le_add_right _ _)
        · rw [Moment.turn, hstep, creations_cons]
          intro hcount
          have hpending := hfinds c (Pool.pending_eq_some.mpr ⟨next, hget⟩)
          have hle := h.le_creations
          have hcreates : c.createdKey? ≠ some key := fun heq => by
            rw [if_pos heq] at hcount
            omega
          rw [if_neg hcreates, Nat.add_zero] at hcount
          rcases (serviceMachine env).attempt_cases fault c p.state with
            hact | ⟨f, -, e, -, hfail⟩
          · rw [hact]
            exact session?_act_eq_none c (h.gone hcount) hpending hcreates
          · rw [hfail]
            exact h.gone hcount

/-- A property of pools that every moment within the guard preserves. -/
theorem moments_induction {I : Pool serviceSignature World Unit → Prop}
    (hstep : ∀ p (moment : Moment), I p → FindsHash p moment.turn →
      I (p.step (serviceMachine env) moment.turn))
    {p : Pool serviceSignature World Unit} (hp : I p) {moments : List Moment}
    (hfinds : Pool.Within (serviceMachine env) FindsHash p (moments.map Moment.turn)) :
    I (p.run (serviceMachine env) (moments.map Moment.turn)) := by
  induction moments generalizing p with
  | nil => exact hp
  | cons moment moments ih => exact ih (hstep p moment hp hfinds.1) hfinds.2

/-- In a run in which every `HSET` finds its hash, hashes have deadlines, and what is gone comes
back only by being created. -/
theorem no_resurrection (env : Environment) (ops : List StoreOp) (moments moments' : List Moment)
    (hfinds : Pool.Within (serviceMachine env) FindsHash (storePool ops)
      ((moments ++ moments').map Moment.turn)) :
    (interleaved env ops (moments ++ moments')).state.Mortal ∧
      ∀ key, (interleaved env ops moments).state.session? key = none →
        creations (interleaved env ops (moments ++ moments')) key =
          creations (interleaved env ops moments) key →
        (interleaved env ops (moments ++ moments')).state.session? key = none := by
  have hsplit : interleaved env ops (moments ++ moments') =
      (interleaved env ops moments).run (serviceMachine env) (moments'.map Moment.turn) := by
    rw [interleaved, List.map_append, Pool.run_append, interleaved]
  rw [List.map_append] at hfinds
  obtain ⟨hbefore, hafter⟩ := hfinds.append
  have hmortal : (interleaved env ops moments).state.Mortal :=
    moments_induction (I := fun p => p.state.Mortal) (fun p moment h hC => h.step moment hC)
      (p := storePool ops) mortal_empty hbefore
  rw [hsplit]
  change Pool.Within _ _ (interleaved env ops moments) _ at hafter
  generalize interleaved env ops moments = p at *
  refine ⟨?_, fun key hkey hcount => ?_⟩
  · exact moments_induction (I := fun p => p.state.Mortal)
      (fun p moment h hC => h.step moment hC) hmortal hafter
  · have hgone : GoneSince key (creations p key)
        (p.run (serviceMachine env) (moments'.map Moment.turn)) :=
      moments_induction (fun p' moment h hC => h.step moment hC) ⟨hmortal, le_rfl, fun _ => hkey⟩
        hafter
    exact hgone.gone hcount

namespace Sample

/-- A session is created, updated, deleted, and updated once more. -/
def storeOps : List StoreOp :=
  [.createSession pendingSession, .updateSession pendingSession, .deleteSession workspace session,
    .updateSession pendingSession]

/-- The deletion comes between the two updates. -/
def untilDeleted : List Moment :=
  [.command 0 none, .command 1 none, .command 1 none, .command 2 none]

end Sample

/-- The second update does not bring the session back. -/
theorem no_resurrection_sample :
    (interleaved Sample.environment Sample.storeOps (Sample.untilDeleted ++
        [.tick 1000, .command 3 none])).state.Mortal ∧
      ∀ key, (interleaved Sample.environment Sample.storeOps
          Sample.untilDeleted).state.session? key = none →
        creations (interleaved Sample.environment Sample.storeOps (Sample.untilDeleted ++
            [.tick 1000, .command 3 none])) key =
          creations (interleaved Sample.environment Sample.storeOps Sample.untilDeleted) key →
        (interleaved Sample.environment Sample.storeOps (Sample.untilDeleted ++
          [.tick 1000, .command 3 none])).state.session? key = none :=
  no_resurrection Sample.environment Sample.storeOps Sample.untilDeleted
    [.tick 1000, .command 3 none] (by decide +kernel)

/-- An update whose time-to-live check comes before the deletion and whose write comes after it
brings the session back for good. -/
theorem update_revives_deleted :
    (interleaved Sample.environment Sample.storeOps [.command 0 none, .command 1 none,
        .command 2 none]).state.session? Sample.pendingSession.key = none ∧
      creations (interleaved Sample.environment Sample.storeOps [.command 0 none,
          .command 1 none, .command 2 none, .command 1 none]) Sample.pendingSession.key =
        creations (interleaved Sample.environment Sample.storeOps [.command 0 none,
          .command 1 none, .command 2 none]) Sample.pendingSession.key ∧
      (interleaved Sample.environment Sample.storeOps [.command 0 none, .command 1 none,
          .command 2 none, .command 1 none]).state.sessions Sample.pendingSession.key =
        some ⟨RedisSessionStore.serializeSession Sample.pendingSession, none⟩ := by
  decide +kernel

end RagFileUploader
