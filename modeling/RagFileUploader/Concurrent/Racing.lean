import RagFileUploader.Concurrent.Standing
import RagFileUploader.Serial.Balance

/-!
# Racing terminations

Initiations, completions and aborts in one workspace, interleaved command by command.  A slot is
returned long after the status was checked, and by a command of its own.  The counter stays at or
above the number of sessions under way as long as no two calls that have read the same session end
it: `SlotState` keeps a set of sessions that hold a slot, and next to them the slots of calls that
are between taking one and using it, or between ending a session and returning its slot.

* `SlotState` is the invariant, in which the slots of the calls are read off their standings.
* `SlotState.read`, `finish`, `release`, `create` and `fail` are the steps by the kind of command,
  and `SlotState.sustains` finds the one that applies.
* `racing_keeps_slots` is the run, with no slot held when all calls are over.
-/

namespace RagFileUploader

open Effects Stores

variable {env : Environment} {settings : Settings} {σ σ' σ'' : World} {w s : UUID}
  {key : SessionKey} {γs : List Standing} {journal : List (ℕ × Command)} {calls : List Call}
  {schedule : List ℕ} {held held' : Finset UUID}

/-! ## Who returns a slot -/

/-- The hash says COMPLETE or ABORTED: the call that stores it is going to return a slot. -/
def SessionHash.Released (data : SessionHash) : Prop :=
  data.status ∈ [SessionStatus.complete.value, SessionStatus.aborted.value]

instance (data : SessionHash) : Decidable data.Released :=
  inferInstanceAs (Decidable (_ ∈ [_, _]))

/-- If the thread of the turn is about to end a session, no other call has done so since the
thread's call read the session. -/
def Unraced (p : Pool serviceSignature World Response) : Turn World Fault → Prop
  | .issue i _ => ∀ c ∈ p.pending i, ∀ key ∈ c.overwrittenKey?, ∀ data ∈ c.newHash?,
      data.Released → ∀ rival ∈ rivals i key p.journal, ¬ rival.Released
  | .drift _ => True

instance (p : Pool serviceSignature World Response) : ∀ turn, Decidable (Unraced p turn)
  | .issue i _ => inferInstanceAs (Decidable (∀ c ∈ p.pending i, ∀ key ∈ c.overwrittenKey?,
      ∀ data ∈ c.newHash?, data.Released → ∀ rival ∈ rivals i key p.journal, ¬ rival.Released))
  | .drift _ => isTrue trivial

/-- A call of the workspace that may take or return a slot. -/
def Call.MovesSlots (w : UUID) : Call → Prop
  | .initiate request => request.workspaceId = w
  | .complete request => request.workspaceId = w
  | .abort workspaceId _ => workspaceId = w
  | .processChunk _ => False

instance (w : UUID) : (c : Call) → Decidable (c.MovesSlots w)
  | .initiate request => inferInstanceAs (Decidable (request.workspaceId = w))
  | .complete request => inferInstanceAs (Decidable (request.workspaceId = w))
  | .abort workspaceId _ => inferInstanceAs (Decidable (workspaceId = w))
  | .processChunk _ => isFalse id

/-! ## Slots between calls -/

/-- The slots that a call holds without a session. -/
def Standing.slots : Standing → ℕ
  | .ending _ | .reserved _ => 1
  | _ => 0

def slotsHeld (γs : List Standing) : ℕ := (γs.map Standing.slots).sum

theorem slotsHeld_set {i : ℕ} {γ : Standing} (hγ : γs[i]? = some γ) (γ' : Standing) :
    slotsHeld (γs.set i γ') + γ.slots = slotsHeld γs + γ'.slots :=
  Pool.sum_map_set Standing.slots hγ γ'

theorem slots_le_slotsHeld {i : ℕ} {γ : Standing} (hγ : γs[i]? = some γ) :
    γ.slots ≤ slotsHeld γs := by
  have hset : slotsHeld (γs.set i .over) + γ.slots = slotsHeld γs + 0 := slotsHeld_set hγ .over
  omega

/-- A call of the workspace, which only ends sessions and has no counter to clamp. -/
def Standing.Of (w : UUID) : Standing → Prop
  | .fresh key writes | .live key writes =>
      key.workspaceId = w ∧ ∀ status ∈ writes, SessionStatus.Terminal status
  | .failing key | .ending key => key.workspaceId = w
  | .asking w' | .reserved w' => w' = w
  | .clamping _ => False
  | .over => True

/-- The sessions in `held` have a slot, as have the calls that stand between two sessions, and the
counter counts all of them.  A session under way is in `held`, and so is one that a call has read
unless another call has ended it since. -/
structure SlotState (w : UUID) (held : Finset UUID) (γs : List Standing) (σ : World)
    (journal : List (ℕ × Command)) : Prop where
  well : σ.WellStored
  calls : ∀ γ ∈ γs, Standing.Of w γ
  underWay : σ.underWay w ⊆ held
  counter : (held.card : ℤ) + slotsHeld γs ≤ σ.counter w
  live : ∀ i key writes, γs[i]? = some (.live key writes) →
    key.documentId ∈ held ∨ ∃ rival ∈ rivals i key journal, rival.Released

/-- A call moves on.  What it takes from `held` must be ended by its command. -/
theorem SlotState.advance (h : SlotState w held γs σ journal) {i : ℕ} {c : Command}
    {γ γ' : Standing} (hγ : γs[i]? = some γ) (hwell : σ'.WellStored) (hof : γ'.Of w)
    (hunderWay : σ'.underWay w ⊆ held')
    (hcounter : (held'.card : ℤ) + γ'.slots + σ.counter w ≤
      held.card + γ.slots + σ'.counter w)
    (hheld : ∀ s ∈ held, s ∈ held' ∨ ∃ data ∈ c.storedAt? ⟨w, s⟩, data.Released)
    (hlive : ∀ key writes, γ' = .live key writes →
      key.documentId ∈ held' ∨ ∃ rival ∈ rivals i key ((i, c) :: journal), rival.Released) :
    SlotState w held' (γs.set i γ') σ' ((i, c) :: journal) := by
  have hlt : i < γs.length := (List.getElem?_eq_some_iff.mp hγ).1
  refine ⟨hwell, fun γ'' hγ'' => ?_, hunderWay, ?_, fun j key writes hj => ?_⟩
  · rcases List.mem_or_eq_of_mem_set hγ'' with hmem | rfl
    · exact h.calls γ'' hmem
    · exact hof
  · have hset := slotsHeld_set hγ γ'
    have hcount := h.counter
    omega
  · by_cases hij : i = j
    · subst hij
      rw [List.getElem?_set_self hlt] at hj
      exact hlive key writes (Option.some.inj hj)
    · rw [List.getElem?_set_ne hij] at hj
      have hkey : key = ⟨w, key.documentId⟩ := by
        have hof := (h.calls _ (List.mem_of_getElem? hj)).1
        rw [← hof]
      rw [rivals_cons_other hij]
      rcases h.live j key writes hj with hmem | ⟨rival, hrival, hreleased⟩
      · rcases hheld _ hmem with hmem' | ⟨data, hdata, hreleased⟩
        · exact .inl hmem'
        · refine .inr ⟨data, List.mem_append_left _ ?_, hreleased⟩
          rw [← hkey] at hdata
          exact Option.mem_toList.mpr hdata
      · exact .inr ⟨rival, List.mem_append_right _ hrival, hreleased⟩

/-! ## One turn -/

theorem underWay_congr (h : σ'.sessions = σ.sessions) : σ'.underWay w = σ.underWay w := by
  simp only [World.underWay, StoredActive, h]

theorem wellStored_congr (h : σ.WellStored) (hsessions : σ'.sessions = σ.sessions) :
    σ'.WellStored := fun key entry hentry => h key entry (hsessions ▸ hentry)

/-- Storing a session that has ended takes it out of the sessions under way. -/
theorem underWay_putSession_ended {session : UploadSession} (hterminal : session.status.Terminal) :
    (σ.putSession session).underWay w ⊆
      {s | s ∈ σ.underWay w ∧ (⟨w, s⟩ : SessionKey) ≠ session.key} := by
  rintro s ⟨entry, hentry, hactive⟩
  by_cases hkey : (⟨w, s⟩ : SessionKey) = session.key
  · have hself : (σ.putSession session).sessions session.key =
        some ⟨RedisSessionStore.serializeSession session, _⟩ := Keyspace.put_self
    rw [hkey] at hentry
    cases hself.symm.trans hentry
    exact absurd hterminal (active_serialize.mp hactive)
  · exact ⟨⟨entry, (Keyspace.overwrite_of_ne hkey).symm.trans hentry, hactive⟩, hkey⟩

theorem SlotState.pass (h : SlotState w held γs σ journal) {i : ℕ} {c : Command} {γ : Standing}
    (hγ : γs[i]? = some γ) (hc : c.Unwatched) :
    SlotState w held (γs.set i (γ.after c (c.act env σ).1)) (c.act env σ).2
      ((i, c) :: journal) := by
  have hsessions : (c.act env σ).2.sessions = σ.sessions := c.sessions_unwatched hc
  have hcounters : (c.act env σ).2.counters = σ.counters := c.counters_unwatched hc
  rw [Standing.after_of_unwatched hc]
  refine h.advance hγ (wellStored_congr h.well hsessions) (h.calls γ (List.mem_of_getElem? hγ))
    ?_ ?_ (fun s hs => .inl hs) fun key writes heq => ?_
  · rw [underWay_congr hsessions]
    exact h.underWay
  · rw [World.counter, World.counter, hcounters]
  · subst heq
    rw [rivals_cons_self (by rintro rfl; exact hc)]
    exact h.live i key writes hγ

/-- A call that finds its session under way finds it in `held`. -/
theorem SlotState.read (h : SlotState w held γs σ journal) {i : ℕ} {writes : List SessionStatus}
    (hγ : γs[i]? = some (.fresh key writes)) :
    SlotState w held
      (γs.set i ((Standing.fresh key writes).after (.hgetallSession key) (.ok (σ.session? key)))) σ
      ((i, .hgetallSession key) :: journal) := by
  have hof : (Standing.fresh key writes).Of w := h.calls _ (List.mem_of_getElem? hγ)
  cases hdata : σ.session? key with
  | none =>
      exact h.advance hγ h.well trivial h.underWay le_rfl (fun s hs => .inl hs)
        fun _ _ heq => by cases heq
  | some data =>
      simp only [Standing.after]
      split
      · next hactive =>
          refine h.advance hγ h.well hof h.underWay le_rfl (fun s hs => .inl hs)
            fun key' _ heq => ?_
          cases heq
          obtain ⟨d, hentry, -⟩ := Keyspace.get?_eq_some_iff.mp hdata
          refine .inl (h.underWay ⟨⟨data, d⟩, ?_, hactive⟩)
          rw [← hof.1]
          exact hentry
      · exact h.advance hγ h.well trivial h.underWay le_rfl (fun s hs => .inl hs)
          fun _ _ heq => by cases heq

/-- A session is marked FAILED, and its slot stays where it is. -/
theorem SlotState.fail (h : SlotState w held γs σ journal) {i : ℕ} {γ : Standing}
    {session : UploadSession} (hγ : γs[i]? = some γ) (hvalid : session.key.Valid)
    (hworkspace : session.key.workspaceId = w) (hfailed : session.status = .failed) :
    SlotState w held (γs.set i (.failing session.key)) (σ.putSession session)
      ((i, .hsetSession session.key (RedisSessionStore.serializeSession session)) :: journal) := by
  refine h.advance hγ (wellStored_put h.well hvalid rfl) hworkspace ?_ ?_ (fun s hs => .inl hs)
    nofun
  · exact (underWay_putSession_ended (by rw [hfailed]; decide)).trans fun s hs => h.underWay hs.1
  · change (held.card : ℤ) + ((0 : ℕ) : ℤ) + σ.counter w ≤ held.card + γ.slots + σ.counter w
    omega

/-- A session is ended, and its slot goes to the call that has ended it. -/
theorem SlotState.finish (h : SlotState w held γs σ journal) {i : ℕ}
    {writes : List SessionStatus} {session : UploadSession}
    (hγ : γs[i]? = some (.live session.key writes)) (hvalid : session.key.Valid)
    (hstatus : session.status ∈ writes)
    (hreleased : (RedisSessionStore.serializeSession session).Released)
    (hunraced : ∀ rival ∈ rivals i session.key journal, ¬ rival.Released) :
    SlotState w (held.erase session.key.documentId) (γs.set i (.ending session.key))
      (σ.putSession session)
      ((i, .hsetSession session.key (RedisSessionStore.serializeSession session)) :: journal) := by
  obtain ⟨hworkspace, hterminal⟩ := h.calls _ (List.mem_of_getElem? hγ)
  have hkey : session.key = ⟨w, session.key.documentId⟩ := by rw [← hworkspace]
  have hmem : session.key.documentId ∈ held :=
    (h.live i session.key writes hγ).resolve_right fun ⟨rival, hrival, hreleased⟩ =>
      hunraced rival hrival hreleased
  refine h.advance hγ (wellStored_put h.well hvalid rfl) hworkspace ?_ ?_ (fun s hs => ?_) nofun
  · intro s hs
    obtain ⟨hold, hne⟩ := underWay_putSession_ended (hterminal _ hstatus) hs
    refine Finset.mem_coe.mpr (Finset.mem_erase.mpr ⟨fun heq => hne ?_, h.underWay hold⟩)
    rw [heq, ← hkey]
  · have hcard := Finset.card_erase_add_one hmem
    change ((held.erase session.key.documentId).card : ℤ) + ((1 : ℕ) : ℤ) + σ.counter w ≤
      held.card + ((0 : ℕ) : ℤ) + σ.counter w
    omega
  · by_cases hs' : s = session.key.documentId
    · refine .inr ⟨RedisSessionStore.serializeSession session, ?_, hreleased⟩
      rw [hs', ← hkey]
      exact if_pos rfl
    · exact .inl (Finset.mem_erase.mpr ⟨hs', hs⟩)

/-- A slot that a call holds is returned; the counter does not go below zero. -/
theorem SlotState.release (h : SlotState w held γs σ journal) {i : ℕ} {γ : Standing}
    (hγ : γs[i]? = some γ) (hslot : γ.slots = 1) :
    SlotState w held (γs.set i (Standing.returned w (σ.counter w + -1)))
      (σ.setCounter w (σ.counter w + -1)) ((i, .hincrbyCounter w (-1)) :: journal) := by
  have hcounter := h.counter
  have hle := slots_le_slotsHeld hγ
  rw [Standing.returned, if_neg (by omega)]
  refine h.advance hγ h.well trivial h.underWay ?_ (fun s hs => .inl hs)
    fun _ _ heq => by cases heq
  rw [World.counter_setCounter_self, hslot]
  change (held.card : ℤ) + ((0 : ℕ) : ℤ) + σ.counter w ≤
    held.card + ((1 : ℕ) : ℤ) + (σ.counter w + -1)
  omega

/-- A session takes the slot that its call has reserved. -/
theorem SlotState.create (h : SlotState w held γs σ journal) {i : ℕ} {session : UploadSession}
    {ttlSeconds expiryTtlSeconds : ℕ} {expiryMetadata : ExpiryMetadata}
    (hγ : γs[i]? = some (.reserved w))
    (hvalid : session.key.Valid) :
    SlotState w (insert session.sessionId held) (γs.set i .over)
      { σ with
        sessions := σ.sessions.put session.key (RedisSessionStore.serializeSession session)
          (σ.deadline ttlSeconds)
        expiry := σ.expiry.put session.sessionId expiryMetadata (σ.deadline expiryTtlSeconds) }
      ((i, .createSession session.key (RedisSessionStore.serializeSession session) ttlSeconds
        expiryMetadata expiryTtlSeconds) :: journal) := by
  refine h.advance hγ (wellStored_put h.well hvalid rfl) trivial ?_ ?_
    (fun s hs => .inl (Finset.mem_insert_of_mem hs)) nofun
  · rintro s ⟨entry, hentry, hactive⟩
    refine Finset.mem_coe.mpr (Finset.mem_insert.mpr ?_)
    rcases Keyspace.of_put_eq_some hentry with ⟨hkey, -⟩ | ⟨-, hold⟩
    · exact .inl (congrArg SessionKey.documentId hkey)
    · exact .inr (h.underWay ⟨entry, hold, hactive⟩)
  · have hcard := Finset.card_insert_le session.sessionId held
    change ((insert session.sessionId held).card : ℤ) + ((0 : ℕ) : ℤ) + σ.counter w ≤
      held.card + ((1 : ℕ) : ℤ) + σ.counter w
    omega

theorem SlotState.sustains {p : Pool serviceSignature World Response} {i : ℕ}
    (h : SlotState w held γs p.state p.journal) (hC : Unraced p (.issue i none)) :
    Pool.Sustains (serviceMachine env) standingMonitor
      (fun γs σ journal => ∃ held, SlotState w held γs σ journal) p γs (.issue i none) := by
  intro γ c hγ hpending hmay
  have hunraced := hC c hpending
  have hof := h.calls γ (List.mem_of_getElem? hγ)
  rw [Machine.attempt_none]
  refine ⟨c.plausible_act fun key _ => h.well key, ?_⟩
  -- `held` are the sessions that hold a slot: only the creation and the last write change it
  cases hmay with
  | unwatched _ hc => exact ⟨held, h.pass hγ hc⟩
  | read key writes => exact ⟨held, h.read hγ⟩
  | @write key writes session hkey hvalid hstatus =>
      subst hkey
      have hterminal := hof.2 _ hstatus
      -- a session that fails keeps its slot; one that ends otherwise is on its way to return it
      by_cases hfailed : session.status = .failed
      · refine ⟨held, ?_⟩
        have := h.fail hγ hvalid hof.1 hfailed
        rwa [← show Standing.after (.live session.key writes) (.hsetSession session.key
          (RedisSessionStore.serializeSession session)) (.ok ()) = .failing session.key from
            if_pos (congrArg SessionStatus.value hfailed)] at this
      · have hended : session.status = .complete ∨ session.status = .aborted := by
          cases hs : session.status <;> simp_all [SessionStatus.Terminal]
        have hvalue : session.status.value ∈
            [SessionStatus.complete.value, SessionStatus.aborted.value] := by
          rcases hended with h | h <;> simp [h]
        have hinactive : ¬ (RedisSessionStore.serializeSession session).Active := by
          rw [active_serialize]
          exact not_not_intro hterminal
        have hother : (RedisSessionStore.serializeSession session).status ≠
            SessionStatus.failed.value := by
          change session.status.value ≠ _
          rcases hended with h | h <;> rw [h] <;> decide
        refine ⟨held.erase session.key.documentId, ?_⟩
        have := h.finish hγ hvalid hstatus hvalue (hunraced _ rfl _ rfl hvalue)
        rwa [← show Standing.after (.live session.key writes) (.hsetSession session.key
          (RedisSessionStore.serializeSession session)) (.ok ()) = .ending session.key from
            (if_neg hother).trans (if_neg hinactive)] at this
  | @rewrite key session hkey hvalid hstatus =>
      subst hkey
      exact ⟨held, h.fail hγ hvalid hof hstatus⟩
  -- deleting a hash leaves no more sessions under way
  | delete key =>
      refine ⟨held, h.advance hγ (fun key' entry hentry => ?_) hof
        ((underWay_erase_subset key w).trans h.underWay) le_rfl (fun s hs => .inl hs)
        fun _ _ heq => by cases heq⟩
      exact h.well key' entry (Keyspace.of_erase_eq_some hentry).2
  | release key =>
      obtain rfl : key.workspaceId = w := hof
      exact ⟨held, h.release hγ rfl⟩
  | take =>
      obtain rfl := hof
      refine ⟨held, h.advance hγ h.well rfl h.underWay ?_ (fun s hs => .inl hs)
        fun _ _ heq => by cases heq⟩
      change (held.card : ℤ) + ((1 : ℕ) : ℤ) + p.state.counter _ ≤
        held.card + ((0 : ℕ) : ℤ) + World.counter (p.state.setCounter _ _) _
      rw [World.counter_setCounter_self]
      omega
  | @create _ session _ hvalid ttlSeconds expiryTtlSeconds expiryMetadata =>
      obtain rfl := hof
      exact ⟨insert session.sessionId held, h.create hγ hvalid⟩
  | giveBack =>
      obtain rfl := hof
      exact ⟨held, h.release hγ rfl⟩
  | clamp => exact absurd hof id

/-! ## The run -/

/-- Whatever initiations, completions and aborts of a workspace overlap, the counter is at least the
number of sessions under way, as long as no two calls that have read the same session end it. -/
theorem racing_keeps_slots (env : Environment) (settings : Settings) (ops : List Op) (w : UUID)
    (calls : List Call) (schedule : List ℕ) (hcalls : ∀ c ∈ calls, c.MovesSlots w)
    (hunraced : Pool.Within (serviceMachine env) Unraced
      (callPool settings (Run.steps env settings Run.start ops).world calls) (calm schedule)) :
    ((((callPool settings (Run.steps env settings Run.start ops).world calls).run
        (serviceMachine env) (calm schedule)).state.activeSessions w).ncard : ℤ) ≤
      ((callPool settings (Run.steps env settings Run.start ops).world calls).run
        (serviceMachine env) (calm schedule)).state.counter w := by
  set σ := (Run.steps env settings Run.start ops).world
  have hfinite : (σ.underWay w).Finite := Set.toFinite _
  -- before the first turn the slots are those of the active sessions
  have hstart : SlotState w hfinite.toFinset (calls.map Call.standing) σ [] := by
    refine ⟨Run.wellStored_steps ops, fun γ hγ => ?_, ?_, ?_, fun i key writes hγ => ?_⟩
    · obtain ⟨c, hc, rfl⟩ := List.mem_map.mp hγ
      have hmoves := hcalls c hc
      cases c with
      | initiate request => exact hmoves
      | processChunk request => exact absurd hmoves id
      | complete request => exact ⟨hmoves, by decide⟩
      | abort w' s => exact ⟨hmoves, by decide⟩
    · rw [Set.Finite.coe_toFinset]
    · have hnone : slotsHeld (calls.map Call.standing) = 0 := by
        refine List.sum_eq_zero fun n hn => ?_
        rw [List.map_map] at hn
        obtain ⟨c, -, rfl⟩ := List.mem_map.mp hn
        cases c <;> rfl
      have hample : σ.Ample := ample_steps ops
      rw [hnone, ← Set.ncard_eq_toFinset_card _ hfinite, Nat.cast_zero, add_zero]
      exact hample w
    · obtain ⟨c, -, hc⟩ := List.mem_map.mp (List.mem_of_getElem? hγ)
      cases c <;> cases hc
  obtain ⟨γs, hwatched⟩ := Pool.run_watched_calm (fun _ _ _ ⟨_, h⟩ hC => h.sustains hC)
    (watched_callPool settings (I := fun γs σ journal => ∃ held, SlotState w held γs σ journal)
      ⟨_, hstart⟩) hunraced
  obtain ⟨held, hstate⟩ := hwatched.holds
  set σ' := ((callPool settings σ calls).run (serviceMachine env) (calm schedule)).state
  -- every active session holds a slot, and the counter counts all that are held
  have hsub : σ'.activeSessions w ⊆ held :=
    (activeSessions_subset_underWay σ' w).trans hstate.underWay
  have hcard : (σ'.activeSessions w).ncard ≤ held.card := by
    rw [← Set.ncard_coe_finset held]
    exact Set.ncard_le_ncard hsub held.finite_toSet
  have hcounter := hstate.counter
  omega

/-- An abort and an initiation take turns. -/
theorem racing_keeps_slots_sample :
    ((((callPool Sample.twoUploads (Run.steps Sample.environment Sample.twoUploads Run.start
        [.call (.initiate Sample.upload) []]).world
        [.abort Sample.workspace Sample.session, .initiate Sample.upload]).run
        (serviceMachine Sample.environment)
        (calm [0, 1, 0, 1, 0, 1, 0, 1, 0, 1])).state.activeSessions Sample.workspace).ncard : ℤ) ≤
      ((callPool Sample.twoUploads (Run.steps Sample.environment Sample.twoUploads Run.start
        [.call (.initiate Sample.upload) []]).world
        [.abort Sample.workspace Sample.session, .initiate Sample.upload]).run
        (serviceMachine Sample.environment)
        (calm [0, 1, 0, 1, 0, 1, 0, 1, 0, 1])).state.counter Sample.workspace :=
  racing_keeps_slots Sample.environment Sample.twoUploads [.call (.initiate Sample.upload) []]
    Sample.workspace [.abort Sample.workspace Sample.session, .initiate Sample.upload]
    [0, 1, 0, 1, 0, 1, 0, 1, 0, 1] (by decide) (by decide +kernel)

/-- Two aborts of one session return two slots: the other session is still under way, and the
counter says zero. -/
theorem aborts_return_two_slots :
    ¬ ((((callPool Sample.twoUploads (Run.steps Sample.environment Sample.twoUploads Run.start
        [.call (.initiate Sample.upload) [], .call (.initiate Sample.upload) []]).world
        [.abort Sample.workspace Sample.session, .abort Sample.workspace Sample.session]).run
        (serviceMachine Sample.environment)
        (calm [0, 1, 0, 1, 0, 0, 0, 1, 1, 1])).state.activeSessions Sample.workspace).ncard : ℤ) ≤
      ((callPool Sample.twoUploads (Run.steps Sample.environment Sample.twoUploads Run.start
        [.call (.initiate Sample.upload) [], .call (.initiate Sample.upload) []]).world
        [.abort Sample.workspace Sample.session, .abort Sample.workspace Sample.session]).run
        (serviceMachine Sample.environment)
        (calm [0, 1, 0, 1, 0, 0, 0, 1, 1, 1])).state.counter Sample.workspace := by
  set σ := ((callPool Sample.twoUploads (Run.steps Sample.environment Sample.twoUploads Run.start
    [.call (.initiate Sample.upload) [], .call (.initiate Sample.upload) []]).world
    [.abort Sample.workspace Sample.session, .abort Sample.workspace Sample.session]).run
    (serviceMachine Sample.environment) (calm [0, 1, 0, 1, 0, 0, 0, 1, 1, 1])).state
  have hactive : ∃ data ∈ σ.session? ⟨Sample.workspace, ⟨8⟩⟩, data.Active := by decide +kernel
  have hcounter : σ.counter Sample.workspace = 0 := by decide +kernel
  have hpos : 0 < (σ.activeSessions Sample.workspace).ncard :=
    (Set.ncard_pos (Set.toFinite _)).mpr ⟨⟨8⟩, hactive⟩
  omega

end RagFileUploader
