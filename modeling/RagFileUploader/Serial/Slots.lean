import RagFileUploader.Serial.Delivery

/-!
# Upload slots

Over a healthy Redis the counter of a workspace is the number of its open sessions: those that
were initiated and neither completed nor aborted.  Expiry does not close a session and neither
does a failure.  So an initiation is never turned away while fewer sessions than the limit are
open; and the counter is the number of sessions under way as long as none expires and every
completion of a ready session goes through.

* `openSessions` reads the open sessions off the history, and `Run.Slotted` says that the counter is
  their number.
* `Run.Slotted.take`, `release` and `idle` are the three ways in which a call moves the two.
* `CallOutcome.slotted` finds the one that a call takes when no command of Redis fails.
-/

namespace RagFileUploader

open Effects Stores

variable {env : Environment} {settings : Settings} {F : Fault → Prop} {σ σ' : World} {w s : UUID}
  {run : Run} {record : Record} {history : List Record}

instance : Finite UUID :=
  Finite.of_injective (fun u : UUID => u.int.toFin) fun u v h => by
    have hint : u.int = v.int := BitVec.eq_of_toFin_eq h
    cases u
    cases v
    exact congrArg UUID.mk hint

/-! ## Open sessions -/

/-- The session for which a call took a slot of the workspace. -/
def Record.takes (w : UUID) : Record → Option UUID
  | ⟨.initiate request, .ok (.initiated response)⟩ =>
      if request.workspaceId = w then some response.sessionId else none
  | _ => none

/-- The session for which a call gave a slot of the workspace back. -/
def Record.returns (w : UUID) : Record → Option UUID
  | ⟨.complete request, .ok _⟩ =>
      if request.workspaceId = w then some request.sessionId else none
  | ⟨.abort workspaceId sessionId, .ok _⟩ => if workspaceId = w then some sessionId else none
  | _ => none

/-- The sessions of a workspace that were initiated and neither completed nor aborted. -/
def openSessions (history : List Record) (w : UUID) : Set UUID :=
  {s | (∃ record ∈ history, record.takes w = some s) ∧
    ∀ record ∈ history, record.returns w ≠ some s}

theorem openSessions_idle (htakes : record.takes w = none) (hreturns : record.returns w = none) :
    openSessions (record :: history) w = openSessions history w := by
  ext s
  simp [openSessions, htakes, hreturns]

theorem openSessions_take (htakes : record.takes w = some s) (hreturns : record.returns w = none)
    (hnew : ∀ record ∈ history, record.returns w ≠ some s) :
    openSessions (record :: history) w = insert s (openSessions history w) := by
  ext s'
  simp only [openSessions, List.mem_cons, exists_eq_or_imp, forall_eq_or_imp, htakes, hreturns,
    Set.mem_ofPred_eq, Set.mem_insert_iff, Option.some.injEq, reduceCtorEq, ne_eq,
    not_false_eq_true, true_and]
  constructor
  · rintro ⟨rfl | htaken, hreturned⟩
    · exact .inl rfl
    · exact .inr ⟨htaken, hreturned⟩
  · rintro (rfl | ⟨htaken, hreturned⟩)
    · exact ⟨.inl rfl, hnew⟩
    · exact ⟨.inr htaken, hreturned⟩

theorem openSessions_return (htakes : record.takes w = none)
    (hreturns : record.returns w = some s) :
    openSessions (record :: history) w = openSessions history w \ {s} := by
  ext s'
  simp only [openSessions, List.mem_cons, exists_eq_or_imp, forall_eq_or_imp, htakes, hreturns,
    Set.mem_ofPred_eq, Set.mem_sdiff, Set.mem_singleton_iff, Option.some.injEq, reduceCtorEq, ne_eq,
    false_or]
  constructor
  · rintro ⟨htaken, hne, hreturned⟩
    exact ⟨⟨htaken, hreturned⟩, Ne.symm hne⟩
  · rintro ⟨⟨htaken, hreturned⟩, hne⟩
    exact ⟨htaken, Ne.symm hne, hreturned⟩

/-! ## Sessions under way -/

/-- The hash of a session whose upload is under way. -/
def SessionHash.Active (data : SessionHash) : Prop :=
  data.status = SessionStatus.pending.value ∨ data.status = SessionStatus.inProgress.value

instance (data : SessionHash) : Decidable data.Active := inferInstanceAs (Decidable (_ ∨ _))

theorem active_serialize {session : UploadSession} :
    (RedisSessionStore.serializeSession session).Active ↔ ¬ session.status.Terminal := by
  rw [SessionStatus.not_terminal_iff]
  exact or_congr ⟨SessionStatus.value_injective, congrArg SessionStatus.value⟩
    ⟨SessionStatus.value_injective, congrArg SessionStatus.value⟩

/-- The sessions of a workspace that are stored PENDING or IN_PROGRESS. -/
def World.activeSessions (σ : World) (w : UUID) : Set UUID :=
  {s | ∃ data, σ.session? ⟨w, s⟩ = some data ∧ data.Active}

/-- Only generated ids matter for the sessions under way. -/
theorem activeSessions_eq_empty (hσ : σ.Issued env)
    (h : ∀ s ∈ σ.ids env, ∀ data ∈ σ.session? ⟨w, s⟩, ¬ data.Active) : σ.activeSessions w = ∅ := by
  refine Set.eq_empty_of_forall_notMem fun s ⟨data, hdata, hactive⟩ => ?_
  obtain ⟨d, hentry, -⟩ := Keyspace.get?_eq_some_iff.mp hdata
  exact h s (hσ _ _ hentry) data hdata hactive

/-! ## The counter counts the open sessions -/

/-- The counter of every workspace is the number of its open sessions, which include all that are
under way. -/
structure Run.Slotted (env : Environment) (run : Run) : Prop where
  issued : run.world.Issued env
  known : ∀ w s, ∀ record ∈ run.history, record.takes w = some s ∨ record.returns w = some s →
    s ∈ run.world.ids env
  open_of_active : ∀ w s entry, run.world.sessions ⟨w, s⟩ = some entry → entry.value.Active →
    s ∈ openSessions run.history w
  counter : ∀ w, run.world.counter w = (openSessions run.history w).ncard

/-- What is under way in `σ'` was under way in `σ`, and it is not the given session. -/
def ActiveFrom (σ σ' : World) (w s : UUID) : Prop :=
  ∀ w' s' entry, σ'.sessions ⟨w', s'⟩ = some entry → entry.value.Active →
    ¬ (w' = w ∧ s' = s) ∧ ∃ entry', σ.sessions ⟨w', s'⟩ = some entry' ∧ entry'.value.Active

theorem Run.Slotted.idle (h : run.Slotted env) (hissued : σ'.Issued env)
    (hdrawn : run.world.drawn ≤ σ'.drawn)
    (hidle : ∀ w, record.takes w = none ∧ record.returns w = none)
    (hactive : ∀ key entry, σ'.sessions key = some entry → entry.value.Active →
      ∃ entry', run.world.sessions key = some entry' ∧ entry'.value.Active)
    (hcounter : ∀ w, σ'.counter w = run.world.counter w) :
    Run.Slotted env ⟨σ', record :: run.history⟩ := by
  have hsub : (run.world.ids env).Sublist (σ'.ids env) := ids_sublist hdrawn
  refine ⟨hissued, fun w s record' hmem hof => ?_, fun w s entry hentry hact => ?_, fun w => ?_⟩
  · rcases List.mem_cons.mp hmem with rfl | hmem
    · simp [(hidle w).1, (hidle w).2] at hof
    · exact hsub.subset (h.known w s record' hmem hof)
  · obtain ⟨entry', hentry', hact'⟩ := hactive _ entry hentry hact
    rw [openSessions_idle (hidle w).1 (hidle w).2]
    exact h.open_of_active w s entry' hentry' hact'
  · rw [openSessions_idle (hidle w).1 (hidle w).2]
    exact (hcounter w).trans (h.counter w)

/-- A session that is under way gives its slot back. -/
theorem Run.Slotted.release (h : run.Slotted env) (hissued : σ'.Issued env)
    (hdrawn : run.world.drawn ≤ σ'.drawn) (htakes : ∀ w, record.takes w = none)
    (hreturns : ∀ w', record.returns w' = if w = w' then some s else none)
    (hopen : s ∈ openSessions run.history w)
    (hactive : ActiveFrom run.world σ' w s)
    (hcounter : σ'.counters =
      (run.world.setCounter w (max 0 (run.world.counter w - 1))).counters) :
    Run.Slotted env ⟨σ', record :: run.history⟩ := by
  have hsub : (run.world.ids env).Sublist (σ'.ids env) := ids_sublist hdrawn
  have hothers : ∀ w', w ≠ w' → openSessions (record :: run.history) w' =
      openSessions run.history w' := fun w' hne =>
    openSessions_idle (htakes w') (by rw [hreturns, if_neg hne])
  have hself : openSessions (record :: run.history) w = openSessions run.history w \ {s} :=
    openSessions_return (htakes w) (by rw [hreturns, if_pos rfl])
  refine ⟨hissued, fun w' s' record' hmem hof => ?_, fun w' s' entry hentry hact => ?_,
    fun w' => ?_⟩
  · rcases List.mem_cons.mp hmem with rfl | hmem
    · rw [htakes, hreturns] at hof
      by_cases hw : w = w'
      · simp only [if_pos hw, reduceCtorEq, Option.some.injEq, false_or] at hof
        obtain ⟨record, hrecord, htaken⟩ := hopen.1
        exact hof ▸ hsub.subset (h.known w s record hrecord (.inl htaken))
      · simp [hw] at hof
    · exact hsub.subset (h.known w' s' record' hmem hof)
  · obtain ⟨hne, entry', hentry', hact'⟩ := hactive w' s' entry hentry hact
    have hmem := h.open_of_active w' s' entry' hentry' hact'
    by_cases hw : w = w'
    · subst hw
      rw [hself]
      exact ⟨hmem, fun hs => hne ⟨rfl, hs⟩⟩
    · rwa [hothers w' hw]
  · have hcount : σ'.counter w' =
        (run.world.setCounter w (max 0 (run.world.counter w - 1))).counter w' := by
      simp only [World.counter, hcounter]
    rw [hcount]
    by_cases hw : w = w'
    · subst hw
      -- the session was open, so clamping at zero does nothing
      have hpos : 0 < (openSessions run.history w).ncard :=
        (Set.ncard_pos (Set.toFinite _)).mpr ⟨s, hopen⟩
      rw [World.counter_setCounter_self, hself, Set.ncard_sdiff_singleton_of_mem hopen, h.counter w]
      omega
    · rw [World.counter_setCounter_of_ne _ (Ne.symm hw), hothers w' hw]
      exact h.counter w'

/-- A fresh session takes a slot. -/
theorem Run.Slotted.take (h : run.Slotted env) (hissued : σ'.Issued env)
    (hids : (σ'.ids env).Nodup) (hdrawn : σ'.drawn = run.world.drawn + 1)
    (htakes : ∀ w', record.takes w' =
      if w = w' then some (env.uuid4 run.world.drawn) else none)
    (hreturns : ∀ w, record.returns w = none)
    (hactive : ∀ w' s' entry, σ'.sessions ⟨w', s'⟩ = some entry → entry.value.Active →
      (w = w' ∧ s' = env.uuid4 run.world.drawn) ∨
        ∃ entry', run.world.sessions ⟨w', s'⟩ = some entry' ∧ entry'.value.Active)
    (hcounter : σ'.counters = (run.world.setCounter w (run.world.counter w + 1)).counters) :
    Run.Slotted env ⟨σ', record :: run.history⟩ := by
  have hsub : (run.world.ids env).Sublist (σ'.ids env) := ids_sublist (by omega)
  have hfresh : env.uuid4 run.world.drawn ∉ run.world.ids env :=
    uuid4_notMem_ids hids (by omega)
  -- a fresh id has not been returned yet
  have hnew : ∀ record ∈ run.history, record.returns w ≠ some (env.uuid4 run.world.drawn) :=
    fun record hrecord heq => hfresh (h.known w _ record hrecord (.inr heq))
  have hself : openSessions (record :: run.history) w =
      insert (env.uuid4 run.world.drawn) (openSessions run.history w) :=
    openSessions_take (by rw [htakes, if_pos rfl]) (hreturns w) hnew
  have hothers : ∀ w', w ≠ w' → openSessions (record :: run.history) w' =
      openSessions run.history w' := fun w' hne =>
    openSessions_idle (by rw [htakes, if_neg hne]) (hreturns w')
  refine ⟨hissued, fun w' s' record' hmem hof => ?_, fun w' s' entry hentry hact => ?_,
    fun w' => ?_⟩
  -- the ids in the history are ids that were generated
  · rcases List.mem_cons.mp hmem with rfl | hmem
    · rw [htakes, hreturns] at hof
      by_cases hw : w = w'
      · simp only [if_pos hw, reduceCtorEq, Option.some.injEq, or_false] at hof
        rw [← hof, World.ids, hdrawn]
        exact List.mem_map_of_mem (List.mem_range.mpr (Nat.lt_succ_self _))
      · simp [hw] at hof
    · exact hsub.subset (h.known w' s' record' hmem hof)
  · rcases hactive w' s' entry hentry hact with ⟨rfl, rfl⟩ | ⟨entry', hentry', hact'⟩
    · rw [hself]
      exact Set.mem_insert _ _
    · have hmem := h.open_of_active w' s' entry' hentry' hact'
      by_cases hw : w = w'
      · subst hw
        rw [hself]
        exact Set.mem_insert_of_mem _ hmem
      · rwa [hothers w' hw]
  · have hcount : σ'.counter w' =
        (run.world.setCounter w (run.world.counter w + 1)).counter w' := by
      simp only [World.counter, hcounter]
    rw [hcount]
    -- one open session more, and one more in the counter
    by_cases hw : w = w'
    · subst hw
      have hnotMem : env.uuid4 run.world.drawn ∉ openSessions run.history w := by
        rintro ⟨⟨record, hrecord, htaken⟩, -⟩
        exact hfresh (h.known w _ record hrecord (.inl htaken))
      rw [World.counter_setCounter_self, hself, Set.ncard_insert_of_notMem hnotMem, h.counter w]
      push_cast
      rfl
    · rw [World.counter_setCounter_of_ne _ (Ne.symm hw), hothers w' hw]
      exact h.counter w'

/-! ## One call over a healthy Redis -/

/-- No listed fault is in one of these areas. -/
def Spared (areas : List Area) (faults : List (Option Fault)) : Prop :=
  ∀ fault ∈ faults, ∀ f ∈ fault, f.area ∉ areas

instance (areas : List Area) (faults : List (Option Fault)) : Decidable (Spared areas faults) :=
  inferInstanceAs (Decidable (∀ fault ∈ faults, ∀ f ∈ fault, f.area ∉ areas))

theorem Spared.not_canFail {areas : List Area} {faults : List (Option Fault)}
    (h : Spared areas faults) : ∀ area ∈ areas, ¬ CanFail (some · ∈ faults) area := by
  rintro area harea ⟨f, hf, rfl⟩
  exact h (some f) hf f rfl harea

theorem Spared.mono {areas areas' : List Area} {faults : List (Option Fault)}
    (h : Spared areas' faults) (hsub : areas ⊆ areas') : Spared areas faults :=
  fun fault hfault f hf harea => h fault hfault f hf (hsub harea)

theorem Spared.append {areas areas' : List Area} {faults : List (Option Fault)}
    (h : Spared areas faults) (h' : Spared areas' faults) : Spared (areas ++ areas') faults :=
  fun fault hfault f hf harea => (List.mem_append.mp harea).elim (h fault hfault f hf)
    (h' fault hfault f hf)

/-- No fault of the call hits session hashes, chunks or counters. -/
def Op.RedisHealthy : Op → Prop
  | .call _ faults => Spared [.sessions, .chunks, .counters] faults
  | .tick _ => True

instance : (op : Op) → Decidable op.RedisHealthy
  | .call _ faults => inferInstanceAs (Decidable (Spared _ faults))
  | .tick _ => isTrue trivial

/-- Writing over a session that was read. -/
theorem active_putSession {session : UploadSession} (session' : UploadSession)
    (hreads : σ.Reads w s session) (hkey : session'.key = session.key) {key : SessionKey}
    {entry : Entry SessionHash} (hentry : (σ.putSession session').sessions key = some entry) :
    (key = ⟨w, s⟩ ∧ entry.value = RedisSessionStore.serializeSession session') ∨
      (key ≠ ⟨w, s⟩ ∧ σ.sessions key = some entry) := by
  have hkey' : session'.key = ⟨w, s⟩ := hkey.trans hreads.key_eq
  obtain ⟨d, hstored, hlive⟩ := hreads.exists_entry
  by_cases hsame : key = ⟨w, s⟩
  · subst hsame
    rw [putSession_self hkey' hstored hlive] at hentry
    cases hentry
    exact .inl ⟨rfl, rfl⟩
  · simp only [World.putSession, hkey'] at hentry
    exact .inr ⟨hsame, (Keyspace.overwrite_of_ne hsame).symm.trans hentry⟩

theorem CallOutcome.slotted {c : Call} {r : Except Exc Response}
    (houtcome : CallOutcome env settings F run.world c r σ')
    (hhealthy : ∀ area ∈ [Area.sessions, .chunks, .counters], ¬ CanFail F area)
    (hids : (σ'.ids env).Nodup) (h : run.Slotted env) :
    Run.Slotted env ⟨σ', ⟨c, r⟩ :: run.history⟩ := by
  have hsessions : ¬ CanFail F .sessions := hhealthy _ (by simp)
  have hcounters : ¬ CanFail F .counters := hhealthy _ (by simp)
  have hissued : σ'.Issued env := houtcome.issued h.issued
  have hdrawn : run.world.drawn ≤ σ'.drawn := houtcome.drawn_le
  have hsame : ∀ key entry, run.world.sessions key = some entry → entry.value.Active →
      ∃ entry', run.world.sessions key = some entry' ∧ entry'.value.Active :=
    fun _ entry hentry hact => ⟨entry, hentry, hact⟩
  cases houtcome with
  | @initiate request r σ' ho =>
      cases ho with
      | refused => exact h.idle hissued hdrawn (fun _ => ⟨rfl, rfl⟩) hsame fun _ => rfl
      | rolledBack e n _ hn =>
          -- the slot that was taken is given back, as no decrement fails
          have hn' : n = run.world.counter request.workspaceId := by
            rcases hn with hn | ⟨hcan, -⟩
            · rw [hn, h.counter request.workspaceId]
              exact max_eq_right (Int.natCast_nonneg _)
            · exact absurd hcan hcounters
          refine h.idle hissued hdrawn (fun _ => ⟨rfl, rfl⟩) hsame fun w => ?_
          by_cases hw : w = request.workspaceId
          · subst hw
            rw [World.counter_setCounter_self, hn']
          · rw [World.counter_setCounter_of_ne _ hw]
            exact World.counter_setCounter_of_ne _ hw _
      | created session createdAt expiresAt hvalid hnew =>
          obtain ⟨hkey, -⟩ := InitiateUploadUseCase.newSession_eq_ok hnew
          have hworkspace : session.workspaceId = request.workspaceId :=
            congrArg SessionKey.workspaceId hkey
          -- the only new session, and the only new entry in the count, is the fresh one
          refine h.take hissued hids rfl (w := request.workspaceId) (fun _ => rfl) (fun _ => rfl)
            (fun w' s' entry hentry hact => ?_) (by rw [← hworkspace]; rfl)
          change (run.world.sessions.put session.key _ _) ⟨w', s'⟩ = some entry at hentry
          rw [hkey] at hentry
          rcases Keyspace.of_put_eq_some hentry with ⟨hnew, -⟩ | ⟨-, hold⟩
          · cases hnew
            exact .inl ⟨rfl, rfl⟩
          · exact .inr ⟨entry, hold, hact⟩
  | @processChunk request r σ' ho =>
      cases ho with
      | rejected => exact h.idle hissued hdrawn (fun _ => ⟨rfl, rfl⟩) hsame fun _ => rfl
      | stray => exact h.idle hissued hdrawn (fun _ => ⟨rfl, rfl⟩) hsame fun _ => rfl
      | accepted session session' index reads hvalid hrecord =>
          have hactive : ¬ session.status.Terminal :=
            (ProcessChunkUseCase.validate_eq_ok hvalid).1
          refine h.idle hissued hdrawn (fun _ => ⟨rfl, rfl⟩) (fun key entry hentry hact => ?_)
            fun _ => rfl
          rcases active_putSession session' (σ := run.world) reads
            (ProcessChunkUseCase.key_recordChunk hrecord hactive) hentry with
            ⟨rfl, -⟩ | ⟨-, hentry'⟩
          · obtain ⟨d, hstored, -⟩ := reads.exists_entry
            exact ⟨_, hstored, active_serialize.mpr hactive⟩
          · exact ⟨entry, hentry', hact⟩
  | @complete request r σ' ho =>
      cases ho with
      | notReady => exact h.idle hissued hdrawn (fun _ => ⟨rfl, rfl⟩) hsame fun _ => rfl
      | unpublished e session σ' reads ready obstacle hu =>
          refine h.idle hissued hdrawn (fun _ => ⟨rfl, rfl⟩) (fun key entry hentry hact => ?_)
            fun w => by simp only [World.counter, hu.counters]
          -- at most the session is FAILED by now, which opens none
          rcases hu.sessions with hs | hs
          · exact ⟨entry, hs ▸ hentry, hact⟩
          · rw [hs] at hentry
            rcases active_putSession session.markFailed reads rfl hentry with
              ⟨-, hvalue⟩ | ⟨-, hentry'⟩
            · rw [hvalue, active_serialize] at hact
              exact absurd (by decide : SessionStatus.Terminal .failed) hact
            · exact ⟨entry, hentry', hact⟩
      | unsettled e session chunks σ' _ _ _ why =>
          exact absurd why (not_or.mpr ⟨hsessions, hcounters⟩)
      | completed session chunks σ₁ σ' reads ready hpublished hframe hcompleted =>
          obtain ⟨hstatus, -, -⟩ := CompleteUploadUseCase.validateSession_eq_ok ready
          obtain ⟨d, hstored, -⟩ := reads.exists_entry
          -- the session was open until now, so there is a slot to give back
          have hopen := h.open_of_active _ _ _ hstored (active_serialize.mpr (by
            rw [hstatus]; decide))
          have hs : σ'.sessions =
              (run.world.putSession (session.withStatus .complete)).sessions := by
            rw [hcompleted.sessions]
            exact CompleteUploadUseCase.sessions_putSession_congr hframe.1 hpublished.clock
          refine h.release (s := request.sessionId) (w := request.workspaceId) hissued hdrawn
            (fun _ => rfl) (fun _ => rfl) hopen (fun w' s' entry hentry hact => ?_) ?_
          · rw [hs] at hentry
            rcases active_putSession (session.withStatus .complete) reads rfl hentry with
              ⟨-, hvalue⟩ | ⟨hne, hentry'⟩
            · rw [hvalue, active_serialize] at hact
              exact absurd (by decide : SessionStatus.Terminal .complete) hact
            · exact ⟨fun hboth => hne (by rw [hboth.1, hboth.2]), entry, hentry', hact⟩
          · rcases hcompleted.counters with hc | ⟨hcan, -⟩
            · rw [hc]
              simp only [World.setCounter, World.counter, hframe.2.2.1]
            · exact absurd hcan hcounters
  | @abort w s r σ' ho =>
      cases ho with
      | rejected => exact h.idle hissued hdrawn (fun _ => ⟨rfl, rfl⟩) hsame fun _ => rfl
      | marked e session reads hactive why => exact absurd why hsessions
      | removed r session counters reads hactive hr hreleased =>
          obtain rfl : r = .ok () := hr.resolve_right hcounters
          obtain ⟨d, hstored, -⟩ := reads.exists_entry
          have hopen := h.open_of_active _ _ _ hstored (active_serialize.mpr hactive)
          refine h.release (s := s) (w := w) hissued hdrawn (fun _ => rfl) (fun _ => rfl) hopen
            (fun w' s' entry hentry hact => ?_) ?_
          · change run.world.sessions.erase ⟨w, s⟩ ⟨w', s'⟩ = some entry at hentry
            obtain ⟨hkey, hold⟩ := Keyspace.of_erase_eq_some hentry
            exact ⟨fun hboth => hkey (by rw [hboth.1, hboth.2]), entry, hold, hact⟩
          · rcases hreleased with hc | ⟨hcan, -⟩
            · exact hc
            · exact absurd hcan hcounters

end RagFileUploader
