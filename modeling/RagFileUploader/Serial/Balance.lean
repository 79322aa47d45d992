import RagFileUploader.Serial.Capacity
import RagFileUploader.Infrastructure.Footprint
import RagFileUploader.Infrastructure.Frames

/-!
# The counter under faults

Whatever fails and however calls are retried, the counter of a workspace never drops below the
number of its stored sessions that are under way, not even in the middle of a call.  A slot is
only given back after its own session has left the store's active sessions, so no decrement
reaches below zero.

* `World.Ample` is the invariant, and `World.Spare` what a call relies on while it holds a slot for
  which there is no session: an initiation before it stores its session, a completion or an abort
  after it has stored its verdict.
* `World.Ample.take` and `World.Spare.give` move between the two along the counter,
  `World.Spare.create` and `spare_putSession` along the sessions.
* Most parts of a call touch neither, and `safe_quiet_bind` passes over them.  What remains is one
  `safe_execute` for each use case.
* `Run.balanced` is the induction over the run, and `no_slot_returned_twice` reads it at every
  command in between.
-/

namespace RagFileUploader

open Effects Stores

variable {env : Environment} {settings : Settings} {F : Fault → Prop} {σ σ' : World} {w s : UUID}
  {α : Type}

/-! ## Slots and sessions -/

/-- The stored sessions of a workspace that are under way, expired ones included. -/
def World.underWay (σ : World) (w : UUID) : Set UUID := {s | StoredActive σ w s}

/-- Every workspace has taken at least as many slots as it has sessions under way. -/
def World.Ample (σ : World) : Prop := ∀ w, ((σ.underWay w).ncard : ℤ) ≤ σ.counter w

/-- The workspace has taken one slot more than that. -/
structure World.Spare (σ : World) (w : UUID) : Prop where
  ample : σ.Ample
  spare : ((σ.underWay w).ncard : ℤ) + 1 ≤ σ.counter w

theorem World.Ample.congr (h : σ.Ample) (hsessions : σ'.sessions = σ.sessions)
    (hcounters : σ'.counters = σ.counters) : σ'.Ample := by
  intro w
  simp only [World.underWay, StoredActive, hsessions, World.counter, hcounters]
  exact h w

theorem World.Spare.congr (h : σ.Spare w) (hsessions : σ'.sessions = σ.sessions)
    (hcounters : σ'.counters = σ.counters) : σ'.Spare w := by
  refine ⟨h.ample.congr hsessions hcounters, ?_⟩
  simp only [World.underWay, StoredActive, hsessions, World.counter, hcounters]
  exact h.spare

theorem underWay_ncard_le (h : σ'.underWay w ⊆ σ.underWay w) :
    (σ'.underWay w).ncard ≤ (σ.underWay w).ncard :=
  Set.ncard_le_ncard h (Set.toFinite _)

theorem World.Ample.anti (h : σ.Ample) (hsub : ∀ w, σ'.underWay w ⊆ σ.underWay w)
    (hcounters : σ'.counters = σ.counters) : σ'.Ample := by
  intro w
  have hle := underWay_ncard_le (hsub w)
  have hample := h w
  simp only [World.counter, hcounters] at hample ⊢
  omega

theorem World.Spare.anti (h : σ.Spare w) (hsub : ∀ w, σ'.underWay w ⊆ σ.underWay w)
    (hcounters : σ'.counters = σ.counters) : σ'.Spare w := by
  refine ⟨h.ample.anti hsub hcounters, ?_⟩
  have hle := underWay_ncard_le (hsub w)
  have hspare := h.spare
  simp only [World.counter, hcounters] at hspare ⊢
  omega

/-- A session that leaves the sessions under way leaves a slot behind. -/
theorem World.Ample.spare (h : σ.Ample) (hmem : s ∈ σ.underWay w)
    (hsub : ∀ w, σ'.underWay w ⊆ σ.underWay w) (hleft : s ∉ σ'.underWay w)
    (hcounters : σ'.counters = σ.counters) : σ'.Spare w := by
  refine ⟨h.anti hsub hcounters, ?_⟩
  have hlt : (σ'.underWay w).ncard < (σ.underWay w).ncard :=
    Set.ncard_lt_ncard ⟨hsub w, fun hback => hleft (hback hmem)⟩ (Set.toFinite _)
  have hample := h w
  simp only [World.counter, hcounters] at hample ⊢
  omega

/-- A slot is taken. -/
theorem World.Ample.take (h : σ.Ample) (w : UUID) :
    (σ.setCounter w (σ.counter w + 1)).Spare w := by
  have hself : (σ.setCounter w (σ.counter w + 1)).counter w = σ.counter w + 1 :=
    World.counter_setCounter_self σ w _
  have hwself := h w
  refine ⟨fun w' => ?_, ?_⟩
  · change ((σ.underWay w').ncard : ℤ) ≤ _
    by_cases hw : w' = w
    · subst hw
      omega
    · rw [World.counter_setCounter_of_ne σ hw]
      exact h w'
  · change ((σ.underWay w).ncard : ℤ) + 1 ≤ _
    omega

/-- The slot is given back. -/
theorem World.Spare.give (h : σ.Spare w) :
    (σ.setCounter w (σ.counter w - 1)).Ample := by
  intro w'
  change ((σ.underWay w').ncard : ℤ) ≤ _
  by_cases hw : w' = w
  · subst hw
    have hspare := h.spare
    rw [World.counter_setCounter_self]
    omega
  · rw [World.counter_setCounter_of_ne σ hw]
    exact h.ample w'

/-- Whatever becomes of the decrement, there are enough slots. -/
theorem World.Spare.released {counters : UUID → Option ℤ} (h : σ.Spare w)
    (hreleased : Released F σ w counters) : World.Ample { σ with counters } := by
  have hspare := h.spare
  rcases hreleased with hc | ⟨-, hc | ⟨hlt, -⟩⟩
  · rw [max_eq_right (by omega)] at hc
    exact h.give.congr rfl hc
  · exact h.ample.congr rfl hc
  · omega

/-- Writing over a session that was read and is under way adds nothing. -/
theorem underWay_putSession_subset {session session' : UploadSession} (hreads : σ.Reads w s session)
    (hactive : ¬ session.status.Terminal) (hkey : session'.key = session.key) (w' : UUID) :
    (σ.putSession session').underWay w' ⊆ σ.underWay w' := by
  rintro s' ⟨entry, hentry, hact⟩
  rcases active_putSession session' hreads hkey hentry with ⟨hsame, -⟩ | ⟨-, hentry⟩
  · cases hsame
    obtain ⟨d, hstored, -⟩ := hreads.exists_entry
    exact ⟨_, hstored, active_serialize.mpr hactive⟩
  · exact ⟨entry, hentry, hact⟩

/-- Writing a finished session adds nothing, wherever it is written. -/
theorem World.Ample.finish {session : UploadSession} (h : σ.Ample)
    (hterminal : session.status.Terminal) : (σ.putSession session).Ample := by
  refine h.anti (fun w s ⟨entry, hentry, hact⟩ => ?_) rfl
  by_cases hkey : (⟨w, s⟩ : SessionKey) = session.key
  · have hself : (σ.putSession session).sessions session.key =
        some ⟨RedisSessionStore.serializeSession session, _⟩ := Keyspace.put_self
    rw [hkey] at hentry
    cases hself.symm.trans hentry
    exact absurd hterminal (active_serialize.mp hact)
  · exact ⟨entry, (Keyspace.overwrite_of_ne hkey).symm.trans hentry, hact⟩

/-- Ending a session that is under way frees its slot. -/
theorem spare_putSession {session : UploadSession} {status : SessionStatus} (h : σ.Ample)
    (hreads : σ.Reads w s session) (hactive : ¬ session.status.Terminal)
    (hstatus : status.Terminal) : (σ.putSession (session.withStatus status)).Spare w := by
  obtain ⟨d, hstored, hlive⟩ := hreads.exists_entry
  refine h.spare (s := s) ⟨_, hstored, active_serialize.mpr hactive⟩
    (underWay_putSession_subset hreads hactive rfl) ?_ rfl
  rintro ⟨entry, hentry, hact⟩
  have hself : (σ.putSession (session.withStatus status)).sessions ⟨w, s⟩ =
      some ⟨RedisSessionStore.serializeSession (session.withStatus status), d⟩ :=
    putSession_self hreads.key_eq hstored hlive
  cases hself.symm.trans hentry
  exact active_serialize.mp hact hstatus

/-! ## Balanced commands -/

/-- The command keeps enough slots taken, and it does not clamp a counter. -/
structure Balanced (env : Environment) (σ : World) (c : Command) : Prop where
  before : σ.Ample
  after : (c.act env σ).2.Ample
  unclamped : ∀ w value, c ≠ .hsetCounter w value

/-- A command that touches neither sessions nor counters. -/
def Quiet (c : Command) : Prop := c.area ≠ .sessions ∧ c.area ≠ .counters

theorem InArea.quiet {area : Area} {c : Command} (h : InArea area w c)
    (hs : area ≠ .sessions) (hc : area ≠ .counters) : Quiet c := by
  rw [← h.1] at hs hc
  exact ⟨hs, hc⟩

/-- Sessions and counters are as in the first world. -/
structure SameSlots (σ σ' : World) : Prop where
  sessions : σ'.sessions = σ.sessions
  counters : σ'.counters = σ.counters
  clock : σ'.clock = σ.clock

theorem SameSlots.refl (σ : World) : SameSlots σ σ := ⟨rfl, rfl, rfl⟩

theorem SameSlots.ample (h : SameSlots σ σ') (hσ : σ.Ample) : σ'.Ample :=
  hσ.congr h.sessions h.counters

theorem SameSlots.reads {session : UploadSession} (h : SameSlots σ σ')
    (hreads : σ.Reads w s session) : σ'.Reads w s session where
  valid := hreads.valid
  key_eq := hreads.key_eq
  stored := (CompleteUploadUseCase.session?_congr h.sessions h.clock).trans hreads.stored

theorem Quiet.balanced {c : Command} {σ'' : World} (hc : Quiet c) (hσ : σ.Ample)
    (h : SameSlots σ σ'') : Balanced env σ'' c ∧ SameSlots σ (c.act env σ'').2 := by
  have hafter : SameSlots σ (c.act env σ'').2 :=
    ⟨(Command.sessions_act_of_area hc.1).trans h.sessions,
      (Command.counters_act_of_area hc.2).trans h.counters, c.clock_act.trans h.clock⟩
  refine ⟨⟨h.ample hσ, hafter.ample hσ, ?_⟩, hafter⟩
  rintro w value rfl
  exact hc.2 rfl

/-- A quiet part of a program leaves the rest as much as it found. -/
theorem safe_quiet_bind {β : Type} {p : Service α} {f : α → Service β} (hp : p.Issues Quiet)
    (hσ : σ.Ample) (h : SameSlots σ σ')
    (hf : ∀ a σ'', SameSlots σ σ'' → (f a).Safe (serviceMachine env) F (Balanced env) σ'') :
    (p >>= f).Safe (serviceMachine env) F (Balanced env) σ' :=
  hp.safe_bind (I := SameSlots σ) (fun _ _ hc h => hc.balanced hσ h) h hf

theorem safe_quiet {p : Service α} (hp : p.Issues Quiet) (hσ : σ.Ample) :
    p.Safe (serviceMachine env) F (Balanced env) σ :=
  hp.safe (I := SameSlots σ) (fun _ _ hc h => hc.balanced hσ h) (.refl σ)

/-! ## The parts that touch sessions and counters -/

theorem safe_getSession (h : σ.Ample) :
    (RedisSessionStore.getSession w s).Safe (serviceMachine env) F (Balanced env) σ := by
  refine (sessionKey_bind_issues (P := fun c => ∃ key, c = .hgetallSession key) ?_).safe
    (I := fun σ' => σ' = σ) ?_ rfl
  · refine Program.Issues.tryCatch (issues_send_bind ⟨_, rfl⟩ fun data? => ?_) fun _ => trivial
    cases data? with
    | none => trivial
    | some data => exact issues_map issues_ofExcept
  · rintro _ σ' ⟨key, rfl⟩ rfl
    exact ⟨⟨h, h, fun _ _ heq => nomatch heq⟩, rfl⟩

theorem safe_updateSession {session : UploadSession} (hσ : σ.Ample)
    (hput : (σ.putSession session).Ample) :
    (RedisSessionStore.updateSession session).Safe (serviceMachine env) F (Balanced env) σ := by
  refine safe_ofExcept_bind fun key hkey => ?_
  obtain ⟨rfl, -⟩ := sessionKey_eq_ok hkey
  refine safe_tryCatch_throw ?_
  · refine Program.Safe.bind ?_ ?_
    · exact Program.safe_perform.mpr ⟨hσ, hσ, fun _ _ heq => by cases heq⟩
    · refine wp_send ?_ fun _ _ _ _ => trivial
      simp only [Command.act, raiseIf]
      split
      · trivial
      · exact Program.safe_perform.mpr ⟨hσ, hput, fun _ _ heq => by cases heq⟩

theorem safe_deleteSession (hσ : σ.Ample) (hremoved : World.Ample { σ with
      sessions := σ.sessions.erase ⟨w, s⟩, expiry := σ.expiry.erase s }) :
    (RedisSessionStore.deleteSession w s).Safe (serviceMachine env) F (Balanced env) σ := by
  refine safe_ofExcept_bind fun key hkey => ?_
  obtain ⟨rfl, -⟩ := sessionKey_eq_ok hkey
  refine safe_tryExcept (safe_map ?_) ?_
  · exact Program.safe_perform.mpr ⟨hσ, hremoved, fun _ _ heq => nomatch heq⟩
  · refine Program.wp_mono Program.wp_true fun r _ _ => ?_
    cases r with
    | ok _ => trivial
    | error _ => exact fun _ => trivial

theorem safe_createSession {session : UploadSession} (hσ : σ.Ample)
    (hcreated : World.Ample { σ with
      sessions := σ.sessions.put session.key (RedisSessionStore.serializeSession session)
        (σ.deadline RedisSessionStore.ttlSeconds)
      expiry := σ.expiry.put session.sessionId (RedisSessionStore.expiryMetadata session)
        (σ.deadline RedisSessionStore.expiryTtlSeconds) }) :
    (RedisSessionStore.createSession session).Safe (serviceMachine env) F (Balanced env) σ := by
  refine safe_ofExcept_bind fun key hkey => ?_
  obtain ⟨rfl, -⟩ := sessionKey_eq_ok hkey
  refine safe_tryCatch_throw ?_
  · exact Program.safe_perform.mpr ⟨hσ, hcreated, fun _ _ heq => nomatch heq⟩

theorem safe_checkAndIncrement (hσ : σ.Ample) :
    (RedisRateLimiter.checkAndIncrement settings w).Safe (serviceMachine env) F (Balanced env)
      σ := by
  refine safe_ofExcept_bind fun key hkey => ?_
  obtain rfl := workspaceKey_eq_ok hkey
  refine safe_tryCatch_throw ?_
  · refine Program.Safe.bind ?_ ?_
    · exact Program.safe_perform.mpr ⟨hσ, hσ, fun _ _ heq => by cases heq⟩
    · refine wp_send ?_ fun _ _ _ _ => trivial
      simp only [Command.act, raiseIf]
      split
      · trivial
      · refine safe_map (Program.safe_perform.mpr ⟨hσ, (hσ.take key).ample, ?_⟩)
        intro _ _ heq
        cases heq

/-- A spare slot can be given back without clamping the counter. -/
theorem safe_decrement (h : σ.Spare w) :
    (RedisRateLimiter.decrement w).Safe (serviceMachine env) F (Balanced env) σ := by
  refine safe_ofExcept_bind fun key hkey => ?_
  obtain rfl := workspaceKey_eq_ok hkey
  have hspare := h.spare
  refine safe_tryCatch_throw ?_
  · refine Program.Safe.bind ?_ ?_
    · exact Program.safe_perform.mpr ⟨h.ample, h.give, fun _ _ heq => nomatch heq⟩
    · refine wp_send ?_ fun _ _ _ _ => trivial
      simp only [Command.act]
      rw [if_neg (by omega)]
      trivial

/-! ## The use cases -/

theorem underWay_erase_subset (key : SessionKey) (w : UUID) :
    World.underWay { σ with
      sessions := σ.sessions.erase key, expiry := σ.expiry.erase s } w ⊆ σ.underWay w := by
  rintro s' ⟨entry, hentry, hact⟩
  exact ⟨entry, (Keyspace.of_erase_eq_some hentry).2, hact⟩

theorem AbortUploadUseCase.safe_execute (hσ : σ.Ample) (hwell : σ.StoredWell ⟨w, s⟩) :
    (execute (dependencies settings) w s).Safe (serviceMachine env) F (Balanced env) σ := by
  refine Program.Safe.bind (safe_getSession hσ) ?_
  refine wp_getSession hwell (fun session hreads => ?_) (fun _ => trivial) fun _ e _ => trivial
  refine safe_ofExcept_bind fun _ hvalid => ?_
  have hspare : (σ.putSession session.markAborted).Spare w :=
    spare_putSession hσ hreads (validate_eq_ok hvalid) (by decide)
  have hkey : session.markAborted.key = ⟨w, s⟩ := hreads.key_eq
  refine Program.Safe.bind (safe_updateSession hσ hspare.ample) ?_
  refine wp_updateSession (hkey ▸ hreads.valid) ?_ ?_ fun _ _ _ => trivial
  · rw [hkey]
    exact fun h => nomatch hreads.stored.symm.trans h
  have hremoved : World.Spare { σ.putSession session.markAborted with
      sessions := (σ.putSession session.markAborted).sessions.erase ⟨w, s⟩
      expiry := (σ.putSession session.markAborted).expiry.erase s } w :=
    hspare.anti (underWay_erase_subset _) rfl
  refine Program.Safe.bind (safe_deleteSession hspare.ample hremoved.ample) ?_
  refine wp_deleteSession hreads.valid ?_ fun _ _ _ => trivial
  exact safe_swallow (safe_decrement hremoved)

/-- A fresh session uses a spare slot. -/
theorem World.Spare.create {session : UploadSession} (h : σ.Spare session.workspaceId)
    {deadline : Option ℕ} {expiry : Keyspace UUID ExpiryMetadata} :
    World.Ample { σ with
      sessions := σ.sessions.put session.key (RedisSessionStore.serializeSession session) deadline
      expiry } := by
  intro w
  have hsub : World.underWay { σ with
      sessions := σ.sessions.put session.key (RedisSessionStore.serializeSession session) deadline
      expiry } w ⊆ if w = session.workspaceId then insert session.sessionId (σ.underWay w)
        else σ.underWay w := by
    rintro s ⟨entry, hentry, hact⟩
    rcases Keyspace.of_put_eq_some hentry with ⟨hkey, -⟩ | ⟨-, hold⟩
    · cases hkey
      rw [if_pos rfl]
      exact Set.mem_insert _ _
    · have hmem : s ∈ σ.underWay w := ⟨entry, hold, hact⟩
      split
      · exact Set.mem_insert_of_mem _ hmem
      · exact hmem
  have hle := Set.ncard_le_ncard hsub (Set.toFinite _)
  change _ ≤ σ.counter w
  by_cases hw : w = session.workspaceId
  · subst hw
    rw [if_pos rfl] at hle
    have hinsert := Set.ncard_insert_le session.sessionId (σ.underWay session.workspaceId)
    have hspare := h.spare
    omega
  · rw [if_neg hw] at hle
    have hample := h.ample w
    omega

namespace InitiateUploadUseCase

theorem safe_createSession {request : InitiateUploadRequest} (h : σ.Spare request.workspaceId) :
    (createSession (dependencies settings) request).Safe (serviceMachine env) F
      (Balanced env) σ := by
  have hruntime : ∀ c : Command, c.area = .runtime → (send c).Issues Quiet := fun c hc =>
    issues_send ⟨by simp [hc], by simp [hc]⟩
  refine safe_quiet_bind (hruntime .uuid4 rfl) h.ample (.refl σ) fun id σ₁ h₁ => ?_
  refine safe_quiet_bind (hruntime .now rfl) h.ample h₁ fun createdAt σ₂ h₂ => ?_
  refine safe_ofExcept_bind fun session hnew => ?_
  have hworkspace : session.workspaceId = request.workspaceId :=
    congrArg SessionKey.workspaceId (newSession_eq_ok hnew).1
  have hspare : σ₂.Spare session.workspaceId := hworkspace ▸ h.congr h₂.sessions h₂.counters
  refine Program.Safe.bind (RagFileUploader.safe_createSession (h₂.ample h.ample) hspare.create)
    (Program.wp_mono Program.wp_true fun r σ₃ _ => ?_)
  cases r with
  | ok _ => exact safe_ofExcept
  | error _ => trivial

theorem safe_execute {request : InitiateUploadRequest} (hσ : σ.Ample) :
    (execute (dependencies settings) request).Safe (serviceMachine env) F (Balanced env) σ := by
  refine safe_ofExcept_bind fun _ _ => ?_
  refine Program.Safe.bind (safe_checkAndIncrement hσ) ?_
  refine wp_checkAndIncrement (fun _ _ => ?_) (fun _ => trivial) fun _ _ _ => trivial
  have hspare := hσ.take request.workspaceId
  refine safe_tryExcept (safe_createSession hspare) ?_
  refine wp_createSession request (fun _ _ _ _ _ => trivial) fun e _ _ _ => ?_
  refine Program.Safe.bind (safe_swallow (safe_decrement (hspare.congr rfl rfl)))
    (Program.wp_mono Program.wp_true fun r _ _ => ?_)
  cases r <;> trivial

end InitiateUploadUseCase

theorem ProcessChunkUseCase.safe_execute {request : ProcessChunkRequest} (hσ : σ.Ample)
    (hwell : σ.StoredWell ⟨request.workspaceId, request.sessionId⟩) :
    (execute (dependencies settings) request).Safe (serviceMachine env) F (Balanced env) σ := by
  refine Program.Safe.bind (safe_getSession hσ) ?_
  refine wp_getSession hwell (fun session hreads => ?_) (fun _ => trivial) fun _ e _ => trivial
  refine safe_ofExcept_bind fun index hvalid => ?_
  have hactive := (validate_eq_ok hvalid).1
  refine Program.Safe.bind ?_ ?_
  · refine safe_tryExcept (safe_quiet (issues_send ⟨(nomatch ·), (nomatch ·)⟩) hσ) ?_
    refine Program.wp_mono Program.wp_true fun r _ _ => ?_
    cases r with
    | ok _ => trivial
    | error _ => exact fun _ => trivial
  rw [wp_tryExcept]
  refine wp_send ?_ fun _ _ _ _ => ⟨fun _ => trivial, fun _ => trivial⟩
  refine safe_ofExcept_bind fun session' hrecord => ?_
  set σ₁ := σ.putChunk ⟨request.workspaceId, request.sessionId, index⟩ request.chunkData
  have hreads₁ : σ₁.Reads request.workspaceId request.sessionId session :=
    ⟨hreads.valid, hreads.key_eq, hreads.stored⟩
  have hput : (σ₁.putSession session').Ample :=
    World.Ample.anti (σ := σ₁) (hσ.congr rfl rfl)
      (underWay_putSession_subset hreads₁ hactive (key_recordChunk hrecord hactive)) rfl
  refine Program.Safe.bind (safe_updateSession (hσ.congr rfl rfl) hput)
    (Program.wp_mono Program.wp_true fun r _ _ => ?_)
  cases r <;> trivial

namespace CompleteUploadUseCase

variable {request : CompleteUploadRequest} {session : UploadSession}

theorem Unpublished.ample (hσ : σ.Ample) (h : Unpublished request session σ σ') : σ'.Ample := by
  rcases h.sessions with hs | hs
  · exact hσ.congr hs h.counters
  · have hput : (σ.putSession session.markFailed).Ample :=
      hσ.finish (by decide : SessionStatus.Terminal .failed)
    exact hput.congr hs h.counters

/-- Marking the session FAILED takes no slot. -/
theorem safe_markFailed (hσ : σ.Ample) :
    (RedisSessionStore.updateSession session.markFailed).Safe (serviceMachine env) F
      (Balanced env) σ :=
  safe_updateSession hσ (hσ.finish (by decide : SessionStatus.Terminal .failed))

theorem safe_settle {e : Exc} (hσ : σ.Ample) :
    (settle (dependencies settings) session e).Safe (serviceMachine env) F (Balanced env) σ := by
  rw [settle_eq]
  split
  · refine Program.Safe.bind (safe_swallow (safe_markFailed hσ))
      (Program.wp_mono Program.wp_true fun r _ _ => ?_)
    cases r <;> trivial
  · trivial

theorem safe_assemble (hσ : σ.Ample) :
    (assemble (dependencies settings) request session).Safe (serviceMachine env) F
      (Balanced env) σ := by
  have hquiet : ∀ {area : Area} {α : Type} {p : Service α}, area ≠ .sessions → area ≠ .counters →
      p.Issues (InArea area request.workspaceId) → p.Issues Quiet :=
    fun hs hc hp => hp.mono fun c h => h.quiet hs hc
  refine safe_quiet_bind (hquiet (by decide) (by decide) (issues_retrieveAll _)) hσ (.refl σ)
    fun chunks σ₁ h₁ => ?_
  refine safe_quiet_bind (hquiet (by decide) (by decide) S3StorageClient.issues_assembleFile) hσ h₁
    fun ⟨s3Path, finalSize⟩ σ₂ h₂ => ?_
  refine safe_quiet_bind (hquiet (by decide) (by decide) issues_checkDuplicate) hσ h₂
    fun duplicate? σ₃ h₃ => ?_
  cases duplicate? with
  | none => trivial
  | some duplicate =>
      refine Program.Safe.bind (safe_markFailed (h₃.ample hσ))
        (Program.wp_mono Program.wp_true fun r _ _ => ?_)
      cases r <;> trivial

theorem safe_publish {s3Path : String} {finalSize : ℤ} (hσ : σ.Ample) :
    (publish (dependencies settings) request session s3Path finalSize).Safe (serviceMachine env) F
      (Balanced env) σ := by
  have hquiet : ∀ c : Command, Quiet c → (send c).Issues Quiet := fun c hc => issues_send hc
  refine safe_quiet_bind (hquiet .now ⟨by decide, by decide⟩) hσ (.refl σ)
    fun uploadedAt σ₁ h₁ => ?_
  refine safe_quiet_bind (hquiet .now ⟨by decide, by decide⟩) hσ h₁ fun timestamp σ₂ h₂ => ?_
  refine safe_ofExcept_bind fun event _ => ?_
  have hevent : Quiet (.publish event) := ⟨(nomatch ·), (nomatch ·)⟩
  refine safe_tryExcept (safe_quiet (hquiet _ hevent) (h₂.ample hσ)) ?_
  refine wp_send trivial fun _ e _ _ _ => ?_
  refine Program.Safe.bind (safe_markFailed (h₂.ample hσ))
    (Program.wp_mono Program.wp_true fun r _ _ => ?_)
  cases r <;> trivial

/-- Completing the session frees the slot that is given back afterwards. -/
theorem safe_finish {s3Path : String} {finalSize : ℤ} (hσ : σ.Ample)
    (hreads : σ.Reads request.workspaceId request.sessionId session)
    (hstatus : session.status = .inProgress) (hoffset : session.offset = session.size) :
    (finish (dependencies settings) request session s3Path finalSize).Safe (serviceMachine env) F
      (Balanced env) σ := by
  refine safe_ofExcept_bind fun session' hmark => ?_
  cases (UploadSession.markComplete_eq hstatus hoffset).symm.trans hmark
  set done := session.withStatus .complete with hdone
  have hactive : ¬ session.status.Terminal := by rw [hstatus]; decide
  -- the session is COMPLETE before the decrement, so there is a slot to give back
  have hspare : (σ.putSession done).Spare request.workspaceId :=
    spare_putSession hσ hreads hactive (by decide)
  have hvalid : done.key.Valid := (hreads.key_eq : done.key = _) ▸ hreads.valid
  refine Program.Safe.bind (safe_updateSession hσ hspare.ample) ?_
  refine wp_updateSession hvalid
    (live_of_reads hreads : σ.session? session.key ≠ none) ?_ fun _ _ _ => trivial
  refine Program.Safe.bind (safe_swallow (safe_decrement hspare)) ?_
  -- what comes after the decrement touches neither sessions nor counters
  have hrest : ∀ σ₁ : World, σ₁.Ample →
      (do
        tryExcept (register (dependencies settings) request done s3Path finalSize)
          Exc.isException fun _ => pure ()
        tryExcept (cleanupChunks (dependencies settings) request.workspaceId request.sessionId
          done.chunkManifest) Exc.isException fun _ => pure ()
        MonadExcept.ofExcept (CompleteUploadResponse.new request.sessionId s3Path finalSize) :
          Service CompleteUploadResponse).Safe (serviceMachine env) F (Balanced env) σ₁ := by
    intro σ₁ hσ₁
    have hregister : (tryExcept (register (dependencies settings) request done s3Path finalSize)
        Exc.isException fun _ => pure ()).Issues Quiet := by
      refine issues_tryExcept (issues_registration.mono fun c hc => ?_) fun _ => trivial
      rcases hc with rfl | hc
      · exact ⟨by decide, by decide⟩
      · exact hc.quiet (by decide) (by decide)
    have hcleanup : (tryExcept (cleanupChunks (dependencies settings) request.workspaceId
        request.sessionId done.chunkManifest) Exc.isException fun _ => pure ()).Issues Quiet :=
      issues_tryExcept ((issues_cleanup _).mono fun c hc => hc.quiet (by decide) (by decide))
        fun _ => trivial
    refine safe_quiet_bind hregister hσ₁ (.refl σ₁) fun _ σ₂ h₂ => ?_
    exact safe_quiet_bind hcleanup hσ₁ h₂ fun _ _ _ => safe_ofExcept
  rw [wp_tryExcept]
  refine wp_decrement (hrest _ ?_) fun _ e _ => ?_
  · rw [max_eq_right (by have := hspare.spare; omega)]
    exact hspare.give
  · have hpos := hspare.spare
    refine ⟨⟨fun _ => hrest _ hspare.ample, fun _ => trivial⟩, fun hlt => ?_⟩
    omega

theorem safe_execute (hσ : σ.Ample)
    (hwell : σ.StoredWell ⟨request.workspaceId, request.sessionId⟩) :
    (execute (dependencies settings) request).Safe (serviceMachine env) F (Balanced env) σ := by
  refine Program.Safe.bind (safe_getSession hσ) ?_
  refine wp_getSession hwell (fun session hreads => ?_) (fun _ => trivial) fun _ e _ => trivial
  refine Program.Safe.tryCatch ?_ ?_
  -- the body gives the slot back only after the session has left the active ones
  · refine safe_ofExcept_bind fun _ hready => ?_
    obtain ⟨hstatus, hoffset, -⟩ := validateSession_eq_ok hready
    refine Program.Safe.bind (safe_assemble hσ)
      (Program.wp_mono (wp_assemble hreads) fun r σ₁ hr => ?_)
    cases r with
    | error e => trivial
    | ok out =>
        obtain ⟨s3Path, finalSize⟩ := out
        obtain ⟨chunks, hassembled, rfl, rfl⟩ := hr
        obtain ⟨uploads, nextUpload, rfl⟩ := hassembled.frame
        refine Program.Safe.bind (safe_publish (hσ.congr rfl rfl))
          (Program.wp_mono (wp_publish hreads hassembled) fun r σ₂ hr => ?_)
        cases r with
        | error e => trivial
        | ok _ =>
            obtain ⟨hpublished, hsessions, hchunks, hcounters, hdedup⟩ := hr
            have hsame : SameSlots σ σ₂ := ⟨hsessions, hcounters, hpublished.clock⟩
            exact safe_finish (hsame.ample hσ) (hsame.reads hreads) hstatus hoffset
  · -- what the handlers find
    refine wp_ofExcept_bind (fun _ hready => ?_) fun e _ => safe_settle hσ
    obtain ⟨hstatus, hoffset, -⟩ := validateSession_eq_ok hready
    have hactive : ¬ session.status.Terminal := by rw [hstatus]; decide
    rw [Program.wp_bind]
    refine Program.wp_mono (wp_assemble hreads) fun r σ₁ hr => ?_
    cases r with
    | error e => exact safe_settle (hr.2.1.ample hσ)
    | ok out =>
        obtain ⟨s3Path, finalSize⟩ := out
        obtain ⟨chunks, hassembled, rfl, rfl⟩ := hr
        dsimp only
        rw [Program.wp_bind]
        refine Program.wp_mono (wp_publish hreads hassembled) fun r σ₂ hr => ?_
        cases r with
        | error e => exact safe_settle (hr.2.1.ample hσ)
        | ok _ =>
            obtain ⟨hpublished, hsessions, -, hcounters, -⟩ := hr
            have hsame : SameSlots σ σ₂ := ⟨hsessions, hcounters, hpublished.clock⟩
            -- the session is COMPLETE and its slot is still counted
            have hspare :
                (σ₂.putSession (session.withStatus .complete)).Spare request.workspaceId :=
              spare_putSession (hsame.ample hσ) (hsame.reads hreads) hactive (by decide)
            refine Program.wp_mono (wp_finish (isBlank_s3Path request) (Int.natCast_nonneg _)
              hreads.key_eq (hreads.key_eq ▸ hreads.valid) (live_of_reads (hsame.reads hreads))
              hstatus hoffset) fun r σ₃ hr => ?_
            cases hr with
            | completed => trivial
            | uncommitted e => exact safe_settle (hsame.ample hσ)
            | unreleased e counters hcan hcounters =>
                exact safe_settle (hspare.released hcounters)

end CompleteUploadUseCase

/-! ## Whole runs -/

theorem Call.safe_program (c : Call) (hσ : σ.Ample) (hwell : σ.WellStored) :
    (c.program settings).Safe (serviceMachine env) F (Balanced env) σ := by
  cases c with
  | initiate request => exact safe_map (InitiateUploadUseCase.safe_execute hσ)
  | processChunk request => exact safe_map (ProcessChunkUseCase.safe_execute hσ (hwell _))
  | complete request => exact safe_map (CompleteUploadUseCase.safe_execute hσ (hwell _))
  | abort w s => exact safe_map (AbortUploadUseCase.safe_execute hσ (hwell _))

/-- The states in which an operation issues commands, each with its command. -/
def Op.trace (env : Environment) (settings : Settings) (σ : World) :
    Op → List (World × Command)
  | .call c faults => (c.program settings).trace (serviceMachine env) faults σ
  | .tick _ => []

/-- The states in which the calls of a run issue commands, each with its command. -/
def Run.trace (env : Environment) (settings : Settings) : Run → List Op → List (World × Command)
  | _, [] => []
  | run, op :: ops =>
      op.trace env settings run.world ++ trace env settings (step env settings run op) ops

theorem activeSessions_subset_underWay (σ : World) (w : UUID) :
    σ.activeSessions w ⊆ σ.underWay w := by
  rintro s ⟨data, hdata, hactive⟩
  obtain ⟨d, hentry, -⟩ := Keyspace.get?_eq_some_iff.mp hdata
  exact ⟨⟨data, d⟩, hentry, hactive⟩

theorem World.Ample.ncard_activeSessions_le (h : σ.Ample) (w : UUID) :
    ((σ.activeSessions w).ncard : ℤ) ≤ σ.counter w := by
  have hle := Set.ncard_le_ncard (activeSessions_subset_underWay σ w) (Set.toFinite _)
  have hample := h w
  omega

theorem Run.balanced (ops : List Op) {run : Run} (hwell : run.world.WellStored)
    (hample : run.world.Ample) :
    (steps env settings run ops).world.Ample ∧
      ∀ x ∈ trace env settings run ops, Balanced env x.1 x.2 := by
  induction ops generalizing run with
  | nil => exact ⟨hample, fun _ hx => nomatch hx⟩
  | cons op ops ih =>
      rw [steps_cons]
      cases op with
      | tick ms => exact ih hwell hample
      | call c faults =>
          have hsafe : (c.program settings).Safe (serviceMachine env) (some · ∈ faults)
              (Balanced env) run.world := c.safe_program hample hwell
          have houtcome : CallOutcome env settings (some · ∈ faults) _ c _ _ :=
            call_outcome hwell c faults
          have hnext : (Run.call env settings run.world c faults).2.Ample :=
            hsafe.run (fun _ _ h => h.after) hample fun _ h => h
          obtain ⟨hfinal, hrest⟩ := @ih (step env settings run (.call c faults))
            (houtcome.wellStored hwell) hnext
          refine ⟨hfinal, fun x hx => ?_⟩
          rcases List.mem_append.mp hx with hx | hx
          · exact hsafe.trace (fun _ h => h) x hx
          · exact hrest x hx

theorem ample_start : Run.start.world.Ample := by
  intro w
  have hnone : Run.start.world.underWay w = ∅ :=
    Set.eq_empty_of_forall_notMem fun s ⟨_, h, _⟩ => nomatch h
  rw [hnone, Set.ncard_empty]
  exact le_rfl

theorem ample_steps (ops : List Op) : (Run.steps env settings Run.start ops).world.Ample :=
  (Run.balanced ops Run.wellStored_start ample_start).1

/-- Under any faults and retries, in every state of a run the counter of a workspace is at least
the number of its sessions under way, and no decrement ever has to be clamped. -/
theorem no_slot_returned_twice (env : Environment) (settings : Settings) (ops : List Op) :
    (∀ w, (((Run.steps env settings Run.start ops).world.activeSessions w).ncard : ℤ) ≤
        (Run.steps env settings Run.start ops).world.counter w) ∧
      ∀ x ∈ Run.trace env settings Run.start ops,
        (∀ w, ((x.1.activeSessions w).ncard : ℤ) ≤ x.1.counter w) ∧
          ∀ w value, x.2 ≠ .hsetCounter w value := by
  have hbalanced : _ ∧ ∀ x ∈ Run.trace env settings Run.start ops, Balanced env x.1 x.2 :=
    Run.balanced ops Run.wellStored_start ample_start
  obtain ⟨hfinal, htrace⟩ := hbalanced
  exact ⟨hfinal.ncard_activeSessions_le, fun x hx =>
    ⟨(htrace x hx).before.ncard_activeSessions_le, (htrace x hx).unclamped⟩⟩

end RagFileUploader
