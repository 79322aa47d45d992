import RagFileUploader.Concurrent.Standing

/-!
# Reachable states

The worlds that the service can get into from an empty one: any calls, their commands interleaved
in any way, any of the commands failing, and time passing in between.  In particular a world is
reachable in the middle of calls.

Every hash in a reachable world is that of a session which the use cases have built.  A property of
sessions that building them preserves therefore holds of all that are stored: `keepingMonitor`
says what a call may store if it reads nothing else.

* `Preserved` lists what the use cases build sessions with; `Call.keeping_program` is the result for
  one call, `World.Reachable.keeps` the one for all reachable worlds.
* `Run.reachable_steps` says that serial runs are a special case.
-/

namespace RagFileUploader

open Effects Stores

variable {env : Environment} {settings : Settings} {σ : World} {G : UploadSession → Prop}
  {key : SessionKey} {data : SessionHash} {α : Type}

/-! ## The states -/

/-- A command of a call, possibly failing, or time passing. -/
def Passing : Turn World Fault → Prop
  | .issue _ _ => True
  | .drift change => ∃ ms, change = fun σ => σ.tick ms

/-- Some calls have been made of an empty world, and some of their commands have been issued. -/
def World.Reachable (env : Environment) (settings : Settings) (σ : World) : Prop :=
  ∃ (calls : List Call) (turns : List (Turn World Fault)), (∀ turn ∈ turns, Passing turn) ∧
    ((callPool settings .empty calls).run (serviceMachine env) turns).state = σ

/-! ## Properties of sessions that are kept -/

/-- The hash under the key is that of a session with this key and the property `G`. -/
def Kept (G : UploadSession → Prop) (key : SessionKey) (data : SessionHash) : Prop :=
  key.Valid ∧ ∃ session : UploadSession,
    session.key = key ∧ data = RedisSessionStore.serializeSession session ∧ G session

/-- All stored sessions have the property `G`. -/
def World.Keeps (G : UploadSession → Prop) (σ : World) : Prop :=
  ∀ key entry, σ.sessions key = some entry → Kept G key entry.value

/-- Every way in which a use case makes a session yields one with the property `G`. -/
structure Preserved (G : UploadSession → Prop) : Prop where
  fresh : ∀ {request sessionId createdAt expiresAt session},
    InitiateUploadUseCase.newSession request sessionId createdAt expiresAt = .ok session →
      G session
  record : ∀ {request session session' index}, G session →
    ProcessChunkUseCase.validate session request = .ok index →
    ProcessChunkUseCase.recordChunk session request index
      (session.offset + request.chunkData.length) = .ok session' → G session'
  status : ∀ {session} status, G session → G (session.withStatus status)

/-- The hash that the command stores, and its key. -/
def Command.stores? : Command → Option (SessionKey × SessionHash)
  | .createSession key data _ _ _ | .hsetSession key data => some (key, data)
  | _ => none

/-- The command stores no hash. -/
def Command.Storeless (c : Command) : Prop := c.stores? = none

/-- A hash that the command reads is kept. -/
def Command.Finds (G : UploadSession → Prop) : (c : Command) → Except Exc c.Reply → Prop
  | .hgetallSession key, .ok (some data) => Kept G key data
  | _, _ => True

/-- As long as it reads sessions with the property `G`, a call stores only such sessions. -/
def keepingMonitor (G : UploadSession → Prop) : Monitor serviceSignature Unit where
  may := fun _ c => ∀ key data, c.stores? = some (key, data) → Kept G key data
  replies := fun _ c reply => c.Finds G reply
  after := fun _ _ _ => ()

/-- The program stores only sessions with the property `G`. -/
abbrev Keeping (G : UploadSession → Prop) (p : Service α) : Prop :=
  p.Obeys (keepingMonitor G) (fun _ _ => True) ()

/-! ## Parts of programs -/

variable {w s : UUID}

theorem InArea.storeless {area : Area} {c : Command} (h : InArea area w c)
    (hs : area ≠ .sessions) : c.Storeless := by
  obtain ⟨rfl, -⟩ := h
  cases c <;> first | rfl | exact absurd rfl hs

/-- Commands that store no hash are free. -/
theorem keeping_of_issues {p : Service α} (hp : p.Issues Command.Storeless) : Keeping G p :=
  Program.obeys_mono (obeys_of_issues (W := keepingMonitor G) hp
    (fun c (hc : c.stores? = none) _ _ h => nomatch hc.symm.trans h) fun _ _ _ => rfl)
    fun _ _ _ => trivial

theorem Keeping.bind {β : Type} {p : Service α} {f : α → Service β} (hp : Keeping G p)
    (hf : ∀ a, Keeping G (f a)) : Keeping G (p >>= f) := by
  rw [Keeping, Program.obeys_bind]
  refine Program.obeys_mono hp fun r _ _ => ?_
  cases r with
  | ok a => exact hf a
  | error e => trivial

theorem Keeping.tryExcept {p : Service α} {catches : Exc → Bool} {handler : Exc → Service α}
    (hp : Keeping G p) (hh : ∀ e, Keeping G (handler e)) :
    Keeping G (tryExcept p catches handler) := by
  refine obeys_tryExcept (Program.obeys_mono hp fun r _ _ => ?_)
  cases r with
  | ok a => trivial
  | error e => exact ⟨fun _ => hh e, fun _ => trivial⟩

theorem keeping_send {c : Command} (hc : c.Storeless) : Keeping G (send c) :=
  keeping_of_issues (issues_send hc)

theorem keeping_ofExcept_bind {β : Type} {r : Except Exc α} {f : α → Service β}
    (hf : ∀ a, r = .ok a → Keeping G (f a)) : Keeping G (MonadExcept.ofExcept r >>= f) :=
  obeys_ofExcept_bind hf fun _ _ => trivial

/-- The session that a call reads has the property. -/
theorem keeping_getSession_bind {f : Option UploadSession → Service α} (hnone : Keeping G (f none))
    (hsome : ∀ session, session.key = ⟨w, s⟩ → SessionKey.Valid ⟨w, s⟩ → G session →
      Keeping G (f (some session))) :
    Keeping G (RedisSessionStore.getSession w s >>= f) := by
  rw [Keeping, Program.obeys_bind]
  refine obeys_getSession (fun _ _ _ => trivial) (fun _ _ h => nomatch h) fun reply hreply => ?_
  rcases reply with e | data?
  · trivial
  · cases data? with
    | none => exact hnone
    | some data =>
        obtain ⟨hvalid, session, hkey, rfl, hG⟩ := hreply
        simp only [RedisSessionStore.readReply, RedisSessionStore.deserialize_serialize]
        exact hsome session hkey hvalid hG

theorem keeping_updateSession {session : UploadSession} (hG : G session) :
    Keeping G (RedisSessionStore.updateSession session) := by
  refine keeping_ofExcept_bind fun key hkey => ?_
  obtain ⟨rfl, hvalid⟩ := sessionKey_eq_ok hkey
  rw [Keeping, Program.obeys_tryCatch]
  refine Program.obeys_mono (Keeping.bind (keeping_send rfl) fun ttl => ?_) fun r _ _ => ?_
  · refine Keeping.bind ?_ fun _ => obeys_send (fun key data h => ?_) fun _ _ => trivial
    · unfold raiseIf
      split <;> trivial
    · cases h
      exact ⟨hvalid, session, rfl, rfl, hG⟩
  · cases r <;> trivial

theorem keeping_decrement : Keeping G (RedisRateLimiter.decrement w) :=
  keeping_of_issues (issues_decrement.mono fun _ hc => hc.storeless (by decide))

/-! ## The use cases -/

theorem InitiateUploadUseCase.keeping_execute (hG : Preserved G) (request : InitiateUploadRequest) :
    Keeping G (execute (dependencies settings) request) := by
  refine keeping_ofExcept_bind fun _ _ => Keeping.bind (keeping_of_issues
    (issues_checkAndIncrement.mono fun _ hc => hc.storeless (by decide))) fun _ => ?_
  refine Keeping.tryExcept ?_ fun e => Keeping.bind
    (Keeping.tryExcept keeping_decrement fun _ => trivial) fun _ => trivial
  refine Keeping.bind (keeping_send rfl) fun sessionId => Keeping.bind (keeping_send rfl)
    fun createdAt => ?_
  refine keeping_ofExcept_bind fun session hnew => Keeping.bind ?_ fun _ =>
    obeys_ofExcept.mpr trivial
  refine keeping_ofExcept_bind fun key hkey => ?_
  obtain ⟨rfl, hvalid⟩ := sessionKey_eq_ok hkey
  rw [Keeping, Program.obeys_tryCatch]
  refine obeys_send (fun key data h => ?_) fun reply _ => ?_
  · cases h
    exact ⟨hvalid, session, rfl, rfl, hG.fresh hnew⟩
  · cases reply <;> trivial

theorem ProcessChunkUseCase.keeping_execute (hG : Preserved G) (request : ProcessChunkRequest) :
    Keeping G (execute (dependencies settings) request) := by
  refine keeping_getSession_bind trivial fun session _ _ hsession => ?_
  refine keeping_ofExcept_bind fun index hvalid => Keeping.bind
    (Keeping.tryExcept (keeping_send rfl) fun _ => trivial) fun _ => ?_
  exact keeping_ofExcept_bind fun next hrecord => Keeping.bind
    (keeping_updateSession (hG.record hsession hvalid hrecord)) fun _ => trivial

theorem AbortUploadUseCase.keeping_execute (hG : Preserved G) (w s : UUID) :
    Keeping G (execute (dependencies settings) w s) := by
  refine keeping_getSession_bind trivial fun session _ _ hsession => ?_
  refine keeping_ofExcept_bind fun _ _ => Keeping.bind
    (keeping_updateSession (hG.status _ hsession)) fun _ => Keeping.bind ?_ fun _ =>
      Keeping.tryExcept keeping_decrement fun _ => trivial
  refine keeping_ofExcept_bind fun key _ => Keeping.tryExcept ?_ fun _ => trivial
  exact keeping_of_issues (issues_map (issues_send rfl))

namespace CompleteUploadUseCase

variable {request : CompleteUploadRequest} {session : UploadSession}

theorem keeping_markFailed (hG : Preserved G) (hsession : G session) (e : Exc) :
    Keeping G (RedisSessionStore.updateSession session.markFailed >>= fun _ => throw e :
      Service α) :=
  (keeping_updateSession (hG.status _ hsession)).bind fun _ => trivial

theorem keeping_body (hG : Preserved G) (hsession : G session) :
    Keeping G (body (dependencies settings) request session) := by
  refine keeping_ofExcept_bind fun _ _ => Keeping.bind ?_ fun file => Keeping.bind ?_ fun _ => ?_
  · refine (keeping_of_issues ((issues_retrieveAll _).mono fun _ hc =>
      hc.storeless (by decide))).bind fun chunks => ?_
    refine (keeping_of_issues (S3StorageClient.issues_assembleFile.mono fun _ hc =>
      hc.storeless (by decide))).bind fun file => ?_
    refine (keeping_of_issues (issues_checkDuplicate.mono fun _ hc =>
      hc.storeless (by decide))).bind fun duplicate? => ?_
    cases duplicate? with
    | none => trivial
    | some duplicate => exact keeping_markFailed hG hsession _
  · refine Keeping.bind (keeping_send rfl) fun _ => Keeping.bind (keeping_send rfl) fun _ =>
      keeping_ofExcept_bind fun event _ => Keeping.tryExcept (keeping_send rfl) fun e => ?_
    exact keeping_markFailed hG hsession e
  · refine keeping_ofExcept_bind fun done hdone => ?_
    have hcomplete : G done := by
      simp only [UploadSession.markComplete, except_bind_eq_ok] at hdone
      obtain ⟨-, -, -, -, hdone⟩ := hdone
      cases hdone
      exact hG.status _ hsession
    refine Keeping.bind (keeping_updateSession hcomplete) fun _ =>
      Keeping.bind (Keeping.tryExcept keeping_decrement fun _ => trivial) fun _ => ?_
    refine Keeping.bind (Keeping.tryExcept (keeping_of_issues
      (issues_registration.mono fun c hc => ?_)) fun _ => trivial) fun _ => ?_
    · rcases hc with rfl | hc
      · rfl
      · exact hc.storeless (by decide)
    · refine Keeping.bind (Keeping.tryExcept (keeping_of_issues ((issues_cleanup _).mono
        fun _ hc => hc.storeless (by decide))) fun _ => trivial) fun _ => obeys_ofExcept.mpr trivial

theorem keeping_execute (hG : Preserved G) (request : CompleteUploadRequest) :
    Keeping G (execute (dependencies settings) request) := by
  refine keeping_getSession_bind trivial fun session _ _ hsession => ?_
  rw [Keeping, Program.obeys_tryCatch]
  refine Program.obeys_mono (keeping_body hG hsession) fun r _ _ => ?_
  cases r with
  | ok _ => trivial
  | error e =>
      change Keeping G (settle _ session e)
      rw [settle_eq]
      split
      · exact Keeping.bind (Keeping.tryExcept (keeping_updateSession (hG.status _ hsession))
          fun _ => trivial) fun _ => trivial
      · trivial

end CompleteUploadUseCase

theorem Call.keeping_program (hG : Preserved G) (c : Call) : Keeping G (c.program settings) := by
  cases c with
  | initiate request =>
      exact obeys_map (InitiateUploadUseCase.keeping_execute hG request)
  | processChunk request => exact obeys_map (ProcessChunkUseCase.keeping_execute hG request)
  | complete request => exact obeys_map (CompleteUploadUseCase.keeping_execute hG request)
  | abort w s => exact obeys_map (AbortUploadUseCase.keeping_execute hG w s)

/-! ## Reachable states -/

theorem World.Keeps.finds (h : σ.Keeps G) (c : Command) : c.Finds G (c.act env σ).1 := by
  cases c with
  | hgetallSession key =>
      cases hdata : σ.session? key with
      | none =>
          simp only [Command.act, hdata]
          trivial
      | some data =>
          obtain ⟨d, hentry, -⟩ := Keyspace.get?_eq_some_iff.mp hdata
          simp only [Command.act, hdata]
          exact h key _ hentry
  | _ => trivial

theorem World.Keeps.put (h : σ.Keeps G) (hdata : Kept G key data) {deadline : Option ℕ}
    {key' : SessionKey} {entry : Entry SessionHash}
    (hentry : (σ.sessions.put key data deadline) key' = some entry) : Kept G key' entry.value := by
  rcases Keyspace.of_put_eq_some hentry with ⟨rfl, rfl⟩ | ⟨-, hold⟩
  · exact hdata
  · exact h key' entry hold

/-- A command keeps the stored sessions if the hash that it stores is one of them. -/
theorem World.Keeps.act (h : σ.Keeps G) {c : Command}
    (hc : ∀ key data, c.stores? = some (key, data) → Kept G key data) :
    (c.act env σ).2.Keeps G := by
  intro key' entry hentry
  rw [c.sessions_act] at hentry
  cases c with
  | createSession key data _ _ _ => exact h.put (hc key data rfl) hentry
  | hsetSession key data => exact h.put (hc key data rfl) hentry
  | deleteSession key =>
      exact h key' entry (Keyspace.of_erase_eq_some hentry).2
  | _ => exact h key' entry hentry

theorem World.Keeps.sustains {p : Pool serviceSignature World Response} {γs : List Unit}
    {turn : Turn World Fault} (h : p.state.Keeps G) (hturn : Passing turn) :
    Pool.Sustains (serviceMachine env) (keepingMonitor G) (fun _ σ _ => σ.Keeps G) p γs turn := by
  cases turn with
  | issue i fault =>
      intro γ c _ _ hmay
      rcases (serviceMachine env).attempt_cases fault c p.state with hact | ⟨_, _, e, -, hfail⟩
      · rw [hact]
        exact ⟨h.finds c, h.act hmay⟩
      · rw [hfail]
        refine ⟨?_, h⟩
        change c.Finds G (.error e)
        cases c <;> trivial
  | drift change =>
      obtain ⟨ms, rfl⟩ := hturn
      exact h

/-- What building sessions preserves holds of all sessions in a reachable world. -/
theorem World.Reachable.keeps (hG : Preserved G) (h : σ.Reachable env settings) : σ.Keeps G := by
  obtain ⟨calls, turns, hpassing, rfl⟩ := h
  have hwatched : Pool.Watched (keepingMonitor G) (fun _ _ => True) (fun _ σ _ => σ.Keeps G)
      (callPool settings .empty calls) (calls.map fun _ => ()) := by
    refine ⟨?_, fun _ _ h => nomatch h⟩
    clear hpassing
    unfold callPool
    induction calls with
    | nil => exact .nil
    | cons c calls ih => exact .cons (c.keeping_program hG) ih
  obtain ⟨γs, hend⟩ := Pool.run_watched (C := fun _ turn => Passing turn)
    (fun _ _ _ hkeeps hturn => hkeeps.sustains hturn) hwatched
    (Pool.within_of_forall (fun turn hturn _ => hpassing turn hturn) _)
  exact hend.holds

/-! ## Serial runs -/

/-- The calls of a serial run. -/
def Op.call? : Op → Option Call
  | .call c _ => some c
  | .tick _ => none

/-- The calls that are left of a serial run take their turns after those that are done. -/
theorem exists_turns (ops : List Op) (run : Run) (before : List (Service Response))
    (journal : List (ℕ × Command)) :
    ∃ turns : List (Turn World Fault), (∀ turn ∈ turns, Passing turn) ∧
      (Pool.run (serviceMachine env) ⟨run.world,
        before ++ (ops.filterMap Op.call?).map (Call.program settings), journal⟩ turns).state =
        (Run.steps env settings run ops).world := by
  induction ops generalizing run before journal with
  | nil => exact ⟨[], nofun, rfl⟩
  | cons op ops ih =>
      cases op with
      -- the call takes its turns in one go, on a thread behind those that are done
      | call c faults =>
          set rest := (ops.filterMap Op.call?).map (Call.program settings)
          have hthread : (before ++ c.program settings :: rest)[before.length]? =
              some (c.program settings) := by simp
          obtain ⟨faults', hstate, hthreads⟩ := Pool.run_alone (serviceMachine env)
            (p := ⟨run.world, before ++ c.program settings :: rest, journal⟩) hthread faults
          set p := Pool.run (serviceMachine env)
            ⟨run.world, before ++ c.program settings :: rest, journal⟩
            (faults'.map (.issue before.length)) with hp
          obtain ⟨turns, hpassing, hend⟩ := ih (Run.step env settings run (.call c faults))
            (before ++ [.done (Run.call env settings run.world c faults).1]) p.journal
          -- after it the pool is that of the remaining operations
          have hpool : p = ⟨(Run.step env settings run (.call c faults)).world,
              before ++ [.done (Run.call env settings run.world c faults).1] ++ rest,
              p.journal⟩ := by
            have hset : p.threads =
                before ++ [.done (Run.call env settings run.world c faults).1] ++ rest := by
              rw [hthreads]
              simp [Run.call]
            rw [← hset]
            exact congrArg (Pool.mk · p.threads p.journal) hstate
          refine ⟨faults'.map (.issue before.length) ++ turns, fun turn hturn => ?_, ?_⟩
          · rcases List.mem_append.mp hturn with hturn | hturn
            · obtain ⟨_, -, rfl⟩ := List.mem_map.mp hturn
              trivial
            · exact hpassing turn hturn
          · rw [Pool.run_append]
            change (p.run (serviceMachine env) turns).state = _
            rw [hpool]
            exact hend
      | tick ms =>
          obtain ⟨turns, hpassing, hend⟩ := ih (Run.step env settings run (.tick ms)) before journal
          refine ⟨.drift (·.tick ms) :: turns, fun turn hturn => ?_, hend⟩
          rcases List.mem_cons.mp hturn with rfl | hturn
          · exact ⟨ms, rfl⟩
          · exact hpassing turn hturn

/-- Every serial run leads to reachable worlds. -/
theorem Run.reachable_steps (ops : List Op) :
    (Run.steps env settings Run.start ops).world.Reachable env settings := by
  obtain ⟨turns, hpassing, hend⟩ := exists_turns ops Run.start [] []
  exact ⟨ops.filterMap Op.call?, turns, hpassing, hend⟩

/-- Stored hashes are well formed. -/
theorem World.Reachable.wellStored (h : σ.Reachable env settings) : σ.WellStored := by
  intro key entry hentry
  obtain ⟨hvalid, session, hkey, hdata, -⟩ := h.keeps (G := fun _ => True)
    ⟨fun _ => trivial, fun _ _ _ => trivial, fun _ _ => trivial⟩ key entry hentry
  exact ⟨hvalid, session, hkey, hdata⟩

/-- A session that a reader gets has what building sessions preserves. -/
theorem World.Reachable.of_reads (hG : Preserved G) (h : σ.Reachable env settings)
    {session : UploadSession} (hreads : σ.Reads w s session) : G session := by
  obtain ⟨d, hentry, -⟩ := Keyspace.get?_eq_some_iff.mp hreads.stored
  obtain ⟨-, session', -, hdata, hsession⟩ := h.keeps hG _ _ hentry
  rwa [RedisSessionStore.serialize_injective hdata]

end RagFileUploader
