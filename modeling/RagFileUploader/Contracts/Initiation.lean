import RagFileUploader.Infrastructure.Assigned
import RagFileUploader.Serial.CallSpecs

/-!
# Initiation, all or nothing

Every command of an initiation may fail on its own.  Whichever do, the call either returns and has
created the session with its metadata and taken a slot, or it raises and has left hashes and slots
as they were.
-/

namespace RagFileUploader.InitiateUploadUseCase

open Effects Stores

variable {env : Environment} {settings : Settings} {outcome : Command → Option Exc}
  {F : Empty → Prop} {σ σ' : World} {w : UUID} {request : InitiateUploadRequest}

/-! ## The two outcomes -/

/-- The session is there, fresh and with its metadata, a slot is taken, and nothing else has
changed. -/
structure Initiated (env : Environment) (request : InitiateUploadRequest) (σ : World)
    (session : UploadSession) (response : InitiateUploadResponse) (σ' : World) : Prop where
  key : session.key = ⟨request.workspaceId, env.uuid4 σ.drawn⟩
  new : σ.session? session.key = none
  status : session.status = .pending
  offset : session.offset = 0
  size : session.size = request.size
  checksum : session.sha256Checksum.value = request.sha256Checksum
  manifest : session.chunkManifest = []
  response : response.sessionId = session.sessionId ∧ response.offset = 0 ∧
    response.expiresAt = session.expiresAt
  stored : σ'.sessions = σ.sessions.put session.key (RedisSessionStore.serializeSession session)
    (σ.deadline RedisSessionStore.ttlSeconds)
  metadata : σ'.expiry = σ.expiry.put session.sessionId (RedisSessionStore.expiryMetadata session)
    (σ.deadline RedisSessionStore.expiryTtlSeconds)
  slot : σ'.counters =
    Function.update σ.counters request.workspaceId (some (σ.counter request.workspaceId + 1))
  rest : σ' = { σ with
    sessions := σ'.sessions, expiry := σ'.expiry, counters := σ'.counters, drawn := σ'.drawn
    clockReads := σ'.clockReads }

/-- Every counter is as before, and so is everything else but ids and clock readings that were
used up. -/
structure Untouched (σ σ' : World) : Prop where
  counter : ∀ w, σ'.counter w = σ.counter w
  rest : σ' = { σ with
    counters := σ'.counters, drawn := σ'.drawn, clockReads := σ'.clockReads }

theorem Untouched.refl (σ : World) : Untouched σ σ := ⟨fun _ => rfl, rfl⟩

/-! ## The steps -/

/-- A slot is taken, or nothing has happened. -/
theorem wp_checkAndIncrement_assigned {Q : Except Exc Unit → World → Prop}
    (hok : workspaceKey w = .ok w → Q (.ok ()) (σ.setCounter w (σ.counter w + 1)))
    (hfail : ∀ e, Q (.error e) σ) :
    (RedisRateLimiter.checkAndIncrement settings w).wp (assignedMachine env outcome) F Q σ := by
  refine wp_ofExcept_bind (fun key hkey => ?_) fun e _ => hfail e
  obtain rfl := workspaceKey_eq_ok hkey
  rw [Program.wp_tryCatch, Program.wp_bind]
  refine wp_assigned ?_ fun e _ => hfail _
  simp only [Command.act, raiseIf]
  split
  · exact hfail _
  · exact wp_map (wp_assigned (hok hkey) fun e _ => hfail _)

/-- A slot that the counter counts is given back. -/
theorem wp_decrement_assigned {Q : Except Exc Unit → World → Prop}
    (hw : workspaceKey w = .ok w) (hrollback : outcome (.hincrbyCounter w (-1)) = none)
    (hslot : 0 < σ.counter w) (hok : Q (.ok ()) (σ.setCounter w (σ.counter w - 1))) :
    (RedisRateLimiter.decrement w).wp (assignedMachine env outcome) F Q σ := by
  refine wp_ofExcept_bind (fun key hkey => ?_) fun e he => nomatch hw.symm.trans he
  obtain rfl := workspaceKey_eq_ok hkey
  rw [Program.wp_tryCatch, Program.wp_bind]
  refine wp_assigned_none (.inr hrollback) ?_
  simp only [Command.act]
  rw [if_neg (by omega)]
  exact hok

theorem wp_createSession_assigned {Q : Except Exc InitiateUploadResponse → World → Prop}
    (hok : ∀ session createdAt expiresAt,
      newSession request (env.uuid4 σ.drawn) createdAt expiresAt = .ok session →
      Q (.ok ⟨env.uuid4 σ.drawn, 0, expiresAt⟩) { σ with
        drawn := σ.drawn + 1
        clockReads := σ.clockReads + 1
        sessions := σ.sessions.put session.key (RedisSessionStore.serializeSession session)
          (σ.deadline RedisSessionStore.ttlSeconds)
        expiry := σ.expiry.put session.sessionId (RedisSessionStore.expiryMetadata session)
          (σ.deadline RedisSessionStore.expiryTtlSeconds) })
    (hexceptions : ∀ c e, outcome c = some e → e.isException = true)
    (hfail : ∀ e, e.isException = true →
      Q (.error e) { σ with drawn := σ.drawn + 1, clockReads := σ.clockReads + 1 }) :
    (createSession (dependencies settings) request).wp (assignedMachine env outcome) F Q σ := by
  rw [createSession, Program.wp_bind]
  refine wp_assigned_none (.inl rfl) ?_
  simp only [Command.act]
  rw [Program.wp_bind]
  refine wp_assigned_none (.inl rfl) ?_
  simp only [Command.act]
  refine wp_ofExcept_bind (fun session hnew => ?_) fun e he =>
    hfail e (Exc.isException_of_isPlain (raises_newSession e he))
  rw [Program.wp_bind]
  refine wp_ofExcept_bind (fun key hkey => ?_) fun e he =>
    hfail e (Exc.isException_of_isPlain (sessionKey_eq_error he).2)
  obtain ⟨rfl, -⟩ := sessionKey_eq_ok hkey
  rw [Program.wp_tryCatch]
  refine wp_assigned ?_ fun e he =>
    hfail _ (RedisSessionStore.isException_writeError (hexceptions _ e he))
  have hresponse : ∀ t, InitiateUploadResponse.new (env.uuid4 σ.drawn) 0
      ((DateTime.utc t).addHours 24) = .ok ⟨env.uuid4 σ.drawn, 0, (DateTime.utc t).addHours 24⟩ :=
    fun _ => rfl
  refine wp_ofExcept (fun response h => ?_) fun e h => ?_
  · cases (hresponse _).symm.trans h
    exact hok session _ _ hnew
  · cases (hresponse _).symm.trans h

/-- Whichever commands fail, as long as the roll-back gets through: an initiation that returns has
created its session, and one that raises has left everything as it was. -/
theorem initiation_all_or_nothing (env : Environment) (settings : Settings)
    (outcome : Command → Option Exc) (request : InitiateUploadRequest) (σ : World)
    (hexceptions : ∀ c e, outcome c = some e → e.isException = true)
    (hrollback : outcome (.hincrbyCounter request.workspaceId (-1)) = none ∧
      outcome (.hsetCounter request.workspaceId 0) = none)
    (hcounter : 0 ≤ σ.counter request.workspaceId)
    (hfresh : σ.session? ⟨request.workspaceId, env.uuid4 σ.drawn⟩ = none) :
    (∀ response, ((execute (dependencies settings) request).run
        (assignedMachine env outcome) [] σ).1 = .ok response →
      ∃ session, Initiated env request σ session response
        ((execute (dependencies settings) request).run (assignedMachine env outcome) [] σ).2) ∧
    (∀ e, ((execute (dependencies settings) request).run
        (assignedMachine env outcome) [] σ).1 = .error e →
      Untouched σ
        ((execute (dependencies settings) request).run (assignedMachine env outcome) [] σ).2) := by
  -- both parts at once, as what every run of the program ends in
  suffices h : (execute (dependencies settings) request).wp (assignedMachine env outcome)
      (fun _ => True) (fun r σ' =>
        (∀ response, r = .ok response → ∃ session, Initiated env request σ session response σ') ∧
        (∀ e, r = .error e → Untouched σ σ')) σ from
    Program.run_of_wp h fun f => nomatch f
  -- raising is fine wherever nothing has changed
  have hraise : ∀ {e : Exc} {σ' : World}, Untouched σ σ' →
      (∀ response, (.error e : Except Exc InitiateUploadResponse) = .ok response →
        ∃ session, Initiated env request σ session response σ') ∧
      (∀ e', (.error e : Except Exc InitiateUploadResponse) = .error e' → Untouched σ σ') :=
    fun h => ⟨nofun, fun _ _ => h⟩
  refine wp_ofExcept_bind (fun _ _ => ?_) fun e _ => hraise (.refl σ)
  rw [Program.wp_bind]
  refine wp_checkAndIncrement_assigned (fun hw => ?_) fun e => hraise (.refl σ)
  dsimp only
  rw [wp_tryExcept]
  refine wp_createSession_assigned (fun session createdAt expiresAt hnew => ?_) hexceptions
    fun e he => ⟨fun _ => ?_, fun hno => nomatch he.symm.trans hno⟩
  · obtain ⟨hkey, hstatus, hoffset, hmanifest, hsize, hchecksum⟩ := newSession_eq_ok hnew
    have hexpires : session.expiresAt = expiresAt := by
      simp only [newSession, except_bind_eq_ok, UploadSession.new_eq_ok_iff] at hnew
      obtain ⟨hash, -, hfields⟩ := hnew
      rw [hfields]
    refine ⟨fun response hresponse => ?_, nofun⟩
    cases hresponse
    have hid : env.uuid4 σ.drawn = session.sessionId :=
      (congrArg SessionKey.documentId hkey).symm
    exact ⟨session, hkey, hkey ▸ hfresh, hstatus, hoffset, hsize, hchecksum, hmanifest,
      ⟨hid, rfl, hexpires.symm⟩, rfl, rfl, rfl, rfl⟩
  · -- the slot is given back
    have hcount : (reserved σ request.workspaceId).counter request.workspaceId =
        σ.counter request.workspaceId + 1 :=
      World.counter_setCounter_self σ _ _
    rw [Program.wp_bind]
    refine wp_swallow (s := reserved σ request.workspaceId)
      (wp_decrement_assigned hw hrollback.1 (by rw [hcount]; omega) ?_)
    rw [hcount, Int.add_sub_cancel]
    refine hraise ⟨fun w => ?_, rfl⟩
    by_cases hsame : w = request.workspaceId
    · rw [hsame]
      exact World.counter_setCounter_self _ _ _
    · rw [World.counter_setCounter_of_ne _ hsame]
      exact World.counter_setCounter_of_ne _ hsame _

/-- The pipeline fails, and the slot is given back. -/
theorem initiation_all_or_nothing_sample :
    Untouched .empty ((execute (dependencies Sample.settings) Sample.upload).run
      (assignedMachine Sample.environment fun c =>
        if c.area = .sessions then some (.redisError "unavailable") else none) [] .empty).2 :=
  (initiation_all_or_nothing Sample.environment Sample.settings
    (fun c => if c.area = .sessions then some (.redisError "unavailable") else none) Sample.upload
    .empty (fun c e he => by
      split at he
      · cases he
        rfl
      · cases he) (by decide) (by decide) rfl).2
    (.infrastructureError "Failed to create session: unavailable") (by decide +kernel)

end RagFileUploader.InitiateUploadUseCase
