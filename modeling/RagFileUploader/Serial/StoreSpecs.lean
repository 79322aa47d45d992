import RagFileUploader.Infrastructure.Service
import RagFileUploader.Application.Rules

/-!
# What the stores do

One rule for each operation of the Redis stores: a weakest precondition that says what the
operation reads, what it leaves behind, and which exceptions come out.  An exception that the
inputs do not explain comes from a fault, and `CanFail` keeps the area of that fault as evidence.
The use cases are later taken apart with these rules only.

* `sessionKey_of_valid`, `sessionKey_eq_error` and `workspaceKey_eq_error` take the key builder out
  of the way.
* The session store has the rules `wp_getSession`, `wp_updateSession`, `wp_createSession` and
  `wp_deleteSession`, the rate limiter `wp_checkAndIncrement` and `wp_decrement`, and the
  deduplication store `wp_checkDuplicate` and `wp_registerFile`.
-/

namespace RagFileUploader

open Effects Stores

variable {env : Environment} {F : Fault → Prop} {α β : Type} {σ : World}

/-- Some admitted fault hits this area. -/
def CanFail (F : Fault → Prop) (area : Area) : Prop := ∃ f, F f ∧ f.area = area

/-! ## Commands -/

theorem wp_send {c : Command} {Q : Except Exc c.Reply → World → Prop}
    (hact : Q (c.act env σ).1 (c.act env σ).2)
    (hfail : CanFail F c.area → ∀ e : Exc, e.isException = true →
      ¬ (e.saysAbsent = true ∧ c.asksPresence = true) → Q (.error e) σ) :
    (send c).wp (serviceMachine env) F Q σ := by
  refine Program.wp_perform.mpr ⟨hact, fun f e hf he => ?_⟩
  obtain ⟨harea, -, hexc, habsent⟩ := Fault.hits_eq_some he
  exact hfail ⟨f, hf, harea⟩ e hexc habsent

/-- The runtime does not fail. -/
theorem wp_send_runtime {c : Command} (hc : c.area = .runtime)
    {Q : Except Exc c.Reply → World → Prop} (hact : Q (c.act env σ).1 (c.act env σ).2) :
    (send c).wp (serviceMachine env) F Q σ := by
  refine Program.wp_perform.mpr ⟨hact, fun f e _ he => ?_⟩
  obtain ⟨harea, hne, -, -⟩ := Fault.hits_eq_some he
  exact absurd (harea.trans hc) hne

/-! ## Exceptions

Whatever the pure parts raise is an `Exception`, so every `except Exception` sees it, and none of
them takes the part of the rate limiter or of the checks of ownership.
-/

/-- An `Exception` other than `RateLimitExceededError` and `WorkspaceMismatchError`. -/
def Exc.isPlain (e : Exc) : Bool :=
  e.isException && !e.isRateLimitExceededError && !e.isWorkspaceMismatchError

theorem Exc.isException_of_isPlain {e : Exc} (h : e.isPlain = true) : e.isException = true := by
  simp only [isPlain, Bool.and_eq_true] at h
  exact h.1.1

theorem Exc.isRateLimitExceededError_of_isPlain {e : Exc} (h : e.isPlain = true) :
    e.isRateLimitExceededError = false := by
  simp only [isPlain, Bool.and_eq_true, Bool.not_eq_true'] at h
  exact h.1.2

theorem RedisSessionStore.isException_readError {onRedis onData : String} {e : Exc}
    (h : e.isException = true) :
    (RedisSessionStore.readError onRedis onData e).isException = true := by
  unfold RedisSessionStore.readError
  split
  · rfl
  · split
    · rfl
    · exact h

theorem RedisSessionStore.isException_writeError {onRedis : String} {e : Exc}
    (h : e.isException = true) :
    (RedisSessionStore.writeError onRedis e).isException = true := by
  unfold RedisSessionStore.writeError
  split
  · exact h
  · split
    · rfl
    · split
      · rfl
      · exact h

/-! ## Keys -/

/-- The key under which a session is stored. -/
def UploadSession.key (session : UploadSession) : SessionKey :=
  ⟨session.workspaceId, session.sessionId⟩

/-- The key builder accepts the ids of this key. -/
def SessionKey.Valid (key : SessionKey) : Prop :=
  key.workspaceId.int ≠ 0#128 ∧ key.documentId.int ≠ 0#128

instance (key : SessionKey) : Decidable key.Valid := inferInstanceAs (Decidable (_ ∧ _))

theorem sessionKey_of_valid {w s : UUID} (h : SessionKey.Valid ⟨w, s⟩) :
    sessionKey w s = .ok ⟨w, s⟩ := by
  simp [sessionKey, validateWorkspaceId, validateDocumentId, h.1, h.2, pure, Except.pure]

theorem sessionKey_eq_error {w s : UUID} {e : Exc} (h : sessionKey w s = .error e) :
    ¬ SessionKey.Valid ⟨w, s⟩ ∧ e.isPlain = true := by
  refine ⟨fun hv => by simp [sessionKey_of_valid hv] at h, ?_⟩
  unfold sessionKey validateWorkspaceId validateDocumentId raiseIf at h
  split at h
  · cases h; rfl
  · split at h
    · cases h; rfl
    · cases h

theorem sessionKey_eq_ok {w s : UUID} {key : SessionKey} (h : sessionKey w s = .ok key) :
    key = ⟨w, s⟩ ∧ SessionKey.Valid ⟨w, s⟩ := by
  simp only [sessionKey, validateWorkspaceId, validateDocumentId, except_bind_eq_ok,
    raiseIf_eq_ok] at h
  obtain ⟨-, hw, -, hs, hkey⟩ := h
  cases hkey
  exact ⟨rfl, hw, hs⟩

theorem workspaceKey_eq_error {w : UUID} {e : Exc} (h : workspaceKey w = .error e) :
    w.int = 0#128 ∧ e.isPlain = true := by
  unfold workspaceKey validateWorkspaceId raiseIf at h
  split at h
  · next hw => cases h; exact ⟨hw, rfl⟩
  · cases h

/-! ## Stored sessions -/

theorem RedisSessionStore.deserialize_serialize (session : UploadSession) :
    RedisSessionStore.deserializeSession (RedisSessionStore.serializeSession session) =
      .ok session := by
  simp [RedisSessionStore.deserializeSession, RedisSessionStore.serializeSession,
    SHA256Hash.new_value, RedisSessionStore.parseStatus, UploadSession.new_eq_ok_iff]

theorem RedisSessionStore.serialize_injective {s t : UploadSession}
    (h : RedisSessionStore.serializeSession s = RedisSessionStore.serializeSession t) :
    s = t := by
  have := congrArg RedisSessionStore.deserializeSession h
  simpa [deserialize_serialize] using this

/-- A hash under this key is the image of a session whose key this is. -/
def World.StoredWell (σ : World) (key : SessionKey) : Prop :=
  ∀ entry, σ.sessions key = some entry →
    key.Valid ∧ ∃ session : UploadSession,
      session.key = key ∧ entry.value = RedisSessionStore.serializeSession session

def World.WellStored (σ : World) : Prop := ∀ key, σ.StoredWell key

/-- A reader of the session's key gets this session. -/
structure World.Reads (σ : World) (workspaceId sessionId : UUID) (session : UploadSession) :
    Prop where
  valid : SessionKey.Valid ⟨workspaceId, sessionId⟩
  key_eq : session.key = ⟨workspaceId, sessionId⟩
  stored : σ.session? ⟨workspaceId, sessionId⟩ = some (RedisSessionStore.serializeSession session)

theorem World.Reads.storedWell {w s : UUID} {session : UploadSession} (h : σ.Reads w s session) :
    σ.StoredWell ⟨w, s⟩ := by
  obtain ⟨d, hget, -⟩ := Keyspace.get?_eq_some_iff.mp h.stored
  intro entry hentry
  cases hget.symm.trans hentry
  exact ⟨h.valid, session, h.key_eq, rfl⟩

/-- The store with a session's hash overwritten. -/
def World.putSession (σ : World) (session : UploadSession) : World :=
  { σ with sessions :=
      σ.sessions.overwrite σ.clock session.key (RedisSessionStore.serializeSession session) }

/-- The store with fresh bytes under a chunk key. -/
def World.putChunk (σ : World) (key : ChunkKey) (data : Bytes) : World :=
  { σ with chunks := σ.chunks.put key data (σ.deadline ProcessChunkUseCase.chunkTtlSeconds) }

theorem World.session?_putSession {session : UploadSession} {key : SessionKey}
    (hkey : session.key = key) :
    (σ.putSession session).session? key = some (RedisSessionStore.serializeSession session) := by
  subst hkey
  exact Keyspace.get?_overwrite_self

theorem World.chunk?_putChunk_self {key : ChunkKey} {data : Bytes} :
    (σ.putChunk key data).chunk? key = some data := by
  refine Keyspace.get?_put_self fun t ht => ?_
  cases ht
  exact Nat.lt_add_of_pos_right (by decide)

theorem World.chunk?_putChunk_of_ne {key key' : ChunkKey} {data : Bytes} (hne : key' ≠ key) :
    (σ.putChunk key data).chunk? key' = σ.chunk? key' :=
  Keyspace.get?_congr (Keyspace.put_of_ne hne)

/-! ## The session store -/

section SessionStore

theorem wp_getSession {w s : UUID} {Q : Except Exc (Option UploadSession) → World → Prop}
    (hσ : σ.StoredWell ⟨w, s⟩)
    (hsome : ∀ session, σ.Reads w s session → Q (.ok (some session)) σ)
    (hnone : σ.session? ⟨w, s⟩ = none → Q (.ok none) σ)
    (hfail : ¬ SessionKey.Valid ⟨w, s⟩ ∨ CanFail F .sessions →
      ∀ e, e.isException = true → Q (.error e) σ) :
    (RedisSessionStore.getSession w s).wp (serviceMachine env) F Q σ := by
  refine wp_ofExcept_bind (fun key hkey => ?_) fun e he =>
    hfail (.inl (sessionKey_eq_error he).1) e
      (Exc.isException_of_isPlain (sessionKey_eq_error he).2)
  obtain ⟨rfl, hvalid⟩ := sessionKey_eq_ok hkey
  rw [Program.wp_tryCatch, Program.wp_bind]
  refine wp_send ?_ fun hcan e he _ => ?_
  · simp only [Command.act]
    cases hread : σ.session? ⟨w, s⟩ with
    | none => exact hnone hread
    | some data =>
        obtain ⟨d, hentry, -⟩ := Keyspace.get?_eq_some_iff.mp hread
        obtain ⟨-, session, hsession, hdata⟩ := hσ _ hentry
        obtain rfl : data = RedisSessionStore.serializeSession session := hdata
        simp only [RedisSessionStore.deserialize_serialize]
        exact hsome session ⟨hvalid, hsession, hread⟩
  · exact hfail (.inr hcan) _ (RedisSessionStore.isException_readError he)

/-- A key that is there has a time to live, or none at all. -/
theorem ttlReply_ne {now : ℕ} (entry : Entry SessionHash) : ttlReply now (some entry) ≠ -2 := by
  obtain ⟨value, deadline⟩ := entry
  cases deadline with
  | none => simp [ttlReply]
  | some d => simp only [ttlReply]; omega

/-- Updating a session that is there overwrites it or, under a fault, does nothing. -/
theorem wp_updateSession {session : UploadSession} {Q : Except Exc Unit → World → Prop}
    (hvalid : session.key.Valid) (hlive : σ.session? session.key ≠ none)
    (hok : Q (.ok ()) (σ.putSession session))
    (hfail : CanFail F .sessions → ∀ e, e.isException = true → Q (.error e) σ) :
    (RedisSessionStore.updateSession session).wp (serviceMachine env) F Q σ := by
  refine wp_ofExcept_bind (fun key hkey => ?_) fun e he =>
    absurd hvalid (sessionKey_eq_error he).1
  obtain ⟨rfl, -⟩ := sessionKey_eq_ok hkey
  have herror : CanFail F .sessions → ∀ e : Exc, e.isException = true →
      Q (.error (RedisSessionStore.writeError "Failed to update session: " e)) σ :=
    fun hcan e he => hfail hcan _ (RedisSessionStore.isException_writeError he)
  rw [Program.wp_tryCatch, Program.wp_bind]
  refine wp_send ?_ fun hcan e he _ => herror hcan e he
  have hfound : ∃ entry, σ.sessions.find? σ.clock session.key = some entry := by
    rw [← Option.ne_none_iff_exists']
    intro hnone
    exact hlive (by simp [World.session?, Keyspace.get?, hnone])
  obtain ⟨entry, hentry⟩ := hfound
  have httl : ttlReply σ.clock (some entry) ≠ -2 := ttlReply_ne entry
  simp only [Command.act]
  change (_ : Service Unit).wp _ _ _ _
  rw [show (⟨session.workspaceId, session.sessionId⟩ : SessionKey) = session.key from rfl, hentry]
  simp only [raiseIf, if_neg httl]
  refine wp_send hok fun hcan e he _ => herror hcan e he

theorem wp_createSession {session : UploadSession} {Q : Except Exc Unit → World → Prop}
    (hok : session.key.Valid → Q (.ok ()) { σ with
      sessions := σ.sessions.put session.key (RedisSessionStore.serializeSession session)
        (σ.deadline RedisSessionStore.ttlSeconds)
      expiry := σ.expiry.put session.sessionId (RedisSessionStore.expiryMetadata session)
        (σ.deadline RedisSessionStore.expiryTtlSeconds) })
    (hfail : ∀ e, e.isException = true → e.isPlain = true ∨ CanFail F .sessions →
      Q (.error e) σ) :
    (RedisSessionStore.createSession session).wp (serviceMachine env) F Q σ := by
  refine wp_ofExcept_bind (fun key hkey => ?_) fun e he =>
    hfail e (Exc.isException_of_isPlain (sessionKey_eq_error he).2)
      (.inl (sessionKey_eq_error he).2)
  obtain ⟨rfl, hvalid⟩ := sessionKey_eq_ok hkey
  rw [Program.wp_tryCatch]
  exact wp_send (hok hvalid) fun hcan e he _ =>
    hfail _ (RedisSessionStore.isException_writeError he) (.inr hcan)

theorem wp_deleteSession {w s : UUID} {Q : Except Exc Unit → World → Prop}
    (hvalid : SessionKey.Valid ⟨w, s⟩)
    (hok : Q (.ok ()) { σ with sessions := σ.sessions.erase ⟨w, s⟩, expiry := σ.expiry.erase s })
    (hfail : CanFail F .sessions → ∀ e, e.isException = true → Q (.error e) σ) :
    (RedisSessionStore.deleteSession w s).wp (serviceMachine env) F Q σ := by
  refine wp_ofExcept_bind (fun key hkey => ?_) fun e he =>
    absurd hvalid (sessionKey_eq_error he).1
  obtain ⟨rfl, -⟩ := sessionKey_eq_ok hkey
  rw [wp_tryExcept]
  refine wp_map (wp_send hok fun hcan e he _ => ⟨fun _ => ?_, fun _ => hfail hcan e he⟩)
  exact hfail hcan _ rfl

end SessionStore

/-! ## The rate limiter -/

section RateLimiter

variable {settings : Settings} {w : UUID} {Q : Except Exc Unit → World → Prop}

theorem RedisRateLimiter.isException_readError {e : Exc} (h : e.isException = true) :
    (RedisRateLimiter.readError e).isException = true := by
  unfold RedisRateLimiter.readError
  split
  · exact h
  · split
    · rfl
    · split
      · rfl
      · exact h

theorem RedisRateLimiter.isException_unavailable {e : Exc} (h : e.isException = true) :
    (RedisRateLimiter.unavailable e).isException = true := by
  unfold RedisRateLimiter.unavailable
  split
  · rfl
  · exact h

/-- The slot is taken, or the limit is reached, or something is wrong with the counter. -/
theorem wp_checkAndIncrement
    (hok : w.int ≠ 0#128 → σ.counter w < settings.maxConcurrentUploads →
      Q (.ok ()) (σ.setCounter w (σ.counter w + 1)))
    (hlimit : settings.maxConcurrentUploads ≤ σ.counter w →
      Q (.error (.rateLimitExceededError w.str (σ.counter w) settings.maxConcurrentUploads 60)) σ)
    (hfail : ∀ e, e.isException = true →
      (w.int = 0#128 ∧ e.isRateLimitExceededError = false) ∨ CanFail F .counters →
      Q (.error e) σ) :
    (RedisRateLimiter.checkAndIncrement settings w).wp (serviceMachine env) F Q σ := by
  refine wp_ofExcept_bind (fun key hkey => ?_) fun e he => ?_
  · have hne : w.int ≠ 0#128 := fun h => by
      simp [rateLimitKey, workspaceKey, validateWorkspaceId, h, raiseIf, bind, Except.bind, throw,
        throwThe, MonadExceptOf.throw] at hkey
    obtain rfl := workspaceKey_eq_ok hkey
    have herror : CanFail F .counters → ∀ e : Exc, e.isException = true →
        Q (.error (RedisRateLimiter.readError e)) σ :=
      fun hcan e he => hfail _ (RedisRateLimiter.isException_readError he) (.inr hcan)
    rw [Program.wp_tryCatch, Program.wp_bind]
    refine wp_send ?_ fun hcan e he _ => herror hcan e he
    simp only [Command.act]
    by_cases hmax : settings.maxConcurrentUploads ≤ σ.counter key
    · have hpos := settings.max_pos
      have hcount : ¬ σ.counter key < 0 := by omega
      simp only [raiseIf, World.counter] at hmax hcount ⊢
      rw [if_pos hmax]
      have hexc : Exc.rateLimitExceeded key.str ((σ.counters key).getD 0)
          settings.maxConcurrentUploads 60 =
            .rateLimitExceededError key.str ((σ.counters key).getD 0)
              settings.maxConcurrentUploads 60 := by
        simp [Exc.rateLimitExceeded, hcount, not_le.mpr hpos]
      simp only [hexc]
      exact hlimit hmax
    · simp only [raiseIf, World.counter] at hmax ⊢
      rw [if_neg hmax]
      refine wp_map (wp_send (hok hne (not_le.mp hmax)) fun hcan e he _ => herror hcan e he)
  · obtain ⟨hw, hplain⟩ := workspaceKey_eq_error he
    exact hfail e (Exc.isException_of_isPlain hplain)
      (.inl ⟨hw, Exc.isRateLimitExceededError_of_isPlain hplain⟩)

@[simp] theorem World.setCounter_setCounter (σ : World) (w : UUID) (a b : ℤ) :
    (σ.setCounter w a).setCounter w b = σ.setCounter w b := by
  simp [World.setCounter]

@[simp] theorem World.counter_setCounter_self (σ : World) (w : UUID) (a : ℤ) :
    (σ.setCounter w a).counter w = a := by
  simp [World.setCounter, World.counter]

theorem World.counter_setCounter_of_ne (σ : World) {w w' : UUID} (h : w' ≠ w) (a : ℤ) :
    (σ.setCounter w a).counter w' = σ.counter w' := by
  simp [World.setCounter, World.counter, h]

/-- One slot of a workspace was given back, or the counter failed. -/
def Released (F : Fault → Prop) (σ : World) (w : UUID) (counters : UUID → Option ℤ) : Prop :=
  counters = (σ.setCounter w (max 0 (σ.counter w - 1))).counters ∨
    CanFail F .counters ∧ (counters = σ.counters ∨
      σ.counter w < 1 ∧ counters = (σ.setCounter w (σ.counter w - 1)).counters)

/-- One slot is given back, but the counter stops at zero.  When the clamping write fails the
counter is left below. -/
theorem wp_decrement
    (hok : Q (.ok ()) (σ.setCounter w (max 0 (σ.counter w - 1))))
    (hfail : w.int = 0#128 ∨ CanFail F .counters → ∀ e, e.isException = true →
      Q (.error e) σ ∧ (σ.counter w < 1 → Q (.error e) (σ.setCounter w (σ.counter w - 1)))) :
    (RedisRateLimiter.decrement w).wp (serviceMachine env) F Q σ := by
  refine wp_ofExcept_bind (fun key hkey => ?_) fun e he =>
    (hfail (.inl (workspaceKey_eq_error he).1) e
      (Exc.isException_of_isPlain (workspaceKey_eq_error he).2)).1
  obtain rfl := workspaceKey_eq_ok hkey
  rw [Program.wp_tryCatch, Program.wp_bind]
  refine wp_send ?_ fun hcan e he _ =>
    (hfail (.inr hcan) _ (RedisRateLimiter.isException_unavailable he)).1
  simp only [Command.act]
  by_cases hneg : σ.counter key + -1 < 0
  · rw [if_pos hneg]
    refine wp_send ?_ fun hcan e he _ => ?_
    · simp only [Command.act, World.setCounter_setCounter]
      rwa [max_eq_left (by omega)] at hok
    · exact (hfail (.inr hcan) _ (RedisRateLimiter.isException_unavailable he)).2 (by omega)
  · rw [if_neg hneg]
    rwa [max_eq_right (by omega)] at hok

end RateLimiter

/-! ## The deduplication store -/

section DeduplicationStore

variable {w : UUID} {sha256 : SHA256Hash}

theorem RedisDeduplicationStore.raises_deserialize {data : MetadataFields} :
    Raises Exc.isPlain (RedisDeduplicationStore.deserializeMetadata data) := by
  intro e h
  unfold RedisDeduplicationStore.deserializeMetadata at h
  have hraises : Raises Exc.isPlain (do
      let metadata ← FileMetadata.new data
      raiseIf (metadata.size < 0)
        (.serializationError s!"Deserialized size is negative: {metadata.size}")
      pure metadata) :=
    raises_bind (FileMetadata.raises_new (fun _ => rfl) _) fun _ => raises_bind (raises_raiseIf rfl)
      fun _ => raises_pure _
  revert h hraises
  generalize (do
      let metadata ← FileMetadata.new data
      raiseIf (metadata.size < 0)
        (.serializationError s!"Deserialized size is negative: {metadata.size}")
      pure metadata : Except Exc FileMetadata) = r
  intro h hraises
  cases r with
  | ok a => cases h
  | error e' =>
      simp only [tryCatch, tryCatchThe, MonadExceptOf.tryCatch, Except.tryCatch] at h
      split at h
      · cases h; rfl
      · cases h; exact hraises e rfl

theorem wp_checkDuplicate {Q : Except Exc (Option FileMetadata) → World → Prop}
    (hnone : σ.dedup w sha256.value = none → Q (.ok none) σ)
    (hsome : σ.dedup w sha256.value ≠ none → ∀ metadata, Q (.ok (some metadata)) σ)
    (hfail : (w.int = 0#128 ∨ CanFail F .dedupLookup) ∨ σ.dedup w sha256.value ≠ none →
      ∀ e, e.isException = true → Q (.error e) σ) :
    (RedisDeduplicationStore.checkDuplicate w sha256).wp (serviceMachine env) F Q σ := by
  rw [RedisDeduplicationStore.checkDuplicate, wp_tryExcept]
  have herror : ∀ e : Exc, e.isException = true →
      (w.int = 0#128 ∨ CanFail F .dedupLookup) ∨ σ.dedup w sha256.value ≠ none →
      (e.isRedisError = true → (throw (.infrastructureError
        s!"Deduplication check failed for workspace {w}: {e.str}") : Service _).wp
          (serviceMachine env) F Q σ) ∧ (e.isRedisError = false → Q (.error e) σ) :=
    fun e he hwhy => ⟨fun _ => hfail hwhy _ rfl, fun _ => hfail hwhy e he⟩
  refine wp_ofExcept_bind (fun key hkey => ?_) fun e he =>
    herror e (Exc.isException_of_isPlain (workspaceKey_eq_error he).2)
      (.inl (.inl (workspaceKey_eq_error he).1))
  obtain rfl := workspaceKey_eq_ok hkey
  rw [Program.wp_bind]
  refine wp_send ?_ fun hcan e he _ => herror e he (.inl (.inr hcan))
  simp only [Command.act]
  cases hdata : σ.dedup key sha256.value with
  | none => exact hnone hdata
  | some data =>
      have hne : σ.dedup key sha256.value ≠ none := by simp [hdata]
      simp only [Option.isSome_some, if_true]
      rw [Program.wp_bind]
      refine wp_send ?_ fun hcan e he _ => herror e he (.inl (.inr hcan))
      simp only [Command.act, hdata]
      exact wp_map (wp_ofExcept (fun metadata _ => hsome hne metadata) fun e he =>
        herror e (Exc.isException_of_isPlain (RedisDeduplicationStore.raises_deserialize e he))
          (.inr hne))

theorem wp_registerFile {metadata : FileMetadata} {Q : Except Exc Unit → World → Prop}
    (hok : Q (.ok ()) (σ.setFingerprint w sha256.value metadata.toMetadataFields))
    (hfail : w.int = 0#128 ∨ CanFail F .dedupRegister →
      ∀ e, e.isException = true → Q (.error e) σ) :
    (RedisDeduplicationStore.registerFile w sha256 metadata).wp (serviceMachine env) F Q σ := by
  rw [RedisDeduplicationStore.registerFile, wp_tryExcept]
  refine wp_ofExcept_bind (fun key hkey => ?_) fun e he =>
    ⟨fun _ => hfail (.inl (workspaceKey_eq_error he).1) _ rfl,
      fun _ => hfail (.inl (workspaceKey_eq_error he).1) _
        (Exc.isException_of_isPlain (workspaceKey_eq_error he).2)⟩
  obtain rfl := workspaceKey_eq_ok hkey
  have htz : metadata.uploadedAt.tzinfo ≠ none := by
    have hvalid := metadata.valid
    simp only [MetadataFields.postInit, except_bind_eq_ok, raiseIf_eq_ok] at hvalid
    obtain ⟨-, -, -, htz, -⟩ := hvalid
    exact htz
  simp only [RedisDeduplicationStore.serializeMetadata, raiseIf, if_neg htz]
  refine wp_send hok fun hcan e he _ => ⟨fun _ => hfail (.inr hcan) _ rfl, fun _ =>
    hfail (.inr hcan) _ he⟩

end DeduplicationStore

end RagFileUploader
