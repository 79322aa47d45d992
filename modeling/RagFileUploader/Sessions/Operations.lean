import RagFileUploader.Serial.StoreSpecs

/-!
# Operations of the session store

Each operation of `RedisSessionStore` when it runs alone and Redis does not fail.  Readers are
functions of the one or two hashes that they ask for, and writers have one effect on the world or
none.
-/

namespace RagFileUploader

open Effects Stores

variable {env : Environment} {σ : World} {w s : UUID} {session : UploadSession}

namespace RedisSessionStore

/-! ## Readers -/

theorem run_getSession :
    (getSession w s).run (serviceMachine env) [] σ =
      (sessionKey w s >>= fun key => readReply (.ok (σ.session? key)), σ) := by
  rw [getSession, Program.run_calm_bind, run_ofExcept]
  cases sessionKey w s with
  | error e => rfl
  | ok key =>
      dsimp only
      rw [Program.run_calm_tryCatch, Program.run_calm_bind, send, Program.run_calm_perform]
      simp only [serviceMachine, Command.act]
      change _ = (readReply (.ok (σ.session? key)), σ)
      cases σ.session? key with
      | none => rfl
      | some data =>
          simp only [readReply]
          cases deserializeSession data <;> rfl

theorem run_getSessionWithExpiryInfo :
    (getSessionWithExpiryInfo w s).run (serviceMachine env) [] σ =
      (sessionKey w s >>= fun key =>
        infoReply w (σ.session? key) (σ.expiry.get? σ.clock s), σ) := by
  rw [getSessionWithExpiryInfo, Program.run_calm_bind, run_ofExcept]
  cases sessionKey w s with
  | error e => rfl
  | ok key =>
      dsimp only
      rw [Program.run_calm_tryCatch, Program.run_calm_bind, send, Program.run_calm_perform]
      simp only [serviceMachine, Command.act]
      change _ = (infoReply w (σ.session? key) (σ.expiry.get? σ.clock s), σ)
      cases σ.session? key with
      | some data =>
          simp only [infoReply]
          cases deserializeSession data <;> rfl
      | none =>
          dsimp only
          rw [Program.run_calm_bind, send, Program.run_calm_perform]
          simp only [Command.act, infoReply]
          cases σ.expiry.get? σ.clock s with
          | none => rfl
          | some metadata =>
              dsimp only
              by_cases hworkspace : metadata.workspaceId = w.str
              · simp only [hworkspace, ne_eq, not_true_eq_false, if_false]
                rfl
              · simp only [hworkspace, ne_eq, not_false_eq_true, if_true]
                rfl

/-! ## Writers -/

theorem run_createSession (hvalid : session.key.Valid) :
    (createSession session).run (serviceMachine env) [] σ =
      (.ok (), { σ with
        sessions := σ.sessions.put session.key (serializeSession session) (σ.deadline ttlSeconds)
        expiry := σ.expiry.put session.sessionId (expiryMetadata session)
          (σ.deadline expiryTtlSeconds) }) := by
  rw [createSession, Program.run_calm_bind, run_ofExcept]
  simp only [sessionKey_of_valid hvalid]
  rw [Program.run_calm_tryCatch, send, Program.run_calm_perform]
  rfl

/-- An update asks whether the hash is there before it writes. -/
theorem run_updateSession (hvalid : session.key.Valid) :
    ((updateSession session).run (serviceMachine env) [] σ).2 =
      if σ.session? session.key = none then σ else σ.putSession session := by
  rw [updateSession, Program.run_calm_bind, run_ofExcept]
  simp only [sessionKey_of_valid hvalid]
  rw [Program.run_calm_tryCatch, Program.run_calm_bind, send, Program.run_calm_perform]
  simp only [serviceMachine, Command.act]
  rw [show (⟨session.workspaceId, session.sessionId⟩ : SessionKey) = session.key from rfl,
    World.session?, Keyspace.get?]
  cases hfind : σ.sessions.find? σ.clock session.key with
  | none => rfl
  | some entry =>
      have httl : ttlReply σ.clock (some entry) ≠ -2 := ttlReply_ne entry
      simp only [raiseIf, if_neg httl, Option.map_some, reduceCtorEq, if_false]
      rfl

theorem run_deleteSession (hvalid : SessionKey.Valid ⟨w, s⟩) :
    ((deleteSession w s).run (serviceMachine env) [] σ).2 =
      { σ with sessions := σ.sessions.erase ⟨w, s⟩, expiry := σ.expiry.erase s } := by
  rw [deleteSession, Program.run_calm_bind, run_ofExcept]
  simp only [sessionKey_of_valid hvalid]
  rw [tryExcept, Program.run_calm_tryCatch]
  rfl

end RedisSessionStore

/-! ## Any operation -/

/-- An operation of the session store and its arguments. -/
inductive StoreOp where
  | createSession (session : UploadSession)
  | updateSession (session : UploadSession)
  | deleteSession (workspaceId sessionId : UUID)
  | getSession (workspaceId sessionId : UUID)
  | getSessionWithExpiryInfo (workspaceId sessionId : UUID)

namespace StoreOp

/-- The workspace and session that the operation addresses. -/
def key : StoreOp → SessionKey
  | createSession session | updateSession session => session.key
  | deleteSession workspaceId sessionId | getSession workspaceId sessionId
  | getSessionWithExpiryInfo workspaceId sessionId => ⟨workspaceId, sessionId⟩

/-- The world after the operation, run alone and without faults. -/
def run (env : Environment) (σ : World) : StoreOp → World
  | createSession session =>
      ((RedisSessionStore.createSession session).run (serviceMachine env) [] σ).2
  | updateSession session =>
      ((RedisSessionStore.updateSession session).run (serviceMachine env) [] σ).2
  | deleteSession workspaceId sessionId =>
      ((RedisSessionStore.deleteSession workspaceId sessionId).run (serviceMachine env) [] σ).2
  | getSession workspaceId sessionId =>
      ((RedisSessionStore.getSession workspaceId sessionId).run (serviceMachine env) [] σ).2
  | getSessionWithExpiryInfo workspaceId sessionId =>
      ((RedisSessionStore.getSessionWithExpiryInfo workspaceId sessionId).run
        (serviceMachine env) [] σ).2

/-- What the operation does to the world when its key is accepted. -/
def effect (σ : World) : StoreOp → World
  | createSession session => { σ with
      sessions := σ.sessions.put session.key (RedisSessionStore.serializeSession session)
        (σ.deadline RedisSessionStore.ttlSeconds)
      expiry := σ.expiry.put session.sessionId (RedisSessionStore.expiryMetadata session)
        (σ.deadline RedisSessionStore.expiryTtlSeconds) }
  | updateSession session =>
      if σ.session? session.key = none then σ else σ.putSession session
  | deleteSession workspaceId sessionId => { σ with
      sessions := σ.sessions.erase ⟨workspaceId, sessionId⟩
      expiry := σ.expiry.erase sessionId }
  | getSession _ _ | getSessionWithExpiryInfo _ _ => σ

/-- An operation whose ids the key builder refuses does nothing. -/
theorem run_eq (op : StoreOp) :
    op.run env σ = if op.key.Valid then op.effect σ else σ := by
  have hrefused : ∀ {α : Type} (w s : UUID) (f : SessionKey → Service α),
      ¬ SessionKey.Valid ⟨w, s⟩ →
      ((MonadExcept.ofExcept (sessionKey w s) >>= f).run (serviceMachine env) [] σ).2 = σ := by
    intro α w s f hvalid
    rw [Program.run_calm_bind, run_ofExcept]
    cases hkey : sessionKey w s with
    | error e => rfl
    | ok key => exact absurd (sessionKey_eq_ok hkey).2 hvalid
  split
  · next hvalid =>
      cases op with
      | createSession session =>
          exact congrArg Prod.snd (RedisSessionStore.run_createSession hvalid)
      | updateSession session => exact RedisSessionStore.run_updateSession hvalid
      | deleteSession w s => exact RedisSessionStore.run_deleteSession hvalid
      | getSession w s => exact congrArg Prod.snd RedisSessionStore.run_getSession
      | getSessionWithExpiryInfo w s =>
          exact congrArg Prod.snd RedisSessionStore.run_getSessionWithExpiryInfo
  · next hvalid =>
      cases op with
      | createSession session => exact hrefused _ _ _ hvalid
      | updateSession session => exact hrefused _ _ _ hvalid
      | deleteSession w s => exact hrefused _ _ _ hvalid
      | getSession w s => exact hrefused _ _ _ hvalid
      | getSessionWithExpiryInfo w s => exact hrefused _ _ _ hvalid

end StoreOp

end RagFileUploader
