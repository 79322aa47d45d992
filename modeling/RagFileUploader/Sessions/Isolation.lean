import RagFileUploader.Sessions.Operations

/-!
# Isolation of workspaces in the session store

Session hashes are kept under the workspace and the session id, but the expiry metadata is kept
under the session id alone.  So what one workspace does to a session id can only be noticed in
another workspace through the metadata, and it is noticed exactly when that workspace has
metadata there which it would still read after its own hash is gone.
-/

namespace RagFileUploader

open Effects Stores

variable {env : Environment} {σ : World} {op : StoreOp} {w s : UUID}

/-- What a workspace is told about a session id by the two readers of the store. -/
def World.view (env : Environment) (σ : World) (w s : UUID) :
    Except Exc (Option UploadSession) × Except Exc (Option UploadSession × Option ExpiryMetadata) :=
  (((RedisSessionStore.getSession w s).run (serviceMachine env) [] σ).1,
    ((RedisSessionStore.getSessionWithExpiryInfo w s).run (serviceMachine env) [] σ).1)

/-- The operation makes no difference to what a workspace is told, now or at any later time. -/
def StoreOp.Isolated (env : Environment) (σ : World) (op : StoreOp) (w s : UUID) : Prop :=
  ∀ ms, ((op.run env σ).tick ms).view env w s = (σ.tick ms).view env w s

/-- The store holds metadata that the workspace of the key will read after its hash expired. -/
def World.Outlived (σ : World) (key : SessionKey) : Prop :=
  ∃ metadata, σ.expiry.find? σ.clock key.documentId = some metadata ∧
    metadata.value.workspaceId = key.workspaceId.str ∧
    ∀ hash, σ.sessions key = some hash → ∃ d, hash.deadline = some d ∧
      ∀ d' ∈ metadata.deadline, d < d'

/-- The operation replaces or removes the expiry metadata. -/
def StoreOp.TouchesMetadata : StoreOp → Prop
  | createSession _ | deleteSession _ _ => True
  | updateSession _ | getSession _ _ | getSessionWithExpiryInfo _ _ => False

/-- The operation takes metadata away that the workspace would have read. -/
def StoreOp.Disturbs (σ : World) (op : StoreOp) (w : UUID) : Prop :=
  op.TouchesMetadata ∧ op.key.Valid ∧ w.int ≠ 0#128 ∧ σ.Outlived ⟨w, op.key.documentId⟩

/-! ## What the readers see -/

theorem view_of_not_valid (h : ¬ SessionKey.Valid ⟨w, s⟩) (σ σ' : World) :
    σ.view env w s = σ'.view env w s := by
  simp only [World.view, RedisSessionStore.run_getSession,
    RedisSessionStore.run_getSessionWithExpiryInfo]
  cases hkey : sessionKey w s with
  | error e => rfl
  | ok key => exact absurd (sessionKey_eq_ok hkey).2 h

theorem view_of_valid (h : SessionKey.Valid ⟨w, s⟩) (σ : World) :
    σ.view env w s = (RedisSessionStore.readReply (.ok (σ.session? ⟨w, s⟩)),
      RedisSessionStore.infoReply w (σ.session? ⟨w, s⟩) (σ.expiry.get? σ.clock s)) := by
  simp only [World.view, RedisSessionStore.run_getSession,
    RedisSessionStore.run_getSessionWithExpiryInfo, sessionKey_of_valid h]
  rfl

/-- Without a hash the metadata counts if it is the workspace's own. -/
theorem infoReply_none (metadata? : Option ExpiryMetadata) :
    RedisSessionStore.infoReply w none metadata? =
      .ok (none, metadata?.filter fun metadata => metadata.workspaceId = w.str) := by
  cases metadata? with
  | none => rfl
  | some metadata =>
      by_cases h : metadata.workspaceId = w.str
      · simp [RedisSessionStore.infoReply, Option.filter, h]
      · simp [RedisSessionStore.infoReply, Option.filter, h]

/-- With a hash the metadata does not count. -/
theorem infoReply_some (data : SessionHash) (metadata? metadata?' : Option ExpiryMetadata) :
    RedisSessionStore.infoReply w (some data) metadata? =
      RedisSessionStore.infoReply w (some data) metadata?' := rfl

/-! ## What an operation leaves -/

theorem StoreOp.clock_run : (op.run env σ).clock = σ.clock := by
  rw [op.run_eq]
  split
  · cases op with
    | updateSession session =>
        simp only [effect]
        split <;> rfl
    | _ => rfl
  · rfl

/-- The hashes of another workspace stay. -/
theorem StoreOp.sessions_run (hw : op.key.workspaceId ≠ w) :
    (op.run env σ).sessions ⟨w, s⟩ = σ.sessions ⟨w, s⟩ := by
  have hne : (⟨w, s⟩ : SessionKey) ≠ op.key := fun h => hw (congrArg SessionKey.workspaceId h).symm
  rw [op.run_eq]
  split
  · cases op with
    | createSession session => exact Keyspace.put_of_ne hne
    | updateSession session =>
        simp only [effect]
        split
        · rfl
        · exact Keyspace.overwrite_of_ne hne
    | deleteSession w' s' => exact Keyspace.erase_of_ne hne
    | _ => rfl
  · rfl

/-- Metadata is taken away only by an operation that touches it, and then none that another
workspace would read is left. -/
theorem StoreOp.expiry_run (env : Environment) (σ : World) (hw : op.key.workspaceId ≠ w) :
    (op.run env σ).expiry op.key.documentId = σ.expiry op.key.documentId ∧
        ¬ (op.TouchesMetadata ∧ op.key.Valid) ∨
      (op.TouchesMetadata ∧ op.key.Valid) ∧ ∀ now,
        ((op.run env σ).expiry.get? now op.key.documentId).filter
          (fun metadata => metadata.workspaceId = w.str) = none := by
  rw [op.run_eq]
  split
  · next hvalid =>
      cases op with
      | createSession session =>
          refine .inr ⟨⟨trivial, hvalid⟩, fun now => ?_⟩
          refine Option.filter_eq_none_iff.mpr fun metadata hmetadata hown => ?_
          obtain ⟨d, hentry, -⟩ := Keyspace.get?_eq_some_iff.mp hmetadata
          have hself : (effect σ (createSession session)).expiry session.sessionId =
              some ⟨RedisSessionStore.expiryMetadata session, _⟩ := Keyspace.put_self
          cases hself.symm.trans hentry
          exact hw (UUID.str_injective (of_decide_eq_true hown))
      | updateSession session =>
          refine .inl ⟨?_, fun h => h.1⟩
          simp only [effect]
          split <;> rfl
      | deleteSession w' s' =>
          refine .inr ⟨⟨trivial, hvalid⟩, fun now => ?_⟩
          have herased : (effect σ (deleteSession w' s')).expiry.get? now s' = none := by
            simp [effect, Keyspace.get?, Keyspace.find?]
          rw [StoreOp.key, herased]
          rfl
      | getSession w' s' => exact .inl ⟨rfl, fun h => h.1⟩
      | getSessionWithExpiryInfo w' s' => exact .inl ⟨rfl, fun h => h.1⟩
  · next hvalid => exact .inl ⟨rfl, fun h => hvalid h.2⟩

/-! ## The condition -/

/-- If the metadata outlives the hash there is a moment at which it is read. -/
theorem World.Outlived.exists_moment (h : σ.Outlived ⟨w, s⟩) :
    ∃ ms, (σ.tick ms).session? ⟨w, s⟩ = none ∧ ∃ metadata : ExpiryMetadata,
      (σ.tick ms).expiry.get? (σ.tick ms).clock s = some metadata ∧
        metadata.workspaceId = w.str := by
  obtain ⟨metadata, hfind, hown, hhash⟩ := h
  obtain ⟨hentry, hlive⟩ := Keyspace.find?_eq_some_iff.mp hfind
  have hread : ∀ ms, metadata.Live (σ.clock + ms) →
      (σ.tick ms).expiry.get? (σ.tick ms).clock s = some metadata.value := fun ms hlive' =>
    Keyspace.get?_eq_some_iff.mpr ⟨metadata.deadline, hentry, hlive'⟩
  have hgone : ∀ ms, (∀ hash, σ.sessions ⟨w, s⟩ = some hash → ¬ hash.Live (σ.clock + ms)) →
      (σ.tick ms).session? ⟨w, s⟩ = none := by
    intro ms hdead
    rw [World.session?, ← Option.not_isSome_iff_eq_none]
    intro hsome
    obtain ⟨data, hdata⟩ := Option.isSome_iff_exists.mp hsome
    obtain ⟨d, hstored, hlive'⟩ := Keyspace.get?_eq_some_iff.mp hdata
    exact hdead _ hstored hlive'
  cases hsession : σ.sessions ⟨w, s⟩ with
  | none =>
      refine ⟨0, hgone 0 fun hash h => ?_, metadata.value, hread 0 hlive, hown⟩
      cases hsession.symm.trans h
  | some hash =>
      obtain ⟨d, hd, hbefore⟩ := hhash hash hsession
      refine ⟨d - σ.clock, hgone _ fun hash' h hlive' => ?_, metadata.value, hread _ ?_, hown⟩
      · cases hsession.symm.trans h
        have := hlive' d hd
        omega
      · intro d' hd'
        have := hbefore d' hd'
        have := hlive d' hd'
        omega

/-- Metadata that is read once the hash is gone outlives it. -/
theorem outlived_of_read {ms : ℕ} {metadata : ExpiryMetadata}
    (hgone : (σ.tick ms).session? ⟨w, s⟩ = none)
    (hread : (σ.tick ms).expiry.get? (σ.tick ms).clock s = some metadata)
    (hown : metadata.workspaceId = w.str) : σ.Outlived ⟨w, s⟩ := by
  obtain ⟨d, hentry, hlive⟩ := Keyspace.get?_eq_some_iff.mp hread
  refine ⟨⟨metadata, d⟩, Keyspace.find?_eq_some_iff.mpr
    ⟨hentry, hlive.anti (Nat.le_add_right _ _)⟩, hown, fun hash hhash => ?_⟩
  have hdead : ¬ hash.Live (σ.clock + ms) := fun hlive' => by
    have hsome : (σ.tick ms).session? ⟨w, s⟩ = some hash.value :=
      Keyspace.get?_eq_some_iff.mpr ⟨hash.deadline, hhash, hlive'⟩
    exact nomatch hsome.symm.trans hgone
  simp only [Entry.Live, not_forall] at hdead
  obtain ⟨t, ht, hle⟩ := hdead
  refine ⟨t, ht, fun d' hd' => ?_⟩
  have := hlive d' hd'
  change σ.clock + ms < d' at this
  omega

/-- An operation of one workspace on a session id goes unnoticed in another workspace, unless it
takes metadata away that the other workspace would have read. -/
theorem isolated_iff_not_disturbs (env : Environment) (σ : World) (op : StoreOp) (w : UUID)
    (hw : op.key.workspaceId ≠ w) :
    op.Isolated env σ w op.key.documentId ↔ ¬ op.Disturbs σ w := by
  have hexpiry := StoreOp.expiry_run env σ hw
  generalize hs : op.key.documentId = s at hexpiry ⊢
  have hsession : ∀ ms, ((op.run env σ).tick ms).session? ⟨w, s⟩ =
      (σ.tick ms).session? ⟨w, s⟩ := fun ms => by
    have hclock : ((op.run env σ).tick ms).clock = (σ.tick ms).clock :=
      congrArg (· + ms) StoreOp.clock_run
    rw [World.session?, hclock]
    exact Keyspace.get?_congr (StoreOp.sessions_run hw)
  have hclock : ∀ ms, ((op.run env σ).tick ms).clock = (σ.tick ms).clock := fun ms =>
    congrArg (· + ms) StoreOp.clock_run
  constructor
  · rintro hisolated ⟨htouches, hvalid, hw', houtlived⟩
    rw [hs] at houtlived
    obtain ⟨ms, hgone, metadata, hread, hown⟩ := houtlived.exists_moment
    have hkey : SessionKey.Valid ⟨w, s⟩ := ⟨hw', hs ▸ hvalid.2⟩
    have hview := congrArg Prod.snd (hisolated ms)
    simp only [view_of_valid hkey, hsession, hgone, hread, infoReply_none] at hview
    rcases hexpiry with ⟨-, h⟩ | ⟨-, hnone⟩
    · exact h ⟨htouches, hvalid⟩
    · have hafter := hnone ((op.run env σ).tick ms).clock
      change (((op.run env σ).tick ms).expiry.get? _ s).filter _ = none at hafter
      rw [hafter] at hview
      simp [Option.filter, hown] at hview
  · intro hdisturbs ms
    by_cases hkey : SessionKey.Valid ⟨w, s⟩
    · rw [view_of_valid hkey, view_of_valid hkey, hsession]
      refine congrArg (Prod.mk _) ?_
      cases hgone : (σ.tick ms).session? ⟨w, s⟩ with
      | some data => exact infoReply_some data _ _
      | none =>
          rw [infoReply_none, infoReply_none]
          rcases hexpiry with ⟨hsame, -⟩ | ⟨htouches, hnone⟩
          · rw [hclock]
            have hget : ((op.run env σ).tick ms).expiry.get? (σ.tick ms).clock s =
                (σ.tick ms).expiry.get? (σ.tick ms).clock s := Keyspace.get?_congr hsame
            rw [hget]
          · have hafter := hnone ((op.run env σ).tick ms).clock
            change (((op.run env σ).tick ms).expiry.get? _ s).filter _ = none at hafter
            rw [hafter]
            -- metadata that is read now would have been disturbed
            refine congrArg (fun m => Except.ok (none, m)) (Eq.symm ?_)
            refine Option.filter_eq_none_iff.mpr fun metadata hread hown => hdisturbs ?_
            exact ⟨htouches.1, htouches.2, hkey.1,
              hs ▸ outlived_of_read hgone hread (of_decide_eq_true hown)⟩
    · exact view_of_not_valid hkey _ _

namespace Sample

/-- A session of another workspace under the same id. -/
def namesake : UploadSession :=
  { pendingSession with
    workspaceId := ⟨2⟩
    valid := pendingSession.valid }

end Sample

/-- It is created while the first workspace's session is still there. -/
theorem isolated_iff_not_disturbs_sample :
    (StoreOp.createSession Sample.namesake).Isolated Sample.environment Sample.initiated
        Sample.workspace Sample.session ↔
      ¬ (StoreOp.createSession Sample.namesake).Disturbs Sample.initiated Sample.workspace :=
  isolated_iff_not_disturbs Sample.environment Sample.initiated (.createSession Sample.namesake)
    Sample.workspace (by decide)

/-- Two workspaces create a session under one id.  When the first session has expired, its
workspace is told that there never was one. -/
theorem create_takes_metadata :
    ∃ other : UploadSession, other.key = ⟨⟨2⟩, Sample.session⟩ ∧
      ¬ (StoreOp.createSession Sample.pendingSession).Isolated Sample.environment
        ((StoreOp.createSession other).run Sample.environment .empty) ⟨2⟩ Sample.session := by
  refine ⟨Sample.namesake, rfl, fun h => ?_⟩
  have hview := h 86400001
  revert hview
  decide +kernel

end RagFileUploader
