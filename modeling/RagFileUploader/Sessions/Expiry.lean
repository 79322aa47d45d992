import RagFileUploader.Sessions.Isolation

/-!
# What the store says about a session over time

The two lifetimes that `create_session` starts are meant to tell three answers apart: the session
while it is live, its metadata for some days after it expired, and nothing otherwise.  A `Ledger`
keeps what the callers did, and `Stay.classify` is the answer that the contract promises from it.
The metadata is given seven days from creation, not from expiry, and it is shared by all
workspaces, which is why the store sometimes forgets a session too early.

* `Tracks` is the simulation: the store has what the ledger says, the hashes by key and the metadata
  by session id.  `Tracks.create`, `Tracks.update` and
  `Tracks.delete` are its steps, and `tracks_run` is the run.
* `Tracks.infoReply_eq` computes the answer of the store from the ledger, and `classified_iff`
  compares it with the promised one.
-/

namespace RagFileUploader

open Effects Stores

variable {env : Environment} {σ : World} {w s : UUID} {ids : List UUID}

/-! ## The ledger -/

/-- How long a session lives, in milliseconds. -/
def lifetime : ℕ := 24 * 60 * 60 * 1000

/-- How long after that an expired session is to be known as such. -/
def graceTime : ℕ := 7 * 24 * 60 * 60 * 1000

/-- What has happened to a session since it was created. -/
structure Stay where
  created : UploadSession
  /-- The session as it was last stored. -/
  current : UploadSession
  since : ℕ
  deleted : Bool
  /-- Another workspace deleted a session with the same id. -/
  disowned : Bool

namespace Stay

/-- The session has neither been deleted nor expired. -/
def Live (now : ℕ) (stay : Stay) : Prop := stay.deleted = false ∧ now < stay.since + lifetime

instance (now : ℕ) (stay : Stay) : Decidable (stay.Live now) :=
  inferInstanceAs (Decidable (_ ∧ _))

/-- The session was not deleted, and its lifetime ended less than the grace time ago. -/
def Expired (now : ℕ) (stay : Stay) : Prop :=
  stay.deleted = false ∧ stay.since + lifetime ≤ now ∧ now < stay.since + lifetime + graceTime

instance (now : ℕ) (stay : Stay) : Decidable (stay.Expired now) :=
  inferInstanceAs (Decidable (_ ∧ _ ∧ _))

/-- The promised answer for a session that was created. -/
def classify (now : ℕ) (stay : Stay) : Option UploadSession × Option ExpiryMetadata :=
  if stay.Live now then (some stay.current, none)
  else if stay.Expired now then (none, some (RedisSessionStore.expiryMetadata stay.created))
  else (none, none)

/-- The store has dropped the metadata of an expired session: the seven days since its creation
are over, or another workspace deleted the id. -/
def Forgotten (now : ℕ) (stay : Stay) : Prop :=
  stay.Expired now ∧
    (stay.since + RedisSessionStore.expiryTtlSeconds * 1000 ≤ now ∨ stay.disowned = true)

instance (now : ℕ) (stay : Stay) : Decidable (stay.Forgotten now) :=
  inferInstanceAs (Decidable (_ ∧ _))

/-- The hash that the store keeps for the session. -/
def hash (stay : Stay) : Option (Entry SessionHash) :=
  if stay.deleted then none
  else some ⟨RedisSessionStore.serializeSession stay.current, some (stay.since + lifetime)⟩

/-- The metadata that the store was given for the session. -/
def metadata (stay : Stay) : Entry ExpiryMetadata :=
  ⟨RedisSessionStore.expiryMetadata stay.created,
    some (stay.since + RedisSessionStore.expiryTtlSeconds * 1000)⟩

/-- A write of the session, which only a live one notices. -/
def store (now : ℕ) (session : UploadSession) (stay : Stay) : Stay :=
  if stay.Live now then { stay with current := session } else stay

/-- A write keeps everything but the session. -/
theorem store_eq (now : ℕ) (session : UploadSession) (stay : Stay) :
    stay.store now session = { stay with current := (stay.store now session).current } := by
  unfold store
  split <;> rfl

/-- A deletion of this key, for a session with the same id. -/
def erase (key : SessionKey) (workspaceId : UUID) (stay : Stay) : Stay :=
  if key.workspaceId = workspaceId then { stay with deleted := true }
  else { stay with disowned := true }

end Stay

/-- The sessions that were created, and the time. -/
structure Ledger where
  clock : ℕ
  stays : SessionKey → Option Stay

/-- A step of the store: an operation, or time passing. -/
inductive StoreStep where
  | call (op : StoreOp)
  | tick (ms : ℕ)

namespace Ledger

def start : Ledger := ⟨0, fun _ => none⟩

/-- The promised answer. -/
def classify (ledger : Ledger) (key : SessionKey) :
    Option UploadSession × Option ExpiryMetadata :=
  match ledger.stays key with
  | some stay => stay.classify ledger.clock
  | none => (none, none)

/-- An operation on ids that the key builder accepts. -/
def record (ledger : Ledger) : StoreOp → Ledger
  | .createSession session => { ledger with
      stays := Function.update ledger.stays session.key
        (some ⟨session, session, ledger.clock, false, false⟩) }
  | .updateSession session => { ledger with
      stays := Function.update ledger.stays session.key
        ((ledger.stays session.key).map (Stay.store ledger.clock session)) }
  | .deleteSession workspaceId sessionId => { ledger with
      stays := fun key =>
        if key.documentId = sessionId then (ledger.stays key).map (Stay.erase key workspaceId)
        else ledger.stays key }
  | .getSession _ _ | .getSessionWithExpiryInfo _ _ => ledger

def step (ledger : Ledger) : StoreStep → Ledger
  | .call op => if op.key.Valid then ledger.record op else ledger
  | .tick ms => { ledger with clock := ledger.clock + ms }

end Ledger

/-- The ledger of a run. -/
def ledgerOf (steps : List StoreStep) : Ledger := steps.foldl Ledger.step .start

def StoreStep.run (env : Environment) (σ : World) : StoreStep → World
  | .call op => op.run env σ
  | .tick ms => σ.tick ms

/-- The world after a run of the store from its empty state. -/
def storeRun (env : Environment) (steps : List StoreStep) : World :=
  steps.foldl (StoreStep.run env) .empty

/-- The id of the session that the step creates. -/
def StoreStep.creates : StoreStep → Option UUID
  | .call (.createSession session) => some session.sessionId
  | _ => none

/-- The ids of the sessions that are created, in order. -/
def createdIds (steps : List StoreStep) : List UUID := steps.filterMap StoreStep.creates

/-! ## The store keeps the ledger -/

/-- The store holds what the ledger says. -/
structure Tracks (ids : List UUID) (σ : World) (ledger : Ledger) : Prop where
  clock : σ.clock = ledger.clock
  known : ∀ key stay, ledger.stays key = some stay → key.documentId ∈ ids
  owner : ∀ key stay, ledger.stays key = some stay → stay.created.workspaceId = key.workspaceId
  sessions : ∀ key, σ.sessions key = (ledger.stays key).bind Stay.hash
  expiry_of_stay : ∀ key stay, ledger.stays key = some stay → stay.deleted = false →
    stay.disowned = false → σ.expiry key.documentId = some stay.metadata
  stay_of_expiry : ∀ s entry, σ.expiry s = some entry → ∃ w stay,
    ledger.stays ⟨w, s⟩ = some stay ∧ stay.deleted = false ∧ stay.disowned = false ∧
      entry = stay.metadata

theorem Tracks.create {ledger : Ledger} (h : Tracks ids σ ledger) (session : UploadSession)
    (hnew : session.sessionId ∉ ids) :
    Tracks (ids ++ [session.sessionId]) (StoreOp.effect σ (.createSession session))
      (ledger.record (.createSession session)) := by
  -- the id is new, so no stay has it yet
  have hother : ∀ key stay, ledger.stays key = some stay → key.documentId ≠ session.sessionId :=
    fun key stay hstay heq => hnew (heq ▸ h.known key stay hstay)
  have hfresh : ledger.stays session.key = none := by
    by_contra hsome
    obtain ⟨stay, hstay⟩ := Option.ne_none_iff_exists'.mp hsome
    exact hother _ stay hstay rfl
  have hstays : ∀ key stay, (ledger.record (.createSession session)).stays key = some stay →
      (key = session.key ∧ stay = ⟨session, session, ledger.clock, false, false⟩) ∨
        (key ≠ session.key ∧ ledger.stays key = some stay) := by
    intro key stay hstay
    simp only [Ledger.record] at hstay
    by_cases hkey : key = session.key
    · subst hkey
      rw [Function.update_self] at hstay
      cases hstay
      exact .inl ⟨rfl, rfl⟩
    · rw [Function.update_of_ne hkey] at hstay
      exact .inr ⟨hkey, hstay⟩
  have hkept : ∀ key stay, ledger.stays key = some stay →
      (ledger.record (.createSession session)).stays key = some stay := by
    intro key stay hstay
    have hkey : key ≠ session.key := fun heq => nomatch (heq ▸ hstay).symm.trans hfresh
    exact (Function.update_of_ne hkey _ _).trans hstay
  constructor
  case clock => exact h.clock
  case known =>
    intro key stay hstay
    rcases hstays key stay hstay with ⟨rfl, -⟩ | ⟨-, hstay⟩
    · exact List.mem_append_right _ (List.mem_singleton.mpr rfl)
    · exact List.mem_append_left _ (h.known key stay hstay)
  case owner =>
    intro key stay hstay
    rcases hstays key stay hstay with ⟨rfl, rfl⟩ | ⟨-, hstay⟩
    · rfl
    · exact h.owner key stay hstay
  case sessions =>
    intro key
    by_cases hkey : key = session.key
    · subst hkey
      simp only [StoreOp.effect, Keyspace.put_self, Ledger.record, Function.update_self,
        World.deadline, h.clock]
      rfl
    · simp only [StoreOp.effect, Keyspace.put_of_ne hkey, Ledger.record,
        Function.update_of_ne hkey]
      exact h.sessions key
  case expiry_of_stay =>
    intro key stay hstay hdeleted hdisowned
    rcases hstays key stay hstay with ⟨rfl, rfl⟩ | ⟨-, hstay⟩
    · refine Keyspace.put_self.trans ?_
      rw [World.deadline, h.clock]
      rfl
    · exact (Keyspace.put_of_ne (hother key stay hstay)).trans
        (h.expiry_of_stay key stay hstay hdeleted hdisowned)
  -- metadata under the new id belongs to the new session
  case stay_of_expiry =>
    intro s entry hentry
    rcases Keyspace.of_put_eq_some hentry with ⟨rfl, rfl⟩ | ⟨-, hold⟩
    · refine ⟨session.workspaceId, _, Function.update_self .., rfl, rfl, ?_⟩
      rw [World.deadline, h.clock]
      rfl
    · obtain ⟨w, stay, hstay, hrest⟩ := h.stay_of_expiry s entry hold
      exact ⟨w, stay, hkept _ _ hstay, hrest⟩

theorem Tracks.session?_eq {ledger : Ledger} (h : Tracks ids σ ledger) (key : SessionKey) :
    σ.session? key = ((ledger.stays key).filter fun stay => stay.Live ledger.clock).map
      fun stay => RedisSessionStore.serializeSession stay.current := by
  rw [World.session?, Keyspace.get?, Keyspace.find?, h.sessions key, h.clock]
  cases ledger.stays key with
  | none => rfl
  | some stay =>
      cases hdeleted : stay.deleted with
      | true => simp [Stay.hash, Stay.Live, hdeleted, Option.filter]
      | false =>
          by_cases hlive : ledger.clock < stay.since + lifetime
          · simp [Stay.hash, Stay.Live, hdeleted, Option.filter, hlive]
          · simp [Stay.hash, Stay.Live, hdeleted, Option.filter, hlive]

theorem Tracks.update {ledger : Ledger} (h : Tracks ids σ ledger) (session : UploadSession) :
    Tracks ids (StoreOp.effect σ (.updateSession session))
      (ledger.record (.updateSession session)) := by
  have hexpiry : (StoreOp.effect σ (.updateSession session)).expiry = σ.expiry := by
    simp only [StoreOp.effect]
    split <;> rfl
  have hclock : (StoreOp.effect σ (.updateSession session)).clock = σ.clock := by
    simp only [StoreOp.effect]
    split <;> rfl
  have hother : ∀ key, key ≠ session.key →
      (ledger.record (.updateSession session)).stays key = ledger.stays key := fun key hkey =>
    Function.update_of_ne hkey _ _
  have hself : (ledger.record (.updateSession session)).stays session.key =
      (ledger.stays session.key).map (Stay.store ledger.clock session) :=
    Function.update_self ..
  -- nothing but the stored session moves
  have hstays : ∀ key, ∃ f : Stay → Stay, (∀ stay, (f stay).created = stay.created ∧
      (f stay).deleted = stay.deleted ∧ (f stay).disowned = stay.disowned ∧
      (f stay).metadata = stay.metadata) ∧
      (ledger.record (.updateSession session)).stays key = (ledger.stays key).map f := by
    intro key
    by_cases hkey : key = session.key
    · subst hkey
      refine ⟨_, fun stay => ?_, hself⟩
      rw [Stay.store_eq]
      exact ⟨rfl, rfl, rfl, rfl⟩
    · exact ⟨id, fun _ => ⟨rfl, rfl, rfl, rfl⟩, by rw [hother key hkey, Option.map_id, id]⟩
  have hback : ∀ key stay, (ledger.record (.updateSession session)).stays key = some stay →
      ∃ stay', ledger.stays key = some stay' ∧ stay.created = stay'.created ∧
        stay.deleted = stay'.deleted ∧ stay.disowned = stay'.disowned ∧
        stay.metadata = stay'.metadata := by
    intro key stay hstay
    obtain ⟨f, hf, hmap⟩ := hstays key
    rw [hmap] at hstay
    obtain ⟨stay', hstay', rfl⟩ := Option.map_eq_some_iff.mp hstay
    exact ⟨stay', hstay', hf stay'⟩
  constructor
  case clock => exact hclock.trans h.clock
  case known =>
    intro key stay hstay
    obtain ⟨stay', hstay', -⟩ := hback key stay hstay
    exact h.known key stay' hstay'
  case owner =>
    intro key stay hstay
    obtain ⟨stay', hstay', hcreated, -⟩ := hback key stay hstay
    rw [hcreated]
    exact h.owner key stay' hstay'
  case sessions =>
    intro key
    have hread := h.session?_eq session.key
    by_cases hkey : key = session.key
    · subst hkey
      rw [hself]
      simp only [StoreOp.effect, hread]
      cases hstay : ledger.stays session.key with
      | none => simp [h.sessions, hstay]
      | some stay =>
          by_cases hlive : stay.Live ledger.clock
          · have hstored : σ.sessions session.key = some ⟨RedisSessionStore.serializeSession
                stay.current, some (stay.since + lifetime)⟩ := by
              rw [h.sessions, hstay]
              simp [Stay.hash, hlive.1]
            have hfind : σ.sessions.find? σ.clock session.key =
                some ⟨RedisSessionStore.serializeSession stay.current,
                  some (stay.since + lifetime)⟩ :=
              Keyspace.find?_eq_some_iff.mpr ⟨hstored, by simpa [h.clock] using hlive.2⟩
            simp only [Option.filter_some, hlive, decide_true, if_true, Option.map_some,
              reduceCtorEq, if_false, Option.bind_some]
            simp only [World.putSession, Stay.store, if_pos hlive, Stay.hash, hlive.1]
            exact Keyspace.overwrite_self hfind
          · simp [Option.filter_some, hlive, Stay.store, h.sessions, hstay]
    · rw [hother key hkey, ← h.sessions key]
      simp only [StoreOp.effect]
      split
      · rfl
      · exact Keyspace.overwrite_of_ne hkey
  case expiry_of_stay =>
    intro key stay hstay hdeleted hdisowned
    obtain ⟨stay', hstay', -, hdeleted', hdisowned', hmetadata⟩ := hback key stay hstay
    rw [hexpiry, hmetadata]
    exact h.expiry_of_stay key stay' hstay' (hdeleted' ▸ hdeleted) (hdisowned' ▸ hdisowned)
  case stay_of_expiry =>
    intro s entry hentry
    rw [hexpiry] at hentry
    obtain ⟨w, stay, hstay, hdeleted, hdisowned, hmetadata⟩ := h.stay_of_expiry s entry hentry
    obtain ⟨f, hf, hmap⟩ := hstays ⟨w, s⟩
    obtain ⟨-, hdeleted', hdisowned', hmetadata'⟩ := hf stay
    refine ⟨w, f stay, by rw [hmap, hstay]; rfl, hdeleted'.trans hdeleted,
      hdisowned'.trans hdisowned, hmetadata.trans hmetadata'.symm⟩

theorem Tracks.delete {ledger : Ledger} (h : Tracks ids σ ledger) (w s : UUID) :
    Tracks ids (StoreOp.effect σ (.deleteSession w s)) (ledger.record (.deleteSession w s)) := by
  have hother : ∀ key : SessionKey, key.documentId ≠ s →
      (ledger.record (.deleteSession w s)).stays key = ledger.stays key := fun key hkey =>
    if_neg hkey
  have hself : ∀ key : SessionKey, key.documentId = s →
      (ledger.record (.deleteSession w s)).stays key =
        (ledger.stays key).map (Stay.erase key w) := fun key hkey => if_pos hkey
  -- every stay in the new ledger comes from one in the old
  have hback : ∀ key stay, (ledger.record (.deleteSession w s)).stays key = some stay →
      ∃ stay', ledger.stays key = some stay' ∧ stay.created = stay'.created ∧
        (key.documentId = s → stay.deleted = true ∨ stay.disowned = true) ∧
        (key.documentId ≠ s → stay = stay') := by
    intro key stay hstay
    by_cases hkey : key.documentId = s
    · rw [hself key hkey] at hstay
      obtain ⟨stay', hstay', rfl⟩ := Option.map_eq_some_iff.mp hstay
      refine ⟨stay', hstay', ?_, fun _ => ?_, fun hne => absurd hkey hne⟩
      · unfold Stay.erase
        split <;> rfl
      · unfold Stay.erase
        split
        · exact .inl rfl
        · exact .inr rfl
    · rw [hother key hkey] at hstay
      exact ⟨stay, hstay, rfl, fun heq => absurd heq hkey, fun _ => rfl⟩
  constructor
  case clock => exact h.clock
  case known =>
    intro key stay hstay
    obtain ⟨stay', hstay', -⟩ := hback key stay hstay
    exact h.known key stay' hstay'
  case owner =>
    intro key stay hstay
    obtain ⟨stay', hstay', hcreated, -⟩ := hback key stay hstay
    rw [hcreated]
    exact h.owner key stay' hstay'
  case sessions =>
    intro key
    by_cases hkey : key = ⟨w, s⟩
    · subst hkey
      rw [hself _ rfl]
      refine Keyspace.erase_self.trans ?_
      cases ledger.stays ⟨w, s⟩ with
      | none => rfl
      | some stay => simp [Stay.erase, Stay.hash]
    · refine (Keyspace.erase_of_ne hkey).trans ((h.sessions key).trans ?_)
      -- the hash of another workspace stays, only its metadata goes
      by_cases hs : key.documentId = s
      · have hw : key.workspaceId ≠ w := fun hw => hkey (by cases key; simp_all)
        rw [hself key hs]
        cases ledger.stays key with
        | none => rfl
        | some stay => simp [Stay.erase, Stay.hash, hw]
      · rw [hother key hs]
  -- a stay that is neither deleted nor disowned has another session id
  case expiry_of_stay =>
    intro key stay hstay hdeleted hdisowned
    obtain ⟨stay', hstay', -, hsame, hne⟩ := hback key stay hstay
    by_cases hs : key.documentId = s
    · rcases hsame hs with htrue | htrue
      · exact nomatch htrue.symm.trans hdeleted
      · exact nomatch htrue.symm.trans hdisowned
    · obtain rfl := hne hs
      exact (Keyspace.erase_of_ne hs).trans (h.expiry_of_stay key stay hstay' hdeleted hdisowned)
  case stay_of_expiry =>
    intro s' entry hentry
    obtain ⟨hs, hold⟩ := Keyspace.of_erase_eq_some hentry
    obtain ⟨w', stay, hstay, hrest⟩ := h.stay_of_expiry s' entry hold
    exact ⟨w', stay, (hother ⟨w', s'⟩ hs).trans hstay, hrest⟩

theorem Tracks.mono {ids' : List UUID} {ledger : Ledger} (h : Tracks ids σ ledger)
    (hids : ids ⊆ ids') : Tracks ids' σ ledger :=
  { h with known := fun key stay hstay => hids (h.known key stay hstay) }

theorem tracks_run {steps : List StoreStep} (hids : (createdIds steps).Nodup) :
    Tracks (createdIds steps) (storeRun env steps) (ledgerOf steps) := by
  induction steps using List.reverseRecOn with
  | nil =>
      exact ⟨rfl, fun _ _ h => (nomatch h), fun _ _ h => (nomatch h), fun _ => rfl,
        fun _ _ h => (nomatch h), fun _ _ h => (nomatch h)⟩
  | append_singleton steps step ih =>
      have hsplit : createdIds (steps ++ [step]) = createdIds steps ++ step.creates.toList := by
        simp only [createdIds, List.filterMap_append]
        cases h : step.creates <;> simp [h]
      have hworld : storeRun env (steps ++ [step]) = step.run env (storeRun env steps) :=
        List.foldl_append
      have hledger : ledgerOf (steps ++ [step]) = (ledgerOf steps).step step := List.foldl_append
      rw [hsplit] at hids ⊢
      rw [hworld, hledger]
      have h := ih (hids.sublist (List.sublist_append_left _ _))
      cases step with
      | tick ms =>
          exact { h.mono (List.subset_append_left _ _) with clock := congrArg (· + ms) h.clock }
      | call op =>
          simp only [StoreStep.run, Ledger.step, op.run_eq]
          split
          · cases op with
            | createSession session =>
                refine h.create session fun hmem => ?_
                exact List.disjoint_of_nodup_append hids hmem (List.mem_singleton.mpr rfl)
            | updateSession session => exact (h.update session).mono (List.subset_append_left _ _)
            | deleteSession w s => exact (h.delete w s).mono (List.subset_append_left _ _)
            | getSession w s => exact h.mono (List.subset_append_left _ _)
            | getSessionWithExpiryInfo w s => exact h.mono (List.subset_append_left _ _)
          · exact h.mono (List.subset_append_left _ _)

/-! ## The answers of the store -/

/-- Metadata that the workspace may read is that of its own session. -/
theorem Tracks.own_metadata {ledger : Ledger} (h : Tracks ids σ ledger)
    {metadata : ExpiryMetadata} (hread : σ.expiry.get? σ.clock s = some metadata)
    (hown : metadata.workspaceId = w.str) : ∃ stay, ledger.stays ⟨w, s⟩ = some stay ∧
      stay.deleted = false ∧ stay.disowned = false ∧
        metadata = RedisSessionStore.expiryMetadata stay.created ∧
        ledger.clock < stay.since + RedisSessionStore.expiryTtlSeconds * 1000 := by
  obtain ⟨d, hentry, hlive⟩ := Keyspace.get?_eq_some_iff.mp hread
  obtain ⟨w', stay, hstay, hdeleted, hdisowned, hmetadata⟩ := h.stay_of_expiry s _ hentry
  cases hmetadata
  have howner : w' = w := by
    refine UUID.str_injective (Eq.trans ?_ hown)
    rw [← show stay.created.workspaceId = w' from h.owner _ stay hstay]
    rfl
  subst howner
  exact ⟨stay, hstay, hdeleted, hdisowned, rfl, by simpa [h.clock] using hlive⟩

theorem Tracks.infoReply_eq {ledger : Ledger} (h : Tracks ids σ ledger) :
    RedisSessionStore.infoReply w (σ.session? ⟨w, s⟩) (σ.expiry.get? σ.clock s) =
      .ok (match ledger.stays ⟨w, s⟩ with
        | some stay =>
            if stay.Forgotten ledger.clock then (none, none) else stay.classify ledger.clock
        | none => (none, none)) := by
  rw [h.session?_eq]
  -- without a live session the answer is the workspace's own metadata
  have hnone : ∀ answer, (∀ metadata, (σ.expiry.get? σ.clock s).filter
        (fun metadata => metadata.workspaceId = w.str) = some metadata ↔ answer = some metadata) →
      RedisSessionStore.infoReply w none (σ.expiry.get? σ.clock s) = .ok (none, answer) := by
    intro answer hanswer
    rw [infoReply_none]
    exact congrArg (fun m => Except.ok (none, m)) (Option.ext hanswer)
  cases hstay : ledger.stays ⟨w, s⟩ with
  | none =>
      refine hnone none fun metadata => ⟨fun hread => ?_, fun h => by cases h⟩
      obtain ⟨hread, hown⟩ := Option.filter_eq_some_iff.mp hread
      obtain ⟨stay, hstay', -⟩ := h.own_metadata hread (of_decide_eq_true hown)
      cases hstay.symm.trans hstay'
  | some stay =>
      by_cases hlive : stay.Live ledger.clock
      · have hnot : ¬ stay.Forgotten ledger.clock := fun hf => by
          have hexpired := hf.1.2.1
          have hbefore := hlive.2
          omega
        simp only [Option.filter_some, hlive, decide_true, if_true, Option.map_some, if_neg hnot,
          Stay.classify, RedisSessionStore.infoReply, RedisSessionStore.deserialize_serialize]
      · simp only [Option.filter_some, hlive, decide_false, Bool.false_eq_true, if_false,
          Option.map_none, Stay.classify]
        by_cases hknown : stay.Expired ledger.clock ∧ ¬ stay.Forgotten ledger.clock
        · obtain ⟨hexpired, hremembered⟩ := hknown
          rw [if_neg hremembered, if_pos hexpired]
          have hnow : ledger.clock < stay.since + RedisSessionStore.expiryTtlSeconds * 1000 := by
            by_contra hlate
            exact hremembered ⟨hexpired, .inl (not_lt.mp hlate)⟩
          have hdisowned : stay.disowned = false := by
            by_contra htrue
            exact hremembered ⟨hexpired, .inr (by simpa using htrue)⟩
          have hentry := h.expiry_of_stay _ stay hstay hexpired.1 hdisowned
          have hread : σ.expiry.get? σ.clock s =
              some (RedisSessionStore.expiryMetadata stay.created) :=
            Keyspace.get?_eq_some_iff.mpr ⟨_, hentry, by simpa [h.clock] using hnow⟩
          have hown : (RedisSessionStore.expiryMetadata stay.created).workspaceId = w.str :=
            congrArg UUID.str (h.owner _ stay hstay)
          refine hnone _ fun metadata => ?_
          rw [hread, Option.filter_some, if_pos (by simpa using hown)]
        · have hanswer : (if stay.Forgotten ledger.clock then
                ((none, none) : Option UploadSession × Option ExpiryMetadata)
              else if stay.Expired ledger.clock then
                (none, some (RedisSessionStore.expiryMetadata stay.created))
              else (none, none)) = (none, none) := by
            by_cases hf : stay.Forgotten ledger.clock
            · rw [if_pos hf]
            · rw [if_neg hf, if_neg fun hexpired => hknown ⟨hexpired, hf⟩]
          rw [hanswer]
          refine hnone none fun metadata => ⟨fun hread => ?_, fun h => by cases h⟩
          obtain ⟨hread, hown⟩ := Option.filter_eq_some_iff.mp hread
          obtain ⟨stay', hstay', hdeleted, hdisowned, -, hnow⟩ :=
            h.own_metadata hread (of_decide_eq_true hown)
          cases hstay.symm.trans hstay'
          have hsince : stay.since + lifetime ≤ ledger.clock := by
            by_contra hearly
            exact hlive ⟨hdeleted, not_le.mp hearly⟩
          have hgrace : RedisSessionStore.expiryTtlSeconds * 1000 = graceTime := by
            simp [RedisSessionStore.expiryTtlSeconds, graceTime]
          have hbefore : ledger.clock < stay.since + lifetime + graceTime := by
            rw [hgrace] at hnow
            omega
          refine absurd ⟨⟨hdeleted, hsince, hbefore⟩, fun hf => ?_⟩ hknown
          rcases hf.2 with hlate | htrue
          · omega
          · cases htrue.symm.trans hdisowned

/-- The store gives the promised answer about a session of a workspace except when it has dropped
the metadata of an expired session too early. -/
theorem classified_iff (env : Environment) (steps : List StoreStep) (w s : UUID)
    (hids : (createdIds steps).Nodup) :
    ((RedisSessionStore.getSessionWithExpiryInfo w s).run (serviceMachine env) []
        (storeRun env steps)).1 = .ok ((ledgerOf steps).classify ⟨w, s⟩) ↔
      SessionKey.Valid ⟨w, s⟩ ∧ ∀ stay ∈ (ledgerOf steps).stays ⟨w, s⟩,
        ¬ stay.Forgotten (ledgerOf steps).clock := by
  have htracks : Tracks (createdIds steps) (storeRun env steps) (ledgerOf steps) := tracks_run hids
  rw [RedisSessionStore.run_getSessionWithExpiryInfo]
  by_cases hkey : SessionKey.Valid ⟨w, s⟩
  · simp only [sessionKey_of_valid hkey, hkey, true_and]
    change RedisSessionStore.infoReply _ _ _ = _ ↔ _
    rw [htracks.infoReply_eq, Ledger.classify]
    cases (ledgerOf steps).stays ⟨w, s⟩ with
    | none => simp
    | some stay =>
        have hiff : (if stay.Forgotten (ledgerOf steps).clock then (none, none)
              else stay.classify (ledgerOf steps).clock) = stay.classify (ledgerOf steps).clock ↔
            ¬ stay.Forgotten (ledgerOf steps).clock := by
          by_cases hf : stay.Forgotten (ledgerOf steps).clock
          · have hlive : ¬ stay.Live (ledgerOf steps).clock := fun hl => by
              have hexpired := hf.1.2.1
              have hbefore := hl.2
              omega
            simp [hf, Stay.classify, hf.1, hlive]
          · simp [hf]
        simpa using hiff
  · refine ⟨fun h => ?_, fun h => absurd h.1 hkey⟩
    cases hbuild : sessionKey w s with
    | ok key => exact absurd (sessionKey_eq_ok hbuild).2 hkey
    | error e =>
        rw [hbuild] at h
        exact nomatch h

/-- A session that expired an hour ago. -/
theorem classified_iff_sample :
    ((RedisSessionStore.getSessionWithExpiryInfo Sample.workspace Sample.session).run
        (serviceMachine Sample.environment) []
        (storeRun Sample.environment [.call (.createSession Sample.pendingSession),
          .tick 90000000])).1 =
        .ok ((ledgerOf [.call (.createSession Sample.pendingSession),
          .tick 90000000]).classify ⟨Sample.workspace, Sample.session⟩) ↔
      SessionKey.Valid ⟨Sample.workspace, Sample.session⟩ ∧
        ∀ stay ∈ (ledgerOf [.call (.createSession Sample.pendingSession), .tick 90000000]).stays
          ⟨Sample.workspace, Sample.session⟩,
        ¬ stay.Forgotten (ledgerOf [.call (.createSession Sample.pendingSession),
          .tick 90000000]).clock :=
  classified_iff Sample.environment [.call (.createSession Sample.pendingSession),
    .tick 90000000] Sample.workspace Sample.session (by decide)

/-- Seven days after its creation, six after its expiry, the store says that the session never
existed. -/
theorem forgets_after_seven_days :
    (createdIds [.call (.createSession Sample.pendingSession), .tick 604800001]).Nodup ∧
      ((RedisSessionStore.getSessionWithExpiryInfo Sample.workspace Sample.session).run
        (serviceMachine Sample.environment) []
        (storeRun Sample.environment [.call (.createSession Sample.pendingSession),
          .tick 604800001])).1 = .ok (none, none) ∧
      (ledgerOf [.call (.createSession Sample.pendingSession), .tick 604800001]).classify
          ⟨Sample.workspace, Sample.session⟩ =
        (none, some (RedisSessionStore.expiryMetadata Sample.pendingSession)) := by
  decide +kernel

end RagFileUploader
