import RagFileUploader.Workspaces.Requests
import RagFileUploader.Concurrent.Filing
import RagFileUploader.Serial.Runs

/-!
# Workspaces side by side

What a workspace has in Redis, in S3 and among the published events is its `Share` of the world.
Calls for other workspaces leave it alone, however their commands are interleaved, whichever of them
fail, and whatever session ids the callers pass.  The expiry metadata needs an argument, as it is
kept under the session id alone: ids are generated once, so that every id has at most one `owner`,
and a call touches no metadata but that of its own workspace.

* `World.Sound` is what any calls keep of the world as a whole; in particular no multipart upload
  has an id that is still to be dealt.
* `Command.share_act_of_area` and `Command.share_act_s3` are the frame: a command for another
  workspace moves nothing of a `Share`, the expiry metadata set aside.
* `World.Owned` gives every id its owner.  `World.Owned.draw` extends it when an id is generated,
  which is where the ids have to be distinct, and `World.Owned.metadata_act` closes the gap that the
  frame leaves.
* `Separate` puts these together for all callers at once, `Separate.sustains` is the step, and
  `share_step_requests` and `workspaces_apart` are read off it for requests.
-/

namespace RagFileUploader

open Effects Stores

variable {env : Environment} {settings : Settings} {σ : World} {w s : UUID} {c : Command}
  {γ : Caller} {γs : List Caller} {owner : UUID → Option UUID} {α : Type} {tasks : List (Task α)}

/-! ## What is stored is sound -/

/-- Hashes are those of sessions, fingerprints can be read back, and upload ids are new. -/
structure World.Sound (σ : World) : Prop where
  keeps : σ.Keeps fun _ => True
  legible : ∀ w sha256 fields, σ.dedup w sha256 = some fields → fields.Legible
  uploads : ∀ id, σ.nextUpload ≤ id → σ.uploads id = none

theorem World.sound_empty : World.empty.Sound := ⟨nofun, nofun, fun _ _ => rfl⟩

theorem Command.dedup_act {sha256 : String} {fields : MetadataFields}
    (h : (c.act env σ).2.dedup w sha256 = some fields) :
    σ.dedup w sha256 = some fields ∨ fields ∈ c.newFingerprint? ∧ c.workspace? = some w := by
  by_cases hc : c.area = .s3
  · obtain ⟨objects, uploads, nextUpload, heq⟩ := @Command.act_s3 env σ _ hc
    rw [heq] at h
    exact .inl h
  · cases c with
    | hsetDedup w' sha256' fields' =>
        simp only [Command.act, World.setFingerprint] at h
        by_cases hw : w = w'
        · subst hw
          rw [Function.update_self] at h
          by_cases hsha : sha256 = sha256'
          · subst hsha
            rw [Function.update_self] at h
            exact .inr ⟨h, rfl⟩
          · rw [Function.update_of_ne hsha] at h
            exact .inl h
        · rw [Function.update_of_ne hw] at h
          exact .inl h
    | headObject | createMultipartUpload | uploadPart | completeMultipartUpload
    | abortMultipartUpload | deleteObject => exact absurd rfl hc
    | _ => exact .inl h

/-- What a command does to the uploads: nothing, or it begins one under a new id, or it changes or
ends one under its own key. -/
theorem Command.uploads_cases (c : Command) :
    ((c.act env σ).2.uploads = σ.uploads ∧ (c.act env σ).2.nextUpload = σ.nextUpload) ∨
    (∃ key : S3Key, c.workspace? = some key.workspaceId ∧
      (c.act env σ).2.uploads = Function.update σ.uploads σ.nextUpload (some ⟨key, fun _ => none⟩) ∧
        (c.act env σ).2.nextUpload = σ.nextUpload + 1) ∨
    ∃ id u u?, σ.uploads id = some u ∧ c.workspace? = some u.key.workspaceId ∧
      (∀ u' ∈ u?, u'.key = u.key) ∧ (c.act env σ).2.uploads = Function.update σ.uploads id u? ∧
        (c.act env σ).2.nextUpload = σ.nextUpload := by
  -- an upload is found under its own key only, whose workspace is the command's
  have hfound : ∀ {key : S3Key} {id : UploadId} {u : Upload}, σ.upload? key id = some u →
      σ.uploads id = some u ∧ some key.workspaceId = some u.key.workspaceId := fun hu => by
    obtain ⟨hu, hkey⟩ := Option.filter_eq_some_iff.mp hu
    exact ⟨hu, by rw [decide_eq_true_iff.mp hkey]⟩
  by_cases hc : c.area = .s3
  · cases c with
    | headObject key =>
        simp only [Command.act]
        split <;> exact .inl ⟨rfl, rfl⟩
    | createMultipartUpload key => exact .inr (.inl ⟨key, rfl, rfl, rfl⟩)
    | uploadPart key id partNumber body =>
        simp only [Command.act]
        split
        · next u hu =>
            obtain ⟨hupload, hworkspace⟩ := hfound hu
            exact .inr (.inr ⟨id, u, _, hupload, hworkspace, by rintro u' ⟨⟩; rfl, rfl, rfl⟩)
        · exact .inl ⟨rfl, rfl⟩
    | completeMultipartUpload key id parts =>
        simp only [Command.act]
        split
        · exact .inl ⟨rfl, rfl⟩
        · next u hu =>
            obtain ⟨hupload, hworkspace⟩ := hfound hu
            split
            · split
              · exact .inr (.inr ⟨id, u, none, hupload, hworkspace, by rintro u' ⟨⟩, rfl, rfl⟩)
              · exact .inl ⟨rfl, rfl⟩
            · exact .inl ⟨rfl, rfl⟩
    | abortMultipartUpload key id =>
        simp only [Command.act]
        split
        · next u hu =>
            obtain ⟨hupload, hworkspace⟩ := hfound hu
            exact .inr (.inr ⟨id, u, none, hupload, hworkspace, by rintro u' ⟨⟩, rfl, rfl⟩)
        · exact .inl ⟨rfl, rfl⟩
    | deleteObject key => exact .inl ⟨rfl, rfl⟩
    | _ => cases hc
  · obtain ⟨-, huploads, hnext⟩ := @storage_act_of_area env σ _ hc
    exact .inl ⟨huploads, hnext⟩

/-- Only a new upload gets a new id. -/
theorem Command.uploads_act (hσ : ∀ id, σ.nextUpload ≤ id → σ.uploads id = none) (id : UploadId)
    (hid : (c.act env σ).2.nextUpload ≤ id) : (c.act env σ).2.uploads id = none := by
  rcases @Command.uploads_cases env σ c with ⟨huploads, hnext⟩ | ⟨key, -, huploads, hnext⟩ |
    ⟨id', u, u?, hu, -, -, huploads, hnext⟩ <;> rw [hnext] at hid <;> rw [huploads]
  · exact hσ id hid
  · rw [Function.update_of_ne (Nat.ne_of_gt hid)]
    exact hσ id (Nat.le_of_succ_le hid)
  · have hne : id ≠ id' := by
      rintro rfl
      cases hu.symm.trans (hσ id hid)
    rw [Function.update_of_ne hne]
    exact hσ id hid

theorem World.Sound.act (h : σ.Sound) (hmay : γ.May c) : (c.act env σ).2.Sound := by
  refine ⟨h.keeps.act hmay.stores, fun w sha256 fields hfields => ?_, c.uploads_act h.uploads⟩
  rcases Command.dedup_act hfields with hold | ⟨hnew, -⟩
  · exact h.legible w sha256 fields hold
  · exact hmay.fingerprint fields hnew

theorem World.Sound.sustains {p : Pool serviceSignature World α} {turn : Turn World Fault}
    (h : p.state.Sound) (hturn : Passing turn) :
    Pool.Sustains (serviceMachine env) callerMonitor (fun _ σ _ => σ.Sound) p γs turn := by
  cases turn with
  | issue i fault =>
      intro γ c _ _ hmay
      rcases (serviceMachine env).attempt_cases fault c p.state with hact | ⟨_, _, e, -, hfail⟩
      · rw [hact]
        exact ⟨h.keeps.finds c, h.act hmay⟩
      · rw [hfail]
        refine ⟨?_, h⟩
        change c.Finds _ (.error e)
        cases c <;> trivial
  | drift change =>
      obtain ⟨ms, rfl⟩ := hturn
      exact ⟨h.keeps, h.legible, h.uploads⟩

/-- The tasks are callers of their workspaces that know of no session. -/
def callers (tasks : List (Task α)) : List Caller := tasks.map fun task => ⟨task.workspaceId, none⟩

theorem watched_callers (tasks : List (Task α))
    {I : List Caller → World → List (ℕ × Command) → Prop} (h : I (callers tasks) σ []) :
    Pool.Watched callerMonitor (fun _ _ => True) I (Task.pool σ tasks) (callers tasks) := by
  refine ⟨?_, h⟩
  clear h
  unfold Task.pool callers
  induction tasks with
  | nil => exact .nil
  | cons task tasks ih =>
      exact .cons (Program.obeys_mono task.confined fun _ _ _ => trivial) ih

theorem World.Reachable.sound (h : σ.Reachable env settings) : σ.Sound := by
  obtain ⟨calls, turns, hpassing, rfl⟩ := h
  rw [callPool_eq]
  obtain ⟨γs, hend⟩ := Pool.run_watched (C := fun _ turn => Passing turn)
    (fun _ _ _ hsound hturn => World.Sound.sustains hsound hturn)
    (watched_callers _ World.sound_empty)
    (Pool.within_of_forall (fun turn hturn _ => hpassing turn hturn) _)
  exact hend.holds

/-! ## What belongs to a workspace -/

/-- What a workspace has. -/
@[ext]
structure Share where
  sessions : UUID → Option (Entry SessionHash)
  metadata : UUID → Option (Entry ExpiryMetadata)
  chunks : UUID → ℤ → Option (Entry Bytes)
  counter : Option ℤ
  fingerprints : String → Option MetadataFields
  files : UUID → Option Bytes
  uploads : UploadId → Option Upload
  events : List FileLoadCompletedEvent

/-- Under the keys of the workspace; the metadata and the events are those that name it. -/
def World.share (σ : World) (w : UUID) : Share where
  sessions := fun s => σ.sessions ⟨w, s⟩
  metadata := fun s => (σ.expiry s).filter fun entry => entry.value.workspaceId = w.str
  chunks := fun s index => σ.chunks ⟨w, s, index⟩
  counter := σ.counters w
  fingerprints := σ.dedup w
  files := fun f => σ.objects ⟨w, f⟩
  uploads := fun id => (σ.uploads id).filter fun u => u.key.workspaceId = w
  events := σ.published.filter fun event => event.workspaceId = w

/-- A command outside S3 for another workspace that touches none of its metadata. -/
theorem Command.share_act_of_area (hc : c.area ≠ .s3) (hw : ∀ w' ∈ c.workspace?, w' ≠ w)
    (hmetadata : ∀ s, ((c.act env σ).2.share w).metadata s = (σ.share w).metadata s) :
    (c.act env σ).2.share w = σ.share w := by
  cases c with
  | createSession key | hsetSession key | deleteSession key =>
      refine Share.ext (funext fun s => ?_) (funext hmetadata) rfl rfl rfl rfl rfl rfl
      have hne : (⟨w, s⟩ : SessionKey) ≠ key := fun h => hw key.workspaceId rfl (by rw [← h])
      first
        | exact Keyspace.put_of_ne hne
        | exact Keyspace.overwrite_of_ne hne
        | exact Keyspace.erase_of_ne hne
  | setChunk key | deleteChunk key =>
      refine Share.ext rfl rfl (funext fun s => funext fun index => ?_) rfl rfl rfl rfl rfl
      have hne : (⟨w, s, index⟩ : ChunkKey) ≠ key := fun h => hw key.workspaceId rfl (by rw [← h])
      first
        | exact Keyspace.put_of_ne hne
        | exact Keyspace.erase_of_ne hne
  | hincrbyCounter w' amount | hsetCounter w' value =>
      exact Share.ext rfl rfl rfl (Function.update_of_ne (hw w' rfl).symm _ _) rfl rfl rfl rfl
  | hsetDedup w' sha256 fields =>
      exact Share.ext rfl rfl rfl rfl (Function.update_of_ne (hw w' rfl).symm _ _) rfl rfl rfl
  | publish event =>
      have hne := hw event.workspaceId rfl
      refine Share.ext rfl rfl rfl rfl rfl rfl rfl ?_
      have hcons : (((publish event).act env σ).2.share w).events =
          (event :: σ.published).filter fun event => event.workspaceId = w := rfl
      rw [hcons, List.filter_cons_of_neg (by simpa using hne)]
      rfl
  | headObject | createMultipartUpload | uploadPart | completeMultipartUpload
  | abortMultipartUpload | deleteObject => exact absurd rfl hc
  | _ => rfl

/-- A command of S3 for another workspace. -/
theorem Command.share_act_s3 (hc : c.area = .s3) (hw : ∀ w' ∈ c.workspace?, w' ≠ w)
    (hnew : σ.uploads σ.nextUpload = none) : (c.act env σ).2.share w = σ.share w := by
  have hfiles : ((c.act env σ).2.share w).files = (σ.share w).files := by
    refine funext fun f => Command.objects_act fun hkey => hw w ?_ rfl
    cases c <;> cases hkey <;> exact rfl
  have huploads : ((c.act env σ).2.share w).uploads = (σ.share w).uploads := by
    funext id
    change ((c.act env σ).2.uploads id).filter _ = _
    rcases @Command.uploads_cases env σ c with ⟨heq, -⟩ | ⟨key, hkey, heq, -⟩ |
      ⟨id', u, u?, hu, hkey, hsame, heq, -⟩ <;> rw [heq]
    · rfl
    · by_cases hid : id = σ.nextUpload
      · rw [hid, Function.update_self]
        change _ = (σ.uploads σ.nextUpload).filter _
        rw [hnew]
        simpa using hw _ hkey
      · rw [Function.update_of_ne hid]
        rfl
    · by_cases hid : id = id'
      · have hne := hw _ hkey
        rw [hid, Function.update_self]
        change _ = (σ.uploads id').filter _
        rw [hu, Option.filter_some_neg (by simpa using hne)]
        cases u? with
        | none => rfl
        | some u' => exact Option.filter_some_neg (by simpa [hsame u' rfl] using hne)
      · rw [Function.update_of_ne hid]
        rfl
  obtain ⟨objects, uploads, nextUpload, heq⟩ := @Command.act_s3 env σ _ hc
  rw [heq] at hfiles huploads ⊢
  exact Share.ext rfl rfl rfl rfl rfl hfiles huploads rfl

/-! ## Generated ids -/

theorem Command.drawn_act_le (c : Command) : σ.drawn ≤ (c.act env σ).2.drawn := by
  by_cases hs3 : c.area = .s3
  · obtain ⟨objects, uploads, nextUpload, heq⟩ := @Command.act_s3 env σ _ hs3
    rw [heq]
  · cases c with
    | uuid4 => exact Nat.le_succ _
    | headObject | createMultipartUpload | uploadPart | completeMultipartUpload
    | abortMultipartUpload | deleteObject => exact absurd rfl hs3
    | _ => exact le_rfl

theorem drawn_step_le (p : Pool serviceSignature World α) {turn : Turn World Fault}
    (hturn : Passing turn) : p.state.drawn ≤ (p.step (serviceMachine env) turn).state.drawn := by
  cases turn with
  | drift change =>
      obtain ⟨ms, rfl⟩ := hturn
      exact le_rfl
  | issue i fault =>
      rcases Pool.step_issue_cases (serviceMachine env) p i fault with hidle | ⟨c, next, -, hstep⟩
      · rw [hidle]
      · rw [hstep]
        rcases (serviceMachine env).attempt_cases fault c p.state with hact | ⟨_, _, e, -, hfail⟩
        · rw [hact]
          exact c.drawn_act_le
        · rw [hfail]

theorem drawn_run_le (p : Pool serviceSignature World α) {turns : List (Turn World Fault)}
    (hturns : ∀ turn ∈ turns, Passing turn) :
    p.state.drawn ≤ (p.run (serviceMachine env) turns).state.drawn := by
  induction turns generalizing p with
  | nil => exact le_rfl
  | cons turn turns ih =>
      obtain ⟨hturn, hturns⟩ := List.forall_mem_cons.mp hturns
      exact (drawn_step_le p hturn).trans (ih _ hturns)

/-- Time passes or a command is issued, and the ids that have been generated by then differ. -/
def Fresh (env : Environment) (p : Pool serviceSignature World α)
    (turn : Turn World Fault) : Prop :=
  Passing turn ∧ ((p.step (serviceMachine env) turn).state.ids env).Nodup

/-- If ids differ at the end, they do in between. -/
theorem fresh_of_nodup {p : Pool serviceSignature World α} {turns : List (Turn World Fault)}
    (hturns : ∀ turn ∈ turns, Passing turn)
    (hids : ((p.run (serviceMachine env) turns).state.ids env).Nodup) :
    Pool.Within (serviceMachine env) (Fresh env) p turns := by
  induction turns generalizing p with
  | nil => trivial
  | cons turn turns ih =>
      obtain ⟨hturn, hturns⟩ := List.forall_mem_cons.mp hturns
      exact ⟨⟨hturn, hids.sublist (ids_sublist (drawn_run_le _ hturns))⟩, ih hturns hids⟩

/-! ## Owners -/

/-- Every session id that has been generated has at most one owner, and what is stored under it is
the owner's. -/
structure World.Owned (env : Environment) (σ : World) (owner : UUID → Option UUID) : Prop where
  sessions : ∀ key entry, σ.sessions key = some entry → owner key.documentId = some key.workspaceId
  metadata : ∀ s entry, σ.expiry s = some entry →
    ∃ w, owner s = some w ∧ entry.value.workspaceId = w.str
  issued : ∀ s w, owner s = some w → s ∈ σ.ids env

/-- The session that the caller knows is one of the caller's workspace. -/
def Caller.Knows (owner : UUID → Option UUID) (γ : Caller) : Prop :=
  ∀ s ∈ γ.known, owner s = some γ.workspaceId

theorem World.owned_empty : World.empty.Owned env fun _ => none := ⟨nofun, nofun, nofun⟩

/-- The id that is generated gets an owner. -/
theorem World.Owned.draw (h : σ.Owned env owner)
    (hids : ((Command.uuid4.act env σ).2.ids env).Nodup) (w : UUID) :
    (Command.uuid4.act env σ).2.Owned env
        (Function.update owner (env.uuid4 σ.drawn) (some w)) ∧
      ∀ s w', owner s = some w' →
        Function.update owner (env.uuid4 σ.drawn) (some w) s = some w' := by
  have hnew : env.uuid4 σ.drawn ∉ σ.ids env := uuid4_notMem_ids hids (Nat.lt_succ_self _)
  have hkept : ∀ s w', owner s = some w' →
      Function.update owner (env.uuid4 σ.drawn) (some w) s = some w' := fun s w' hs => by
    have hne : s ≠ env.uuid4 σ.drawn := fun heq => hnew (heq ▸ h.issued s w' hs)
    rw [Function.update_of_ne hne, hs]
  refine ⟨⟨fun key entry hentry => hkept _ _ (h.sessions key entry hentry),
    fun s entry hentry => ?_, fun s w' hs => ?_⟩, hkept⟩
  · obtain ⟨w', hs, hentry⟩ := h.metadata s entry hentry
    exact ⟨w', hkept s w' hs, hentry⟩
  · have hids : (Command.uuid4.act env σ).2.ids env = σ.ids env ++ [env.uuid4 σ.drawn] := by
      simp [World.ids, Command.act, List.range_succ]
    rw [hids, List.mem_append, List.mem_singleton]
    by_cases heq : s = env.uuid4 σ.drawn
    · exact .inr heq
    · rw [Function.update_of_ne heq] at hs
      exact .inl (h.issued s w' hs)

/-- The expiry metadata after a command. -/
theorem Command.expiry_cases (c : Command) :
    (c.act env σ).2.expiry = σ.expiry ∨ ∃ s ∈ c.sessionOf?,
      (c.act env σ).2.expiry = σ.expiry.erase s ∨ ∃ metadata ∈ c.newMetadata?, ∃ deadline,
        (c.act env σ).2.expiry = σ.expiry.put s metadata deadline := by
  by_cases hs3 : c.area = .s3
  · obtain ⟨objects, uploads, nextUpload, heq⟩ := @Command.act_s3 env σ _ hs3
    rw [heq]
    exact .inl rfl
  · cases c with
    | createSession key data ttlSeconds metadata expiryTtlSeconds =>
        exact .inr ⟨key.documentId, rfl, .inr ⟨metadata, rfl, _, rfl⟩⟩
    | deleteSession key => exact .inr ⟨key.documentId, rfl, .inl rfl⟩
    | headObject | createMultipartUpload | uploadPart | completeMultipartUpload
    | abortMultipartUpload | deleteObject => exact absurd rfl hs3
    | _ => exact .inl rfl

/-- A hash was there before the command, or it is that of the command's session. -/
theorem Command.sessions_act_cases {key : SessionKey} {entry : Entry SessionHash}
    (h : (c.act env σ).2.sessions key = some entry) :
    (∃ entry', σ.sessions key = some entry') ∨
      c.sessionOf? = some key.documentId ∧ c.workspace? = some key.workspaceId := by
  rw [c.sessions_act] at h
  cases c with
  | createSession key' | hsetSession key' =>
      rcases Keyspace.of_put_eq_some h with ⟨rfl, -⟩ | ⟨-, hold⟩
      · exact .inr ⟨rfl, rfl⟩
      · exact .inl ⟨entry, hold⟩
  | deleteSession key' =>
      exact .inl ⟨entry, (Keyspace.of_erase_eq_some h).2⟩
  | _ => exact .inl ⟨entry, h⟩

/-- The other commands of a caller keep the owners. -/
theorem World.Owned.act (h : σ.Owned env owner) (hmay : γ.May c) (hknows : γ.Knows owner) :
    (c.act env σ).2.Owned env owner := by
  refine ⟨fun key entry hentry => ?_, fun s entry hentry => ?_, fun s w hs =>
    (ids_sublist c.drawn_act_le).subset (h.issued s w hs)⟩
  · rcases Command.sessions_act_cases hentry with ⟨entry', hold⟩ | ⟨hsession, hworkspace⟩
    · exact h.sessions key entry' hold
    · rw [hmay.workspace _ hworkspace]
      exact hknows _ (hmay.owner _ hsession)
  · rcases @Command.expiry_cases env σ c with
      heq | ⟨s', hs', heq | ⟨metadata, hmetadata, d, heq⟩⟩ <;> rw [heq] at hentry
    · exact h.metadata s entry hentry
    · exact h.metadata s entry (Keyspace.of_erase_eq_some hentry).2
    · rcases Keyspace.of_put_eq_some hentry with ⟨rfl, rfl⟩ | ⟨-, hold⟩
      · exact ⟨γ.workspaceId, hknows s (hmay.owner s hs'), hmay.metadata metadata hmetadata⟩
      · exact h.metadata s entry hold

/-- A caller touches no metadata of another workspace. -/
theorem World.Owned.metadata_act (h : σ.Owned env owner) (hmay : γ.May c) (hknows : γ.Knows owner)
    (hw : γ.workspaceId ≠ w) (s : UUID) :
    ((c.act env σ).2.share w).metadata s = (σ.share w).metadata s := by
  have hstr : γ.workspaceId.str ≠ w.str := fun heq => hw (UUID.str_injective heq)
  have hother : ∀ s' ∈ c.sessionOf?, (σ.share w).metadata s' = none := by
    intro s' hs'
    refine Option.filter_eq_none_iff.mpr fun entry hentry => ?_
    obtain ⟨w', howner, hentry'⟩ := h.metadata s' entry hentry
    cases howner.symm.trans (hknows s' (hmay.owner s' hs'))
    simpa [hentry'] using hstr
  change ((c.act env σ).2.expiry s).filter _ = _
  rcases @Command.expiry_cases env σ c with
    heq | ⟨s', hs', heq | ⟨metadata, hmetadata, d, heq⟩⟩ <;> rw [heq]
  · rfl
  · by_cases hs : s = s'
    · rw [hs, Keyspace.erase_self, hother s' hs']
      rfl
    · rw [Keyspace.erase_of_ne hs]
      rfl
  · by_cases hs : s = s'
    · rw [hs, Keyspace.put_self, hother s' hs']
      refine Option.filter_some_neg ?_
      simpa [hmay.metadata metadata hmetadata] using hstr
    · rw [Keyspace.put_of_ne hs]
      rfl

/-! ## Any calls -/

/-- What holds between any two commands of callers of the workspaces: ids have owners, and each
caller owns the session that it knows. -/
structure Separate (env : Environment) (workspaces : List UUID) (γs : List Caller) (σ : World) :
    Prop where
  names : γs.map Caller.workspaceId = workspaces
  sound : σ.Sound
  owned : ∃ owner, σ.Owned env owner ∧ ∀ γ ∈ γs, γ.Knows owner

/-- What a caller learns. -/
theorem Caller.knows_after {owner' : UUID → Option UUID} (hmay : γ.May c) (hknows : γ.Knows owner')
    (hσ : σ.Owned env owner) (hextends : ∀ s w, owner s = some w → owner' s = some w)
    (hdraw : c = .uuid4 → owner' (env.uuid4 σ.drawn) = some γ.workspaceId) :
    (γ.after c (c.act env σ).1).Knows owner' := by
  cases c with
  | uuid4 =>
      rintro s ⟨⟩
      exact hdraw rfl
  | hgetallSession key =>
      cases hdata : σ.session? key with
      | none =>
          simp only [Command.act, hdata]
          exact hknows
      | some data =>
          obtain ⟨d, hentry, -⟩ := Keyspace.get?_eq_some_iff.mp hdata
          have howner := hextends _ _ (hσ.sessions key _ hentry)
          rw [hmay.workspace _ rfl] at howner
          simp only [Command.act, hdata]
          rintro s ⟨⟩
          exact howner
  | _ => exact hknows

namespace Separate

variable {workspaces : List UUID}

theorem names_set (h : Separate env workspaces γs σ) {i : ℕ} (hγ : γs[i]? = some γ)
    (reply : Except Exc c.Reply) :
    (γs.set i (γ.after c reply)).map Caller.workspaceId = workspaces := by
  have hname : (γs.map Caller.workspaceId)[i]? = some γ.workspaceId := by
    rw [List.getElem?_map, hγ]
    rfl
  obtain ⟨hlt, hget⟩ := List.getElem?_eq_some_iff.mp hname
  rw [List.map_set, Caller.workspaceId_after, ← hget, List.set_getElem_self, h.names]

theorem act (h : Separate env workspaces γs σ) (hids : ((c.act env σ).2.ids env).Nodup) {i : ℕ}
    (hγ : γs[i]? = some γ) (hmay : γ.May c) :
    Separate env workspaces (γs.set i (γ.after c (c.act env σ).1)) (c.act env σ).2 := by
  obtain ⟨owner, howned, hknows⟩ := h.owned
  have hmoved : ∀ owner' : UUID → Option UUID, (∀ s w, owner s = some w → owner' s = some w) →
      (c = .uuid4 → owner' (env.uuid4 σ.drawn) = some γ.workspaceId) →
        ∀ γ' ∈ γs.set i (γ.after c (c.act env σ).1), γ'.Knows owner' := by
    intro owner' hextends hdraw γ' hγ'
    have hbefore : ∀ γ' ∈ γs, γ'.Knows owner' :=
      fun γ' hγ' s hs => hextends _ _ (hknows γ' hγ' s hs)
    rcases List.mem_or_eq_of_mem_set hγ' with hmem | rfl
    · exact hbefore γ' hmem
    · exact Caller.knows_after hmay (hbefore γ (List.mem_of_getElem? hγ)) howned hextends hdraw
  refine ⟨h.names_set hγ _, h.sound.act hmay, ?_⟩
  by_cases hc : c = .uuid4
  · subst hc
    obtain ⟨hdrawn, hextends⟩ := howned.draw hids γ.workspaceId
    exact ⟨_, hdrawn, hmoved _ hextends fun _ => Function.update_self _ _ _⟩
  · exact ⟨owner, howned.act hmay (hknows γ (List.mem_of_getElem? hγ)),
      hmoved owner (fun _ _ hs => hs) fun heq => absurd heq hc⟩

/-- A command that fails changes nothing. -/
theorem fail (h : Separate env workspaces γs σ) {i : ℕ} (hγ : γs[i]? = some γ) (e : Exc) :
    Separate env workspaces (γs.set i (γ.after c (.error e))) σ := by
  have hsame : γ.after c (.error e) = γ := by cases c <;> rfl
  obtain ⟨hlt, hget⟩ := List.getElem?_eq_some_iff.mp hγ
  rw [hsame, ← hget, List.set_getElem_self]
  exact h

/-- What a command of another workspace leaves of this one. -/
theorem share_act (h : Separate env workspaces γs σ) {i : ℕ} (hγ : γs[i]? = some γ)
    (hmay : γ.May c) (hw : γ.workspaceId ≠ w) : (c.act env σ).2.share w = σ.share w := by
  obtain ⟨owner, howned, hknows⟩ := h.owned
  have hworkspace : ∀ w' ∈ c.workspace?, w' ≠ w := fun w' hw' heq =>
    hw ((hmay.workspace w' hw').symm.trans heq)
  by_cases hc : c.area = .s3
  · exact Command.share_act_s3 hc hworkspace (h.sound.uploads _ le_rfl)
  · exact Command.share_act_of_area hc hworkspace
      (howned.metadata_act hmay (hknows γ (List.mem_of_getElem? hγ)) hw)

theorem sustains {p : Pool serviceSignature World α} {turn : Turn World Fault}
    (h : Separate env workspaces γs p.state) (hturn : Fresh env p turn) :
    Pool.Sustains (serviceMachine env) callerMonitor (fun γs σ _ => Separate env workspaces γs σ) p
      γs turn := by
  obtain ⟨hpassing, hids⟩ := hturn
  cases turn with
  | issue i fault =>
      intro γ c hγ hpending hmay
      obtain ⟨next, hget⟩ := Pool.pending_eq_some.mp hpending
      simp only [Pool.step, hget] at hids
      rcases (serviceMachine env).attempt_cases fault c p.state with hact | ⟨_, _, e, -, hfail⟩
      · rw [hact] at hids ⊢
        exact ⟨h.sound.keeps.finds c, h.act hids hγ hmay⟩
      · rw [hfail]
        refine ⟨?_, h.fail hγ e⟩
        change c.Finds _ (.error e)
        cases c <;> trivial
  | drift change =>
      obtain ⟨ms, rfl⟩ := hpassing
      obtain ⟨owner, howned, hknows⟩ := h.owned
      exact ⟨h.names, ⟨h.sound.keeps, h.sound.legible, h.sound.uploads⟩, owner,
        ⟨howned.sessions, howned.metadata, howned.issued⟩, hknows⟩

end Separate

theorem separate_start (hsound : σ.Sound) (howned : σ.Owned env owner) :
    Separate env (tasks.map Task.workspaceId) (callers tasks) σ := by
  refine ⟨by simp [callers, Function.comp_def], hsound, owner, howned, fun γ hγ => ?_⟩
  obtain ⟨task, -, rfl⟩ := List.mem_map.mp hγ
  rintro s ⟨⟩

/-- Any run of any tasks. -/
theorem separate_run (tasks : List (Task α)) (hsound : σ.Sound) (howned : σ.Owned env owner)
    {turns : List (Turn World Fault)}
    (hfresh : Pool.Within (serviceMachine env) (Fresh env) (Task.pool σ tasks) turns) :
    ∃ γs, Pool.Watched callerMonitor (fun _ _ => True)
      (fun γs σ _ => Separate env (tasks.map Task.workspaceId) γs σ)
      ((Task.pool σ tasks).run (serviceMachine env) turns) γs :=
  Pool.run_watched (fun _ _ _ h hturn => Separate.sustains h hturn)
    (watched_callers tasks (separate_start hsound howned)) hfresh

/-! ## Any requests -/

/-- Reading leaves everything alone. -/
theorem Command.share_act_of_looks {w' : UUID} (h : c.Looks w') :
    (c.act env σ).2.share w = σ.share w := by
  cases c with
  | hgetallSession | hgetallExpiry | now => rfl
  | _ => exact h.elim

/-- A turn of a task of another workspace, or of one that reads. -/
theorem share_step {p : Pool serviceSignature World α}
    (h : Pool.Watched callerMonitor (fun _ _ => True)
      (fun γs σ _ => Separate env (tasks.map Task.workspaceId) γs σ) p γs)
    {turn : Turn World Fault} (hturn : Passing turn)
    (hspares : ∀ i fault, turn = .issue i fault →
      (∀ task ∈ tasks[i]?, task.workspaceId ≠ w) ∨ ∀ c ∈ p.pending i, c.Looks w) :
    (p.step (serviceMachine env) turn).state.share w = p.state.share w := by
  cases turn with
  | drift change =>
      obtain ⟨ms, rfl⟩ := hturn
      rfl
  | issue i fault =>
      rcases Pool.step_issue_cases (serviceMachine env) p i fault with
        hidle | ⟨c, next, hget, hstep⟩
      · rw [hidle]
      · rw [hstep]
        rcases (serviceMachine env).attempt_cases fault c p.state with hact | ⟨_, _, e, -, hfail⟩
        · rw [hact]
          rcases hspares i fault rfl with helsewhere | hlooks
          · obtain ⟨γ, hγ, hmay, -⟩ := h.getElem? hget
            have hmapped : (tasks.map Task.workspaceId)[i]? = some γ.workspaceId := by
              rw [← h.holds.names, List.getElem?_map, hγ]
              rfl
            rw [List.getElem?_map] at hmapped
            obtain ⟨task, htask, hworkspace⟩ := Option.map_eq_some_iff.mp hmapped
            exact h.holds.share_act hγ hmay (hworkspace ▸ helsewhere task htask)
          · exact Command.share_act_of_looks (hlooks c (Pool.pending_eq_some.mpr ⟨next, hget⟩))
        · rw [hfail]

/-- The requests, none of which has been worked on, and nothing stored. -/
def requestPool (settings : Settings) (requests : List Request) :
    Pool serviceSignature World (Answer ⊕ Response) :=
  Task.pool .empty (requests.map (Request.task settings))

variable {requests : List Request}

theorem passing_calm (schedule : List ℕ) : ∀ turn ∈ calm schedule, Passing turn := by
  intro turn hturn
  obtain ⟨i, -, rfl⟩ := List.mem_map.mp hturn
  trivial

/-- The turn is none of a request that writes for the workspace. -/
def Spares (w : UUID) (requests : List Request) : Turn World Fault → Prop
  | .issue i _ => ∀ request ∈ requests[i]?, ¬ request.Writes w
  | .drift _ => True

/-- In every run, such a turn leaves alone what the workspace has. -/
theorem share_step_requests {turns : List (Turn World Fault)}
    (hfresh : Pool.Within (serviceMachine env) (Fresh env) (requestPool settings requests) turns)
    {turn : Turn World Fault} (hturn : Passing turn) (hspares : Spares w requests turn) :
    (((requestPool settings requests).run (serviceMachine env) turns).step (serviceMachine env)
        turn).state.share w =
      ((requestPool settings requests).run (serviceMachine env) turns).state.share w := by
  obtain ⟨γs, hwatched⟩ := separate_run (requests.map (Request.task settings)) World.sound_empty
    World.owned_empty hfresh
  refine share_step hwatched hturn fun i fault hissue => ?_
  subst hissue
  by_cases hreads : ∀ request ∈ requests[i]?,
      (request.program settings).Issues (Command.Looks w)
  · right
    have hthread := Pool.issues_run (M := serviceMachine env) (P := Command.Looks w) (i := i)
      (p := requestPool settings requests) (fun program hprogram => ?_) turns
    · intro c hc
      obtain ⟨next, hget⟩ := Pool.pending_eq_some.mp hc
      exact (hthread _ hget).1
    · simp only [requestPool, Task.pool, List.map_map, List.getElem?_map] at hprogram
      obtain ⟨request, hrequest, rfl⟩ := Option.map_eq_some_iff.mp hprogram
      exact hreads request hrequest
  · left
    intro task htask
    rw [List.getElem?_map] at htask
    obtain ⟨request, hrequest, rfl⟩ := Option.map_eq_some_iff.mp htask
    rcases request.spares (hspares request hrequest) with helsewhere | hlooks
    · exact helsewhere
    · refine absurd (fun request' hrequest' => ?_) hreads
      cases hrequest.symm.trans hrequest'
      exact hlooks

/-- Whatever requests are on their way, the turns of those that do not write for a workspace leave
what it has alone, whichever commands fail and whatever session ids the requests pass. -/
theorem workspaces_apart (env : Environment) (settings : Settings) (requests : List Request)
    (before turns : List (Turn World Fault)) (hbefore : ∀ turn ∈ before, Passing turn)
    (hturns : ∀ turn ∈ turns, Passing turn ∧ Spares w requests turn)
    (hids : (((requestPool settings requests).run (serviceMachine env)
      (before ++ turns)).state.ids env).Nodup) :
    ((requestPool settings requests).run (serviceMachine env) (before ++ turns)).state.share w =
      ((requestPool settings requests).run (serviceMachine env) before).state.share w := by
  have hpassing : ∀ turn ∈ before ++ turns, Passing turn :=
    List.forall_mem_append.mpr ⟨hbefore, fun turn hturn => (hturns turn hturn).1⟩
  have hfresh := fresh_of_nodup hpassing hids
  clear hids hpassing
  induction turns using List.reverseRecOn with
  | nil => rw [List.append_nil]
  | append_singleton turns turn ih =>
      obtain ⟨hrest, hlast⟩ := List.forall_mem_append.mp hturns
      obtain ⟨hpassing, hspares⟩ := hlast turn List.mem_cons_self
      rw [← List.append_assoc] at hfresh ⊢
      rw [Pool.run_append, Pool.run_cons, Pool.run_nil,
        share_step_requests hfresh.append.1 hpassing hspares]
      exact ih hrest hfresh.append.1

namespace Sample

/-- An upload, and two requests that come while its chunk is on the way. -/
def visits : List Request :=
  [.call (.initiate upload), .call (.processChunk chunk), intrusion, inquiry]

theorem spares_calm {schedule : List ℕ}
    (h : ∀ i ∈ schedule, ∀ request ∈ requests[i]?, ¬ request.Writes w) :
    ∀ turn ∈ calm schedule, Passing turn ∧ Spares w requests turn := by
  intro turn hturn
  obtain ⟨i, hi, rfl⟩ := List.mem_map.mp hturn
  exact ⟨trivial, h i hi⟩

end Sample

theorem workspaces_apart_sample :
    ((requestPool Sample.settings Sample.visits).run (serviceMachine Sample.environment)
        (calm [0, 0, 0, 0, 0, 1, 1] ++ calm [2, 3, 2, 2])).state.share Sample.workspace =
      ((requestPool Sample.settings Sample.visits).run (serviceMachine Sample.environment)
        (calm [0, 0, 0, 0, 0, 1, 1])).state.share Sample.workspace :=
  workspaces_apart _ _ _ _ _ (passing_calm _) (Sample.spares_calm (by decide +kernel))
    (by decide +kernel)

end RagFileUploader
