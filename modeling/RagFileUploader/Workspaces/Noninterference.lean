import RagFileUploader.Workspaces.Mirrored
import RagFileUploader.Workspaces.Neighbours

/-!
# Noninterference

What other workspaces ask for makes no difference to a workspace: in two runs with the same
requests of the workspace, which get to their commands in the same order, at the same Redis times,
with the same faults, and are dealt the same ids and clock readings, these requests are answered in
the same way and leave the same data behind.  The rest of the two runs need not have anything in
common.

* `Agree` relates the two worlds: the same share of the workspace, except that upload ids may
  differ, which are paired by a growing relation.
* `Agree.attempt` is the step for a command that both runs issue: alike replies and worlds that
  agree again.  `share_step` is the step for a command of others, in one run only.
* `noninterference` plays the two schedules against each other by `Mirrored.lean`, where the turns
  of others are skipped on either side.
-/

namespace RagFileUploader

open Effects Stores

variable {env env' : Environment} {settings : Settings} {σ σ' σ₁ σ₁' : World} {w : UUID}
  {c c' : Command} {γ : Set (UploadId × UploadId)} {id id' : UploadId}

/-! ## Two worlds -/

/-- What a workspace has, apart from its multipart uploads: S3 numbers those of all workspaces. -/
def Share.named (share : Share) : Share := { share with uploads := fun _ => none }

/-- Two worlds that look the same to the callers of the workspace. -/
structure Agree (w : UUID) (γ : Set (UploadId × UploadId)) (σ σ' : World) : Prop where
  named : (σ.share w).named = (σ'.share w).named
  uploads : ∀ id id', (id, id') ∈ γ → (σ.share w).uploads id = (σ'.share w).uploads id'
  begun : ∀ id id', (id, id') ∈ γ → id < σ.nextUpload ∧ id' < σ'.nextUpload
  injective : ∀ id₁ id₁' id₂ id₂', (id₁, id₁') ∈ γ → (id₂, id₂') ∈ γ → (id₁ = id₂ ↔ id₁' = id₂')

/-- What a command is told besides what is stored: the time of Redis, and what the runtime hands
out. -/
structure Sight where
  clock : ℕ
  id? : Option UUID := none
  reading? : Option ℤ := none
  deriving DecidableEq

def sight (env : Environment) (σ : World) : Command → Sight
  | .uuid4 => { clock := σ.clock, id? := some (env.uuid4 σ.drawn) }
  | .now => { clock := σ.clock, reading? := some (env.wallClock σ.clockReads) }
  | _ => { clock := σ.clock }

theorem clock_eq_of_sight (h : sight env σ c = sight env' σ' c) : σ.clock = σ'.clock := by
  cases c <;> exact congrArg Sight.clock h

namespace Agree

variable {s : UUID}

theorem sessions_eq (h : Agree w γ σ σ') (s : UUID) : σ.sessions ⟨w, s⟩ = σ'.sessions ⟨w, s⟩ :=
  congrFun (congrArg Share.sessions h.named) s

theorem metadata_eq (h : Agree w γ σ σ') (s : UUID) :
    (σ.expiry s).filter (fun entry => entry.value.workspaceId = w.str) =
      (σ'.expiry s).filter fun entry => entry.value.workspaceId = w.str :=
  congrFun (congrArg Share.metadata h.named) s

theorem chunks_eq (h : Agree w γ σ σ') (s : UUID) (index : ℤ) :
    σ.chunks ⟨w, s, index⟩ = σ'.chunks ⟨w, s, index⟩ :=
  congrFun (congrFun (congrArg Share.chunks h.named) s) index

theorem counters_eq (h : Agree w γ σ σ') : σ.counters w = σ'.counters w :=
  congrArg Share.counter h.named

theorem dedup_eq (h : Agree w γ σ σ') (sha256 : String) : σ.dedup w sha256 = σ'.dedup w sha256 :=
  congrFun (congrArg Share.fingerprints h.named) sha256

theorem objects_eq (h : Agree w γ σ σ') (f : UUID) : σ.objects ⟨w, f⟩ = σ'.objects ⟨w, f⟩ :=
  congrFun (congrArg Share.files h.named) f

/-- The uploads stay as they are. -/
theorem of_named (h : Agree w γ σ σ') (hnamed : (σ₁.share w).named = (σ₁'.share w).named)
    (hstored : σ₁.uploads = σ.uploads ∧ σ₁.nextUpload = σ.nextUpload)
    (hstored' : σ₁'.uploads = σ'.uploads ∧ σ₁'.nextUpload = σ'.nextUpload) :
    Agree w γ σ₁ σ₁' := by
  refine ⟨hnamed, fun id id' hid => ?_, fun id id' hid => ?_, h.injective⟩
  · have hupload := h.uploads id id' hid
    unfold World.share at hupload ⊢
    rwa [hstored.1, hstored'.1]
  · rw [hstored.2, hstored'.2]
    exact h.begun id id' hid

/-- What other workspaces do in one of the worlds. -/
theorem of_share (h : Agree w γ σ σ') (hshare : σ₁.share w = σ.share w)
    (hshare' : σ₁'.share w = σ'.share w) (hnext : σ.nextUpload ≤ σ₁.nextUpload)
    (hnext' : σ'.nextUpload ≤ σ₁'.nextUpload) : Agree w γ σ₁ σ₁' := by
  refine ⟨?_, fun id id' hid => ?_, fun id id' hid => ?_, h.injective⟩
  · rw [hshare, hshare']
    exact h.named
  · rw [hshare, hshare']
    exact h.uploads id id' hid
  · obtain ⟨hlt, hlt'⟩ := h.begun id id' hid
    exact ⟨hlt.trans_le hnext, hlt'.trans_le hnext'⟩

end Agree

/-! ## Replies -/

/-- What a reader of expiry metadata sees of the workspace. -/
theorem filter_get?_expiry (σ : World) (w s : UUID) :
    (σ.expiry.get? σ.clock s).filter (·.workspaceId = w.str) =
      (((σ.expiry s).filter fun entry => entry.value.workspaceId = w.str).filter
        (·.Live σ.clock)).map Entry.value := by
  unfold Keyspace.get? Keyspace.find?
  cases σ.expiry s with
  | none => rfl
  | some entry =>
      by_cases hlive : entry.Live σ.clock <;> by_cases hw : entry.value.workspaceId = w.str <;>
        simp [Option.filter, hlive, hw]

/-- The reply to a command of the workspace that names no upload. -/
theorem Agree.alike_act (h : Agree w γ σ σ') (hc : c.namesUpload = false)
    (hcreate : ∀ key, c ≠ .createMultipartUpload key) (hw : ∀ w' ∈ c.workspace?, w' = w)
    (hsight : sight env σ c = sight env' σ' c) :
    Alike w γ c c (c.act env σ).1 (c.act env' σ').1 := by
  have hclock := clock_eq_of_sight hsight
  cases c with
  | hgetallSession key =>
      obtain ⟨w', s⟩ := key
      obtain rfl := hw w' rfl
      refine heq_of_eq (congrArg Except.ok ?_)
      change σ.sessions.get? σ.clock _ = σ'.sessions.get? σ'.clock _
      rw [hclock]
      exact Keyspace.get?_congr (h.sessions_eq s)
  -- the metadata of another workspace may differ, but is not looked at
  | hgetallExpiry s =>
      change (σ.expiry.get? σ.clock s).filter _ = (σ'.expiry.get? σ'.clock s).filter _
      rw [filter_get?_expiry, filter_get?_expiry, hclock, h.metadata_eq]
  | ttlSession key =>
      obtain ⟨w', s⟩ := key
      obtain rfl := hw w' rfl
      refine heq_of_eq (congrArg Except.ok ?_)
      change ttlReply σ.clock (σ.sessions.find? σ.clock _) =
        ttlReply σ'.clock (σ'.sessions.find? σ'.clock _)
      rw [hclock, Keyspace.find?_congr (h.sessions_eq s)]
  -- how many keys were there is not looked at either
  | deleteSession key => trivial
  | getChunk key =>
      obtain ⟨w', s, index⟩ := key
      obtain rfl := hw w' rfl
      refine heq_of_eq (congrArg Except.ok ?_)
      change σ.chunks.get? σ.clock _ = σ'.chunks.get? σ'.clock _
      rw [hclock]
      exact Keyspace.get?_congr (h.chunks_eq s index)
  | hgetCounter w' =>
      obtain rfl := hw w' rfl
      exact heq_of_eq (congrArg Except.ok h.counters_eq)
  | hincrbyCounter w' amount =>
      obtain rfl := hw w' rfl
      refine heq_of_eq (congrArg Except.ok ?_)
      change (σ.counters w').getD 0 + amount = (σ'.counters w').getD 0 + amount
      rw [h.counters_eq]
  | hexistsDedup w' sha256 =>
      obtain rfl := hw w' rfl
      exact heq_of_eq (congrArg (fun m : Option MetadataFields => Except.ok m.isSome)
        (h.dedup_eq sha256))
  | hgetDedup w' sha256 =>
      obtain rfl := hw w' rfl
      exact heq_of_eq (congrArg Except.ok (h.dedup_eq sha256))
  | headObject key =>
      obtain ⟨w', f⟩ := key
      obtain rfl := hw w' rfl
      refine heq_of_eq ?_
      simp only [Command.act, h.objects_eq f]
      cases σ'.objects ⟨w', f⟩ <;> rfl
  | createMultipartUpload key => exact absurd rfl (hcreate key)
  | uploadPart | completeMultipartUpload | abortMultipartUpload => cases hc
  -- ids and readings are part of what is seen
  | uuid4 =>
      refine heq_of_eq (congrArg Except.ok ?_)
      exact Option.some_injective _ (congrArg Sight.id? hsight)
  | now =>
      refine heq_of_eq (congrArg (fun instant => Except.ok (DateTime.utc instant)) ?_)
      exact Option.some_injective _ (congrArg Sight.reading? hsight)
  | _ => exact HEq.rfl

/-! ## Effects -/

theorem update_congr {K V : Type} [DecidableEq K] {m m' : K → V} {k k' : K} {v v' : V}
    (hv : v = v') (h : m k' = m' k') : Function.update m k v k' = Function.update m' k v' k' := by
  rw [Function.update_apply, Function.update_apply, hv, h]

/-- What a command of the workspace outside S3 makes of what the workspace has. -/
theorem Agree.named_act (h : Agree w γ σ σ') (hc : c.area ≠ .s3)
    (hw : ∀ w' ∈ c.workspace?, w' = w) (hclock : σ.clock = σ'.clock) :
    ((c.act env σ).2.share w).named = ((c.act env' σ').2.share w).named := by
  -- deadlines are counted from the time of Redis, which is the same in both
  have hdeadline : ∀ seconds, σ.deadline seconds = σ'.deadline seconds := fun seconds => by
    rw [World.deadline, World.deadline, hclock]
  cases c with
  | createSession key data ttlSeconds metadata expiryTtlSeconds =>
      have hsessions : (fun s => σ.sessions.put key data (σ.deadline ttlSeconds) ⟨w, s⟩) =
          fun s => σ'.sessions.put key data (σ'.deadline ttlSeconds) ⟨w, s⟩ :=
        funext fun s => update_congr (by rw [hdeadline]) (h.sessions_eq s)
      -- the metadata key has no workspace in it, but who it names is the same in both
      have hmetadata : (fun s => (σ.expiry.put key.documentId metadata
          (σ.deadline expiryTtlSeconds) s).filter fun entry => entry.value.workspaceId = w.str) =
          fun s => (σ'.expiry.put key.documentId metadata
            (σ'.deadline expiryTtlSeconds) s).filter fun entry => entry.value.workspaceId = w.str :=
        funext fun s => by
          by_cases hs : s = key.documentId
          · rw [hs, Keyspace.put_self, Keyspace.put_self, hdeadline]
          · rw [Keyspace.put_of_ne hs, Keyspace.put_of_ne hs, h.metadata_eq]
      exact congrArg₂ (fun (share : Share) hashes =>
        { share with sessions := Prod.fst hashes, metadata := Prod.snd hashes }) h.named
          (congrArg₂ Prod.mk hsessions hmetadata)
  | hsetSession key data =>
      have hsessions : (fun s => σ.sessions.overwrite σ.clock key data ⟨w, s⟩) =
          fun s => σ'.sessions.overwrite σ'.clock key data ⟨w, s⟩ :=
        funext fun s => by
          obtain ⟨w', s'⟩ := key
          obtain rfl := hw w' rfl
          exact update_congr (by rw [hclock, Keyspace.find?_congr (h.sessions_eq s')])
            (h.sessions_eq s)
      exact congrArg₂ (fun (share : Share) sessions => { share with sessions := sessions })
        h.named hsessions
  | deleteSession key =>
      have hsessions : (fun s => σ.sessions.erase key ⟨w, s⟩) =
          fun s => σ'.sessions.erase key ⟨w, s⟩ :=
        funext fun s => update_congr rfl (h.sessions_eq s)
      have hmetadata : (fun s => (σ.expiry.erase key.documentId s).filter
          fun entry => entry.value.workspaceId = w.str) =
          fun s => (σ'.expiry.erase key.documentId s).filter
            fun entry => entry.value.workspaceId = w.str :=
        funext fun s => by
          by_cases hs : s = key.documentId
          · rw [hs, Keyspace.erase_self, Keyspace.erase_self]
          · rw [Keyspace.erase_of_ne hs, Keyspace.erase_of_ne hs, h.metadata_eq]
      exact congrArg₂ (fun (share : Share) hashes =>
        { share with sessions := Prod.fst hashes, metadata := Prod.snd hashes }) h.named
          (congrArg₂ Prod.mk hsessions hmetadata)
  | setChunk key data ttlSeconds =>
      have hchunks : (fun s index => σ.chunks.put key data (σ.deadline ttlSeconds) ⟨w, s, index⟩) =
          fun s index => σ'.chunks.put key data (σ'.deadline ttlSeconds) ⟨w, s, index⟩ :=
        funext fun s => funext fun index =>
          update_congr (by rw [hdeadline]) (h.chunks_eq s index)
      exact congrArg₂ (fun (share : Share) chunks => { share with chunks := chunks })
        h.named hchunks
  | deleteChunk key =>
      have hchunks : (fun s index => σ.chunks.erase key ⟨w, s, index⟩) =
          fun s index => σ'.chunks.erase key ⟨w, s, index⟩ :=
        funext fun s => funext fun index => update_congr rfl (h.chunks_eq s index)
      exact congrArg₂ (fun (share : Share) chunks => { share with chunks := chunks })
        h.named hchunks
  | hincrbyCounter w' amount =>
      obtain rfl := hw w' rfl
      have hcounter : (σ.setCounter w' (σ.counter w' + amount)).counters w' =
          (σ'.setCounter w' (σ'.counter w' + amount)).counters w' :=
        update_congr (by rw [World.counter, World.counter, h.counters_eq]) h.counters_eq
      exact congrArg₂ (fun (share : Share) counter => { share with counter := counter })
        h.named hcounter
  | hsetCounter w' value =>
      have hcounter : (σ.setCounter w' value).counters w = (σ'.setCounter w' value).counters w :=
        update_congr rfl h.counters_eq
      exact congrArg₂ (fun (share : Share) counter => { share with counter := counter })
        h.named hcounter
  -- a fingerprint, a counter or an event of another workspace would not be in the share
  | hsetDedup w' sha256 metadata =>
      obtain rfl := hw w' rfl
      have hfingerprints : (σ.setFingerprint w' sha256 metadata).dedup w' =
          (σ'.setFingerprint w' sha256 metadata).dedup w' := by
        have hdedup : σ.dedup w' = σ'.dedup w' := funext h.dedup_eq
        simp only [World.setFingerprint, Function.update_self, hdedup]
      exact congrArg₂ (fun (share : Share) fingerprints =>
        { share with fingerprints := fingerprints }) h.named hfingerprints
  | publish event =>
      obtain rfl := hw event.workspaceId rfl
      have hevents : (event :: σ.published).filter (fun e => e.workspaceId = event.workspaceId) =
          (event :: σ'.published).filter fun e => e.workspaceId = event.workspaceId := by
        rw [List.filter_cons_of_pos (by simp), List.filter_cons_of_pos (by simp)]
        exact congrArg (fun share => event :: Share.events share) h.named
      exact congrArg₂ (fun (share : Share) events => { share with events := events })
        h.named hevents
  | headObject | createMultipartUpload | uploadPart | completeMultipartUpload
  | abortMultipartUpload | deleteObject => exact absurd rfl hc
  | _ => exact h.named

/-! ### Storage -/

/-- An upload of the workspace, as its callers see it. -/
theorem upload?_eq {key : S3Key} (hkey : key.workspaceId = w) :
    σ.upload? key id = ((σ.share w).uploads id).filter (·.key = key) := by
  change _ = ((σ.uploads id).filter (·.key.workspaceId = w)).filter (·.key = key)
  rw [World.upload?, Option.filter_filter]
  congr 1
  funext u
  by_cases hu : u.key = key
  · simp [hu, hkey]
  · simp [hu]

namespace Agree

theorem upload?_eq {key : S3Key} (h : Agree w γ σ σ') (hkey : key.workspaceId = w)
    (hid : (id, id') ∈ γ) : σ.upload? key id = σ'.upload? key id' := by
  rw [RagFileUploader.upload?_eq hkey, RagFileUploader.upload?_eq hkey, h.uploads id id' hid]

/-- A change of an upload that both worlds have. -/
theorem setUpload (h : Agree w γ σ σ') (hid : (id, id') ∈ γ) (u? : Option Upload) :
    Agree w γ (σ.setUpload id u?) (σ'.setUpload id' u?) := by
  refine ⟨h.named, fun id₁ id₁' hid₁ => ?_, h.begun, h.injective⟩
  have hupload := h.uploads id₁ id₁' hid₁
  change (Function.update σ.uploads id u? id₁).filter _ =
    (Function.update σ'.uploads id' u? id₁').filter _
  by_cases heq : id₁ = id
  · rw [heq, (h.injective _ _ _ _ hid₁ hid).mp heq, Function.update_self, Function.update_self]
  · have hne := fun heq' => heq ((h.injective _ _ _ _ hid₁ hid).mpr heq')
    rw [Function.update_of_ne heq, Function.update_of_ne hne]
    exact hupload

/-- A file of the workspace is put, or removed. -/
theorem setObject {key : S3Key} (h : Agree w γ σ σ') (content : Option Bytes) :
    Agree w γ (σ.setObject key content) (σ'.setObject key content) := by
  refine h.of_named ?_ ⟨rfl, rfl⟩ ⟨rfl, rfl⟩
  have hfiles : (fun f => Function.update σ.objects key content ⟨w, f⟩) =
      fun f => Function.update σ'.objects key content ⟨w, f⟩ :=
    funext fun f => update_congr rfl (h.objects_eq f)
  exact congrArg₂ (fun (share : Share) files => { share with files := files }) h.named hfiles

/-- Both worlds begin an upload, each under a number of its own. -/
theorem begin (h : Agree w γ σ σ') (u : Upload) :
    Agree w (insert (σ.nextUpload, σ'.nextUpload) γ)
      { σ.setUpload σ.nextUpload (some u) with nextUpload := σ.nextUpload + 1 }
      { σ'.setUpload σ'.nextUpload (some u) with nextUpload := σ'.nextUpload + 1 } := by
  refine ⟨h.named, fun id id' hid => ?_, fun id id' hid => ?_, ?_⟩
  · change (Function.update σ.uploads σ.nextUpload (some u) id).filter _ =
      (Function.update σ'.uploads σ'.nextUpload (some u) id').filter _
    rcases hid with heq | hid
    · cases heq
      rw [Function.update_self, Function.update_self]
    · obtain ⟨hlt, hlt'⟩ := h.begun id id' hid
      rw [Function.update_of_ne (Nat.ne_of_lt hlt), Function.update_of_ne (Nat.ne_of_lt hlt')]
      exact h.uploads id id' hid
  · rcases hid with heq | hid
    · cases heq
      exact ⟨Nat.lt_succ_self _, Nat.lt_succ_self _⟩
    · obtain ⟨hlt, hlt'⟩ := h.begun id id' hid
      exact ⟨Nat.lt_succ_of_lt hlt, Nat.lt_succ_of_lt hlt'⟩
  · rintro id₁ id₁' id₂ id₂' (heq₁ | hid₁) (heq₂ | hid₂)
    · cases heq₁
      cases heq₂
      exact iff_of_true rfl rfl
    · cases heq₁
      obtain ⟨hlt, hlt'⟩ := h.begun id₂ id₂' hid₂
      exact iff_of_false (Nat.ne_of_gt hlt) (Nat.ne_of_gt hlt')
    · cases heq₂
      obtain ⟨hlt, hlt'⟩ := h.begun id₁ id₁' hid₁
      exact iff_of_false (Nat.ne_of_lt hlt) (Nat.ne_of_lt hlt')
    · exact h.injective id₁ id₁' id₂ id₂' hid₁ hid₂

/-- The same command of the workspace does the same to both worlds, and the replies are not told
apart. -/
theorem act (h : Agree w γ σ σ') (hsame : Same γ c c') (hw : ∀ w' ∈ c.workspace?, w' = w)
    (hsight : sight env σ c = sight env' σ' c') :
    ∃ γ', γ ⊆ γ' ∧ Alike w γ' c c' (c.act env σ).1 (c'.act env' σ').1 ∧
      Agree w γ' (c.act env σ).2 (c'.act env' σ').2 := by
  cases hsame with
  | plain hplain =>
      by_cases hs3 : c.area = .s3
      · cases c with
        | headObject key =>
            have hact : ∀ env σ, ((Command.headObject key).act env σ).2 = σ := fun env σ => by
              simp only [Command.act]
              split <;> rfl
            refine ⟨γ, subset_rfl, h.alike_act rfl (by rintro _ ⟨⟩) hw hsight, ?_⟩
            rw [hact, hact]
            exact h
        | createMultipartUpload key =>
            exact ⟨_, Set.subset_insert _ γ, .some (Set.mem_insert _ γ), h.begin _⟩
        | deleteObject key => exact ⟨γ, subset_rfl, HEq.rfl, h.setObject none⟩
        | uploadPart | completeMultipartUpload | abortMultipartUpload => cases hplain
        | _ => cases hs3
      -- outside S3 the uploads stay as they are
      · obtain ⟨-, hstored⟩ := @Command.storage_act_of_area env σ _ hs3
        obtain ⟨-, hstored'⟩ := @Command.storage_act_of_area env' σ' _ hs3
        refine ⟨γ, subset_rfl, h.alike_act hplain ?_ hw hsight,
          h.of_named (h.named_act hs3 hw (clock_eq_of_sight hsight)) hstored hstored'⟩
        rintro key rfl
        exact hs3 rfl
  -- the upload has another number in the other world, and the same content
  | @uploadPart key id id' partNumber body hid =>
      simp only [Command.act, h.upload?_eq (hw key.workspaceId rfl) hid]
      cases σ'.upload? key id' with
      | none => exact ⟨γ, subset_rfl, HEq.rfl, h⟩
      | some u => exact ⟨γ, subset_rfl, HEq.rfl, h.setUpload hid _⟩
  | @completeMultipartUpload key id id' parts hid =>
      simp only [Command.act, h.upload?_eq (hw key.workspaceId rfl) hid]
      cases σ'.upload? key id' with
      | none => exact ⟨γ, subset_rfl, HEq.rfl, h⟩
      | some u =>
          dsimp only
          split
          · cases u.collect parts with
            | none => exact ⟨γ, subset_rfl, HEq.rfl, h⟩
            | some content =>
                exact ⟨γ, subset_rfl, HEq.rfl, (h.setObject (some content)).setUpload hid none⟩
          · exact ⟨γ, subset_rfl, HEq.rfl, h⟩
  | @abortMultipartUpload key id id' hid =>
      simp only [Command.act, h.upload?_eq (hw key.workspaceId rfl) hid]
      cases σ'.upload? key id' with
      | none => exact ⟨γ, subset_rfl, HEq.rfl, h⟩
      | some u => exact ⟨γ, subset_rfl, HEq.rfl, h.setUpload hid none⟩

theorem attempt (h : Agree w γ σ σ') (hsame : Same γ c c') (hw : ∀ w' ∈ c.workspace?, w' = w)
    (hsight : sight env σ c = sight env' σ' c') (fault : Option Fault) :
    ∃ γ', γ ⊆ γ' ∧ Alike w γ' c c' ((serviceMachine env).attempt fault c σ).1
        ((serviceMachine env').attempt fault c' σ').1 ∧
      Agree w γ' ((serviceMachine env).attempt fault c σ).2
        ((serviceMachine env').attempt fault c' σ').2 := by
  have hhits : fault.bind ((serviceMachine env).fails · c) =
      fault.bind ((serviceMachine env').fails · c') := by
    cases fault with
    | none => rfl
    | some fault => cases hsame <;> rfl
  unfold Machine.attempt
  rw [hhits]
  cases fault.bind ((serviceMachine env').fails · c') with
  | none => exact h.act hsame hw hsight
  | some e =>
      refine ⟨γ, subset_rfl, ?_, h⟩
      cases hsame with
      | @plain c hplain => cases c <;> first | exact HEq.rfl | rfl
      | uploadPart | completeMultipartUpload | abortMultipartUpload => exact HEq.rfl

end Agree

/-! ## Two runs -/

theorem Command.nextUpload_act_le (c : Command) : σ.nextUpload ≤ (c.act env σ).2.nextUpload := by
  rcases @Command.uploads_cases env σ c with
    ⟨-, hnext⟩ | ⟨-, -, -, hnext⟩ | ⟨-, -, -, -, -, -, -, hnext⟩
  · exact hnext.ge
  · exact (Nat.le_succ _).trans hnext.ge
  · exact hnext.ge

theorem nextUpload_step_le {α : Type} (p : Pool serviceSignature World α)
    {turn : Turn World Fault} (hturn : Passing turn) :
    p.state.nextUpload ≤ (p.step (serviceMachine env) turn).state.nextUpload := by
  cases turn with
  | drift change =>
      obtain ⟨ms, rfl⟩ := hturn
      exact le_rfl
  | issue i fault =>
      rcases Pool.step_issue_cases (serviceMachine env) p i fault with hidle | ⟨c, next, -, hstep⟩
      · rw [hidle]
      · rw [hstep]
        rcases (serviceMachine env).attempt_cases fault c p.state with hact | ⟨_, _, e, -, hfail⟩
        · rw [hact]
          exact c.nextUpload_act_le
        · rw [hfail]

/-- The request in this place, if it is one of the workspace. -/
def own (w : UUID) (requests : List Request) (i : ℕ) : Option Request :=
  requests[i]?.filter fun request => request.workspace? = some w

/-- What a run shows of the requests of the workspace: which of them issues a command, the fault
that it meets, and what it is told. -/
def ownView (env : Environment) (settings : Settings) (w : UUID) (requests : List Request)
    (turns : List (Turn World Fault)) : List (ℕ × Option Fault × Sight) :=
  Pool.view (fun i => (own w requests i).isSome = true) (sight env) (serviceMachine env)
    (requestPool settings requests) turns

variable {requests requests' : List Request}

/-- The pool comes from a run of the requests that is yet to take these turns. -/
def Underway (env : Environment) (settings : Settings) (requests : List Request)
    (p : Pool serviceSignature World (Answer ⊕ Response)) (turns : List (Turn World Fault)) :
    Prop :=
  ∃ before, p = (requestPool settings requests).run (serviceMachine env) before ∧
    Pool.Within (serviceMachine env) (Fresh env) (requestPool settings requests) (before ++ turns)

namespace Underway

variable {p : Pool serviceSignature World (Answer ⊕ Response)} {turn : Turn World Fault}
  {turns : List (Turn World Fault)}

theorem step (h : Underway env settings requests p (turn :: turns)) :
    Underway env settings requests (p.step (serviceMachine env) turn) turns := by
  obtain ⟨before, rfl, hfresh⟩ := h
  refine ⟨before ++ [turn], ?_, by rwa [List.append_assoc, List.singleton_append]⟩
  rw [Pool.run_append, Pool.run_cons, Pool.run_nil]

/-- A turn that shows nothing of the workspace's requests leaves alone what the workspace has. -/
theorem share_step (h : Underway env settings requests p (turn :: turns))
    (hturn : p.beat? (fun i => (own w requests i).isSome = true) (sight env) turn = none) :
    (p.step (serviceMachine env) turn).state.share w = p.state.share w ∧
      p.state.nextUpload ≤ (p.step (serviceMachine env) turn).state.nextUpload := by
  obtain ⟨before, rfl, hfresh⟩ := h
  obtain ⟨hbefore, hpassing, -⟩ := hfresh.append.imp_right fun hrest => hrest.1
  refine ⟨?_, nextUpload_step_le _ hpassing⟩
  cases turn with
  | drift change => exact share_step_requests hbefore hpassing trivial
  | issue i fault =>
      by_cases hown : (own w requests i).isSome = true
      · rw [Pool.beat?, if_pos hown] at hturn
        rcases Pool.step_issue_cases (serviceMachine env) _ i fault with
          hidle | ⟨c, next, hget, -⟩
        · rw [hidle]
        · rw [Pool.pending_eq_some.mpr ⟨next, hget⟩] at hturn
          cases hturn
      · refine share_step_requests hbefore hpassing fun request hrequest hwrites => hown ?_
        rw [own, hrequest, Option.filter_some_pos (by simpa using hwrites.workspace?_eq)]
        rfl

/-- A command of one of the workspace's requests is about the workspace. -/
theorem workspace_eq {i : ℕ} (h : Underway env settings requests p turns)
    (hown : (own w requests i).isSome = true) (hpending : p.pending i = some c) :
    ∀ w' ∈ c.workspace?, w' = w := by
  obtain ⟨before, rfl, hfresh⟩ := h
  obtain ⟨γs, hwatched⟩ := separate_run (requests.map (Request.task settings)) World.sound_empty
    World.owned_empty hfresh.append.1
  obtain ⟨next, hget⟩ := Pool.pending_eq_some.mp hpending
  obtain ⟨γ, hγ, hmay, -⟩ := hwatched.getElem? hget
  have hmapped : ((requests.map (Request.task settings)).map Task.workspaceId)[i]? =
      some γ.workspaceId := by
    rw [← hwatched.holds.names, List.getElem?_map, hγ]
    rfl
  obtain ⟨request, hrequest⟩ := Option.isSome_iff_exists.mp hown
  obtain ⟨hrequest, hworkspace⟩ := Option.filter_eq_some_iff.mp hrequest
  rw [List.map_map, List.getElem?_map, hrequest, Option.map_some] at hmapped
  have hw : γ.workspaceId = w := by
    rw [← Option.some_injective _ hmapped]
    exact congrArg (Option.getD · ⟨0⟩) (decide_eq_true_iff.mp hworkspace)
  intro w' hw'
  exact (hmay.workspace w' hw').trans hw

end Underway

/-- Two runs with the same requests of the workspace. -/
theorem pairing (env env' : Environment) (settings : Settings) (w : UUID)
    (hown : own w requests = own w requests') :
    Pool.Pairing (tie w) (serviceMachine env) (serviceMachine env')
      (fun i => (own w requests i).isSome = true) (sight env) (sight env') (Agree w)
      (Underway env settings requests) (Underway env' settings requests') where
  step := Underway.step
  step' := Underway.step
  hidden := fun hp hturn h => by
    obtain ⟨hshare, hnext⟩ := hp.share_step hturn
    exact h.of_share hshare rfl hnext le_rfl
  hidden' := fun hp hturn h => by
    rw [hown] at hturn
    obtain ⟨hshare, hnext⟩ := hp.share_step hturn
    exact h.of_share rfl hshare le_rfl hnext
  shown := fun hp _ hi hpending _ hsame hsight h =>
    h.attempt hsame (hp.workspace_eq hi hpending) hsight _

theorem agree_empty (w : UUID) : Agree w ∅ .empty .empty :=
  ⟨rfl, nofun, nofun, nofun⟩

theorem underway_start {turns : List (Turn World Fault)} (hturns : ∀ turn ∈ turns, Passing turn)
    (hids :
      (((requestPool settings requests).run (serviceMachine env) turns).state.ids env).Nodup) :
    Underway env settings requests (requestPool settings requests) turns :=
  ⟨[], rfl, fresh_of_nodup hturns hids⟩

/-- Requests of the workspace do the same in both pools. -/
theorem matches_threads (hown : own w requests = own w requests') (i : ℕ)
    (hi : (own w requests i).isSome = true) :
    Option.Rel (fun program program' => Program.Matches (tie w) program program' ∅)
      (requestPool settings requests).threads[i]? (requestPool settings requests').threads[i]? := by
  obtain ⟨request, hrequest⟩ := Option.isSome_iff_exists.mp hi
  obtain ⟨hget, hworkspace⟩ := Option.filter_eq_some_iff.mp hrequest
  obtain ⟨hget', -⟩ := Option.filter_eq_some_iff.mp ((congrFun hown i).symm.trans hrequest)
  simp only [requestPool, Task.pool, List.map_map, List.getElem?_map, hget, hget', Option.map_some]
  exact .some (Request.mirrored_program (decide_eq_true_iff.mp hworkspace))

/-- Two runs that show the same of a workspace's requests answer them in the same way and leave the
workspace with the same data, whatever else is asked for in either of them. -/
theorem noninterference (env env' : Environment) (settings : Settings)
    (hown : own w requests = own w requests') {turns turns' : List (Turn World Fault)}
    (hturns : ∀ turn ∈ turns, Passing turn) (hturns' : ∀ turn ∈ turns', Passing turn)
    (hids : (((requestPool settings requests).run (serviceMachine env) turns).state.ids env).Nodup)
    (hids' : (((requestPool settings requests').run (serviceMachine env') turns').state.ids
      env').Nodup)
    (hview : ownView env settings w requests turns = ownView env' settings w requests' turns') :
    (∀ i, (own w requests i).isSome = true →
      ((requestPool settings requests).run (serviceMachine env) turns).result? i =
        ((requestPool settings requests').run (serviceMachine env') turns').result? i) ∧
    (((requestPool settings requests).run (serviceMachine env) turns).state.share w).named =
      (((requestPool settings requests').run (serviceMachine env') turns').state.share
        w).named := by
  have hstart : Pool.Paired (tie w) (fun i => (own w requests i).isSome = true) (Agree w)
      (requestPool settings requests) (requestPool settings requests') ∅ :=
    ⟨matches_threads hown, agree_empty w⟩
  unfold ownView at hview
  rw [← hown] at hview
  obtain ⟨γ, hend⟩ := hstart.run (pairing env env' settings w hown) (underway_start hturns hids)
    (underway_start hturns' hids') hview
  exact ⟨fun i hi => hend.result?_eq hi, hend.tied.named⟩

namespace Sample

/-- An owner of another workspace starts an upload. -/
def upload' : InitiateUploadRequest := { upload with workspaceId := ⟨2⟩ }

/-- The same upload with another visit. -/
def visits' : List Request :=
  [.call (.initiate upload), .call (.processChunk chunk), .call (.initiate upload'), inquiry]

theorem own_visits : own workspace visits = own workspace visits' := by
  funext i
  match i with
  | 0 | 1 | 3 => rfl
  | 2 => rfl
  | i + 4 => rfl

end Sample

/-- The other workspace tries to end the session, or starts one of its own. -/
theorem noninterference_sample :
    (∀ i, (own Sample.workspace Sample.visits i).isSome = true →
      ((requestPool Sample.settings Sample.visits).run (serviceMachine Sample.environment)
          (calm [0, 0, 0, 0, 0, 1, 2, 1, 3, 2, 2, 1, 1])).result? i =
        ((requestPool Sample.settings Sample.visits').run (serviceMachine Sample.environment)
          (calm [0, 2, 0, 0, 0, 0, 2, 2, 1, 1, 3, 1, 2, 1])).result? i) ∧
    (((requestPool Sample.settings Sample.visits).run (serviceMachine Sample.environment)
        (calm [0, 0, 0, 0, 0, 1, 2, 1, 3, 2, 2, 1, 1])).state.share Sample.workspace).named =
      (((requestPool Sample.settings Sample.visits').run (serviceMachine Sample.environment)
        (calm [0, 2, 0, 0, 0, 0, 2, 2, 1, 1, 3, 1, 2, 1])).state.share Sample.workspace).named :=
  noninterference _ _ _ Sample.own_visits (passing_calm _) (passing_calm _)
    (by decide +kernel) (by decide +kernel) (by decide +kernel)

end RagFileUploader
