import RagFileUploader.Serial.Runs

/-!
# What a stored session stands for

A session hash together with its chunk keys represents the list of byte strings that the session
has received.  `Represents` says how; `represented_step` shows that a call keeps the
representation and extends the list exactly when it accepts a chunk.  Half-failed chunk calls
leave bytes under the key after the last recorded one, which the representation does not mention.

* `Represents.record` is the accepted chunk, the only step that extends the list.
* `Represents.settle` is a write that ends the upload, and `Represents.frame` is for whatever leaves
  the session and its recorded chunks alone.
* `represented_step` is one call, and `represented_steps` the run by induction.
* `Represents.consistent` and `Represents.backs` read off it what a stored session promises.
-/

namespace RagFileUploader

open Effects Stores

variable {env : Environment} {settings : Settings} {F : Fault → Prop} {σ σ' : World}
  {w s : UUID} {key : SessionKey} {entry : Entry SessionHash} {data : Bytes} {datas : List Bytes}
  {session session' : UploadSession} {D : SessionKey → List Bytes}

/-! ## Manifests -/

/-- The manifest of these byte strings. -/
def manifestOf (datas : List Bytes) : List ChunkMeta :=
  datas.mapIdx fun i data => ⟨i, data.length, sha256Hexdigest data⟩

@[simp] theorem length_manifestOf (datas : List Bytes) :
    (manifestOf datas).length = datas.length := by
  simp [manifestOf]

@[simp] theorem manifestOf_eq_nil : manifestOf datas = [] ↔ datas = [] := by
  rw [← List.length_eq_zero_iff, length_manifestOf, List.length_eq_zero_iff]

theorem manifestOf_append (datas : List Bytes) (data : Bytes) :
    manifestOf (datas ++ [data]) =
      manifestOf datas ++ [⟨datas.length, data.length, sha256Hexdigest data⟩] := by
  simp [manifestOf, List.mapIdx_append]

theorem getElem?_manifestOf (datas : List Bytes) (i : ℕ) :
    (manifestOf datas)[i]? =
      datas[i]?.map fun data => ⟨i, data.length, sha256Hexdigest data⟩ := by
  simp [manifestOf]

theorem mem_manifestOf {c : ChunkMeta} :
    c ∈ manifestOf datas ↔ ∃ (i : ℕ) (data : Bytes), datas[i]? = some data ∧
      c = ⟨i, data.length, sha256Hexdigest data⟩ := by
  rw [List.mem_iff_getElem?]
  simp only [getElem?_manifestOf, Option.map_eq_some_iff]
  exact exists_congr fun i => exists_congr fun data => and_congr_right fun _ => eq_comm

theorem indices_manifestOf (datas : List Bytes) :
    (manifestOf datas).map ChunkMeta.index = (List.range datas.length).map Int.ofNat := by
  refine List.ext_getElem? fun i => ?_
  rw [List.getElem?_map, getElem?_manifestOf, List.getElem?_map]
  by_cases h : i < datas.length
  · simp [h]
  · simp [h]

theorem sum_size_manifestOf (datas : List Bytes) :
    ((manifestOf datas).map ChunkMeta.size).sum = datas.flatten.length := by
  induction datas using List.reverseRecOn with
  | nil => rfl
  | append_singleton datas data ih => simp [manifestOf_append, ih]

/-! ## The representation -/

/-- The status of an upload under way. -/
def activeStatus (datas : List Bytes) : SessionStatus :=
  if datas = [] then .pending else .inProgress

/-- The entry under `key` represents a session that received `datas`. -/
structure Represents (σ : World) (key : SessionKey) (entry : Entry SessionHash)
    (datas : List Bytes) : Prop where
  manifest : entry.value.chunkManifest = manifestOf datas
  offset : entry.value.offset = datas.flatten.length
  sizes : ∀ data ∈ datas, 1 ≤ data.length ∧ (data.length : ℤ) ≤ ProcessChunkUseCase.maxChunkSize
  status : ∃ status : SessionStatus, entry.value.status = status.value ∧
    (status.Terminal ∨ status = activeStatus datas)
  deadline : ∃ d, entry.deadline = some d ∧ d ≤ σ.clock + RedisSessionStore.ttlSeconds * 1000
  /-- While the upload is under way its chunks are there, for longer than the hash. -/
  backed : entry.value.status = SessionStatus.inProgress.value →
    ∀ (i : ℕ) (data : Bytes), datas[i]? = some data → ∃ d,
      σ.chunks ⟨key.workspaceId, key.documentId, i⟩ = some ⟨data, some d⟩ ∧
      ∀ d' ∈ entry.deadline, d' ≤ d

/-- Every stored hash represents the byte strings that `D` lists for its key. -/
def Represented (σ : World) (D : SessionKey → List Bytes) : Prop :=
  ∀ key entry, σ.sessions key = some entry → Represents σ key entry (D key)

/-- Time passes, and chunk keys change that the entry does not record. -/
theorem Represents.frame (h : Represents σ key entry datas) (hclock : σ.clock ≤ σ'.clock)
    (hchunks : ∀ i < datas.length, σ'.chunks ⟨key.workspaceId, key.documentId, i⟩ =
      σ.chunks ⟨key.workspaceId, key.documentId, i⟩) : Represents σ' key entry datas where
  manifest := h.manifest
  offset := h.offset
  sizes := h.sizes
  status := h.status
  deadline := by
    obtain ⟨d, hd, hle⟩ := h.deadline
    exact ⟨d, hd, le_trans hle (Nat.add_le_add_right hclock _)⟩
  backed := by
    intro hstatus i data hi
    rw [hchunks i (List.getElem?_eq_some_iff.mp hi).1]
    exact h.backed hstatus i data hi

/-- A terminal status needs no chunks. -/
theorem Represents.settle {status : SessionStatus} {d : Option ℕ}
    (h : Represents σ key ⟨RedisSessionStore.serializeSession session, d⟩ datas)
    (hstatus : status.Terminal) (hclock : σ.clock ≤ σ'.clock) :
    Represents σ' key
      ⟨RedisSessionStore.serializeSession (session.withStatus status), d⟩ datas where
  manifest := h.manifest
  offset := h.offset
  sizes := h.sizes
  status := ⟨status, rfl, .inl hstatus⟩
  deadline := by
    obtain ⟨d, hd, hle⟩ := h.deadline
    exact ⟨d, hd, le_trans hle (Nat.add_le_add_right hclock _)⟩
  backed := by
    intro hprogress
    have heq : status = .inProgress := SessionStatus.value_injective hprogress
    subst heq
    exact absurd hstatus (by decide)

/-! ## Entries that were read or written -/

/-- The entry behind a session that was read. -/
theorem World.Reads.exists_entry (h : σ.Reads w s session) :
    ∃ d, σ.sessions ⟨w, s⟩ = some ⟨RedisSessionStore.serializeSession session, d⟩ ∧
      (Entry.mk (RedisSessionStore.serializeSession session) d).Live σ.clock :=
  Keyspace.get?_eq_some_iff.mp h.stored

/-- Writing keeps the deadline of the entry that was read. -/
theorem putSession_self {d : Option ℕ} (hkey : session'.key = ⟨w, s⟩)
    (hentry : σ.sessions ⟨w, s⟩ = some ⟨RedisSessionStore.serializeSession session, d⟩)
    (hlive : (Entry.mk (RedisSessionStore.serializeSession session) d).Live σ.clock) :
    (σ.putSession session').sessions ⟨w, s⟩ =
      some ⟨RedisSessionStore.serializeSession session', d⟩ := by
  simp only [World.putSession, hkey]
  exact Keyspace.overwrite_self (Keyspace.find?_eq_some_iff.mpr ⟨hentry, hlive⟩)

/-- A write under one key leaves the other keys to the frame. -/
theorem Represented.write (h : Represented σ D) (session' : UploadSession)
    (hreads : σ.Reads w s session) (hkey : session'.key = session.key)
    (hsessions : σ'.sessions = (σ.putSession session').sessions) (hclock : σ'.clock = σ.clock)
    (hchunks : ∀ key, key.workspaceId ≠ w ∨ key.sessionId ≠ s → σ'.chunks key = σ.chunks key)
    (hself : ∀ d, Represents σ ⟨w, s⟩ ⟨RedisSessionStore.serializeSession session, d⟩ (D ⟨w, s⟩) →
      Represents σ' ⟨w, s⟩ ⟨RedisSessionStore.serializeSession session', d⟩ datas) :
    Represented σ' (Function.update D ⟨w, s⟩ datas) := by
  have hkey' : session'.key = ⟨w, s⟩ := hkey.trans hreads.key_eq
  obtain ⟨d, hentry, hlive⟩ := hreads.exists_entry
  intro key entry hget
  rw [hsessions] at hget
  by_cases hsame : key = ⟨w, s⟩
  · subst hsame
    rw [putSession_self hkey' hentry hlive] at hget
    cases hget
    rw [Function.update_self]
    exact hself d (h _ _ hentry)
  · have hother : (σ.putSession session').sessions key = σ.sessions key := by
      simp only [World.putSession, hkey']
      exact Keyspace.overwrite_of_ne hsame
    rw [Function.update_of_ne hsame]
    refine (h key entry (hother ▸ hget)).frame hclock.ge fun i _ => hchunks _ ?_
    by_contra hboth
    simp only [not_or, not_not] at hboth
    exact hsame (by cases key; simp_all)

/-- A status write that ends the upload. -/
theorem Represented.settle (h : Represented σ D) (status : SessionStatus)
    (hreads : σ.Reads w s session) (hstatus : status.Terminal)
    (hsessions : σ'.sessions = (σ.putSession (session.withStatus status)).sessions)
    (hclock : σ'.clock = σ.clock)
    (hchunks : ∀ key, key.workspaceId ≠ w ∨ key.sessionId ≠ s → σ'.chunks key = σ.chunks key) :
    Represented σ' D := by
  have hwrite := h.write (session.withStatus status) hreads rfl hsessions hclock hchunks
    fun d hrep => hrep.settle hstatus hclock.ge
  rwa [Function.update_eq_self] at hwrite

theorem Represented.same (h : Represented σ D) (hsessions : σ'.sessions = σ.sessions)
    (hclock : σ.clock ≤ σ'.clock) (hchunks : σ'.chunks = σ.chunks) : Represented σ' D := by
  intro key entry hentry
  rw [hsessions] at hentry
  exact (h key entry hentry).frame hclock fun i _ => by rw [hchunks]

/-- Stray bytes under the next chunk key. -/
theorem Represented.putChunk (h : Represented σ D) (hreads : σ.Reads w s session)
    {index : ℤ} (hindex : index = session.chunkManifest.length) (data : Bytes) :
    Represented (σ.putChunk ⟨w, s, index⟩ data) D := by
  obtain ⟨d, hentry, -⟩ := hreads.exists_entry
  have hlength : session.chunkManifest.length = (D ⟨w, s⟩).length := by
    have hmanifest : session.chunkManifest = manifestOf (D ⟨w, s⟩) := (h _ _ hentry).manifest
    rw [hmanifest, length_manifestOf]
  intro key entry hget
  refine (h key entry hget).frame le_rfl fun i hi => Keyspace.put_of_ne fun heq => ?_
  simp only [ChunkKey.mk.injEq] at heq
  obtain ⟨hw, hs, hi'⟩ := heq
  have hkey : key = ⟨w, s⟩ := by cases key; simp_all
  subst hkey
  omega

/-- An accepted chunk joins the byte strings. -/
theorem Represents.record {request : ProcessChunkRequest} {index : ℤ} {d : Option ℕ}
    (h : Represents σ ⟨w, s⟩ ⟨RedisSessionStore.serializeSession session, d⟩ datas)
    (hvalid : ProcessChunkUseCase.validate session request = .ok index)
    (hrecord : ProcessChunkUseCase.recordChunk session request index
      (session.offset + request.chunkData.length) = .ok session') :
    Represents ((σ.putChunk ⟨w, s, index⟩ request.chunkData).putSession session') ⟨w, s⟩
      ⟨RedisSessionStore.serializeSession session', d⟩ (datas ++ [request.chunkData]) := by
  obtain ⟨hactive, -, hmax, hchecksum, hindex⟩ := ProcessChunkUseCase.validate_eq_ok hvalid
  have hfields := ProcessChunkUseCase.recordChunk_eq_ok hrecord hactive
  -- what the hash says is what has been received
  have hmanifest : session.chunkManifest = manifestOf datas := h.manifest
  have hoffset : session.offset = datas.flatten.length := h.offset
  have hlength : index = datas.length := by rw [hindex, hmanifest, length_manifestOf]
  refine ⟨?_, ?_, ?_, ⟨.inProgress, ?_, .inr ?_⟩, h.deadline, ?_⟩
  · simp [RedisSessionStore.serializeSession, hfields, hmanifest, manifestOf_append, hlength,
      hchecksum]
  · simp [RedisSessionStore.serializeSession, hfields, hoffset]
  · intro data hdata
    rcases List.mem_append.mp hdata with hdata | hdata
    · exact h.sizes data hdata
    · rw [List.mem_singleton.mp hdata]
      exact ⟨List.length_pos_iff.mpr request.data_ne_nil, hmax⟩
  · simp [RedisSessionStore.serializeSession, hfields]
  · simp [activeStatus]
  · intro _ i data hi
    by_cases hlt : i < datas.length
    · -- a chunk recorded before: the session was under way already
      rw [List.getElem?_append_left hlt] at hi
      have hprogress : session.status = .inProgress := by
        rcases (SessionStatus.not_terminal_iff _).mp hactive with hpending | hprogress
        · obtain ⟨status, hstatus, hwhich⟩ := h.status
          have heq : session.status = status := SessionStatus.value_injective hstatus
          have hne : datas ≠ [] := List.ne_nil_of_length_pos (by omega)
          rcases hwhich with hterminal | hwhich
          · exact absurd (heq ▸ hterminal) hactive
          · rw [heq, hwhich, activeStatus, if_neg hne]
        · exact hprogress
      have hne : (⟨w, s, i⟩ : ChunkKey) ≠ ⟨w, s, index⟩ := by
        simp only [ne_eq, ChunkKey.mk.injEq, true_and]
        omega
      obtain ⟨d', hchunk, hd'⟩ := h.backed (congrArg SessionStatus.value hprogress) i data hi
      exact ⟨d', (Keyspace.put_of_ne hne).trans hchunk, hd'⟩
    · -- the new chunk, whose lifetime starts now
      have hi' : i = datas.length := by
        have := (List.getElem?_eq_some_iff.mp hi).1
        simp only [List.length_append, List.length_singleton] at this
        omega
      subst hi'
      rw [List.getElem?_append_right le_rfl, Nat.sub_self, List.getElem?_cons_zero] at hi
      cases hi
      refine ⟨σ.clock + ProcessChunkUseCase.chunkTtlSeconds * 1000, ?_, ?_⟩
      · rw [hlength]
        exact Keyspace.put_self
      · obtain ⟨d', hd', hle⟩ := h.deadline
        intro d'' hd''
        cases hd'.symm.trans hd''
        exact hle

/-! ## One call -/

/-- The byte strings of each session after one more call. -/
def Record.receive (record : Record) (D : SessionKey → List Bytes) : SessionKey → List Bytes :=
  match record with
  | ⟨.initiate request, .ok (.initiated response)⟩ =>
      Function.update D ⟨request.workspaceId, response.sessionId⟩ []
  | ⟨.processChunk request, .ok _⟩ =>
      Function.update D ⟨request.workspaceId, request.sessionId⟩
        (D ⟨request.workspaceId, request.sessionId⟩ ++ [request.chunkData])
  | _ => D

theorem represented_step {c : Call} {r : Except Exc Response} (h : Represented σ D)
    (houtcome : CallOutcome env settings F σ c r σ') :
    Represented σ' (Record.receive ⟨c, r⟩ D) := by
  cases houtcome with
  | @initiate request r σ' ho =>
      cases ho with
      | refused => exact h
      | rolledBack => exact h.same rfl le_rfl rfl
      | created session createdAt expiresAt hvalid hnew =>
          obtain ⟨hkey, hstatus, hoffset, hmanifest, -, -⟩ :=
            InitiateUploadUseCase.newSession_eq_ok hnew
          intro key entry hentry
          change (σ.sessions.put session.key (RedisSessionStore.serializeSession session)
            (σ.deadline RedisSessionStore.ttlSeconds)) key = some entry at hentry
          rw [hkey] at hentry
          change Represents _ key entry (Function.update D _ [] key)
          -- a fresh session has received nothing, under a key that is new
          rcases Keyspace.of_put_eq_some hentry with ⟨rfl, rfl⟩ | ⟨hsame, hold⟩
          · rw [Function.update_self]
            refine ⟨hmanifest, hoffset, by simp, ⟨.pending, ?_, .inr rfl⟩, ?_, by simp⟩
            · simp [RedisSessionStore.serializeSession, hstatus]
            · exact ⟨_, rfl, le_rfl⟩
          · rw [Function.update_of_ne hsame]
            exact (h key entry hold).frame le_rfl fun _ _ => rfl
  | processChunk ho =>
      cases ho with
      | rejected => exact h
      | stray e session index reads hvalid =>
          exact h.putChunk reads (ProcessChunkUseCase.validate_eq_ok hvalid).2.2.2.2 _
      | accepted session session' index reads hvalid hrecord =>
          refine h.write session' reads (ProcessChunkUseCase.key_recordChunk hrecord
            (ProcessChunkUseCase.validate_eq_ok hvalid).1) rfl rfl (fun key hne => ?_)
            fun d hrep => hrep.record hvalid hrecord
          refine Keyspace.put_of_ne fun heq => ?_
          subst heq
          simp at hne
  | complete ho =>
      cases ho with
      | notReady => exact h
      | unpublished e session σ' reads _ _ hu =>
          -- the failed call has left the session as it was or marked it FAILED
          rcases hu.sessions with hs | hs
          · exact h.same hs hu.clock.ge hu.chunks
          · exact h.settle .failed reads (by decide) hs hu.clock
              fun _ _ => by rw [hu.chunks]
      | unsettled e session chunks σ' reads _ hpublished _ hs hchunks =>
          rcases hs with hs | ⟨status, hstatus, hs⟩
          · exact h.same hs hpublished.clock.ge hchunks
          · exact h.settle status reads hstatus hs hpublished.clock fun _ _ => by rw [hchunks]
      | completed session chunks σ₁ σ' reads _ hpublished hframe hcompleted =>
          have hs : σ'.sessions = (σ.putSession (session.withStatus .complete)).sessions := by
            rw [hcompleted.sessions]
            exact CompleteUploadUseCase.sessions_putSession_congr hframe.1 hpublished.clock
          refine h.settle .complete reads (by decide) hs
            (hcompleted.clock.trans hpublished.clock) fun key hne => ?_
          -- the chunk keys that are deleted are the session's own, and it is COMPLETE
          rw [← hframe.2.1]
          exact (hcompleted.chunks key).resolve_right fun hkey => by simp_all
  | @abort w s r σ' ho =>
      cases ho with
      | rejected => exact h
      | marked e session reads =>
          exact h.settle .aborted reads (by decide) rfl rfl fun _ _ => rfl
      | removed r session counters reads =>
          intro key entry hentry
          change σ.sessions.erase ⟨w, s⟩ key = some entry at hentry
          obtain ⟨-, hold⟩ := Keyspace.of_erase_eq_some hentry
          exact (h key entry hold).frame le_rfl fun _ _ => rfl

/-! ## Runs -/

/-- The byte strings of each session after the calls of a run, newest first. -/
def received : List Record → SessionKey → List Bytes
  | [] => fun _ => []
  | record :: history => record.receive (received history)

/-- In every run each stored hash represents what its session has received. -/
theorem represented_steps (ops : List Op) :
    Represented (Run.steps env settings Run.start ops).world
      (received (Run.steps env settings Run.start ops).history) := by
  refine (Run.steps_induction (C := fun _ _ => True)
    (I := fun run => Represented run.world (received run.history))
    (fun run c faults r σ' _ h _ houtcome => ?_) (fun run ms _ h _ => ?_) Run.wellStored_start
    (fun _ _ h => nomatch h) (Run.within_true _ ops)).2
  · exact represented_step h houtcome
  · exact h.same rfl (Nat.le_add_right _ _) rfl

/-- What the fields of a stored hash have to do with each other. -/
structure SessionHash.Consistent (data : SessionHash) : Prop where
  offset_nonneg : 0 ≤ data.offset
  offset_le : data.offset ≤ data.size
  indices : data.chunkManifest.map ChunkMeta.index =
    (List.range data.chunkManifest.length).map Int.ofNat
  sizes : ∀ c ∈ data.chunkManifest, 1 ≤ c.size ∧ c.size ≤ 10485760
  total : (data.chunkManifest.map ChunkMeta.size).sum = data.offset
  status : ∃ status : SessionStatus, data.status = status.value ∧ (status.Terminal ∨
    status = if data.chunkManifest = [] then .pending else .inProgress)

/-- The chunks that a stored hash records are live and have the recorded size and checksum. -/
def World.Backs (σ : World) (key : SessionKey) (data : SessionHash) : Prop :=
  ∀ c ∈ data.chunkManifest, ∃ bytes,
    σ.chunk? ⟨key.workspaceId, key.documentId, c.index⟩ = some bytes ∧
      bytes.length = c.size ∧ sha256Hexdigest bytes = c.checksum

theorem Represents.consistent (hσ : σ.WellStored) (hentry : σ.sessions key = some entry)
    (h : Represents σ key entry datas) : entry.value.Consistent := by
  obtain ⟨-, session, -, hvalue⟩ := hσ key entry hentry
  have hmanifest := h.manifest
  refine ⟨?_, ?_, ?_, ?_, ?_, ?_⟩
  · rw [hvalue]
    exact session.offset_nonneg
  · rw [hvalue]
    exact session.offset_le
  · rw [hmanifest, indices_manifestOf, length_manifestOf]
  · intro c hc
    rw [hmanifest] at hc
    obtain ⟨i, data, hi, rfl⟩ := mem_manifestOf.mp hc
    have hsize := h.sizes data (List.mem_of_getElem? hi)
    simp only [ProcessChunkUseCase.maxChunkSize] at hsize
    exact ⟨Int.ofNat_le.mpr hsize.1, hsize.2⟩
  · rw [hmanifest, sum_size_manifestOf, h.offset]
  · obtain ⟨status, hvalue', hstatus⟩ := h.status
    refine ⟨status, hvalue', hstatus.imp_right fun hactive => ?_⟩
    simp only [hmanifest, manifestOf_eq_nil]
    exact hactive

theorem Represents.backs (h : Represents σ key entry datas) (hlive : entry.Live σ.clock)
    (hstatus : entry.value.status = SessionStatus.inProgress.value) : σ.Backs key entry.value := by
  obtain ⟨d, hd, -⟩ := h.deadline
  intro c hc
  rw [h.manifest] at hc
  obtain ⟨i, data, hi, rfl⟩ := mem_manifestOf.mp hc
  obtain ⟨d', hchunk, hle⟩ := h.backed hstatus i data hi
  have hnow : σ.clock < d' := lt_of_lt_of_le (hlive d hd) (hle d hd)
  exact ⟨data, Keyspace.get?_eq_some_iff.mpr ⟨some d', hchunk, by simpa using hnow⟩, rfl, rfl⟩

/-- Every stored session hash is consistent, and an unexpired one IN_PROGRESS has its chunks. -/
def World.SessionsOk (σ : World) : Prop :=
  ∀ key entry, σ.sessions key = some entry → entry.value.Consistent ∧
    (entry.Live σ.clock → entry.value.status = SessionStatus.inProgress.value →
      σ.Backs key entry.value)

/-- The representation invariant of sessions holds in every state of every run. -/
theorem session_representation (env : Environment) (settings : Settings) (ops : List Op) :
    (Run.steps env settings Run.start ops).world.SessionsOk := by
  intro key entry hentry
  have h : Represents _ key entry _ :=
    represented_steps ops key entry hentry
  exact ⟨h.consistent (Run.wellStored_steps ops) hentry, h.backs⟩

end RagFileUploader
