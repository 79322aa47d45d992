import RagFileUploader.Concurrent.ChunkCalls

/-!
# Chunk calls in a serial order

Calls with any chunks for one session, interleaved command by command.  As long as nobody
overwrites a recorded chunk with other bytes, and every hash is written over the one that it was
made from, the calls that are accepted form a serial order: one after another they would have
been accepted as well, with the same hash and the same chunks in the end.

The journal tells the order, that of the `HSET` commands.  `SerialState` compares the world with
the one that the accepted calls lead to when each of them runs alone.

* `SerialState.move` is the step for a command that accepts nothing, and `SerialState.accept` the
  one for an `HSET`, where the serial run is extended by one call: `Undisturbed` gives the same
  hash and keeps the recorded chunks.
* `SerialState.sustains` tells the two apart, and `chunks_serialise` reads the order off the
  journal at the end of the run.
-/

namespace RagFileUploader.ProcessChunkUseCase

open Effects Stores

variable {env : Environment} {settings : Settings} {request : ProcessChunkRequest}
  {requests : List ProcessChunkRequest} {σ σ' : World} {w s : UUID} {lo : ℤ}
  {current : UploadSession} {γs : List ((request : ProcessChunkRequest) × Phase request)}
  {journal : List (ℕ × Command)}

/-! ## Calls one after another -/

/-- The results of calls that run one after another, and the world that they leave. -/
def serially (env : Environment) (settings : Settings) (σ : World) :
    List ProcessChunkRequest → List (Except Exc ProcessChunkResponse) × World
  | [] => ([], σ)
  | request :: requests =>
      let out := (execute (dependencies settings) request).run (serviceMachine env) [] σ
      let rest := serially env settings out.2 requests
      (out.1 :: rest.1, rest.2)

theorem serially_append (rs : List ProcessChunkRequest) (request : ProcessChunkRequest) :
    serially env settings σ (rs ++ [request]) =
      ((serially env settings σ rs).1 ++
          [((execute (dependencies settings) request).run (serviceMachine env) []
            (serially env settings σ rs).2).1],
        ((execute (dependencies settings) request).run (serviceMachine env) []
          (serially env settings σ rs).2).2) := by
  induction rs generalizing σ with
  | nil => rfl
  | cons r rs ih =>
      rw [List.cons_append, serially, ih]
      rfl

/-! ## Undisturbed turns -/

/-- What a call writes that reads this hash. -/
def planned (request : ProcessChunkRequest) (data : SessionHash) : Except Exc SessionHash := do
  let session ← RedisSessionStore.deserializeSession data
  let index ← validate session request
  let next ← recordChunk session request index (session.offset + request.chunkData.length)
  pure (RedisSessionStore.serializeSession next)

theorem planned_eq_ok {session : UploadSession} {data' : SessionHash}
    (h : planned request (RedisSessionStore.serializeSession session) = .ok data') :
    ∃ plan : Plan request, plan.session = session ∧
      data' = RedisSessionStore.serializeSession plan.next := by
  simp only [planned, RedisSessionStore.deserialize_serialize, except_bind_eq_ok,
    Except.ok.injEq, exists_eq_left'] at h
  obtain ⟨index, hvalid, next, hrecord, hdata⟩ := h
  cases hdata
  exact ⟨⟨session, index, next, hvalid, hrecord⟩, rfl, rfl⟩

/-- A chunk that is stored under a recorded key is the one that is there already. -/
def ChunkFits (σ : World) (w s : UUID) (chunk : ChunkKey × Bytes) : Prop :=
  ∀ data ∈ σ.session? ⟨w, s⟩, ∀ recorded ∈ data.chunkManifest,
    recorded.index = chunk.1.index → σ.chunk? chunk.1 = some chunk.2

/-- A call that reads the session now would write this hash, and the chunk key that goes with it
holds the call's own bytes. -/
def HashFits (σ : World) (w s : UUID) (request : ProcessChunkRequest) (data' : SessionHash) :
    Prop :=
  ∃ data ∈ σ.session? ⟨w, s⟩, planned request data = .ok data' ∧
    σ.chunk? ⟨w, s, data.chunkManifest.length⟩ = some request.chunkData

instance (chunk : ChunkKey × Bytes) : Decidable (ChunkFits σ w s chunk) :=
  inferInstanceAs (Decidable (∀ data ∈ σ.session? ⟨w, s⟩, _))

instance (data' : SessionHash) : Decidable (HashFits σ w s request data') :=
  inferInstanceAs (Decidable (∃ data ∈ σ.session? ⟨w, s⟩, _ ∧ _))

/-- What a call is about to store fits what is stored. -/
def Undisturbed (w s : UUID) (requests : List ProcessChunkRequest)
    (p : Pool serviceSignature World ProcessChunkResponse) : Turn World Fault → Prop
  | .issue i _ => ∀ request ∈ requests[i]?, ∀ c ∈ p.pending i,
      (∀ chunk ∈ Command.newChunk? c, ChunkFits p.state w s chunk) ∧
        ∀ data ∈ Command.newHash? c, HashFits p.state w s request data
  | .drift _ => True

instance (p : Pool serviceSignature World ProcessChunkResponse) :
    ∀ turn, Decidable (Undisturbed w s requests p turn)
  | .issue i _ => inferInstanceAs (Decidable (∀ request ∈ requests[i]?, ∀ c ∈ p.pending i,
      (∀ chunk ∈ Command.newChunk? c, ChunkFits p.state w s chunk) ∧
        ∀ data ∈ Command.newHash? c, HashFits p.state w s request data))
  | .drift _ => isTrue trivial

/-! ## The order of acceptance -/

/-- The threads that have written the session, in the order of their writes. -/
def acceptedCalls (journal : List (ℕ × Command)) : List ℕ :=
  journal.reverse.filterMap fun (i, c) => c.newHash?.map fun _ => i

theorem acceptedCalls_cons (i : ℕ) (c : Command) :
    acceptedCalls ((i, c) :: journal) =
      acceptedCalls journal ++ (c.newHash?.map fun _ => i).toList := by
  cases h : c.newHash? <;> simp [acceptedCalls, h]

/-- The call has written the session. -/
def Phase.Accepted : Phase request → Prop
  | .accepted _ => True
  | _ => False

/-- Every entry of the manifest is the checksum of the bytes under its chunk key. -/
def Backed (σ : World) (w s : UUID) (data : SessionHash) : Prop :=
  ∀ c ∈ data.chunkManifest, ∃ bytes, σ.chunk? ⟨w, s, c.index⟩ = some bytes ∧
    c.checksum = sha256Hexdigest bytes

/-- The world of a serial run of the accepted calls. -/
def serialWorld (env : Environment) (settings : Settings) (σ : World)
    (requests : List ProcessChunkRequest) (journal : List (ℕ × Command)) :
    List (Except Exc ProcessChunkResponse) × World :=
  serially env settings σ ((acceptedCalls journal).filterMap (requests[·]?))

/-- The interleaved world agrees with the serial one on the session and on its chunks. -/
structure SerialState (env : Environment) (settings : Settings) (σ : World)
    (requests : List ProcessChunkRequest) (w s : UUID) (lo : ℤ) (current : UploadSession)
    (γs : List ((request : ProcessChunkRequest) × Phase request)) (σ' : World)
    (journal : List (ℕ × Command)) : Prop where
  threads : γs.map Sigma.fst = requests
  calls : ∀ i γ, γs[i]? = some γ → (γ.2.Accepted ↔ i ∈ acceptedCalls journal)
  bound : ∀ i ∈ acceptedCalls journal, i < γs.length
  nodup : (acceptedCalls journal).Nodup
  results : ∀ r ∈ (serialWorld env settings σ requests journal).1, ∃ response, r = .ok response
  serial : (serialWorld env settings σ requests journal).2.Reads w s current
  stored : σ'.Reads w s current
  chunks : ∀ c ∈ current.chunkManifest,
    (serialWorld env settings σ requests journal).2.chunk? ⟨w, s, c.index⟩ =
      σ'.chunk? ⟨w, s, c.index⟩
  lower : lo ≤ current.offset
  offsets : ∀ i ∈ acceptedCalls journal, ∀ request ∈ requests[i]?,
    request.chunkOffset < current.offset
  distinct : ∀ i ∈ acceptedCalls journal, ∀ j ∈ acceptedCalls journal,
    ∀ request ∈ requests[i]?, ∀ request' ∈ requests[j]?,
      request.chunkOffset = request'.chunkOffset → i = j
  backed : (∀ data ∈ σ.session? ⟨w, s⟩, Backed σ w s data) →
    Backed σ' w s (RedisSessionStore.serializeSession current)

/-! ## One turn -/

theorem request_of_phase (hthreads : γs.map Sigma.fst = requests) {i : ℕ}
    {γ : (request : ProcessChunkRequest) × Phase request} (hγ : γs[i]? = some γ) :
    requests[i]? = some γ.1 := by
  rw [← hthreads, List.getElem?_map, hγ]
  rfl

theorem threads_set (hthreads : γs.map Sigma.fst = requests) {i : ℕ}
    {γ γ' : (request : ProcessChunkRequest) × Phase request} (hγ : γs[i]? = some γ)
    (heq : γ'.1 = γ.1) : (γs.set i γ').map Sigma.fst = requests := by
  refine List.ext_getElem? fun j => ?_
  rw [List.getElem?_map]
  by_cases hij : i = j
  · subst hij
    rw [List.getElem?_set_self (List.getElem?_eq_some_iff.mp hγ).1, request_of_phase hthreads hγ,
      Option.map_some, heq]
  · rw [List.getElem?_set_ne hij, ← List.getElem?_map, hthreads]

/-- A command other than `HSET` that leaves session and recorded chunks alone. -/
theorem SerialState.move (h : SerialState env settings σ requests w s lo current γs σ' journal)
    {σ'' : World} {i : ℕ} {c : Command}
    {γ γ' : (request : ProcessChunkRequest) × Phase request} (hγ : γs[i]? = some γ)
    (hsession : σ''.session? ⟨w, s⟩ = σ'.session? ⟨w, s⟩)
    (hchunks : ∀ c ∈ current.chunkManifest,
      σ''.chunk? ⟨w, s, c.index⟩ = σ'.chunk? ⟨w, s, c.index⟩)
    (heq : γ'.1 = γ.1) (hold : ¬ γ.2.Accepted) (hnew : ¬ γ'.2.Accepted)
    (hc : c.newHash? = none) :
    SerialState env settings σ requests w s lo current (γs.set i γ') σ'' ((i, c) :: journal) := by
  -- the turn accepts nothing, so the serial run stays the same
  have haccepted : acceptedCalls ((i, c) :: journal) = acceptedCalls journal := by
    simp [acceptedCalls_cons, hc]
  have hserial : serialWorld env settings σ requests ((i, c) :: journal) =
      serialWorld env settings σ requests journal := by
    rw [serialWorld, haccepted, serialWorld]
  constructor
  case threads => exact threads_set h.threads hγ heq
  case calls =>
    intro j γ'' hγ''
    rw [haccepted]
    by_cases hij : i = j
    · subst hij
      rw [List.getElem?_set_self (List.getElem?_eq_some_iff.mp hγ).1] at hγ''
      cases hγ''
      exact ⟨fun ha => absurd ha hnew, fun hi => absurd ((h.calls i γ hγ).mpr hi) hold⟩
    · rw [List.getElem?_set_ne hij] at hγ''
      exact h.calls j γ'' hγ''
  case bound =>
    rw [haccepted, List.length_set]
    exact h.bound
  case nodup => exact haccepted ▸ h.nodup
  case results => exact hserial ▸ h.results
  case serial => exact hserial ▸ h.serial
  case stored => exact ⟨h.stored.valid, h.stored.key_eq, hsession.trans h.stored.stored⟩
  case chunks =>
    intro recorded hrecorded
    rw [hserial, hchunks recorded hrecorded]
    exact h.chunks recorded hrecorded
  case lower => exact h.lower
  case offsets => exact haccepted ▸ h.offsets
  case distinct => exact haccepted ▸ h.distinct
  case backed =>
    intro hstart recorded hrecorded
    rw [hchunks recorded hrecorded]
    exact h.backed hstart recorded hrecorded

/-- The serial world after one more accepted call. -/
theorem SerialState.serialWorld_accept
    (h : SerialState env settings σ requests w s lo current γs σ' journal) {i : ℕ} {c : Command}
    {γ : (request : ProcessChunkRequest) × Phase request} (hγ : γs[i]? = some γ)
    (hc : c.newHash?.isSome) :
    serialWorld env settings σ requests ((i, c) :: journal) =
      ((serialWorld env settings σ requests journal).1 ++
          [((execute (dependencies settings) γ.1).run (serviceMachine env) []
            (serialWorld env settings σ requests journal).2).1],
        ((execute (dependencies settings) γ.1).run (serviceMachine env) []
          (serialWorld env settings σ requests journal).2).2) := by
  obtain ⟨data, hdata⟩ := Option.isSome_iff_exists.mp hc
  have hrequest := request_of_phase h.threads hγ
  rw [serialWorld, acceptedCalls_cons, hdata, List.filterMap_append]
  simp only [Option.map_some, Option.toList_some, List.filterMap_cons, hrequest,
    List.filterMap_nil, serially_append]
  rfl

/-- A call writes the session undisturbed: the serial run takes it in. -/
theorem SerialState.accept
    (h : SerialState env settings σ requests w s lo current γs σ' journal)
    {i : ℕ} {γ γ' : (request : ProcessChunkRequest) × Phase request} {next : UploadSession}
    (hγ : γs[i]? = some γ) (hon : γ.1.workspaceId = w ∧ γ.1.sessionId = s)
    (hfits : HashFits σ' w s γ.1 (RedisSessionStore.serializeSession next))
    (heq : γ'.1 = γ.1) (hold : ¬ γ.2.Accepted) (hnew : γ'.2.Accepted) :
    SerialState env settings σ requests w s lo next (γs.set i γ') (σ'.putSession next)
      ((i, .hsetSession next.key (RedisSessionStore.serializeSession next)) :: journal) := by
  obtain ⟨rfl, rfl⟩ := hon
  obtain ⟨data, hdata, hplanned, hchunk⟩ := hfits
  obtain rfl : RedisSessionStore.serializeSession current = data :=
    Option.some.inj (h.stored.stored.symm.trans hdata)
  obtain ⟨plan, rfl, hnext⟩ := planned_eq_ok hplanned
  obtain rfl := RedisSessionStore.serialize_injective hnext
  have hindex : plan.index = plan.session.chunkManifest.length :=
    (validate_eq_ok plan.validated).2.2.2.2
  have hoffset : γ.1.chunkOffset = plan.session.offset := (validate_eq_ok plan.validated).2.1
  have hpos := length_chunkData_pos γ.1
  have hkey : plan.next.key = ⟨γ.1.workspaceId, γ.1.sessionId⟩ :=
    plan.key_next.trans h.stored.key_eq
  have haccepted : acceptedCalls ((i, .hsetSession plan.next.key
      (RedisSessionStore.serializeSession plan.next)) :: journal) =
      acceptedCalls journal ++ [i] := acceptedCalls_cons _ _
  have hnotMem : i ∉ acceptedCalls journal := fun hi => hold ((h.calls i γ hγ).mpr hi)
  have hrequest := request_of_phase h.threads hγ
  have hrun := run_of_plan env settings plan h.serial
  have hserial := h.serialWorld_accept (c := .hsetSession plan.next.key
    (RedisSessionStore.serializeSession plan.next)) hγ rfl
  rw [hrun] at hserial
  have hlt : i < γs.length := (List.getElem?_eq_some_iff.mp hγ).1
  -- the recorded chunks are where they were, and the new one is the call's own
  have hne : ∀ c ∈ plan.session.chunkManifest,
      (⟨γ.1.workspaceId, γ.1.sessionId, c.index⟩ : ChunkKey) ≠
        ⟨γ.1.workspaceId, γ.1.sessionId, plan.index⟩ := fun c hc heq =>
    plan.index_ne c hc (congrArg ChunkKey.index heq)
  have hmanifest : ∀ c ∈ plan.next.chunkManifest, c ∈ plan.session.chunkManifest ∨
      c = ⟨plan.index, γ.1.chunkData.length, γ.1.chunkChecksum⟩ := fun c hc => by
    rw [plan.manifest_next] at hc
    exact (List.mem_append.mp hc).imp_right List.mem_singleton.mp
  constructor
  case threads => exact threads_set h.threads hγ heq
  case calls =>
    intro j γ'' hγ''
    rw [haccepted, List.mem_append, List.mem_singleton]
    by_cases hij : i = j
    · subst hij
      rw [List.getElem?_set_self hlt] at hγ''
      cases hγ''
      exact ⟨fun _ => .inr rfl, fun _ => hnew⟩
    · rw [List.getElem?_set_ne hij] at hγ''
      rw [h.calls j γ'' hγ'']
      exact ⟨.inl, fun hj => hj.resolve_right (Ne.symm hij)⟩
  case bound =>
    intro j hj
    rw [haccepted, List.mem_append, List.mem_singleton] at hj
    rw [List.length_set]
    rcases hj with hj | rfl
    · exact h.bound j hj
    · exact hlt
  case nodup =>
    rw [haccepted]
    exact h.nodup.append (List.nodup_singleton i) (by simpa using hnotMem)
  case results =>
    intro r hr
    rw [hserial, List.mem_append, List.mem_singleton] at hr
    rcases hr with hr | rfl
    · exact h.results r hr
    · exact ⟨_, rfl⟩
  case serial =>
    rw [hserial]
    exact ⟨h.serial.valid, hkey, World.session?_putSession hkey⟩
  case stored => exact ⟨h.stored.valid, hkey, World.session?_putSession hkey⟩
  case chunks =>
    intro c hc
    rw [hserial]
    rcases hmanifest c hc with hc | rfl
    · exact (World.chunk?_putChunk_of_ne (hne c hc)).trans (h.chunks c hc)
    · exact World.chunk?_putChunk_self.trans (hindex ▸ hchunk.symm)
  case lower =>
    have hlower := h.lower
    rw [plan.offset_next]
    omega
  case offsets =>
    intro j hj request hget
    rw [haccepted, List.mem_append, List.mem_singleton] at hj
    rw [plan.offset_next]
    rcases hj with hj | rfl
    · have := h.offsets j hj request hget
      omega
    · cases hget.symm.trans hrequest
      omega
  case distinct =>
    have hfresh : ∀ j ∈ acceptedCalls journal, ∀ request ∈ requests[j]?,
        request.chunkOffset ≠ γ.1.chunkOffset := fun j hj request hget => by
      have := h.offsets j hj request hget
      omega
    intro j hj k hk request hget request' hget' hsame
    rw [haccepted, List.mem_append, List.mem_singleton] at hj hk
    rcases hj with hj | rfl <;> rcases hk with hk | rfl
    · exact h.distinct j hj k hk request hget request' hget' hsame
    · cases hget'.symm.trans hrequest
      exact absurd hsame (hfresh j hj request hget)
    · cases hget.symm.trans hrequest
      exact absurd hsame.symm (hfresh k hk request' hget')
    · rfl
  case backed =>
    intro hstart c hc
    rcases hmanifest c hc with hc | rfl
    · exact h.backed hstart c hc
    · refine ⟨γ.1.chunkData, ?_, (validate_eq_ok plan.validated).2.2.2.1⟩
      exact hindex ▸ hchunk

theorem Phase.not_accepted_read {session : UploadSession} : ¬ (read request session).Accepted := by
  unfold read
  split <;> exact id

theorem Phase.not_accepted_record {session : UploadSession} {index : ℤ}
    {h : validate session request = .ok index} : ¬ (record h).Accepted := by
  unfold record
  split <;> exact id

/-- Only `HSET` makes a call accepted. -/
theorem Phase.found_of_accepted {phase : Phase request} {c : Command} {reply : Except Exc c.Reply}
    (h : (phase.after c reply).Accepted) : ∃ plan, phase = .found plan := by
  unfold Phase.after at h
  split at h
  · split at h
    · exact absurd h not_accepted_read
    · cases h
  · exact absurd h not_accepted_record
  · split at h <;> cases h
  · exact ⟨_, rfl⟩
  · cases h

theorem SerialState.sustains {p : Pool serviceSignature World ProcessChunkResponse} {i : ℕ}
    (h : SerialState env settings σ requests w s lo current γs p.state p.journal)
    (hon : ∀ request ∈ requests, request.workspaceId = w ∧ request.sessionId = s)
    (hC : Undisturbed w s requests p (.issue i none)) :
    Pool.Sustains (serviceMachine env) chunkMonitor
      (fun γs σ' journal =>
        ∃ current, SerialState env settings σ requests w s lo current γs σ' journal)
      p γs (.issue i none) := by
  intro γ c hγ hpending hmay
  refine ⟨trivial, ?_⟩
  rw [Machine.attempt_none]
  have hrequest := request_of_phase h.threads hγ
  obtain ⟨hchunkFits, hhashFits⟩ := hC γ.1 hrequest c hpending
  obtain ⟨hw, hs⟩ := hon γ.1 (List.mem_of_getElem? hrequest)
  obtain ⟨r, phase⟩ := γ
  -- whatever is not `HSET` leaves the accepted calls as they are
  have hnot : (∀ plan, phase ≠ .found plan) →
      ¬ (phase.after c ((serviceMachine env).act c p.state).1).Accepted := fun hne haccepted => by
    obtain ⟨plan, rfl⟩ := Phase.found_of_accepted haccepted
    exact hne plan rfl
  have hafter : ∀ reply, chunkMonitor.after ⟨r, phase⟩ c reply = ⟨r, phase.after c reply⟩ :=
    fun _ => rfl
  rw [hafter]
  cases phase with
  | unread =>
      obtain rfl : c = .hgetallSession ⟨r.workspaceId, r.sessionId⟩ := hmay
      exact ⟨current, h.move hγ rfl (fun _ _ => rfl) rfl id (hnot fun _ h => nomatch h) rfl⟩
  | validated session index hvalid =>
      obtain rfl : c = .setChunk ⟨r.workspaceId, r.sessionId, index⟩ r.chunkData
        chunkTtlSeconds := hmay
      refine ⟨current, h.move hγ rfl (fun recorded hrecorded => ?_) rfl id
        (hnot fun _ h => nomatch h) rfl⟩
      have hfits := hchunkFits _ rfl _ h.stored.stored recorded hrecorded
      change (p.state.putChunk _ _).chunk? _ = _
      by_cases hindex : recorded.index = index
      · have hsame := hfits hindex
        subst hw hs hindex
        rw [hsame, World.chunk?_putChunk_self]
      · exact World.chunk?_putChunk_of_ne fun heq => hindex (congrArg ChunkKey.index heq)
  | stored plan =>
      obtain rfl : c = .ttlSession plan.next.key := hmay
      exact ⟨current, h.move hγ rfl (fun _ _ => rfl) rfl id (hnot fun _ h => nomatch h) rfl⟩
  | found plan =>
      obtain rfl : c = .hsetSession plan.next.key
        (RedisSessionStore.serializeSession plan.next) := hmay
      exact ⟨plan.next, h.accept hγ ⟨hw, hs⟩ (hhashFits _ rfl) rfl id trivial⟩
  | accepted => exact absurd hmay id
  | rejected => exact absurd hmay id
  | failed => exact absurd hmay id

/-! ## The run -/

/-- The interleaved calls could have run one after another. -/
structure Serialised (env : Environment) (settings : Settings) (σ : World)
    (requests : List ProcessChunkRequest) (w s : UUID) (schedule : List ℕ) : Prop where
  /-- The accepted calls, in an order in which each of them is accepted alone, to the same end. -/
  order : ∃ order : List ℕ, order.Nodup ∧
    (∀ i, i ∈ order ↔ ∃ response, ((chunkPool settings σ requests).run (serviceMachine env)
      (calm schedule)).result? i = some (.ok response)) ∧
    (∀ r ∈ (serially env settings σ (order.filterMap (requests[·]?))).1,
      ∃ response, r = .ok response) ∧
    (serially env settings σ (order.filterMap (requests[·]?))).2.session? ⟨w, s⟩ =
      ((chunkPool settings σ requests).run (serviceMachine env)
        (calm schedule)).state.session? ⟨w, s⟩ ∧
    ∀ data ∈ ((chunkPool settings σ requests).run (serviceMachine env)
        (calm schedule)).state.session? ⟨w, s⟩, ∀ c ∈ data.chunkManifest,
      (serially env settings σ (order.filterMap (requests[·]?))).2.chunk? ⟨w, s, c.index⟩ =
        ((chunkPool settings σ requests).run (serviceMachine env)
          (calm schedule)).state.chunk? ⟨w, s, c.index⟩
  /-- No two calls are accepted at one offset. -/
  offsets : ∀ i j response response',
    ((chunkPool settings σ requests).run (serviceMachine env) (calm schedule)).result? i =
      some (.ok response) →
    ((chunkPool settings σ requests).run (serviceMachine env) (calm schedule)).result? j =
      some (.ok response') →
    ∀ request ∈ requests[i]?, ∀ request' ∈ requests[j]?,
      request.chunkOffset = request'.chunkOffset → i = j
  grows : ∀ n, ∀ data ∈ ((chunkPool settings σ requests).run (serviceMachine env)
      (calm (schedule.take n))).state.session? ⟨w, s⟩,
    ∀ data' ∈ ((chunkPool settings σ requests).run (serviceMachine env)
      (calm schedule)).state.session? ⟨w, s⟩, data.offset ≤ data'.offset
  checksums : (∀ data ∈ σ.session? ⟨w, s⟩, Backed σ w s data) →
    ∀ data ∈ ((chunkPool settings σ requests).run (serviceMachine env)
      (calm schedule)).state.session? ⟨w, s⟩,
      Backed ((chunkPool settings σ requests).run (serviceMachine env) (calm schedule)).state
        w s data

/-- The watch over the calls, with a bound for the offset of the session. -/
abbrev SerialWatch (env : Environment) (settings : Settings) (σ : World)
    (requests : List ProcessChunkRequest) (w s : UUID) (lo : ℤ)
    (p : Pool serviceSignature World ProcessChunkResponse)
    (γs : List ((request : ProcessChunkRequest) × Phase request)) : Prop :=
  Pool.Watched chunkMonitor (fun r γ => γ.2.Ends r)
    (fun γs σ' journal =>
      ∃ current, SerialState env settings σ requests w s lo current γs σ' journal) p γs

theorem SerialWatch.run {p : Pool serviceSignature World ProcessChunkResponse}
    (h : SerialWatch env settings σ requests w s lo p γs)
    (hon : ∀ request ∈ requests, request.workspaceId = w ∧ request.sessionId = s)
    {schedule : List ℕ}
    (hC : Pool.Within (serviceMachine env) (Undisturbed w s requests) p (calm schedule)) :
    ∃ γs', SerialWatch env settings σ requests w s lo
      (p.run (serviceMachine env) (calm schedule)) γs' :=
  Pool.run_watched_calm (fun _ _ _ ⟨_, h⟩ hC => h.sustains hon hC) h hC

/-- The calls that have written the session are those that return normally. -/
theorem SerialWatch.mem_acceptedCalls {p : Pool serviceSignature World ProcessChunkResponse}
    (h : SerialWatch env settings σ requests w s lo p γs) {i : ℕ} :
    i ∈ acceptedCalls p.journal ↔ ∃ response, p.result? i = some (.ok response) := by
  obtain ⟨current, hstate⟩ := h.holds
  constructor
  · intro hi
    have hlt : i < γs.length := hstate.bound i hi
    obtain ⟨⟨r, phase⟩, hγ⟩ : ∃ γ, γs[i]? = some γ := ⟨_, List.getElem?_eq_getElem hlt⟩
    obtain ⟨program, hget, hobeys⟩ := h.thread hγ
    have haccepted := (hstate.calls i _ hγ).mpr hi
    cases phase with
    | accepted plan =>
        cases program with
        | done r' =>
            obtain rfl : r' = .ok _ := hobeys
            exact ⟨_, Pool.result?_eq_some.mpr hget⟩
        | call command next => exact absurd hobeys.1 id
    | _ => exact absurd haccepted id
  · rintro ⟨response, hi⟩
    obtain ⟨⟨r, phase⟩, hγ, hends⟩ := h.returned hi
    cases phase with
    | accepted plan => exact (hstate.calls i _ hγ).mp trivial
    | rejected e => exact nomatch hends
    | _ => exact nomatch hends.choose_spec

/-- Chunk calls that are not disturbed have a serial order. -/
theorem chunks_serialise (env : Environment) (settings : Settings) (σ : World)
    (session : UploadSession) (w s : UUID) (requests : List ProcessChunkRequest)
    (schedule : List ℕ) (hreads : σ.Reads w s session)
    (hon : ∀ request ∈ requests, request.workspaceId = w ∧ request.sessionId = s)
    (hundisturbed : Pool.Within (serviceMachine env) (Undisturbed w s requests)
      (chunkPool settings σ requests) (calm schedule)) :
    Serialised env settings σ requests w s schedule := by
  -- before the first turn nothing is accepted
  have hstart : SerialState env settings σ requests w s session.offset session
      (unreadCalls requests) σ [] := by
    have hnone : ∀ i, i ∉ acceptedCalls [] := fun _ => List.not_mem_nil
    refine ⟨?_, fun i γ hγ => ?_, fun i hi => absurd hi (hnone i), List.nodup_nil, nofun, hreads,
      hreads, fun _ _ => rfl, le_rfl, fun i hi => absurd hi (hnone i),
      fun i hi => absurd hi (hnone i), fun hbacked => hbacked _ hreads.stored⟩
    · rw [unreadCalls, List.map_map]
      exact List.map_id requests
    · obtain ⟨request, -, rfl⟩ := List.mem_map.mp (List.mem_of_getElem? hγ)
      exact ⟨fun h => absurd h id, fun hi => absurd hi (hnone i)⟩
  have hwatched₀ : SerialWatch env settings σ requests w s session.offset
      (chunkPool settings σ requests) (unreadCalls requests) :=
    watched_chunkPool settings (I := fun γs σ' journal => ∃ current,
      SerialState env settings σ requests w s session.offset current γs σ' journal)
      ⟨session, hstart⟩
  obtain ⟨γs, hwatched⟩ := hwatched₀.run hon hundisturbed
  obtain ⟨current, hstate⟩ := hwatched.holds
  have haccepted : ∀ i response,
      ((chunkPool settings σ requests).run (serviceMachine env) (calm schedule)).result? i =
        some (.ok response) → i ∈ acceptedCalls _ :=
    fun i response hi => hwatched.mem_acceptedCalls.mpr ⟨response, hi⟩
  -- the invariant at the end gives the order in which the chunks count
  constructor
  case order =>
    refine ⟨acceptedCalls _, hstate.nodup, fun i => hwatched.mem_acceptedCalls, hstate.results,
      hstate.serial.stored.trans hstate.stored.stored.symm, fun data hdata => ?_⟩
    obtain rfl : RedisSessionStore.serializeSession current = data :=
      Option.some.inj (hstate.stored.stored.symm.trans hdata)
    exact hstate.chunks
  case offsets =>
    intro i j response response' hi hj request hget request' hget' hsame
    exact hstate.distinct i (haccepted i response hi) j (haccepted j response' hj) request hget
      request' hget' hsame
  case grows =>
    intro n data hdata data' hdata'
    -- the run is cut at `n`, and the offset that is reached there is a lower bound
    have hsplit : (calm schedule : List (Turn World Fault)) =
        calm (schedule.take n) ++ calm (schedule.drop n) := by
      rw [calm, calm, calm, ← List.map_append, List.take_append_drop]
    rw [hsplit] at hundisturbed hdata'
    obtain ⟨hbefore, hafter⟩ := hundisturbed.append
    obtain ⟨γs₁, hwatched₁⟩ := hwatched₀.run hon hbefore
    obtain ⟨current₁, hstate₁⟩ := hwatched₁.holds
    have hwatched₁' : SerialWatch env settings σ requests w s current₁.offset _ γs₁ :=
      ⟨hwatched₁.obeys, current₁, { hstate₁ with lower := le_rfl }⟩
    obtain ⟨γs₂, hwatched₂⟩ := hwatched₁'.run hon hafter
    obtain ⟨current₂, hstate₂⟩ := hwatched₂.holds
    rw [← Pool.run_append] at hstate₂
    obtain rfl : RedisSessionStore.serializeSession current₁ = data :=
      Option.some.inj (hstate₁.stored.stored.symm.trans hdata)
    obtain rfl : RedisSessionStore.serializeSession current₂ = data' :=
      Option.some.inj (hstate₂.stored.stored.symm.trans hdata')
    exact hstate₂.lower
  case checksums =>
    intro hbacked data hdata
    obtain rfl : RedisSessionStore.serializeSession current = data :=
      Option.some.inj (hstate.stored.stored.symm.trans hdata)
    exact hstate.backed hbacked

/-- The session that is waiting for two bytes. -/
def Sample.pairSession : UploadSession where
  toSessionFields := { Sample.pendingSession.toSessionFields with
    size := 2
    sha256Checksum := .fromBytes [1, 2] }
  valid := by decide +kernel

def Sample.pairInitiated : World :=
  (Run.steps Sample.environment Sample.settings Run.start
    [.call (.initiate Sample.pairUpload) []]).world

/-- While the first chunk is under way, the second one is rejected; sent again, it is accepted,
while the first is sent again in vain. -/
theorem chunks_serialise_sample :
    Serialised Sample.environment Sample.settings Sample.pairInitiated
      [Sample.chunk, Sample.secondChunk, Sample.secondChunk, Sample.chunk]
      Sample.workspace Sample.session [0, 1, 0, 0, 0, 2, 3, 2, 2, 2] :=
  chunks_serialise Sample.environment Sample.settings Sample.pairInitiated Sample.pairSession
    Sample.workspace Sample.session
    [Sample.chunk, Sample.secondChunk, Sample.secondChunk, Sample.chunk]
    [0, 1, 0, 0, 0, 2, 3, 2, 2, 2] ⟨by decide, by decide +kernel, by decide +kernel⟩ (by decide)
    (by decide +kernel)

/-- Two chunks for one offset, both read before either is written: both are accepted. -/
theorem overlapping_chunks_not_serialised :
    ¬ Serialised Sample.environment Sample.settings Sample.initiated
      [Sample.chunk, Sample.rival] Sample.workspace Sample.session [0, 1, 0, 1, 0, 0, 1, 1] := by
  intro h
  have hboth : 0 = 1 := h.offsets 0 1 ⟨1⟩ ⟨1⟩ (by decide +kernel) (by decide +kernel)
    Sample.chunk rfl Sample.rival rfl rfl
  exact absurd hboth (by decide)

end RagFileUploader.ProcessChunkUseCase
