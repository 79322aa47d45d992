import RagFileUploader.Concurrent.ChunkCalls

/-!
# Identical retries

Any number of calls with one and the same chunk, interleaved at will, with any of their commands
failing.  The calls that read the session early have the same plan, so whatever they store and
write is the same; a call that reads the session late finds an offset that its own does not match.

* `Retrying` is what holds of a call by its phase, and `RetryState` of the world: there are only two
  hashes that the session can have.
* `RetryState.sustains` is the step, and `identical_retries_harmless` reads the replies off the
  phases at the end.
-/

namespace RagFileUploader.ProcessChunkUseCase

open Effects Stores

variable {env : Environment} {settings : Settings} {request : ProcessChunkRequest}
  {plan : Plan request} {σ σ₁ σ' : World}
  {γs : List ((request : ProcessChunkRequest) × Phase request)}

/-! ## What the calls can do to each other -/

/-- The key of the session that a chunk belongs to. -/
abbrev sessionOf (request : ProcessChunkRequest) : SessionKey :=
  ⟨request.workspaceId, request.sessionId⟩

/-- The key under which the chunk is stored. -/
abbrev Plan.chunkKey (plan : Plan request) : ChunkKey :=
  ⟨request.workspaceId, request.sessionId, plan.index⟩

/-- One of the calls, in a world where others have been at work. -/
def Retrying (plan : Plan request) (σ' : World) : (r : ProcessChunkRequest) × Phase r → Prop
  | ⟨r, .validated session _ _⟩ => r = request ∧ session = plan.session
  | ⟨r, .stored p⟩ => r = request ∧ p.session = plan.session ∧
      σ'.chunk? plan.chunkKey = some request.chunkData
  | ⟨r, .found p⟩ => r = request ∧ p.session = plan.session ∧
      σ'.chunk? plan.chunkKey = some request.chunkData
  | ⟨r, .accepted p⟩ => r = request ∧ p.session = plan.session ∧
      σ'.session? (sessionOf request) = some (RedisSessionStore.serializeSession plan.next)
  | ⟨r, _⟩ => r = request

/-- The hash is the one that was there or the one that the plan leads to, and nothing else has
changed but the one chunk key. -/
structure RetryState (plan : Plan request) (σ : World)
    (γs : List ((request : ProcessChunkRequest) × Phase request)) (σ' : World) : Prop where
  hash : σ'.session? (sessionOf request) =
      some (RedisSessionStore.serializeSession plan.session) ∨
    σ'.session? (sessionOf request) = some (RedisSessionStore.serializeSession plan.next) ∧
      σ'.chunk? plan.chunkKey = some request.chunkData
  others : ∀ key, key ≠ plan.chunkKey → σ'.chunk? key = σ.chunk? key
  calls : ∀ γ ∈ γs, Retrying plan σ' γ

theorem Retrying.request_eq {γ : (r : ProcessChunkRequest) × Phase r} (h : Retrying plan σ' γ) :
    γ.1 = request := by
  obtain ⟨r, phase⟩ := γ
  cases phase with
  | unread => exact h
  | validated => exact h.1
  | stored => exact h.1
  | found => exact h.1
  | accepted => exact h.1
  | rejected => exact h
  | failed => exact h

/-- A call does not mind the others storing the chunk and writing the session. -/
theorem Retrying.mono {σ'' : World} {γ : (r : ProcessChunkRequest) × Phase r}
    (h : Retrying plan σ' γ)
    (hchunk : σ'.chunk? plan.chunkKey = some request.chunkData →
      σ''.chunk? plan.chunkKey = some request.chunkData)
    (hhash : σ'.session? (sessionOf request) =
        some (RedisSessionStore.serializeSession plan.next) →
      σ''.session? (sessionOf request) =
        some (RedisSessionStore.serializeSession plan.next)) : Retrying plan σ'' γ := by
  obtain ⟨r, phase⟩ := γ
  cases phase with
  | unread => exact h
  | validated => exact h
  | stored => exact ⟨h.1, h.2.1, hchunk h.2.2⟩
  | found => exact ⟨h.1, h.2.1, hchunk h.2.2⟩
  | accepted => exact ⟨h.1, h.2.1, hhash h.2.2⟩
  | rejected => exact h
  | failed => exact h

/-- A call moves on, and the world with it. -/
theorem RetryState.move (h : RetryState plan σ γs σ') {σ'' : World} {i : ℕ}
    {γ' : (r : ProcessChunkRequest) × Phase r}
    (hhash : σ''.session? (sessionOf request) = σ'.session? (sessionOf request) ∨
      σ''.session? (sessionOf request) = some (RedisSessionStore.serializeSession plan.next) ∧
        σ''.chunk? plan.chunkKey = some request.chunkData)
    (hchunk : σ''.chunk? plan.chunkKey = σ'.chunk? plan.chunkKey ∨
      σ''.chunk? plan.chunkKey = some request.chunkData)
    (hothers : ∀ key, key ≠ plan.chunkKey → σ''.chunk? key = σ'.chunk? key)
    (hγ' : Retrying plan σ'' γ') : RetryState plan σ (γs.set i γ') σ'' := by
  have hkept : σ'.chunk? plan.chunkKey = some request.chunkData →
      σ''.chunk? plan.chunkKey = some request.chunkData := fun hdata => by
    rcases hchunk with hsame | hnew
    · rw [hsame, hdata]
    · exact hnew
  refine ⟨?_, fun key hne => (hothers key hne).trans (h.others key hne), fun γ hγ => ?_⟩
  · rcases hhash with hsame | hnew
    · rw [hsame]
      rcases h.hash with hold | ⟨hnew, hdata⟩
      · exact .inl hold
      · exact .inr ⟨hnew, hkept hdata⟩
    · exact .inr hnew
  · rcases List.mem_or_eq_of_mem_set hγ with hmem | rfl
    · refine (h.calls γ hmem).mono hkept fun hnext => ?_
      rcases hhash with hsame | hnew
      · rw [hsame, hnext]
      · exact hnew.1
    · exact hγ'

/-- The phase after reading either version of the session. -/
theorem Retrying.read (h : RetryState plan σ γs σ') :
    Retrying plan σ' ⟨request, Phase.after (.unread : Phase request)
      (.hgetallSession (sessionOf request)) (.ok (σ'.session? (sessionOf request)))⟩ := by
  rcases h.hash with hold | ⟨hnew, -⟩
  · simp only [Phase.after, hold, RedisSessionStore.readReply,
      RedisSessionStore.deserialize_serialize, Phase.read_of_ok plan.validated]
    exact ⟨rfl, rfl⟩
  · simp only [Phase.after, hnew, RedisSessionStore.readReply,
      RedisSessionStore.deserialize_serialize, Phase.read_of_error plan.validate_next]
    rfl

/-- Every turn of a call keeps the state. -/
theorem RetryState.sustains {p : Pool serviceSignature World ProcessChunkResponse} {i : ℕ}
    {fault : Option Fault} (h : RetryState plan σ γs p.state)
    (hkey : plan.session.key = sessionOf request) :
    Pool.Sustains (serviceMachine env) chunkMonitor (fun γs σ' _ => RetryState plan σ γs σ') p γs
      (.issue i fault) := by
  intro γ c hγ _ hmay
  refine ⟨trivial, ?_⟩
  have hcall : Retrying plan p.state γ := h.calls γ (List.mem_of_getElem? hγ)
  have hrequest := hcall.request_eq
  rcases (serviceMachine env).attempt_cases fault c p.state with hact | ⟨f, -, e, -, hfail⟩
  rotate_left
  · -- the command fails without effect
    rw [hfail]
    refine h.move (.inl rfl) (.inl rfl) (fun _ _ => rfl) ?_
    change Retrying plan p.state ⟨γ.1, γ.2.after c (.error e)⟩
    rw [Phase.after_error]
    exact hrequest
  rw [hact]
  obtain ⟨r, phase⟩ := γ
  obtain rfl : r = request := hrequest
  cases phase with
  | unread =>
      obtain rfl : c = .hgetallSession (sessionOf r) := hmay
      exact h.move (.inl rfl) (.inl rfl) (fun _ _ => rfl) (Retrying.read h)
  -- all calls plan the same, so writing the bytes again changes nothing
  | validated session index hvalid =>
      obtain rfl : c = .setChunk ⟨r.workspaceId, r.sessionId, index⟩ r.chunkData
        chunkTtlSeconds := hmay
      obtain rfl : session = plan.session := hcall.2
      cases hvalid.symm.trans plan.validated
      have hdata : (p.state.putChunk plan.chunkKey r.chunkData).chunk? plan.chunkKey =
          some r.chunkData := World.chunk?_putChunk_self
      refine h.move (.inl rfl) (.inr hdata) (fun key hne => World.chunk?_putChunk_of_ne hne) ?_
      change Retrying plan _ ⟨r, .record plan.validated⟩
      rw [Phase.record_of_ok plan.validated plan.recorded]
      exact ⟨rfl, rfl, hdata⟩
  | stored plan' =>
      obtain rfl : c = .ttlSession plan'.next.key := hmay
      refine h.move (.inl rfl) (.inl rfl) (fun _ _ => rfl) ?_
      change Retrying plan _ ⟨r, if _ then .failed else .found plan'⟩
      split
      · rfl
      · exact hcall
  -- the write back of the same session, with its bytes in place
  | found plan' =>
      obtain rfl : c = .hsetSession plan'.next.key
        (RedisSessionStore.serializeSession plan'.next) := hmay
      obtain rfl := Plan.eq_of_session hcall.2.1
      have hput : (p.state.putSession plan'.next).session? (sessionOf r) =
          some (RedisSessionStore.serializeSession plan'.next) :=
        World.session?_putSession (plan'.key_next.trans hkey)
      exact h.move (.inr ⟨hput, hcall.2.2⟩) (.inl rfl) (fun _ _ => rfl) ⟨rfl, rfl, hput⟩
  | accepted => exact absurd hmay id
  | rejected => exact absurd hmay id
  | failed => exact absurd hmay id

/-! ## The run -/

/-- What identical calls do to a session: `σ₁` is what a lone call makes of `σ`. -/
structure RetriesHarmless (env : Environment) (request : ProcessChunkRequest) (σ σ₁ : World)
    (p : Pool serviceSignature World ProcessChunkResponse) : Prop where
  hash : p.state.session? (sessionOf request) = σ.session? (sessionOf request) ∨
    p.state.session? (sessionOf request) = σ₁.session? (sessionOf request)
  accepted : ∀ i response, p.result? i = some (.ok response) →
    p.state.session? (sessionOf request) = σ₁.session? (sessionOf request) ∧
      response.newOffset = request.chunkOffset + request.chunkData.length
  /-- A call that reads the session after the update is rejected there and then. -/
  late : p.state.session? (sessionOf request) = σ₁.session? (sessionOf request) →
    ∀ i fault, p.pending i = some (.hgetallSession (sessionOf request)) →
      (serviceMachine env).attempt fault (.hgetallSession (sessionOf request)) p.state =
        (serviceMachine env).act (.hgetallSession (sessionOf request)) p.state →
      (p.step (serviceMachine env) (.issue i fault)).result? i =
          some (.error (.offsetMismatch (request.chunkOffset + request.chunkData.length)
            request.chunkOffset request.sessionId)) ∧
        (p.step (serviceMachine env) (.issue i fault)).state = p.state
  chunks : ∀ data, p.state.session? (sessionOf request) = some data →
    ∀ c ∈ data.chunkManifest,
      p.state.chunk? ⟨request.workspaceId, request.sessionId, c.index⟩ =
        σ₁.chunk? ⟨request.workspaceId, request.sessionId, c.index⟩

/-- However often a client repeats a chunk at the same time, and whatever fails on the way, the
session is as before or as after one accepted call. -/
theorem identical_retries_harmless (env : Environment) (settings : Settings) (σ σ₁ : World)
    (session : UploadSession) (request : ProcessChunkRequest) (response : ProcessChunkResponse)
    (n : ℕ) (schedule : List (ℕ × Option Fault))
    (hreads : σ.Reads request.workspaceId request.sessionId session)
    (halone : (execute (dependencies settings) request).run (serviceMachine env) [] σ =
      (.ok response, σ₁)) :
    RetriesHarmless env request σ σ₁
      ((chunkPool settings σ (List.replicate n request)).run (serviceMachine env)
        (schedule.map fun (i, fault) => .issue i fault)) := by
  -- the world after the single call, as the state after its plan
  obtain ⟨plan, rfl⟩ := exists_plan hreads halone
  have hworld : (Except.ok ⟨plan.next.offset⟩,
      (σ.putChunk plan.chunkKey request.chunkData).putSession plan.next) = (.ok response, σ₁) :=
    (run_of_plan env settings plan hreads).symm.trans halone
  obtain rfl : (σ.putChunk plan.chunkKey request.chunkData).putSession plan.next = σ₁ :=
    congrArg Prod.snd hworld
  have hkey := hreads.key_eq
  have hnext : ((σ.putChunk plan.chunkKey request.chunkData).putSession plan.next).session?
      (sessionOf request) = some (RedisSessionStore.serializeSession plan.next) :=
    World.session?_putSession (plan.key_next.trans hkey)
  have hstart : RetryState plan σ (unreadCalls (List.replicate n request)) σ := by
    refine ⟨.inl hreads.stored, fun _ _ => rfl, fun γ hγ => ?_⟩
    obtain ⟨r, hr, rfl⟩ := List.mem_map.mp hγ
    exact List.eq_of_mem_replicate hr
  -- every turn keeps the invariant, whichever call it is and whatever fails
  obtain ⟨γs, hwatched⟩ := Pool.run_watched (M := serviceMachine env)
    (C := fun _ turn => ∃ i fault, turn = .issue i fault)
    (fun p γs turn h hturn => by
      obtain ⟨i, fault, rfl⟩ := hturn
      exact h.sustains hkey)
    (watched_chunkPool settings (I := fun γs σ' _ => RetryState plan σ γs σ') hstart)
    (Pool.within_of_forall (fun (turn : Turn World Fault)
        (hturn : turn ∈ schedule.map fun (i, fault) => .issue i fault) _ => by
      obtain ⟨⟨i, fault⟩, -, rfl⟩ := List.mem_map.mp hturn
      exact ⟨i, fault, rfl⟩) _)
  generalize (chunkPool settings σ (List.replicate n request)).run (serviceMachine env)
    (schedule.map fun (i, fault) => .issue i fault) = p at hwatched
  -- what the claim says is read off the invariant and the phase of each call
  have hstate := hwatched.holds
  refine ⟨?_, fun i response' hi => ?_, fun hnew i fault hpending hattempt => ?_,
    fun data hdata c hc => ?_⟩
  · rcases hstate.hash with hold | ⟨hnew, -⟩
    · exact .inl (hold.trans hreads.stored.symm)
    · exact .inr (hnew.trans hnext.symm)
  · obtain ⟨⟨r, phase⟩, hγ, hends⟩ := hwatched.returned hi
    have hcall := hstate.calls _ (List.mem_of_getElem? hγ)
    obtain rfl : r = request := hcall.request_eq
    cases phase with
    | accepted plan' =>
        obtain rfl := Plan.eq_of_session hcall.2.1
        refine ⟨hcall.2.2.trans hnext.symm, ?_⟩
        cases hends
        rw [(validate_eq_ok plan'.validated).2.1]
    | rejected e => cases hends
    | _ => cases hends.choose_spec
  · obtain ⟨next, hget⟩ := Pool.pending_eq_some.mp hpending
    obtain ⟨⟨r, phase⟩, hγ, hmay, hobeys⟩ := hwatched.getElem? hget
    have hcall := hstate.calls _ (List.mem_of_getElem? hγ)
    obtain rfl : r = request := hcall.request_eq
    cases phase with
    -- a call that has not read yet finds the new offset and is refused
    | unread =>
        have hrejected := hobeys (.ok (p.state.session? (sessionOf r))) trivial
        have hphase : chunkMonitor.after ⟨r, .unread⟩ (.hgetallSession (sessionOf r))
            (.ok (p.state.session? (sessionOf r))) =
            ⟨r, .rejected (.offsetMismatch (r.chunkOffset + r.chunkData.length) r.chunkOffset
              plan.session.sessionId)⟩ := by
          simp only [chunkMonitor, Phase.after, hnew.trans hnext, RedisSessionStore.readReply,
            RedisSessionStore.deserialize_serialize, Phase.read_of_error plan.validate_next]
        rw [hphase] at hrejected
        have hid : plan.session.sessionId = r.sessionId := congrArg SessionKey.documentId hkey
        have hstep : p.step (serviceMachine env) (.issue i fault) =
            { p with
              threads := p.threads.set i (next (.ok (p.state.session? (sessionOf r))))
              journal := (i, .hgetallSession (sessionOf r)) :: p.journal } := by
          simp only [Pool.step, hget, hattempt]
          rfl
        have hlt : i < p.threads.length := (List.getElem?_eq_some_iff.mp hget).1
        rw [hstep, ← hid, Pool.result?_eq_some]
        refine ⟨?_, rfl⟩
        rw [eq_done_of_rejected hrejected]
        exact List.getElem?_set_self hlt
    | validated => cases hmay
    | stored => cases hmay
    | found => cases hmay
    | accepted => exact absurd hmay id
    | rejected => exact absurd hmay id
    | failed => exact absurd hmay id
  · have hrecorded : ∀ c ∈ plan.session.chunkManifest,
        p.state.chunk? ⟨request.workspaceId, request.sessionId, c.index⟩ =
          (σ.putChunk plan.chunkKey request.chunkData).chunk?
            ⟨request.workspaceId, request.sessionId, c.index⟩ := fun c hc => by
      have hne : (⟨request.workspaceId, request.sessionId, c.index⟩ : ChunkKey) ≠ plan.chunkKey :=
        fun heq => plan.index_ne c hc (congrArg ChunkKey.index heq)
      rw [hstate.others _ hne, World.chunk?_putChunk_of_ne hne]
    -- the recorded chunks are those of the old manifest, and then perhaps the new one
    rcases hstate.hash with hold | ⟨hnew, hchunk⟩
    · cases hdata.symm.trans hold
      exact hrecorded c hc
    · cases hdata.symm.trans hnew
      have hc' : c ∈ plan.next.chunkManifest := hc
      rw [plan.manifest_next] at hc'
      rcases List.mem_append.mp hc' with hold | hlast
      · exact hrecorded c hold
      · obtain rfl := List.mem_singleton.mp hlast
        exact hchunk.trans World.chunk?_putChunk_self.symm

/-- Three copies of the first chunk of a fresh session: two overlap, one of their commands fails,
and the third comes late. -/
theorem identical_retries_harmless_sample :
    RetriesHarmless Sample.environment Sample.chunk Sample.initiated
      ((execute (dependencies Sample.settings) Sample.chunk).run
        (serviceMachine Sample.environment) [] Sample.initiated).2
      ((chunkPool Sample.settings Sample.initiated (List.replicate 3 Sample.chunk)).run
        (serviceMachine Sample.environment)
        ([(0, none), (1, none), (0, none), (1, none), (0, none), (1, Sample.outage .sessions),
          (0, none), (2, none)].map fun (i, fault) => .issue i fault)) :=
  have hreads : Sample.initiated.Reads Sample.chunk.workspaceId Sample.chunk.sessionId
      Sample.pendingSession := ⟨by decide, by decide +kernel, by decide +kernel⟩
  have haccepted : ((execute (dependencies Sample.settings) Sample.chunk).run
      (serviceMachine Sample.environment) [] Sample.initiated).1 = .ok ⟨1⟩ := by decide +kernel
  have halone := Prod.eta ((execute (dependencies Sample.settings) Sample.chunk).run
      (serviceMachine Sample.environment) [] Sample.initiated)
  identical_retries_harmless Sample.environment Sample.settings Sample.initiated _
    Sample.pendingSession Sample.chunk ⟨1⟩ 3 _ hreads (haccepted ▸ halone.symm)

end RagFileUploader.ProcessChunkUseCase
