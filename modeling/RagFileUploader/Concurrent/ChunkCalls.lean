import RagFileUploader.Serial.CallSpecs

/-!
# Chunk calls under a monitor

A chunk call reads the session, stores the chunk, asks for the session's time to live and writes
the session back.  `Phase` is what an observer of the replies knows about a call in between, and
`chunkMonitor` says which command each phase allows.  What the call writes is fixed once it has
read: `Plan` is a session that was read together with the session that will be written.

* `ProcessChunkUseCase.obeys_execute` says that a call keeps to its phases, and `watched_chunkPool`
  starts any number of calls.
* `run_of_plan` is the call that runs alone: it writes the session of its plan.
* The invariants over many calls are in the modules that import this one.
-/

namespace RagFileUploader

open Effects Stores

variable {settings : Settings}

/-! ## Sending commands under a monitor -/

section Commands

variable {Γ : Type} {W : Monitor serviceSignature Γ} {γ : Γ}

theorem obeys_send {c : Command} {Q : Except Exc c.Reply → Γ → Prop} (hmay : W.may γ c)
    (hreply : ∀ reply, W.replies γ c reply → Q reply (W.after γ c reply)) :
    (send c).Obeys W Q γ :=
  Program.obeys_perform.mpr ⟨hmay, hreply⟩

theorem obeys_getSession {w s : UUID} {Q : Except Exc (Option UploadSession) → Γ → Prop}
    (hinvalid : ∀ e, ¬ SessionKey.Valid ⟨w, s⟩ → e.isException = true → Q (.error e) γ)
    (hmay : W.may γ (.hgetallSession ⟨w, s⟩))
    (hreply : ∀ reply, W.replies γ (.hgetallSession ⟨w, s⟩) reply →
      Q (RedisSessionStore.readReply reply) (W.after γ (.hgetallSession ⟨w, s⟩) reply)) :
    (RedisSessionStore.getSession w s).Obeys W Q γ := by
  refine obeys_ofExcept_bind (fun key hkey => ?_) fun e he => hinvalid e (sessionKey_eq_error he).1
    (Exc.isException_of_isPlain (sessionKey_eq_error he).2)
  obtain ⟨rfl, -⟩ := sessionKey_eq_ok hkey
  rw [Program.obeys_tryCatch, Program.obeys_bind]
  refine obeys_send hmay fun reply hr => ?_
  have h := hreply reply hr
  cases reply with
  | error e => exact h
  | ok data? =>
      cases data? with
      | none => exact h
      | some data =>
          simp only [RedisSessionStore.readReply] at h
          dsimp only
          cases hd : RedisSessionStore.deserializeSession data with
          | ok session =>
              rw [hd] at h
              exact h
          | error e =>
              rw [hd] at h
              exact h

theorem obeys_updateSession {session : UploadSession} {Q : Except Exc Unit → Γ → Prop}
    (hinvalid : ∀ e, ¬ session.key.Valid → e.isException = true → Q (.error e) γ)
    (hmay : W.may γ (.ttlSession session.key))
    (herror : ∀ e, W.replies γ (.ttlSession session.key) (.error e) →
      Q (.error (RedisSessionStore.writeError "Failed to update session: " e))
        (W.after γ (.ttlSession session.key) (.error e)))
    (hgone : ∀ detail, W.replies γ (.ttlSession session.key) (.ok (-2)) →
      Q (.error (.uploadSessionNotFoundError detail))
        (W.after γ (.ttlSession session.key) (.ok (-2))))
    (hfound : ∀ ttl : ℤ, ttl ≠ -2 → W.replies γ (.ttlSession session.key) (.ok ttl) →
      (send (.hsetSession session.key (RedisSessionStore.serializeSession session))).Obeys W
        (fun r γ' => Q (r.mapError (RedisSessionStore.writeError "Failed to update session: ")) γ')
        (W.after γ (.ttlSession session.key) (.ok ttl))) :
    (RedisSessionStore.updateSession session).Obeys W Q γ := by
  refine obeys_ofExcept_bind (fun key hkey => ?_) fun e he => hinvalid e (sessionKey_eq_error he).1
    (Exc.isException_of_isPlain (sessionKey_eq_error he).2)
  obtain ⟨rfl, -⟩ := sessionKey_eq_ok hkey
  rw [Program.obeys_tryCatch, Program.obeys_bind]
  refine obeys_send hmay fun reply hr => ?_
  cases reply with
  | error e => exact herror e hr
  | ok ttl =>
      by_cases httl : ttl = -2
      · subst httl
        exact hgone _ hr
      · simp only [raiseIf, if_neg httl]
        refine Program.obeys_mono (hfound ttl httl hr) fun r γ' h => ?_
        cases r with
        | ok _ => exact h
        | error e => exact h

end Commands
namespace ProcessChunkUseCase

variable {request : ProcessChunkRequest}

/-! ## Phases of a call -/

/-- A session as a call read it, and the session that the call will write over it. -/
structure Plan (request : ProcessChunkRequest) where
  session : UploadSession
  index : ℤ
  next : UploadSession
  validated : validate session request = .ok index
  recorded : recordChunk session request index (session.offset + request.chunkData.length) =
    .ok next

namespace Plan

variable (plan : Plan request)

theorem toSessionFields_next : plan.next.toSessionFields =
    { plan.session.toSessionFields with
      chunkManifest := plan.session.chunkManifest ++
        [⟨plan.index, request.chunkData.length, request.chunkChecksum⟩]
      offset := plan.session.offset + request.chunkData.length
      status := .inProgress } :=
  recordChunk_eq_ok plan.recorded (validate_eq_ok plan.validated).1

theorem manifest_next : plan.next.chunkManifest =
    plan.session.chunkManifest ++
      [⟨plan.index, request.chunkData.length, request.chunkChecksum⟩] := by
  simp [plan.toSessionFields_next]

theorem offset_next :
    plan.next.offset = request.chunkOffset + request.chunkData.length := by
  simp [plan.toSessionFields_next, (validate_eq_ok plan.validated).2.1]

theorem key_next : plan.next.key = plan.session.key :=
  key_recordChunk plan.recorded (validate_eq_ok plan.validated).1

/-- The index is a new one. -/
theorem index_ne : ∀ c ∈ plan.session.chunkManifest, c.index ≠ plan.index := by
  have hrecord := plan.recorded
  simp only [recordChunk, except_bind_eq_ok] at hrecord
  obtain ⟨s₁, hadd, -⟩ := hrecord
  simp only [UploadSession.addChunk, except_bind_eq_ok, raiseIf_eq_ok] at hadd
  obtain ⟨-, -, -, -, -, -, -, hnew, -⟩ := hadd
  exact fun c hc hindex => hnew ⟨c, hc, hindex⟩

/-- What was read determines what is written. -/
theorem eq_of_session {plan plan' : Plan request} (h : plan.session = plan'.session) :
    plan = plan' := by
  obtain ⟨session, index, next, hvalid, hrecord⟩ := plan
  obtain ⟨session', index', next', hvalid', hrecord'⟩ := plan'
  obtain rfl : session = session' := h
  cases hvalid.symm.trans hvalid'
  cases hrecord.symm.trans hrecord'
  rfl

/-- The chunk does not fit the session that it was recorded in. -/
theorem validate_next : validate plan.next request =
    .error (.offsetMismatch (request.chunkOffset + request.chunkData.length) request.chunkOffset
      plan.session.sessionId) := by
  have hpos := length_chunkData_pos request
  have hstatus : plan.next.status = .inProgress := by simp [plan.toSessionFields_next]
  have hid : plan.next.sessionId = plan.session.sessionId := by simp [plan.toSessionFields_next]
  have hoffset : request.chunkOffset ≠ plan.next.offset := by
    rw [plan.offset_next]
    omega
  simp only [validate, hstatus, raiseIf]
  rw [if_neg (by decide), if_pos hoffset, plan.offset_next, hid]
  rfl

end Plan

/-- How far a call has got. -/
inductive Phase (request : ProcessChunkRequest) where
  | unread
  | validated (session : UploadSession) (index : ℤ) (h : validate session request = .ok index)
  | stored (plan : Plan request)
  | found (plan : Plan request)
  | accepted (plan : Plan request)
  | rejected (e : Exc)
  | failed

namespace Phase

/-- After reading a session. -/
def read (request : ProcessChunkRequest) (session : UploadSession) : Phase request :=
  match h : validate session request with
  | .ok index => .validated session index h
  | .error e => .rejected e

/-- After storing the chunk: what the call is going to write is fixed. -/
def record {session : UploadSession} {index : ℤ} (h : validate session request = .ok index) :
    Phase request :=
  match h' : recordChunk session request index (session.offset + request.chunkData.length) with
  | .ok next => .stored ⟨session, index, next, h, h'⟩
  | .error _ => .failed

/-- The commands of each phase. -/
def May : Phase request → Command → Prop
  | .unread, c => c = .hgetallSession ⟨request.workspaceId, request.sessionId⟩
  | .validated _ index _, c =>
      c = .setChunk ⟨request.workspaceId, request.sessionId, index⟩ request.chunkData
        chunkTtlSeconds
  | .stored plan, c => c = .ttlSession plan.next.key
  | .found plan, c =>
      c = .hsetSession plan.next.key (RedisSessionStore.serializeSession plan.next)
  | _, _ => False

/-- The phase after a reply. -/
def after : Phase request → (c : Command) → Except Exc c.Reply → Phase request
  | .unread, .hgetallSession _, reply =>
      match RedisSessionStore.readReply reply with
      | .ok (some session) => read request session
      | _ => .failed
  | .validated _ _ h, .setChunk .., .ok _ => record h
  | .stored plan, .ttlSession _, .ok ttl => if ttl = -2 then .failed else .found plan
  | .found plan, .hsetSession .., .ok _ => .accepted plan
  | _, _, _ => .failed

/-- The results that a call in this phase can end with. -/
def Ends : Phase request → Except Exc ProcessChunkResponse → Prop
  | .accepted plan, r => r = .ok ⟨plan.session.offset + request.chunkData.length⟩
  | .rejected e, r => r = .error e
  | _, r => ∃ e, r = .error e

theorem read_of_ok {session : UploadSession} {index : ℤ}
    (h : validate session request = .ok index) :
    read request session = .validated session index h := by
  unfold read
  split
  · next index' h' =>
      cases h'.symm.trans h
      rfl
  · next e h' => exact nomatch h'.symm.trans h

theorem read_of_error {session : UploadSession} {e : Exc}
    (h : validate session request = .error e) : read request session = .rejected e := by
  unfold read
  split
  · next index h' => exact nomatch h'.symm.trans h
  · next e' h' =>
      cases h'.symm.trans h
      rfl

theorem record_of_ok {session next : UploadSession} {index : ℤ}
    (h : validate session request = .ok index)
    (h' : recordChunk session request index (session.offset + request.chunkData.length) =
      .ok next) :
    record h = .stored ⟨session, index, next, h, h'⟩ := by
  unfold record
  split
  · next next' h'' =>
      cases h''.symm.trans h'
      rfl
  · next e h'' => exact nomatch h''.symm.trans h'

theorem record_of_error {session : UploadSession} {index : ℤ} {e : Exc}
    (h : validate session request = .ok index)
    (h' : recordChunk session request index (session.offset + request.chunkData.length) =
      .error e) :
    record h = .failed := by
  unfold record
  split
  · next next h'' => exact nomatch h''.symm.trans h'
  · rfl

end Phase

/-- A monitor for chunk calls, each with its own request. -/
def chunkMonitor : Monitor serviceSignature ((request : ProcessChunkRequest) × Phase request) where
  may := fun γ c => γ.2.May c
  replies := fun _ _ _ => True
  after := fun γ c reply => ⟨γ.1, γ.2.after c reply⟩

/-- The last two commands of a call. -/
theorem obeys_write (plan : Plan request) :
    (do
      RedisSessionStore.updateSession plan.next
      pure ⟨plan.session.offset + request.chunkData.length⟩ : Service ProcessChunkResponse).Obeys
      chunkMonitor (fun r γ => γ.2.Ends r) ⟨request, .stored plan⟩ := by
  rw [Program.obeys_bind]
  have hfound : ∀ ttl : ℤ, ttl ≠ -2 →
      chunkMonitor.after ⟨request, .stored plan⟩ (.ttlSession plan.next.key) (.ok ttl) =
        ⟨request, .found plan⟩ := fun ttl httl => by
    simp only [chunkMonitor, Phase.after, if_neg httl]
  refine obeys_updateSession (fun e _ _ => ⟨e, rfl⟩) rfl (fun e _ => ⟨_, rfl⟩)
    (fun _ _ => ⟨_, rfl⟩) fun ttl httl _ => ?_
  rw [hfound ttl httl]
  refine obeys_send rfl fun reply _ => ?_
  cases reply with
  | ok _ => exact rfl
  | error e => exact ⟨_, rfl⟩

/-- A chunk call goes through the phases, whatever the replies. -/
theorem obeys_execute (settings : Settings) (request : ProcessChunkRequest) :
    (execute (dependencies settings) request).Obeys chunkMonitor (fun r γ => γ.2.Ends r)
      ⟨request, .unread⟩ := by
  rw [execute, Program.obeys_bind]
  refine obeys_getSession (fun e _ _ => ⟨e, rfl⟩) rfl fun reply _ => ?_
  have hphase : chunkMonitor.after ⟨request, .unread⟩
      (.hgetallSession ⟨request.workspaceId, request.sessionId⟩) reply =
      ⟨request, match RedisSessionStore.readReply reply with
        | .ok (some session) => .read request session
        | _ => .failed⟩ := rfl
  rw [hphase]
  cases RedisSessionStore.readReply reply with
  | error e => exact ⟨e, rfl⟩
  | ok session? =>
      cases session? with
      | none => exact ⟨_, rfl⟩
      | some session =>
          dsimp only
          refine obeys_ofExcept_bind (fun index hvalid => ?_) fun e he => ?_
          rotate_left
          · rw [Phase.read_of_error he]
            exact rfl
          rw [Phase.read_of_ok hvalid, Program.obeys_bind]
          refine obeys_tryExcept (obeys_send rfl fun reply _ => ?_)
          cases reply with
          | error e => exact ⟨fun _ => ⟨_, rfl⟩, fun _ => ⟨e, rfl⟩⟩
          | ok _ =>
              have hphase : chunkMonitor.after ⟨request, .validated session index hvalid⟩
                  (.setChunk ⟨request.workspaceId, request.sessionId, index⟩ request.chunkData
                    chunkTtlSeconds) (.ok ()) = ⟨request, .record hvalid⟩ := rfl
              rw [hphase]
              refine obeys_ofExcept_bind (fun next hrecord => ?_) fun e he => ?_
              · rw [Phase.record_of_ok hvalid hrecord]
                exact obeys_write ⟨session, index, next, hvalid, hrecord⟩
              · rw [Phase.record_of_error hvalid he]
                exact ⟨e, rfl⟩

/-- A call whose command fails writes nothing more. -/
theorem Phase.after_error (phase : Phase request) (c : Command) (e : Exc) :
    phase.after c (.error e) = .failed := by
  cases phase <;> cases c <;> rfl

/-- A rejected call is over. -/
theorem eq_done_of_rejected {e : Exc} {p : Service ProcessChunkResponse}
    (h : p.Obeys chunkMonitor (fun r γ => γ.2.Ends r) ⟨request, .rejected e⟩) :
    p = .done (.error e) := by
  cases p with
  | done r => exact congrArg Program.done h
  | call command next => exact absurd h.1 id

/-! ## A call alone -/

/-- A call with a plan for the stored session is accepted when it runs alone. -/
theorem run_of_plan (env : Environment) (settings : Settings) {σ : World} (plan : Plan request)
    (hreads : σ.Reads request.workspaceId request.sessionId plan.session) :
    (execute (dependencies settings) request).run (serviceMachine env) [] σ =
      (.ok ⟨plan.next.offset⟩,
        (σ.putChunk ⟨request.workspaceId, request.sessionId, plan.index⟩
          request.chunkData).putSession plan.next) := by
  -- no command fails, so every branch but one is closed off
  have hwp : (execute (dependencies settings) request).wp (serviceMachine env) (fun _ => False)
      (fun r σ' => (r, σ') = (.ok ⟨plan.next.offset⟩,
        (σ.putChunk ⟨request.workspaceId, request.sessionId, plan.index⟩
          request.chunkData).putSession plan.next)) σ := by
    have hcan : ∀ area, ¬ CanFail (fun _ => False) area := by
      rintro _ ⟨_, hf, _⟩
      exact hf
    have hkey : plan.next.key = ⟨request.workspaceId, request.sessionId⟩ :=
      plan.key_next.trans hreads.key_eq
    rw [execute, Program.wp_bind]
    refine wp_getSession hreads.storedWell (fun session hreads' => ?_) (fun hnone => ?_)
      fun hwhy => ?_
    · obtain rfl := RedisSessionStore.serialize_injective
        (Option.some.inj (hreads'.stored.symm.trans hreads.stored))
      refine wp_ofExcept_bind (fun index hvalid => ?_) fun e he => by
        cases he.symm.trans plan.validated
      cases hvalid.symm.trans plan.validated
      rw [Program.wp_bind, wp_tryExcept]
      refine wp_send ?_ fun h => absurd h (hcan _)
      refine wp_ofExcept_bind (fun next hrecord => ?_) fun e he => by
        cases he.symm.trans plan.recorded
      cases hrecord.symm.trans plan.recorded
      rw [Program.wp_bind]
      refine wp_updateSession (hkey ▸ hreads.valid) ?_ ?_ fun h => absurd h (hcan _)
      · rw [hkey]
        intro h
        cases hreads.stored.symm.trans h
      · rw [plan.offset_next, (validate_eq_ok plan.validated).2.1]
        exact rfl
    · cases hnone.symm.trans hreads.stored
    · rcases hwhy with hinvalid | h
      · exact absurd hreads.valid hinvalid
      · exact absurd h (hcan _)
  exact Program.run_of_wp hwp fun _ h => by cases h

/-- A call that is accepted when it runs alone has a plan. -/
theorem exists_plan {env : Environment} {σ σ₁ : World} {session : UploadSession}
    {response : ProcessChunkResponse}
    (hreads : σ.Reads request.workspaceId request.sessionId session)
    (halone : (execute (dependencies settings) request).run (serviceMachine env) [] σ =
      (.ok response, σ₁)) : ∃ plan : Plan request, plan.session = session := by
  have houtcome : Outcome (fun _ => False) request σ
      ((execute (dependencies settings) request).run (serviceMachine env) [] σ).1 _ :=
    Program.run_of_wp (wp_execute request hreads.storedWell) fun _ h => nomatch h
  rw [halone] at houtcome
  generalize hr : (Except.ok response : Except Exc ProcessChunkResponse) = r at houtcome
  cases houtcome with
  | rejected => cases hr
  | stray => cases hr
  | accepted session' next index hreads' hvalid hrecord =>
      exact ⟨⟨session', index, next, hvalid, hrecord⟩, RedisSessionStore.serialize_injective
        (Option.some.inj (hreads'.stored.symm.trans hreads.stored))⟩

/-! ## Many calls -/

/-- Chunk calls that are about to start. -/
def chunkPool (settings : Settings) (σ : World) (requests : List ProcessChunkRequest) :
    Pool serviceSignature World ProcessChunkResponse where
  state := σ
  threads := requests.map (execute (dependencies settings))
  journal := []

/-- What is known of the calls before they start. -/
def unreadCalls (requests : List ProcessChunkRequest) :
    List ((request : ProcessChunkRequest) × Phase request) :=
  requests.map fun request => ⟨request, .unread⟩

theorem watched_chunkPool (settings : Settings) {σ : World} {requests : List ProcessChunkRequest}
    {I : List ((request : ProcessChunkRequest) × Phase request) → World → List (ℕ × Command) →
      Prop} (h : I (unreadCalls requests) σ []) :
    Pool.Watched chunkMonitor (fun r γ => γ.2.Ends r) I (chunkPool settings σ requests)
      (unreadCalls requests) := by
  refine ⟨?_, h⟩
  clear h
  unfold chunkPool unreadCalls
  induction requests with
  | nil => exact .nil
  | cons request requests ih => exact .cons (obeys_execute settings request) ih

end ProcessChunkUseCase

end RagFileUploader
