import RagFileUploader.Concurrent.ChunkCalls
import RagFileUploader.Infrastructure.Footprint
import RagFileUploader.Infrastructure.Frames
import RagFileUploader.Serial.Slots

/-!
# Calls as seen from the session hashes and the counters

Any number of calls of all four use cases, interleaved command by command.  A `Standing` is what an
observer of session hashes and counters knows about a call: whether it has read its session, what
it may still store there, and whether it holds a slot that it is going to return.  All other
commands pass unwatched, so that the long parts of a completion leave it as it is.

No command fails here, and the hashes that are read are those of valid sessions.

* `May` lists the watched commands of each standing and `after` the standing that they lead to.
  Writing COMPLETE or ABORTED is the only way to `ending`, and a decrement the only way on from
  there.
* `obeys_unwatched_bind` passes over what is not watched, `obeys_read`, `obeys_store` and
  `obeys_decrement` are the watched parts, and each use case has one `obeys_standing` made of them.
* `watched_callPool` starts any number of calls, each at its `Call.standing`; the invariants over
  them are found in the modules that import this one.
* `rivals` is what others have stored since a call has read its session.
-/

namespace RagFileUploader

open Effects Stores

variable {settings : Settings} {w s : UUID} {key : SessionKey} {α β : Type}

/-! ## Standings -/

/-- How far a call has got with its session and its slot. -/
inductive Standing where
  /-- The session has not been read. -/
  | fresh (key : SessionKey) (writes : List SessionStatus)
  /-- The session was under way when it was read. -/
  | live (key : SessionKey) (writes : List SessionStatus)
  /-- The call has stored FAILED. -/
  | failing (key : SessionKey)
  /-- The call has stored COMPLETE or ABORTED and has a slot to return. -/
  | ending (key : SessionKey)
  /-- An initiation that has taken no slot yet. -/
  | asking (workspaceId : UUID)
  /-- An initiation that has a slot but no session. -/
  | reserved (workspaceId : UUID)
  /-- A decrement went below zero. -/
  | clamping (workspaceId : UUID)
  | over
  deriving DecidableEq

/-- How a call stands when it starts. -/
def Call.standing : Call → Standing
  | .initiate request => .asking request.workspaceId
  | .processChunk request => .fresh ⟨request.workspaceId, request.sessionId⟩ [.inProgress]
  | .complete request => .fresh ⟨request.workspaceId, request.sessionId⟩ [.failed, .complete]
  | .abort workspaceId sessionId => .fresh ⟨workspaceId, sessionId⟩ [.aborted]

/-- The observer takes no notice of the command. -/
def Command.Unwatched : Command → Prop
  | .createSession .. | .hgetallSession _ | .hsetSession .. | .deleteSession _
  | .hincrbyCounter .. | .hsetCounter .. => False
  | _ => True

namespace Standing

/-- The commands that a call may issue as it stands. -/
inductive May : Standing → Command → Prop
  | unwatched (standing : Standing) {c : Command} (h : c.Unwatched) : May standing c
  | read (key : SessionKey) (writes : List SessionStatus) :
      May (.fresh key writes) (.hgetallSession key)
  | write {key : SessionKey} {writes : List SessionStatus} (session : UploadSession)
      (hkey : session.key = key) (hvalid : key.Valid) (hstatus : session.status ∈ writes) :
      May (.live key writes)
        (.hsetSession session.key (RedisSessionStore.serializeSession session))
  | rewrite {key : SessionKey} (session : UploadSession) (hkey : session.key = key)
      (hvalid : key.Valid) (hstatus : session.status = .failed) :
      May (.failing key) (.hsetSession session.key (RedisSessionStore.serializeSession session))
  | delete (key : SessionKey) : May (.ending key) (.deleteSession key)
  | release (key : SessionKey) : May (.ending key) (.hincrbyCounter key.workspaceId (-1))
  | take (w : UUID) : May (.asking w) (.hincrbyCounter w 1)
  | create {w : UUID} (session : UploadSession) (hworkspace : session.workspaceId = w)
      (hvalid : session.key.Valid) (ttlSeconds expiryTtlSeconds : ℕ)
      (expiryMetadata : ExpiryMetadata) :
      May (.reserved w) (.createSession session.key (RedisSessionStore.serializeSession session)
        ttlSeconds expiryMetadata expiryTtlSeconds)
  | giveBack (w : UUID) : May (.reserved w) (.hincrbyCounter w (-1))
  | clamp (w : UUID) : May (.clamping w) (.hsetCounter w 0)

/-- After a slot was returned. -/
def returned (w : UUID) (count : ℤ) : Standing := if count < 0 then .clamping w else .over

/-- After a reply. -/
def after (standing : Standing) (c : Command) (reply : Except Exc c.Reply) : Standing :=
  match standing, c, reply with
  | .fresh key writes, .hgetallSession _, .ok (some data) =>
      if data.Active then .live key writes else .over
  | .fresh _ _, .hgetallSession _, _ => .over
  | .live key _, .hsetSession _ data, _ =>
      if data.status = SessionStatus.failed.value then .failing key
      else if data.Active then .over else .ending key
  | .ending key, .hincrbyCounter .., .ok count => returned key.workspaceId count
  | .asking w, .hincrbyCounter .., _ => .reserved w
  | .reserved _, .createSession .., _ => .over
  | .reserved w, .hincrbyCounter .., .ok count => returned w count
  | .clamping _, .hsetCounter .., _ => .over
  | standing, _, _ => standing

theorem after_of_unwatched {standing : Standing} {c : Command} {reply : Except Exc c.Reply}
    (h : c.Unwatched) : standing.after c reply = standing := by
  cases c <;> first | exact absurd h id | (cases standing <;> rfl)

/-- The call may mark its session FAILED. -/
def Failable (key : SessionKey) : Standing → Prop
  | .live key' writes => key' = key ∧ .failed ∈ writes
  | .failing key' => key' = key
  | _ => False

end Standing

/-- The replies that can occur when no command fails: those of S3 are left open. -/
def Command.Plausible : (c : Command) → Except Exc c.Reply → Prop
  | .hgetallSession key, reply => reply = .ok none ∨ key.Valid ∧ ∃ session : UploadSession,
      session.key = key ∧ reply = .ok (some (RedisSessionStore.serializeSession session))
  | .now, reply => ∃ t, reply = .ok (.utc t)
  | c, reply => c.area = .s3 ∨ ∃ r, reply = .ok r

/-- A monitor for calls of all use cases. -/
def standingMonitor : Monitor serviceSignature Standing where
  may := Standing.May
  replies := fun _ c reply => c.Plausible reply
  after := fun standing c reply => standing.after c reply

/-! ## What passes unwatched -/

variable {standing : Standing}

theorem InArea.unwatched {area : Area} {c : Command} (h : InArea area w c)
    (hs : area ≠ .sessions) (hc : area ≠ .counters) : c.Unwatched := by
  obtain ⟨rfl, -⟩ := h
  cases c <;> trivial

theorem obeys_unwatched {p : Service α} {E : Except Exc α → Prop}
    (hp : p.Issues Command.Unwatched) (hends : p.Ends E) :
    p.Obeys standingMonitor (fun r standing' => standing' = standing ∧ E r) standing :=
  obeys_of_issues_ends hp hends (fun _ h => .unwatched _ h)
    fun _ _ h => Standing.after_of_unwatched h

theorem obeys_unwatched_bind {p : Service α} {f : α → Service β} {E : Except Exc α → Prop}
    {Q : Except Exc β → Standing → Prop} (hp : p.Issues Command.Unwatched) (hends : p.Ends E)
    (hf : ∀ a, E (.ok a) → (f a).Obeys standingMonitor Q standing)
    (herror : ∀ e, E (.error e) → Q (.error e) standing) :
    (p >>= f).Obeys standingMonitor Q standing := by
  rw [Program.obeys_bind]
  refine Program.obeys_mono (obeys_unwatched hp hends) fun r standing' h => ?_
  obtain ⟨rfl, hr⟩ := h
  cases r with
  | ok a => exact hf a hr
  | error e => exact herror e hr

/-- An unwatched command outside S3 does not fail. -/
theorem obeys_send_unwatched {c : Command} {f : c.Reply → Service β}
    {Q : Except Exc β → Standing → Prop} (hc : c.Unwatched) (harea : c.area ≠ .s3)
    (hf : ∀ reply, (f reply).Obeys standingMonitor Q standing) :
    (send c >>= f).Obeys standingMonitor Q standing := by
  rw [Program.obeys_bind]
  refine obeys_send (.unwatched _ hc) fun reply hreply => ?_
  have hok : ∃ r, reply = .ok r := by
    cases c <;> first
      | exact absurd hc id
      | exact absurd rfl harea
      | exact hreply.resolve_left harea
      | exact ⟨_, hreply.choose_spec⟩
  obtain ⟨r, rfl⟩ := hok
  rw [show standingMonitor.after standing c (.ok r) = standing from Standing.after_of_unwatched hc]
  exact hf r

/-! ## What is watched -/

/-- Storing a session: the call moves on if the hash is written. -/
theorem obeys_store {session : UploadSession} {Q : Except Exc Unit → Standing → Prop}
    (hmay : standing.May (.hsetSession session.key (RedisSessionStore.serializeSession session)))
    (hstored : Q (.ok ()) (standing.after
      (.hsetSession session.key (RedisSessionStore.serializeSession session)) (.ok ())))
    (hfail : ∀ e, e.isException = true → Q (.error e) standing) :
    (RedisSessionStore.updateSession session).Obeys standingMonitor Q standing := by
  refine obeys_updateSession (fun e _ he => hfail e he) (.unwatched _ trivial) (fun e he => ?_)
    (fun detail _ => ?_) fun ttl _ _ => ?_
  · obtain ⟨r, hr⟩ := he.resolve_left nofun
    cases hr
  · rw [show standingMonitor.after standing (.ttlSession session.key) (.ok (-2)) = standing from
      Standing.after_of_unwatched trivial]
    exact hfail _ rfl
  · rw [show standingMonitor.after standing (.ttlSession session.key) (.ok ttl) = standing from
      Standing.after_of_unwatched trivial]
    refine obeys_send hmay fun reply hreply => ?_
    obtain ⟨r, rfl⟩ := hreply.resolve_left nofun
    exact hstored

/-- Returning a slot. -/
theorem obeys_decrement {Q : Except Exc Unit → Standing → Prop}
    (hmay : standing.May (.hincrbyCounter w (-1)))
    (hafter : ∀ count, standing.after (.hincrbyCounter w (-1)) (.ok count) =
      Standing.returned w count)
    (hok : Q (.ok ()) .over)
    (hnil : ∀ e, w.int = 0#128 → e.isException = true → Q (.error e) standing) :
    (RedisRateLimiter.decrement w).Obeys standingMonitor Q standing := by
  refine obeys_ofExcept_bind (fun key hkey => ?_) fun e he => ?_
  · obtain rfl := workspaceKey_eq_ok hkey
    rw [Program.obeys_tryCatch, Program.obeys_bind]
    refine obeys_send hmay fun reply hreply => ?_
    obtain ⟨count, rfl⟩ := hreply.resolve_left nofun
    dsimp only
    rw [show standingMonitor.after standing (.hincrbyCounter key (-1)) (.ok count) =
      Standing.returned key count from hafter count]
    by_cases hcount : count < 0
    · rw [if_pos hcount, Standing.returned, if_pos hcount]
      refine obeys_send (.clamp key) fun reply hreply => ?_
      obtain ⟨r, rfl⟩ := hreply.resolve_left nofun
      exact hok
    · rw [if_neg hcount, Standing.returned, if_neg hcount]
      exact hok
  · obtain ⟨hw, hplain⟩ := workspaceKey_eq_error he
    exact hnil e hw (Exc.isException_of_isPlain hplain)

/-- Reading the session: none, or a valid one. -/
theorem obeys_read {writes : List SessionStatus}
    {Q : Except Exc (Option UploadSession) → Standing → Prop}
    (hnone : Q (.ok none) .over)
    (hsome : ∀ session : UploadSession, session.key = ⟨w, s⟩ → SessionKey.Valid ⟨w, s⟩ →
      Q (.ok (some session))
        (if session.status.Terminal then .over else .live ⟨w, s⟩ writes))
    (hinvalid : ∀ e, e.isException = true → Q (.error e) (.fresh ⟨w, s⟩ writes)) :
    (RedisSessionStore.getSession w s).Obeys standingMonitor Q (.fresh ⟨w, s⟩ writes) := by
  refine obeys_getSession (fun e _ he => hinvalid e he) (.read _ writes) fun reply hreply => ?_
  rcases hreply with rfl | ⟨hvalid, session, hkey, rfl⟩
  · exact hnone
  · have hafter : standingMonitor.after (.fresh ⟨w, s⟩ writes) (.hgetallSession ⟨w, s⟩)
        (.ok (some (RedisSessionStore.serializeSession session))) =
        if session.status.Terminal then .over else .live ⟨w, s⟩ writes := by
      change (if (RedisSessionStore.serializeSession session).Active then _ else _) = _
      simp only [active_serialize, ite_not]
    rw [hafter, RedisSessionStore.readReply, RedisSessionStore.deserialize_serialize]
    exact hsome session hkey hvalid

/-! ## The use cases -/

/-- Whatever a call returns and wherever it ends. -/
abbrev Anyhow : Except Exc α → Standing → Prop := fun _ _ => True

namespace ProcessChunkUseCase

theorem obeys_standing (settings : Settings) (request : ProcessChunkRequest) :
    (execute (dependencies settings) request).Obeys standingMonitor Anyhow
      (Call.processChunk request).standing := by
  rw [execute, Program.obeys_bind]
  refine obeys_read trivial (fun session hkey hvalid => ?_) fun _ _ => trivial
  refine obeys_ofExcept_bind (fun index hindex => ?_) fun _ _ => trivial
  -- a chunk that passes the checks belongs to a session that is under way
  have hactive := (validate_eq_ok hindex).1
  rw [if_neg hactive]
  refine obeys_unwatched_bind (E := fun _ => True) ?_ Program.ends_true (fun _ _ => ?_)
    fun _ _ => trivial
  · exact issues_tryExcept (issues_send trivial) fun _ => trivial
  refine obeys_ofExcept_bind (fun next hrecord => ?_) fun _ _ => trivial
  have hnext : next.key = ⟨request.workspaceId, request.sessionId⟩ :=
    (key_recordChunk hrecord hactive).trans hkey
  have hstatus : next.status = .inProgress := by
    rw [recordChunk_eq_ok hrecord hactive]
  rw [Program.obeys_bind]
  refine obeys_store (.write next hnext hvalid ?_) trivial fun _ _ => trivial
  simp [hstatus]

end ProcessChunkUseCase

namespace AbortUploadUseCase

theorem obeys_standing (settings : Settings) (w s : UUID) :
    (execute (dependencies settings) w s).Obeys standingMonitor Anyhow
      (Call.abort w s).standing := by
  rw [execute, Program.obeys_bind]
  refine obeys_read trivial (fun session hkey hvalid => ?_) fun _ _ => trivial
  refine obeys_ofExcept_bind (fun _ h => ?_) fun _ _ => trivial
  rw [if_neg (validate_eq_ok h), Program.obeys_bind]
  have haborted : session.markAborted.key = ⟨w, s⟩ := hkey
  refine obeys_store (.write session.markAborted haborted hvalid (List.mem_singleton_self _)) ?_
    fun _ _ => trivial
  -- the hash says ABORTED: deletion and decrement are left
  change Program.Obeys standingMonitor _ Anyhow (.ending ⟨w, s⟩)
  rw [Program.obeys_bind]
  refine obeys_ofExcept_bind (fun key hkey' => ?_) fun _ _ => trivial
  obtain ⟨rfl, -⟩ := sessionKey_eq_ok hkey'
  refine obeys_tryExcept (obeys_map (obeys_send (.delete _) fun reply hreply => ?_))
  obtain ⟨count, rfl⟩ := hreply.resolve_left (by rintro ⟨⟩)
  refine obeys_tryExcept (obeys_decrement (.release ⟨w, s⟩) (fun _ => rfl) trivial
    fun e hnil _ => ?_)
  exact absurd hnil hvalid.1

end AbortUploadUseCase

namespace InitiateUploadUseCase

/-- The pipeline is the last command of a creation, and what follows cannot fail. -/
theorem obeys_createSession {request : InitiateUploadRequest}
    {Q : Except Exc InitiateUploadResponse → Standing → Prop}
    (hok : ∀ response, Q (.ok response) .over)
    (hfail : ∀ e, Q (.error e) (.reserved request.workspaceId)) :
    (createSession (dependencies settings) request).Obeys standingMonitor Q
      (.reserved request.workspaceId) := by
  refine obeys_send_unwatched trivial nofun fun sessionId => ?_
  rw [Program.obeys_bind]
  refine obeys_send (.unwatched _ trivial) fun reply hreply => ?_
  obtain ⟨t, rfl⟩ := hreply
  refine obeys_ofExcept_bind (fun session hnew => ?_) fun e _ => hfail e
  have hkey := (newSession_eq_ok hnew).1
  rw [Program.obeys_bind]
  refine obeys_ofExcept_bind (fun key hkey' => ?_) fun e _ => hfail e
  obtain ⟨rfl, hvalid⟩ := sessionKey_eq_ok hkey'
  rw [Program.obeys_tryCatch]
  refine obeys_send (.create session (congrArg SessionKey.workspaceId hkey) hvalid _ _ _)
    fun reply hreply => ?_
  obtain ⟨r, rfl⟩ := hreply.resolve_left nofun
  have hresponse : InitiateUploadResponse.new sessionId 0 ((DateTime.utc t).addHours 24) =
      .ok ⟨sessionId, 0, (DateTime.utc t).addHours 24⟩ := rfl
  exact obeys_ofExcept.mpr (hresponse ▸ hok _)

theorem obeys_standing (settings : Settings) (request : InitiateUploadRequest) :
    (execute (dependencies settings) request).Obeys standingMonitor Anyhow
      (Call.initiate request).standing := by
  refine obeys_ofExcept_bind (fun _ _ => ?_) fun _ _ => trivial
  rw [Program.obeys_bind]
  refine obeys_ofExcept_bind (fun key hkey => ?_) fun _ _ => trivial
  obtain rfl := workspaceKey_eq_ok hkey
  rw [Program.obeys_tryCatch]
  refine obeys_send_unwatched trivial (by rintro ⟨⟩) fun current? => ?_
  simp only [raiseIf]
  split
  · trivial
  refine obeys_map (obeys_send (.take _) fun reply hreply => ?_)
  obtain ⟨count, rfl⟩ := hreply.resolve_left (by rintro ⟨⟩)
  refine obeys_tryExcept (obeys_createSession (fun _ => trivial) fun e =>
    ⟨fun _ => ?_, fun _ => trivial⟩)
  rw [Program.obeys_bind]
  refine obeys_tryExcept (obeys_decrement (.giveBack _) (fun _ => rfl) trivial fun e' _ _ => ?_)
  exact ⟨fun _ => trivial, fun _ => trivial⟩

end InitiateUploadUseCase

namespace CompleteUploadUseCase

variable {request : CompleteUploadRequest} {session : UploadSession}

theorem may_markFailed (hkey : session.key = key) (hvalid : key.Valid)
    (h : standing.Failable key) : standing.May (.hsetSession session.markFailed.key
      (RedisSessionStore.serializeSession session.markFailed)) := by
  have hfailed : session.markFailed.key = key := hkey
  cases standing with
  | live key' writes =>
      obtain ⟨rfl, hmem⟩ := h
      exact .write session.markFailed hfailed hvalid hmem
  | failing key' =>
      obtain rfl : key' = key := h
      exact .rewrite session.markFailed hfailed hvalid rfl
  | _ => exact absurd h id

theorem failable_markFailed (h : standing.Failable key) :
    (standing.after (.hsetSession session.markFailed.key
      (RedisSessionStore.serializeSession session.markFailed)) (.ok ())).Failable key := by
  cases standing with
  | live key' writes => exact h.1
  | failing key' => exact h
  | _ => exact absurd h id

/-- What the handlers need: an exception at which they mark the session FAILED comes at a standing
that allows it. -/
def Handled (key : SessionKey) : Except Exc α → Standing → Prop
  | .ok _, _ => True
  | .error e, standing => marks e = true → standing.Failable key

theorem obeys_settle {e : Exc} (hkey : session.key = key) (hvalid : key.Valid)
    (h : marks e = true → standing.Failable key) :
    (settle (dependencies settings) session e).Obeys standingMonitor Anyhow standing := by
  rw [settle_eq]
  split
  · next hmarks =>
      rw [Program.obeys_bind]
      refine obeys_tryExcept (obeys_store (may_markFailed hkey hvalid (h hmarks)) trivial ?_)
      exact fun _ _ => ⟨fun _ => trivial, fun _ => trivial⟩
  · trivial

theorem obeys_assemble (hkey : session.key = key) (hvalid : key.Valid)
    (h : standing.Failable key) :
    (assemble (dependencies settings) request session).Obeys standingMonitor
      (fun r standing' => match r with
        | .ok (s3Path, finalSize) => standing' = standing ∧ 0 ≤ finalSize ∧
            s3Path = S3StorageClient.s3Path settings (fileKey request)
        | .error _ => standing'.Failable key) standing := by
  refine obeys_unwatched_bind (E := fun _ => True) ((issues_retrieveAll _).mono fun _ hc =>
    hc.unwatched nofun nofun) Program.ends_true (fun chunks _ => ?_) fun _ _ => h
  refine obeys_unwatched_bind (S3StorageClient.issues_assembleFile.mono fun _ hc =>
    hc.unwatched nofun nofun) S3StorageClient.ends_assembleFile (fun file hfile => ?_) fun _ _ => h
  obtain rfl := hfile file rfl
  refine obeys_unwatched_bind (E := fun _ => True) (issues_checkDuplicate.mono fun _ hc =>
    hc.unwatched nofun nofun) Program.ends_true (fun duplicate? _ => ?_) fun _ _ => h
  cases duplicate? with
  | none => exact ⟨rfl, Int.natCast_nonneg _, rfl⟩
  | some duplicate =>
      refine Program.obeys_bind.mpr ?_
      exact obeys_store (may_markFailed hkey hvalid h) (failable_markFailed h) fun _ _ => h

theorem obeys_publish {s3Path : String} {finalSize : ℤ} (h : standing.Failable key) :
    (publish (dependencies settings) request session s3Path finalSize).Obeys standingMonitor
      (fun r standing' => match r with
        | .ok _ => standing' = standing
        | .error _ => standing'.Failable key) standing := by
  refine obeys_send_unwatched trivial nofun fun uploadedAt => ?_
  refine obeys_send_unwatched trivial nofun fun timestamp => ?_
  refine obeys_ofExcept_bind (fun event _ => ?_) fun _ _ => h
  refine obeys_tryExcept (obeys_send (.unwatched _ trivial) fun reply hreply => ?_)
  obtain ⟨r, rfl⟩ := hreply.resolve_left nofun
  exact Standing.after_of_unwatched trivial

/-- After the event nothing is raised any more at which the session would be marked FAILED. -/
theorem obeys_finish {s3Path : String} {finalSize : ℤ} {writes : List SessionStatus}
    (hsize : 0 ≤ finalSize) (hpath : isBlank s3Path = false)
    (hkey : session.key = ⟨request.workspaceId, request.sessionId⟩)
    (hvalid : session.key.Valid) (hfailed : .failed ∈ writes) (hcomplete : .complete ∈ writes) :
    (finish (dependencies settings) request session s3Path finalSize).Obeys standingMonitor
      (Handled session.key) (.live session.key writes) := by
  refine obeys_ofExcept_bind (fun done hdone => ?_) fun _ _ _ => ⟨rfl, hfailed⟩
  have hdoneKey : done.key = session.key ∧ done.status = .complete := by
    unfold UploadSession.markComplete at hdone
    simp only [except_bind_eq_ok, raiseIf_eq_ok] at hdone
    obtain ⟨-, -, -, -, hdone⟩ := hdone
    cases hdone
    exact ⟨rfl, rfl⟩
  rw [Program.obeys_bind]
  refine obeys_store (.write done hdoneKey.1 hvalid ?_) ?_ fun _ _ _ => ⟨rfl, hfailed⟩
  · rw [hdoneKey.2]
    exact hcomplete
  -- the hash says COMPLETE
  have hstanding : Standing.after (.live session.key writes)
      (.hsetSession done.key (RedisSessionStore.serializeSession done)) (.ok ()) =
      .ending session.key := by
    have hstatus : (RedisSessionStore.serializeSession done).status =
        SessionStatus.complete.value := congrArg SessionStatus.value hdoneKey.2
    have hended : ¬ (RedisSessionStore.serializeSession done).Active := by
      rw [active_serialize, hdoneKey.2]
      decide
    simp only [Standing.after, hstatus, if_neg hended]
    rfl
  rw [hstanding]
  have hworkspace : request.workspaceId = session.key.workspaceId :=
    (congrArg SessionKey.workspaceId hkey).symm
  rw [Program.obeys_bind]
  refine obeys_tryExcept (obeys_decrement (hworkspace ▸ .release session.key) (fun count => ?_) ?_
    fun e hnil _ => absurd hnil (hworkspace ▸ hvalid.1))
  · rw [hworkspace]
    rfl
  have hresponse : CompleteUploadResponse.new request.sessionId s3Path finalSize =
      .ok ⟨request.sessionId, s3Path, finalSize⟩ := by
    have hne : s3Path ≠ "" := fun h => by simp [h, isBlank] at hpath
    simp [CompleteUploadResponse.new, raiseIf, hne, not_lt.mpr hsize, pure, Except.pure, bind,
      Except.bind]
  -- whatever escapes from the last steps is no `Exception`
  have hswallow : ∀ {p : Service Unit} {next : Service CompleteUploadResponse},
      p.Issues Command.Unwatched →
      next.Obeys standingMonitor (Handled session.key) .over →
      (tryExcept p Exc.isException (fun _ => pure ()) >>= fun _ => next).Obeys standingMonitor
        (Handled session.key) .over := by
    intro p next hp hnext
    rw [Program.obeys_bind]
    refine obeys_tryExcept (Program.obeys_mono
      (obeys_unwatched (E := fun _ => True) hp Program.ends_true) fun r standing' hr => ?_)
    obtain ⟨rfl, -⟩ := hr
    cases r with
    | ok _ => exact hnext
    | error e =>
        refine ⟨fun _ => hnext, fun he hmarks => ?_⟩
        simp [marks, he] at hmarks
  refine hswallow (issues_registration.mono fun c hc => ?_) (hswallow ?_ ?_)
  · rcases hc with rfl | hc
    · trivial
    · exact hc.unwatched (by decide) (by decide)
  · exact (issues_cleanup _).mono fun _ hc => hc.unwatched (by decide) (by decide)
  · exact obeys_ofExcept.mpr (hresponse ▸ trivial)

theorem obeys_standing (settings : Settings) (request : CompleteUploadRequest) :
    (execute (dependencies settings) request).Obeys standingMonitor Anyhow
      (Call.complete request).standing := by
  rw [execute, Program.obeys_bind]
  refine obeys_read trivial (fun session hkey hvalid => ?_) fun _ _ => trivial
  dsimp only
  rw [Program.obeys_tryCatch]
  suffices h : (body (dependencies settings) request session).Obeys standingMonitor
      (Handled session.key)
      (if session.status.Terminal then .over
        else .live ⟨request.workspaceId, request.sessionId⟩ [.failed, .complete]) by
    refine Program.obeys_mono h fun r standing' hr => ?_
    cases r with
    | ok _ => trivial
    | error e => exact obeys_settle rfl (hkey ▸ hvalid) hr
  refine obeys_ofExcept_bind (fun _ hready => ?_) fun e he => fun hmarks => ?_
  rotate_left
  · simp [marks, raises_validateSession e he] at hmarks
  have hactive : ¬ session.status.Terminal := by
    rw [(validateSession_eq_ok hready).1]
    decide
  rw [if_neg hactive, ← hkey]
  have hlive : (Standing.live session.key [.failed, .complete]).Failable session.key :=
    ⟨rfl, List.mem_cons_self⟩
  have hkeyValid : session.key.Valid := hkey ▸ hvalid
  rw [Program.obeys_bind]
  refine Program.obeys_mono (obeys_assemble rfl hkeyValid hlive) fun r standing' hr => ?_
  cases r with
  | error e => exact fun _ => hr
  | ok file =>
      obtain ⟨s3Path, finalSize⟩ := file
      obtain ⟨rfl, hsize, rfl⟩ := hr
      dsimp only
      rw [Program.obeys_bind]
      refine Program.obeys_mono (obeys_publish hlive) fun r standing' hr => ?_
      cases r with
      | error e => exact fun _ => hr
      | ok _ =>
          obtain rfl := hr
          exact obeys_finish hsize (isBlank_s3Path request) hkey hkeyValid List.mem_cons_self
            (by simp)

end CompleteUploadUseCase

/-! ## Many calls -/

/-- Calls that are about to start. -/
def callPool (settings : Settings) (σ : World) (calls : List Call) :
    Pool serviceSignature World Response where
  state := σ
  threads := calls.map (Call.program settings)
  journal := []

theorem Call.obeys_program (settings : Settings) (c : Call) :
    (c.program settings).Obeys standingMonitor Anyhow c.standing := by
  cases c with
  | initiate request => exact obeys_map (InitiateUploadUseCase.obeys_standing settings request)
  | processChunk request => exact obeys_map (ProcessChunkUseCase.obeys_standing settings request)
  | complete request => exact obeys_map (CompleteUploadUseCase.obeys_standing settings request)
  | abort w s => exact obeys_map (AbortUploadUseCase.obeys_standing settings w s)

theorem watched_callPool (settings : Settings) {σ : World} {calls : List Call}
    {I : List Standing → World → List (ℕ × Command) → Prop} (h : I (calls.map Call.standing) σ []) :
    Pool.Watched standingMonitor Anyhow I (callPool settings σ calls)
      (calls.map Call.standing) := by
  refine ⟨?_, h⟩
  clear h
  unfold callPool
  induction calls with
  | nil => exact .nil
  | cons c calls ih => exact .cons (c.obeys_program settings) ih

/-- What the world replies is plausible when no command fails and the hash that is read is that of
a valid session. -/
theorem Command.plausible_act {env : Environment} {σ : World} (c : Command)
    (h : ∀ key, c = .hgetallSession key → σ.StoredWell key) : c.Plausible (c.act env σ).1 := by
  cases c with
  | hgetallSession key =>
      cases hdata : σ.session? key with
      | none => exact .inl (congrArg Except.ok hdata)
      | some data =>
          obtain ⟨d, hentry, -⟩ := Keyspace.get?_eq_some_iff.mp hdata
          obtain ⟨hvalid, session, hkey, hvalue⟩ := h key rfl _ hentry
          refine .inr ⟨hvalid, session, hkey, congrArg Except.ok (hdata.trans ?_)⟩
          exact congrArg some hvalue
  | now => exact ⟨_, rfl⟩
  | _ => first | exact .inl rfl | exact .inr ⟨_, rfl⟩

theorem Command.sessions_unwatched {env : Environment} {σ : World} {c : Command} (h : c.Unwatched) :
    (c.act env σ).2.sessions = σ.sessions := by
  rw [c.sessions_act]
  cases c <;> first | rfl | exact absurd h id

theorem Command.counters_unwatched {env : Environment} {σ : World} {c : Command}
    (h : c.Unwatched) : (c.act env σ).2.counters = σ.counters := by
  by_cases hc : c.area = .counters
  · cases c <;> first | rfl | exact absurd h id | cases hc
  · exact counters_act_of_area hc

/-- The session that a call is about, if it is there already. -/
def Call.key? : Call → Option SessionKey
  | .initiate _ => none
  | .processChunk request => some ⟨request.workspaceId, request.sessionId⟩
  | .complete request => some ⟨request.workspaceId, request.sessionId⟩
  | .abort workspaceId sessionId => some ⟨workspaceId, sessionId⟩

/-! ## What others have stored -/

/-- The hash that the command stores under the key in place of another one. -/
def Command.storedAt? (key : SessionKey) : Command → Option SessionHash
  | .hsetSession key' data => if key' = key then some data else none
  | _ => none

/-- The hashes that other calls have stored under the key since call `i` has read it. -/
def rivals (i : ℕ) (key : SessionKey) (journal : List (ℕ × Command)) : List SessionHash :=
  (journal.takeWhile fun entry => entry ≠ (i, .hgetallSession key)).filterMap fun (j, c) =>
    if j = i then none else c.storedAt? key

variable {i j : ℕ} {journal : List (ℕ × Command)} {c : Command}

@[simp] theorem rivals_read : rivals i key ((i, .hgetallSession key) :: journal) = [] := by
  simp [rivals]

theorem rivals_cons (h : (j, c) ≠ (i, .hgetallSession key)) :
    rivals i key ((j, c) :: journal) =
      (if j = i then none else c.storedAt? key).toList ++ rivals i key journal := by
  have hne : decide ((j, c) ≠ (i, Command.hgetallSession key)) = true := decide_eq_true h
  unfold rivals
  rw [List.takeWhile_cons, if_pos hne, List.filterMap_cons]
  cases hdata : (if j = i then none else c.storedAt? key) <;> simp [hdata]

/-- Another call's command adds the hash that it stores. -/
theorem rivals_cons_other (h : j ≠ i) : rivals i key ((j, c) :: journal) =
    (c.storedAt? key).toList ++ rivals i key journal := by
  rw [rivals_cons fun heq => h (congrArg Prod.fst heq), if_neg h]

/-- The call's own commands add nothing. -/
theorem rivals_cons_self (h : c ≠ .hgetallSession key) :
    rivals i key ((i, c) :: journal) = rivals i key journal := by
  rw [rivals_cons fun heq => h (congrArg Prod.snd heq), if_pos rfl]
  rfl

end RagFileUploader
