import RagFileUploader.Workspaces.Confinement
import RagFileUploader.Presentation.Application

/-!
# What comes to the service

Requests over HTTP, and calls of the use cases from elsewhere, as no route completes an upload.  A
request that is let through is a task of the workspace that its token names.  It writes only if it
is an owner's: whoever else is let through has asked for an offset, and `HEAD` only reads.
-/

namespace RagFileUploader

open Effects Encoding

variable {settings : Settings} {w s : UUID} {known : Option UUID} {α β : Type}

/-! ## Handlers -/

theorem confined_map {p : Service α} {f : α → β} (hp : Confined w known p) :
    Confined w known (f <$> p) :=
  obeys_map hp

theorem looks_getSessionWithExpiryInfo :
    (RedisSessionStore.getSessionWithExpiryInfo w s).Issues (Command.Looks w) := by
  refine sessionKey_bind_issues (Program.Issues.tryCatch ?_ fun _ => trivial)
  refine issues_send_bind rfl fun data? => ?_
  cases data? with
  | some data => exact issues_ofExcept.bind fun _ => trivial
  | none =>
      refine issues_send_bind trivial fun metadata? => ?_
      cases metadata? with
      | none => trivial
      | some metadata =>
          dsimp only
          split <;> trivial

theorem issues_notFoundOrExpired {P : Command → Prop} {metadata? : Option ExpiryMetadata}
    {expired : ExpiryMetadata → ℤ → HTTPException} {notFound : HTTPException} (h : P .now) :
    (notFoundOrExpired (dependencies settings) metadata? expired notFound :
      Service HTTPException).Issues P := by
  cases metadata? with
  | none => trivial
  | some metadata =>
      unfold notFoundOrExpired
      dsimp only
      split
      · trivial
      · exact issues_send_bind h fun _ => issues_ofExcept.bind fun _ => trivial

theorem QueryUploadOffset.looks_execute :
    (execute (dependencies settings) w s).Issues (Command.Looks w) := by
  refine Program.Issues.bind (Program.Issues.tryCatch (issues_map looks_getSessionWithExpiryInfo)
    fun e => issues_map ?_) fun looked => ?_
  · unfold lookupError
    repeat' split
    all_goals trivial
  · rcases looked with e | ⟨_ | session, metadata?⟩
    · trivial
    · exact issues_map (issues_notFoundOrExpired trivial)
    · trivial

theorem UploadChunk.looks_failed {chunkData : Bytes} (e : Exc) :
    (failed (dependencies settings) w s chunkData e).Issues (Command.Looks w) := by
  unfold failed
  split
  · exact looks_getSessionWithExpiryInfo.bind fun _ => issues_notFoundOrExpired trivial
  · trivial
  · trivial
  · repeat' split
    all_goals trivial

theorem UploadChunk.workspaceId_of_new {chunkData : Bytes} {uploadOffset : ℤ}
    {checksum : String} {chunk : ProcessChunkRequest}
    (h : ProcessChunkRequest.new w s chunkData uploadOffset checksum = .ok chunk) :
    chunk.workspaceId = w := by
  unfold ProcessChunkRequest.new at h
  repeat' split at h
  all_goals cases h
  rfl

theorem UploadChunk.confined_execute (settings : Settings) (w : UUID) (request : Request) :
    Confined w known (execute (dependencies settings) w request) := by
  unfold execute
  cases validate request with
  | error e => rfl
  | ok chunkChecksum =>
      cases request.body with
      | error e =>
          dsimp only
          split <;> rfl
      | ok chunkData =>
          refine confined_ofExcept_bind fun chunk hchunk => ?_
          obtain rfl : chunk.workspaceId = w := workspaceId_of_new hchunk
          exact Confined.tryCatch
            (confined_map (ProcessChunkUseCase.confined_execute settings chunk)) fun e _ =>
              confined_map (confined_of_looks (looks_failed e))

theorem AbortUpload.looks_failed (e : Exc) :
    (failed (dependencies settings) w s e).Issues (Command.Looks w) := by
  unfold failed
  split
  · exact looks_getSessionWithExpiryInfo.bind fun _ => issues_notFoundOrExpired trivial
  · repeat' split
    all_goals trivial

theorem AbortUpload.confined_execute (settings : Settings) (w s : UUID) :
    Confined w known (execute (dependencies settings) w s) :=
  Confined.tryCatch (confined_map (AbortUploadUseCase.confined_execute settings w s)) fun e _ =>
    confined_map (confined_of_looks (looks_failed e))

theorem InitiateUpload.confined_execute (settings : Settings) (w : UUID) (body : Body) :
    Confined w known (execute (dependencies settings) w body) := by
  refine Confined.tryCatch (confined_map
    (InitiateUploadUseCase.confined_execute settings (body.toRequest w))) fun e _ =>
      confined_map (confined_of_looks ?_)
  unfold failed
  repeat' split
  all_goals trivial

theorem Route.confined_handle (settings : Settings) (w : UUID) (route : Route) :
    Confined w known (route.handle (dependencies settings) w) := by
  cases route with
  | post body =>
      rw [handle]
      split
      · rfl
      · exact confined_map (InitiateUpload.confined_execute settings w body)
  | patch request => exact confined_map (UploadChunk.confined_execute settings w request)
  | head uploadId => exact confined_map (confined_of_looks QueryUploadOffset.looks_execute)
  | delete uploadId => exact confined_map (AbortUpload.confined_execute settings w uploadId)

/-! ## Requests -/

inductive Request where
  | http (request : HttpRequest)
  | call (call : Call)

namespace Request

/-- The workspace for which the request is made, if it is let through. -/
def workspace? : Request → Option UUID
  | http request => request.currentUser.toOption.map fun claims => claims.workspaceId
  | call c => some c.workspaceId

def program (settings : Settings) : Request → Service (Answer ⊕ Response)
  | http request => .inl <$> request.handle (dependencies settings)
  | call c => .inr <$> c.program settings

/-- The request is let through for an owner of the workspace, or it is a call for the workspace. -/
def Writes (w : UUID) : Request → Prop
  | http request =>
      ∃ claims ∈ request.currentUser.toOption,
        claims.workspaceId = w ∧ claims.workspaceRole = .owner
  | call c => c.workspaceId = w

instance (w : UUID) : DecidablePred (Writes w)
  | http request => inferInstanceAs (Decidable (∃ claims ∈ request.currentUser.toOption,
      claims.workspaceId = w ∧ claims.workspaceRole = .owner))
  | call c => inferInstanceAs (Decidable (c.workspaceId = w))

theorem Writes.workspace?_eq {request : Request} (h : request.Writes w) :
    request.workspace? = some w := by
  cases request with
  | call c => exact congrArg some h
  | http request =>
      obtain ⟨claims, huser, hw, -⟩ := h
      rw [workspace?, huser, Option.map_some, hw]

theorem confined_program (settings : Settings) {request : Request}
    (h : ∀ w' ∈ request.workspace?, w' = w) : Confined w none (request.program settings) := by
  cases request with
  | http request =>
      unfold program HttpRequest.handle
      refine confined_map ?_
      cases huser : request.currentUser with
      | error refusal => rfl
      | ok claims =>
          rw [workspace?, huser] at h
          cases h claims.workspaceId rfl
          exact Route.confined_handle settings claims.workspaceId request.route
  | call c =>
      cases h c.workspaceId rfl
      exact confined_map (c.confined_program settings)

/-- Whoever is let through without being an owner asks for an offset. -/
theorem role_of_route {decode : Decoder} {authorization : Option String} {route : Route}
    {claims : JWTClaims} (h : route.currentUser decode authorization = .ok claims) :
    claims.workspaceRole = .owner ∨ ∃ uploadId, route = .head uploadId := by
  have howner : ∀ {user}, requireRole .owner user = .ok claims →
      claims.workspaceRole = .owner := by
    intro user huser
    cases user with
    | error refusal => cases huser
    | ok claims' =>
        change (if claims'.workspaceRole ≠ .owner then _ else Except.ok claims') = _ at huser
        split at huser
        · cases huser
        · next hrole =>
            cases huser
            exact not_not.mp hrole
  cases route with
  | head uploadId => exact .inr ⟨uploadId, rfl⟩
  | post | patch | delete => exact .inl (howner h)

/-- The request as a task; one that is refused is none of any workspace. -/
def task (settings : Settings) (request : Request) : Task (Answer ⊕ Response) where
  workspaceId := request.workspace?.getD ⟨0⟩
  program := request.program settings
  confined := confined_program settings fun _ hw' => by rw [hw', Option.getD_some]

/-- A request that does not write for a workspace is one of another workspace, or it only reads. -/
theorem spares {request : Request} (h : ¬ request.Writes w) :
    (request.task settings).workspaceId ≠ w ∨
      (request.program settings).Issues (Command.Looks w) := by
  cases request with
  | call c => exact .inl h
  | http request =>
      cases huser : request.currentUser with
      | error refusal =>
          refine .inr (issues_map ?_)
          simp only [HttpRequest.handle, huser]
          trivial
      | ok claims =>
          by_cases hw : claims.workspaceId = w
          · right
            refine issues_map ?_
            simp only [HttpRequest.handle, huser]
            have hroute : request.route.currentUser request.routeDecoder request.authorization =
                .ok claims := by
              unfold HttpRequest.currentUser at huser
              split at huser
              · cases huser
              · exact huser
            rcases role_of_route hroute with howner | ⟨uploadId, hhead⟩
            · refine absurd ⟨claims, ?_, hw, howner⟩ h
              rw [huser]
              rfl
            · rw [hhead, hw]
              exact issues_map QueryUploadOffset.looks_execute
          · left
            simp only [task, workspace?, huser]
            exact hw

end Request

namespace Sample

/-- The payload of a token that all decoders accept. -/
def payload (workspaceId : UUID) (role : WorkspaceRole) (more : List (Text × Json)) :
    List (Text × Json) :=
  [(.ofString "user_id", .str (.ofString (UUID.str ⟨3⟩))),
    (.ofString "active_workspace_id", .str (.ofString workspaceId.str)),
    (.ofString "workspace_role", .str (.ofString role.value)), (.ofString "exp", .int 0)] ++ more

/-- A request that comes with such a token. -/
def request (payload : List (Text × Json)) (route : Route) : Request :=
  .http ⟨some "Bearer token", route, fun _ => .ok payload, fun _ => .ok payload⟩

/-- An owner of another workspace wants to end the session. -/
def intrusion : Request := request (payload ⟨2⟩ .owner []) (.delete session)

/-- A guest of the workspace asks how far the session is. -/
def inquiry : Request :=
  request (payload workspace .collaborator [(.ofString "shared_file_ids", .list [])])
    (.head session)

end Sample

end RagFileUploader
