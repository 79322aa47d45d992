import RagFileUploader.Presentation.AbortUpload
import RagFileUploader.Presentation.Authentication
import RagFileUploader.Presentation.InitiateUpload

/-!
# The application

`main.py` with the routes under `/v1/uploads`: the middleware validates the token, then the route's
dependencies do, which also ask for the role of an owner on every route but `HEAD`, and then the
body is checked and the handler runs.  The token may expire between the two validations, so each
has a decoder of its own.
-/

namespace RagFileUploader

/-- The routes, with the parameters that FastAPI has parsed. -/
inductive Route where
  | post (body : InitiateUpload.Body)
  | patch (request : UploadChunk.Request)
  | head (uploadId : UUID)
  | delete (uploadId : UUID)

/-- A request, and the decoders of its two validations. -/
structure HttpRequest where
  authorization : Option String
  route : Route
  middlewareDecoder : Decoder
  routeDecoder : Decoder

/-- The responses of the application. -/
inductive Answer where
  | refused (refusal : Refusal)
  /-- Status 422, with the errors of the body. -/
  | unprocessable (errors : List InitiateUpload.FieldError)
  | initiated (result : Except InitiateUpload.Failure InitiateUpload.Created)
  | answered (result : Except HTTPException HTTPResponse)

def Answer.statusCode : Answer → ℕ
  | .refused refusal => refusal.statusCode
  | .unprocessable _ => 422
  | .initiated (.ok _) => 201
  | .initiated (.error e) => e.statusCode
  | .answered (.ok response) => response.statusCode
  | .answered (.error e) => e.statusCode

/-- The dependency of the route on the current user. -/
def Route.currentUser (decode : Decoder) (authorization : Option String) :
    Route → Except Refusal JWTClaims
  | .head _ => getCurrentUser decode authorization
  | .post _ | .patch _ | .delete _ => requireRole .owner (getCurrentUser decode authorization)

/-- Who the request is let through for, if it is. -/
def HttpRequest.currentUser (request : HttpRequest) : Except Refusal JWTClaims :=
  match jwtValidationMiddleware request.middlewareDecoder request.authorization with
  | some refusal => .error refusal
  | none => request.route.currentUser request.routeDecoder request.authorization

section

variable {m : Type → Type} [Monad m] [MonadExcept Exc m] (deps : Dependencies m)

/-- The handler of the route, for a caller of the workspace. -/
def Route.handle (workspaceId : UUID) : Route → m Answer
  | .post body =>
      if body.errors ≠ [] then pure (.unprocessable body.errors)
      else .initiated <$> InitiateUpload.execute deps workspaceId body
  | .patch request => .answered <$> UploadChunk.execute deps workspaceId request
  | .head uploadId => .answered <$> QueryUploadOffset.execute deps workspaceId uploadId
  | .delete uploadId => .answered <$> AbortUpload.execute deps workspaceId uploadId

def HttpRequest.handle (request : HttpRequest) : m Answer :=
  match request.currentUser with
  | .error refusal => pure (.refused refusal)
  | .ok claims => request.route.handle deps claims.workspaceId

end

end RagFileUploader
