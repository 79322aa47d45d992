import RagFileUploader.Application.Ports

/-!
# Aborting an upload
-/

namespace RagFileUploader.AbortUploadUseCase

variable {m : Type → Type} [Monad m] [MonadExcept Exc m] (deps : Dependencies m)

/-- Steps 2 and 3: a finished session is treated as not found. -/
def validate (workspaceId sessionId : UUID) (session : UploadSession) : Except Exc Unit := do
  raiseIf session.status.Terminal
    (.uploadSessionNotFoundError s!"Upload session {sessionId} not found or expired")
  raiseIf (session.workspaceId ≠ workspaceId)
    (.workspaceMismatch sessionId "upload_session" workspaceId session.workspaceId)

def execute (workspaceId sessionId : UUID) : m Unit := do
  let some session ← deps.sessionStore.getSession workspaceId sessionId
    | throw (.uploadSessionNotFoundError s!"Upload session {sessionId} not found or expired")
  MonadExcept.ofExcept (validate workspaceId sessionId session)
  deps.sessionStore.updateSession session.markAborted
  deps.sessionStore.deleteSession workspaceId sessionId
  tryExcept (deps.rateLimiter.decrement workspaceId) Exc.isInfrastructureError fun _ => pure ()

end RagFileUploader.AbortUploadUseCase
