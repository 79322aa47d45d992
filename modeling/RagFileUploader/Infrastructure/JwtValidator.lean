import RagFileUploader.Domain.Identifiers

/-!
# JWT claims

The claims of a decoded token, and their extraction from its payload.  The payload is a JSON object
whose claims may be of any types.
-/

namespace RagFileUploader

open Encoding

inductive WorkspaceRole where
  | owner
  | collaborator
  deriving DecidableEq, Repr

namespace WorkspaceRole

def value : WorkspaceRole → String
  | owner => "owner"
  | collaborator => "collaborator"

/-- `WorkspaceRole(value)`. -/
def ofJson (value : Json) : Except Exc WorkspaceRole :=
  let invalid : Except Exc WorkspaceRole :=
    .error (.valueError s!"{value.repr} is not a valid WorkspaceRole")
  match value with
  | .str text =>
      if text = Text.ofString owner.value then .ok owner
      else if text = Text.ofString collaborator.value then .ok collaborator
      else invalid
  | _ => invalid

end WorkspaceRole

/-! ## The value object -/

/-- What the constructor of `JWTClaims` is given.  The expiry time is taken as it is. -/
structure ClaimFields where
  userId : UUID
  workspaceId : UUID
  workspaceRole : WorkspaceRole
  sharedFileIds : Option (List UUID)
  exp : Json

/-- `__post_init__`.  The type checks of the source hold by typing. -/
def ClaimFields.postInit (f : ClaimFields) : Except Exc Unit := do
  raiseIf (f.workspaceRole = .owner ∧ f.sharedFileIds ≠ none)
    (.valueError "OWNER role cannot have shared_file_ids")
  raiseIf (f.workspaceRole = .collaborator ∧ f.sharedFileIds = none)
    (.valueError "COLLABORATOR role must have shared_file_ids")

structure JWTClaims extends ClaimFields where
  valid : toClaimFields.postInit = .ok ()

namespace JWTClaims

def new (f : ClaimFields) : Except Exc JWTClaims :=
  match h : f.postInit with
  | .ok () => .ok ⟨f, h⟩
  | .error e => .error e

/-- `has_access_to_file`. -/
def hasAccessToFile (claims : JWTClaims) (fileId : UUID) : Bool :=
  if claims.workspaceRole = .owner then true
  else claims.sharedFileIds.any fun ids => fileId ∈ ids

end JWTClaims

/-! ## Extraction -/

namespace JWTValidator

/-- The optional claim `shared_file_ids`. -/
def sharedFileIds (payload : List (Text × Json)) : Except Exc (Option (List UUID)) :=
  match Json.get? payload "shared_file_ids" with
  | none | some .null => .ok none
  | some (.list fileIds) => do
      raiseIf (¬ fileIds.all Json.isText) (.typeError "shared_file_ids must contain only strings")
      raiseIf (fileIds.length > 1000) (.valueError "shared_file_ids cannot exceed 1000 entries")
      some <$> fileIds.mapM UUID.ofJson
  | some _ => .error (.typeError "shared_file_ids must be a list or tuple")

/-- The body of the `try` block. -/
def claims (payload : List (Text × Json)) : Except Exc JWTClaims := do
  let userId ← UUID.ofJson (← item payload "user_id")
  let workspaceId ← UUID.ofJson (← item payload "active_workspace_id")
  let workspaceRole ← WorkspaceRole.ofJson (← item payload "workspace_role")
  let sharedFileIds ← sharedFileIds payload
  let exp ← item payload "exp"
  JWTClaims.new { userId, workspaceId, workspaceRole, sharedFileIds, exp }

/-- `_extract_claims`. -/
def extractClaims (payload : List (Text × Json)) : Except Exc JWTClaims :=
  tryExcept (claims payload) isDataError fun e =>
    throw (.invalidTokenError s!"Invalid JWT claims structure: {e.str}")

end JWTValidator

end RagFileUploader
