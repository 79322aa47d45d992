import RagFileUploader.Infrastructure.JwtValidator
import RagFileUploader.Presentation.Headers

/-!
# Authentication

Who a request comes from: `JWTValidator.validate`, the dependencies `get_current_user` and
`require_role`, and the middleware `jwt_validation_middleware`, which validates the same token
before they do.  `jwt.decode` is a library's: a `Decoder` stands for it, at one moment and with the
key of the service.
-/

namespace RagFileUploader

open Encoding

/-! ## Tokens -/

/-- What `jwt.decode` raises. -/
inductive DecodeError where
  | expiredSignature
  | invalidToken (message : String)
  | other (e : Exc)

/-- `jwt.decode`, with the options of the validator, at one moment. -/
abbrev Decoder := String → Except DecodeError (List (Text × Json))

/-- What `validate` raises.  The first two are `AuthenticationError`s. -/
inductive AuthFailure where
  | tokenExpired (message : String)
  | invalidToken (message : String)
  | other (e : Exc)

/-- `validate`. -/
def JWTValidator.validate (decode : Decoder) (token : String) : Except AuthFailure JWTClaims :=
  match decode token with
  | .ok payload =>
      match extractClaims payload with
      | .ok claims => .ok claims
      | .error (.invalidTokenError message) => .error (.invalidToken message)
      | .error e => .error (.other e)
  | .error .expiredSignature => .error (.tokenExpired "JWT token has expired")
  | .error (.invalidToken message) => .error (.invalidToken s!"Invalid JWT token: {message}")
  | .error (.other e) => .error (.other e)

/-! ## Refusals -/

/-- A response that says why a request is not let through. -/
structure Refusal where
  statusCode : ℕ
  detail : String
  requiredRole : Option String := none
  deriving DecidableEq

def unauthorized (detail : String) : Refusal where
  statusCode := 401
  detail := detail

def insufficientRole (required : WorkspaceRole) : Refusal where
  statusCode := 403
  detail := s!"Insufficient permissions - {required.value} role required"
  requiredRole := some required.value

/-- `MAX_TOKEN_SIZE`. -/
def maxTokenSize : ℕ := 8192

/-- What follows `Bearer ` in the header, if that is how it begins. -/
def bearerToken? (authorization : String) : Option String :=
  if "Bearer ".toList <+: authorization.toList then
    some (String.ofList (authorization.toList.drop "Bearer ".toList.length))
  else none

/-- `get_current_user`. -/
def getCurrentUser (decode : Decoder) (authorization : Option String) :
    Except Refusal JWTClaims :=
  match authorization with
  | none | some "" => .error (unauthorized "Missing Authorization header")
  | some authorization =>
      match bearerToken? authorization with
      | none => .error (unauthorized "Missing or invalid Authorization header")
      | some token =>
          if token.toList.length > maxTokenSize then
            .error (unauthorized "Token size exceeds maximum allowed")
          else if isBlank token then
            .error (unauthorized "Missing or invalid Authorization header")
          else
            match JWTValidator.validate decode token with
            | .ok claims => .ok claims
            | .error (.tokenExpired message) => .error (unauthorized message)
            | .error (.invalidToken message) => .error (unauthorized message)
            | .error (.other _) => .error (unauthorized "Authentication failed")

/-- `require_role`. -/
def requireRole (required : WorkspaceRole) (currentUser : Except Refusal JWTClaims) :
    Except Refusal JWTClaims := do
  let claims ← currentUser
  if claims.workspaceRole ≠ required then .error (insufficientRole required) else .ok claims

/-- `jwt_validation_middleware`, on a path under `/v1`: the response that it sends itself. -/
def jwtValidationMiddleware (decode : Decoder) (authorization : Option String) :
    Option Refusal :=
  match authorization with
  | none | some "" => some (unauthorized "Missing Authorization header")
  | some authorization =>
      match bearerToken? authorization with
      | none => some (unauthorized "Missing or invalid Authorization header")
      | some token =>
          match JWTValidator.validate decode token with
          | .ok _ => none
          | .error _ => some (unauthorized "Authentication failed")

end RagFileUploader
