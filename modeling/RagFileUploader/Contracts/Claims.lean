import RagFileUploader.Domain.UploadSession
import RagFileUploader.Infrastructure.JwtValidator

/-!
# What is extracted from a token

Claims that are extracted are those of the payload.  A payload that has none is refused with
`InvalidTokenError`, unless an identifier is of a type that `UUID` trips over.
-/

namespace RagFileUploader.JWTValidator

open Encoding

variable {payload : List (Text × Json)} {extracted : JWTClaims} {e : Exc}

/-- The claims are those of the payload. -/
structure Faithful (payload : List (Text × Json)) (extracted : JWTClaims) : Prop where
  userId : UUID.Under payload "user_id" extracted.userId
  workspaceId : UUID.Under payload "active_workspace_id" extracted.workspaceId
  workspaceRole : Json.get? payload "workspace_role" =
    some (.str (.ofString extracted.workspaceRole.value))
  absent : extracted.sharedFileIds = none ↔ extracted.workspaceRole = .owner
  sharedFileIds : ∀ ids ∈ extracted.sharedFileIds, ∃ texts : List Text,
    Json.get? payload "shared_file_ids" = some (.list (texts.map .str)) ∧
      texts.mapM UUID.parse = .ok ids
  exp : Json.get? payload "exp" = some extracted.exp
  access : ∀ fileId, extracted.hasAccessToFile fileId = true ↔
    extracted.workspaceRole = .owner ∨ ∃ ids ∈ extracted.sharedFileIds, fileId ∈ ids

/-- The identifiers that are looked at are texts or null.  The workspace is looked at only if the
user is a valid identifier. -/
def Identified (payload : List (Text × Json)) : Prop :=
  (∀ user ∈ Json.get? payload "user_id", UUID.Readable user) ∧
    ((∃ userId, UUID.Under payload "user_id" userId) →
      ∀ workspace ∈ Json.get? payload "active_workspace_id", UUID.Readable workspace)

/-! ## The steps -/

/-- A list of texts that is converted without an error. -/
theorem texts_of_mapM {fileIds : List Json} {ids : List UUID}
    (htexts : fileIds.all Json.isText = true) (h : fileIds.mapM UUID.ofJson = .ok ids) :
    ∃ texts : List Text, fileIds = texts.map .str ∧ texts.mapM UUID.parse = .ok ids := by
  induction fileIds generalizing ids with
  | nil => exact ⟨[], rfl, h⟩
  | cons fileId fileIds ih =>
      rw [List.all_cons, Bool.and_eq_true] at htexts
      rw [List.mapM_cons] at h
      obtain ⟨id, hid, h⟩ := except_bind_eq_ok.mp h
      obtain ⟨ids, hids, h⟩ := except_bind_eq_ok.mp h
      cases h
      obtain ⟨text, rfl, hparse⟩ := UUID.ofJson_eq_ok.mp hid
      obtain ⟨texts, rfl, hmap⟩ := ih htexts.2 hids
      refine ⟨text :: texts, rfl, ?_⟩
      rw [List.mapM_cons, hparse, hmap]
      rfl

theorem raises_sharedFileIds : Raises isDataError (JWTValidator.sharedFileIds payload) := by
  unfold JWTValidator.sharedFileIds
  split
  · exact raises_ok _
  · exact raises_ok _
  · next fileIds _ =>
      by_cases htexts : fileIds.all Json.isText = true
      · refine raises_bind (raises_raiseIf rfl) fun _ => raises_bind (raises_raiseIf rfl) fun _ =>
          raises_map (raises_mapM fun fileId hmem =>
            (UUID.raises_ofJson_iff foresees_isDataError).mpr ?_)
        have htext := List.all_eq_true.mp htexts fileId hmem
        cases fileId with
        | str text => trivial
        | _ => cases htext
      · -- the conversion is not reached
        intro e h
        rw [raiseIf, if_pos htexts] at h
        cases h
        rfl
  · exact raises_error rfl

theorem raises_role {value : Json} : Raises isDataError (WorkspaceRole.ofJson value) := by
  intro e h
  unfold WorkspaceRole.ofJson at h
  dsimp only at h
  split at h
  · split at h
    · cases h
    · split at h <;> cases h
      rfl
  · cases h
    rfl

theorem role_eq_ok {value : Json} {role : WorkspaceRole}
    (h : WorkspaceRole.ofJson value = .ok role) : value = .str (.ofString role.value) := by
  unfold WorkspaceRole.ofJson at h
  dsimp only at h
  split at h
  · split at h
    · next htext =>
        cases h
        rw [htext]
    · split at h
      · next htext =>
          cases h
          rw [htext]
      · cases h
  · cases h

theorem raises_new {f : ClaimFields} : Raises isDataError (JWTClaims.new f) :=
  raises_checked_iff.mpr (raises_bind (raises_raiseIf rfl) fun _ => raises_raiseIf rfl)

theorem new_eq_ok {f : ClaimFields} (h : JWTClaims.new f = .ok extracted) :
    extracted.toClaimFields = f := by
  unfold JWTClaims.new at h
  split at h
  · cases h
    rfl
  · cases h

/-- Only owners have no list of files. -/
theorem absent_iff (extracted : JWTClaims) :
    extracted.sharedFileIds = none ↔ extracted.workspaceRole = .owner := by
  have hvalid := extracted.valid
  simp only [ClaimFields.postInit, except_bind_eq_ok, raiseIf_eq_ok, Unique.exists_iff,
    not_and] at hvalid
  obtain ⟨howner, hcollaborator⟩ := hvalid
  constructor
  · intro hnone
    cases hrole : extracted.workspaceRole with
    | owner => rfl
    | collaborator => exact absurd hnone (hcollaborator hrole)
  · intro hrole
    exact not_not.mp (howner hrole)

/-! ## The extraction -/

theorem faithful_of_claims (h : claims payload = .ok extracted) : Faithful payload extracted := by
  simp only [claims, except_bind_eq_ok] at h
  obtain ⟨user, huser, userId, huserId, workspace, hworkspace, workspaceId, hworkspaceId, role,
    hrole, workspaceRole, hworkspaceRole, sharedFileIds, hshared, exp, hexp, hnew⟩ := h
  have hfields := new_eq_ok hnew
  have habsent := absent_iff extracted
  obtain ⟨userText, rfl, huserText⟩ := UUID.ofJson_eq_ok.mp huserId
  obtain ⟨workspaceText, rfl, hworkspaceText⟩ := UUID.ofJson_eq_ok.mp hworkspaceId
  obtain rfl := role_eq_ok hworkspaceRole
  refine ⟨?_, ?_, ?_, habsent, ?_, ?_, fun fileId => ?_⟩
  · rw [hfields]
    exact ⟨userText, item_eq_ok.mp huser, huserText⟩
  · rw [hfields]
    exact ⟨workspaceText, item_eq_ok.mp hworkspace, hworkspaceText⟩
  · rw [hfields]
    exact item_eq_ok.mp hrole
  -- the list of file ids, if there is one, is parsed text by text
  · rw [hfields]
    intro ids hids
    obtain rfl := Option.mem_def.mp hids
    unfold JWTValidator.sharedFileIds at hshared
    split at hshared
    · cases hshared
    · cases hshared
    · next fileIds hfileIds =>
        simp only [except_bind_eq_ok, raiseIf_eq_ok, Unique.exists_iff, not_not] at hshared
        obtain ⟨htexts, -, hmap⟩ := hshared
        cases hmapM : fileIds.mapM UUID.ofJson with
        | error e => rw [hmapM] at hmap; cases hmap
        | ok ids' =>
            rw [hmapM] at hmap
            cases hmap
            obtain ⟨texts, rfl, hparse⟩ := texts_of_mapM htexts hmapM
            exact ⟨texts, hfileIds, hparse⟩
    · cases hshared
  · rw [hfields]
    exact item_eq_ok.mp hexp
  · rw [JWTClaims.hasAccessToFile]
    split
    · next howner => exact iff_of_true rfl (.inl howner)
    · next howner =>
        rw [Option.any_eq_true]
        simp only [decide_eq_true_eq, howner, false_or, Option.mem_def]

/-- What comes after the identifiers raises nothing but what is foreseen. -/
theorem raises_claims_iff : Raises isDataError (claims payload) ↔ Identified payload := by
  have hrest (userId workspaceId : UUID) : Raises isDataError (do
      let workspaceRole ← WorkspaceRole.ofJson (← item payload "workspace_role")
      let sharedFileIds ← JWTValidator.sharedFileIds payload
      let exp ← item payload "exp"
      JWTClaims.new { userId, workspaceId, workspaceRole, sharedFileIds, exp }) :=
    raises_bind (raises_item foresees_isDataError) fun _ => raises_bind raises_role fun _ =>
      raises_bind raises_sharedFileIds fun _ =>
        raises_bind (raises_item foresees_isDataError) fun _ => raises_new
  unfold claims Identified
  simp only [raises_bind_iff (x := item payload "user_id"),
    raises_bind_iff (x := item payload "active_workspace_id"),
    raises_bind_iff (x := UUID.ofJson _), raises_item foresees_isDataError,
    UUID.raises_ofJson_iff foresees_isDataError, item_eq_ok, true_and]
  constructor
  · intro h
    refine ⟨fun user huser => (h user huser).1, ?_⟩
    rintro ⟨userId, text, htext, hparse⟩ workspace hworkspace
    have huser := UUID.ofJson_eq_ok.mpr ⟨text, rfl, hparse⟩
    exact (((h _ htext).2 userId huser) workspace hworkspace).1
  · rintro ⟨huser, hworkspace⟩ user hget
    refine ⟨huser user hget, fun userId hid workspace hgetWorkspace => ?_⟩
    obtain ⟨text, rfl, hparse⟩ := UUID.ofJson_eq_ok.mp hid
    exact ⟨hworkspace ⟨userId, text, hget, hparse⟩ workspace hgetWorkspace,
      fun workspaceId _ => hrest userId workspaceId⟩

theorem not_invalid_of_isDataError (h : isDataError e = true) : !e.isInvalidTokenError := by
  cases e <;> first | rfl | cases h

/-- The body of the `try` block does not raise `InvalidTokenError` by itself. -/
theorem raises_claims : Raises (fun e => !e.isInvalidTokenError) (claims payload) := by
  have hcaught {α : Type} {x : Except Exc α} (hx : Raises isDataError x) :
      Raises (fun e => !e.isInvalidTokenError) x := fun e he => not_invalid_of_isDataError (hx e he)
  have hjson (value : Json) : Raises (fun e => !e.isInvalidTokenError) (UUID.ofJson value) := by
    intro e he
    cases value with
    | str text =>
        exact not_invalid_of_isDataError (by simp [isDataError, UUID.isValueError_of_parse he])
    | _ =>
        cases he
        rfl
  unfold claims
  have hitem (key : String) : Raises (fun e => !e.isInvalidTokenError) (item payload key) :=
    hcaught (raises_item foresees_isDataError)
  exact raises_bind (hitem _) fun _ => raises_bind (hjson _) fun _ => raises_bind (hitem _) fun _ =>
    raises_bind (hjson _) fun _ => raises_bind (hitem _) fun _ =>
      raises_bind (hcaught raises_role) fun _ => raises_bind (hcaught raises_sharedFileIds) fun _ =>
        raises_bind (hitem _) fun _ => hcaught raises_new

/-- What is extracted is faithful, or the token is refused as invalid, exactly if the identifiers
that are looked at are texts or null. -/
theorem extract_claims_iff (payload : List (Text × Json)) :
    (match extractClaims payload with
      | .ok extracted => Faithful payload extracted
      | .error e => e.isInvalidTokenError = true) ↔ Identified payload := by
  rw [← raises_claims_iff]
  unfold extractClaims tryExcept
  cases hclaims : claims payload with
  | ok extracted => exact iff_of_true (faithful_of_claims hclaims) (raises_ok _)
  | error e =>
      cases hcatches : isDataError e with
      | true =>
          change (match (if isDataError e then _ else _ : Except Exc JWTClaims) with
            | .ok extracted => Faithful payload extracted
            | .error e => e.isInvalidTokenError = true) ↔ _
          rw [if_pos hcatches]
          exact iff_of_true rfl (raises_error hcatches)
      | false =>
          change (match (if isDataError e then _ else _ : Except Exc JWTClaims) with
            | .ok extracted => Faithful payload extracted
            | .error e => e.isInvalidTokenError = true) ↔ _
          rw [if_neg (ne_true_of_eq_false hcatches)]
          have hother : e.isInvalidTokenError = false :=
            (Bool.not_eq_true' _).mp (raises_claims e hclaims)
          exact iff_of_false (ne_true_of_eq_false hother) fun h =>
            ne_true_of_eq_false hcatches (h e rfl)

/-! A token with a number for a user. -/

namespace Sample

def numericUser : List (Text × Json) :=
  [(.ofString "user_id", .int 5), (.ofString "active_workspace_id", .null),
    (.ofString "workspace_role", .str (.ofString "owner")), (.ofString "exp", .int 1)]

end Sample

/-- The claims are all there, and what escapes is an `AttributeError`. -/
theorem numeric_user_escapes :
    extractClaims Sample.numericUser =
      .error (.attributeError "'int' object has no attribute 'replace'") ∧
      ¬ (match extractClaims Sample.numericUser with
        | .ok extracted => Faithful Sample.numericUser extracted
        | .error e => e.isInvalidTokenError = true) := by
  have hescapes : extractClaims Sample.numericUser =
      .error (.attributeError "'int' object has no attribute 'replace'") := rfl
  refine ⟨hescapes, ?_⟩
  rw [hescapes]
  exact Bool.false_ne_true

end RagFileUploader.JWTValidator
