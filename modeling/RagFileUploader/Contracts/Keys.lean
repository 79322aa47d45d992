import RagFileUploader.Encoding.Literals
import RagFileUploader.Infrastructure.SessionStore

/-!
# The keys as strings

The world of `Infrastructure/World.lean` has one keyspace for each family of keys, indexed by what
the key is built from.  Redis has a single one, indexed by strings.  That no two keys are the same
string, within a family or across families, is what lets the families be kept apart.
-/

namespace RagFileUploader

/-- A key, with what it is built from. -/
inductive RedisKey where
  | session (workspaceId documentId : UUID)
  | expiry (sessionId : UUID)
  | chunk (workspaceId sessionId : UUID) (index : ℤ)
  | dedup (workspaceId : UUID)
  | rateLimit (workspaceId : UUID)
  | deadLetter (fileId : UUID)
  deriving DecidableEq

namespace RedisKey

/-- The string of the key. -/
def text : RedisKey → String
  | session workspaceId documentId => s!"session:workspace_{workspaceId}:document_{documentId}"
  | expiry sessionId => s!"session:expiry:{sessionId}"
  | chunk workspaceId sessionId index =>
      s!"chunk:workspace_{workspaceId}:session_{sessionId}:index_{index}"
  | dedup workspaceId => s!"dedup:workspace_{workspaceId}"
  | rateLimit workspaceId => s!"ratelimit:workspace_{workspaceId}"
  | deadLetter fileId => s!"dlq:file_load_completed:{fileId}"

/-- The checks of `key_builder.py`.  The other keys are formatted where they are used. -/
def check : RedisKey → Except Exc Unit
  | session workspaceId documentId => do
      validateWorkspaceId workspaceId
      validateDocumentId documentId
  | dedup workspaceId | rateLimit workspaceId => validateWorkspaceId workspaceId
  | expiry _ | chunk .. | deadLetter _ => pure ()

def build (key : RedisKey) : Except Exc String := do
  key.check
  pure key.text

/-- `session_key`. -/
def sessionKey (workspaceId documentId : UUID) : Except Exc String :=
  build (.session workspaceId documentId)

/-- `dedup_key`. -/
def dedupKey (workspaceId : UUID) : Except Exc String := build (.dedup workspaceId)

/-- `rate_limit_key`. -/
def rateLimitKey (workspaceId : UUID) : Except Exc String := build (.rateLimit workspaceId)

/-- The keys of the typed stores are these strings, and raise what these raise. -/
theorem sessionKey_eq (w d : UUID) : sessionKey w d =
    (RagFileUploader.sessionKey w d).map fun key =>
      (session key.workspaceId key.documentId).text := by
  unfold sessionKey build check RagFileUploader.sessionKey
  dsimp only
  cases validateWorkspaceId w with
  | error e => rfl
  | ok _ => cases validateDocumentId d <;> rfl

theorem dedupKey_eq (w : UUID) :
    dedupKey w = (RagFileUploader.dedupKey w).map fun key => (dedup key).text := by
  unfold dedupKey build check RagFileUploader.dedupKey workspaceKey
  dsimp only
  cases validateWorkspaceId w <;> rfl

theorem rateLimitKey_eq (w : UUID) :
    rateLimitKey w = (RagFileUploader.rateLimitKey w).map fun key => (rateLimit key).text := by
  unfold rateLimitKey build check RagFileUploader.rateLimitKey workspaceKey
  dsimp only
  cases validateWorkspaceId w <;> rfl

/-! ## No two are the same -/

inductive Family where
  | session
  | expiry
  | chunk
  | dedup
  | rateLimit
  | deadLetter
  deriving DecidableEq

/-- What the keys of a family begin with. -/
def Family.opening : Family → String
  | session => "session:workspace_"
  | expiry => "session:expiry:"
  | chunk => "chunk:workspace_"
  | dedup => "dedup:workspace_"
  | rateLimit => "ratelimit:workspace_"
  | deadLetter => "dlq:file_load_completed:"

/-- No family's keys begin like those of another; nine characters tell. -/
theorem Family.eq_of_take {f g : Family}
    (h : f.opening.toList.take 9 = g.opening.toList.take 9) : f = g := by
  have hall : ∀ f g : Family, f.opening.toList.take 9 = g.opening.toList.take 9 → f = g := by
    intro f g
    cases f <;> cases g <;> first | exact fun _ => rfl | (intro h; revert h; decide +kernel)
  exact hall f g h

theorem Family.nine_le_length (f : Family) : 9 ≤ f.opening.toList.length := by
  cases f <;> decide +kernel

def family : RedisKey → Family
  | session .. => .session
  | expiry _ => .expiry
  | chunk .. => .chunk
  | dedup _ => .dedup
  | rateLimit _ => .rateLimit
  | deadLetter _ => .deadLetter

/-- What follows the opening. -/
def arguments : RedisKey → String
  | session workspaceId documentId => workspaceId.str ++ (":document_" ++ documentId.str)
  | chunk workspaceId sessionId index =>
      workspaceId.str ++ (":session_" ++ (sessionId.str ++ (":index_" ++ toString index)))
  | expiry id | dedup id | rateLimit id | deadLetter id => id.str

theorem text_eq (key : RedisKey) : key.text = key.family.opening ++ key.arguments := by
  cases key with
  | session workspaceId documentId =>
      change "session:workspace_" ++ workspaceId.str ++ ":document_" ++ documentId.str =
        "session:workspace_" ++ (workspaceId.str ++ (":document_" ++ documentId.str))
      simp only [String.append_assoc]
  | chunk workspaceId sessionId index =>
      change "chunk:workspace_" ++ workspaceId.str ++ ":session_" ++ sessionId.str ++ ":index_" ++
        toString index = "chunk:workspace_" ++
          (workspaceId.str ++ (":session_" ++ (sessionId.str ++ (":index_" ++ toString index))))
      simp only [String.append_assoc]
  | _ => rfl

/-- What follows a common part does not depend on it. -/
theorem append_left_inj {s t u : String} (h : s ++ t = s ++ u) : t = u := by
  have hlist := congrArg String.toList h
  rw [String.toList_append, String.toList_append] at hlist
  exact String.toList_inj.mp (List.append_cancel_left hlist)

/-- Identifiers have the same length, so that what follows one does not matter. -/
theorem str_append_inj {u v : UUID} {s t : String} (h : u.str ++ s = v.str ++ t) :
    u = v ∧ s = t := by
  have hlength : ∀ u : UUID, u.str.toList.length = 36 := fun u => by simp [UUID.str]
  have hlist := congrArg String.toList h
  rw [String.toList_append, String.toList_append] at hlist
  obtain ⟨hstr, hrest⟩ := List.append_inj hlist (by rw [hlength, hlength])
  exact ⟨UUID.str_injective (String.toList_inj.mp hstr), String.toList_inj.mp hrest⟩

theorem family_eq_of_text {a b : RedisKey} (h : a.text = b.text) : a.family = b.family := by
  have htake : ∀ key : RedisKey,
      key.text.toList.take 9 = key.family.opening.toList.take 9 := fun key => by
    rw [text_eq, String.toList_append]
    exact List.take_append_of_le_length key.family.nine_le_length
  apply Family.eq_of_take
  rw [← htake a, ← htake b, h]

/-- Within a family the arguments tell. -/
theorem eq_of_arguments {a b : RedisKey} (hfamily : a.family = b.family)
    (h : a.arguments = b.arguments) : a = b := by
  cases a with
  | session workspaceId documentId =>
      cases b with
      | session workspaceId' documentId' =>
          have hsession : workspaceId.str ++ (":document_" ++ documentId.str) =
              workspaceId'.str ++ (":document_" ++ documentId'.str) := h
          obtain ⟨rfl, hrest⟩ := str_append_inj hsession
          rw [UUID.str_injective (append_left_inj hrest)]
      | _ => cases hfamily
  | chunk workspaceId sessionId index =>
      cases b with
      | chunk workspaceId' sessionId' index' =>
          have hchunk : workspaceId.str ++
                (":session_" ++ (sessionId.str ++ (":index_" ++ toString index))) =
              workspaceId'.str ++
                (":session_" ++ (sessionId'.str ++ (":index_" ++ toString index'))) := h
          obtain ⟨rfl, hrest⟩ := str_append_inj hchunk
          obtain ⟨rfl, hend⟩ := str_append_inj (append_left_inj hrest)
          have hindex : toString index = toString index' := append_left_inj hend
          rw [Encoding.toString_int_injective hindex]
      | _ => cases hfamily
  | expiry sessionId =>
      cases b with
      | expiry sessionId' => exact congrArg expiry (UUID.str_injective h)
      | _ => cases hfamily
  | dedup workspaceId =>
      cases b with
      | dedup workspaceId' => exact congrArg dedup (UUID.str_injective h)
      | _ => cases hfamily
  | rateLimit workspaceId =>
      cases b with
      | rateLimit workspaceId' => exact congrArg rateLimit (UUID.str_injective h)
      | _ => cases hfamily
  | deadLetter fileId =>
      cases b with
      | deadLetter fileId' => exact congrArg deadLetter (UUID.str_injective h)
      | _ => cases hfamily

theorem text_injective : Function.Injective text := by
  intro a b h
  have hfamily := family_eq_of_text h
  refine eq_of_arguments hfamily ?_
  rw [text_eq, text_eq, hfamily] at h
  exact append_left_inj h

/-- A key that is built is its string. -/
theorem build_eq_ok {key : RedisKey} {built : String} (h : key.build = .ok built) :
    built = key.text := by
  obtain ⟨-, -, htext⟩ := except_bind_eq_ok.mp (show (key.check >>= _) = _ from h)
  exact (Except.ok.inj htext).symm

/-- Keys of different families, or of one family and built from different arguments, are different
strings. -/
theorem build_injective {a b : RedisKey} (hne : a ≠ b) {built built' : String}
    (ha : a.build = .ok built) (hb : b.build = .ok built') : built ≠ built' := by
  rintro rfl
  exact hne (text_injective ((build_eq_ok ha).symm.trans (build_eq_ok hb)))

theorem build_injective_sample :
    (chunk ⟨1⟩ ⟨7⟩ 1).text ≠ (chunk ⟨1⟩ ⟨7⟩ 11).text :=
  build_injective (a := chunk ⟨1⟩ ⟨7⟩ 1) (b := chunk ⟨1⟩ ⟨7⟩ 11) (by decide) rfl rfl

end RedisKey

end RagFileUploader
