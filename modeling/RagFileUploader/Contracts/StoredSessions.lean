import RagFileUploader.Contracts.RoundTrip
import RagFileUploader.Contracts.StoredMetadata
import RagFileUploader.Infrastructure.StoredSession

/-!
# What is read of stored sessions

A stored hash is read as a session whose checks hold, or refused with `SerializationError`, unless
the constructor raises an exception that is no `ValueError`: for a size over the limit, for another
MIME type, and for a manifest entry that is no dictionary.

* `Translates` are the classes of exceptions that contain those which the store translates, and none
  of those that it lets through; `raises_parseFields`, `raises_session_iff` and
  `raises_checkChunks_iff` say when the parts of the reader stay in such a class.
* `raises_readHash_iff` puts the parts together for any reply, and `get_session_safe_iff` applies it
  to the translation that `get_session` makes.
-/

namespace RagFileUploader.Raw

open Encoding

variable {lib : StandardLibrary} {P : Exc → Bool}

/-- An entry of the manifest is a dictionary with an index, a size and a checksum. -/
def IsChunk (chunk : Json) : Prop :=
  ∃ items, chunk = .dict items ∧ Json.get? items "index" ≠ none ∧
    Json.get? items "size" ≠ none ∧ Json.get? items "checksum" ≠ none

/-- A dictionary, whatever its keys. -/
def IsDict (chunk : Json) : Prop := ∃ items, chunk = .dict items

/-- The checks that do not raise a `ValueError` are passed, or not come to. -/
structure SessionFields.Moderate (f : SessionFields) : Prop where
  size : Textual.validateFilename f.filename = .ok () → f.size ≤ maxFileSizeBytes
  mimeType : Textual.validateFilename f.filename = .ok () → 0 < f.size →
    f.size ≤ maxFileSizeBytes → f.mimeType ∈ allowedMimeTypes.map Text.ofString
  chunkManifest : f.bare.postInit = .ok () → ∀ before chunk after,
    f.chunkManifest = before ++ chunk :: after → (∀ c ∈ before, IsChunk c) → IsDict chunk

/-- What is stored, if all its fields can be read. -/
def Stands (lib : StandardLibrary) (rawData : HashBytes) (f : SessionFields) : Prop :=
  ∃ data, Textual.decodeHash rawData = some data ∧ parseFields lib data = .ok f

/-- What may come of a stored hash: a session whose checks hold, no session if the hash is empty, or
an error of the infrastructure, of which `SerializationError` is one. -/
def SafelyRead (reply : Except String HashBytes) : Except Exc (Option UploadSession) → Prop
  | .ok none => reply = .ok []
  | .ok (some session) =>
      session.bare.postInit = .ok () ∧ ∀ chunk ∈ session.chunkManifest, IsChunk chunk
  | .error e => e.isInfrastructureError = true

/-! ## The manifest -/

theorem checkChunk_eq_ok_iff {i : ℕ} {chunk : Json} :
    checkChunk i chunk = .ok () ↔ IsChunk chunk := by
  cases chunk with
  | dict items => simp [checkChunk, IsChunk, not_or]
  | _ => exact iff_of_false (fun h => by cases h) (by rintro ⟨_, ⟨⟩, _⟩)

theorem checkChunks_eq_ok_iff {i : ℕ} {chunks : List Json} :
    checkChunks i chunks = .ok () ↔ ∀ chunk ∈ chunks, IsChunk chunk := by
  induction chunks generalizing i with
  | nil => exact iff_of_true rfl (List.forall_mem_nil _)
  | cons chunk chunks ih =>
      rw [checkChunks, except_bind_eq_ok, List.forall_mem_cons, ← checkChunk_eq_ok_iff (i := i),
        ← ih (i := i + 1)]
      exact ⟨fun ⟨_, h, hrest⟩ => ⟨h, hrest⟩, fun ⟨h, hrest⟩ => ⟨(), h, hrest⟩⟩

/-- The exceptions that the reader translates. -/
structure Translates (P : Exc → Bool) : Prop where
  valueError : ∀ message, P (.valueError message) = true
  keyError : ∀ key, P (.keyError key) = true
  serializationError : ∀ message, P (.serializationError message) = true
  typeError : ∀ message, P (.typeError message) = false
  fileSizeLimitExceededError : ∀ size limit, P (.fileSizeLimitExceededError size limit) = false
  unsupportedMediaTypeError : ∀ mimeType allowed,
    P (.unsupportedMediaTypeError mimeType allowed) = false

theorem raises_checkChunk_iff (hP : Translates P) {i : ℕ} {chunk : Json} :
    Raises P (checkChunk i chunk) ↔ IsDict chunk := by
  cases chunk with
  | dict items => exact iff_of_true (raises_raiseIf (hP.valueError _)) ⟨items, rfl⟩
  | _ =>
      refine iff_of_false (fun h => ?_) nofun
      exact ne_true_of_eq_false (hP.typeError _) (h _ rfl)

theorem raises_checkChunks_iff (hP : Translates P) {i : ℕ} {chunks : List Json} :
    Raises P (checkChunks i chunks) ↔ ∀ before chunk after,
      chunks = before ++ chunk :: after → (∀ c ∈ before, IsChunk c) → IsDict chunk := by
  induction chunks generalizing i with
  | nil => exact iff_of_true (raises_ok _) fun before chunk after h => by simp at h
  | cons chunk chunks ih =>
      rw [checkChunks, raises_bind_iff, raises_checkChunk_iff hP]
      simp only [ih (i := i + 1)]
      constructor
      · rintro ⟨hchunk, hrest⟩ before c after h hbefore
        cases before with
        | nil => exact (List.cons.inj h).1 ▸ hchunk
        | cons b before =>
            obtain ⟨rfl, rfl⟩ := List.cons.inj h
            obtain ⟨hb, hbefore⟩ := List.forall_mem_cons.mp hbefore
            exact hrest () (checkChunk_eq_ok_iff.mpr hb) before c after rfl hbefore
      · intro h
        refine ⟨h [] chunk chunks rfl (List.forall_mem_nil _), fun _ hchunk => ?_⟩
        intro before c after heq hbefore
        exact h (chunk :: before) c after (congrArg (chunk :: ·) heq)
          (List.forall_mem_cons.mpr ⟨checkChunk_eq_ok_iff.mp hchunk, hbefore⟩)

/-! ## The constructor -/

theorem raises_raiseIf_iff {c : Prop} [Decidable c] {e : Exc} (h : P e = false) :
    Raises P (raiseIf c e) ↔ ¬ c := by
  constructor
  · intro hraises hc
    exact ne_true_of_eq_false h (hraises e (raiseIf_eq_error.mpr ⟨hc, rfl⟩))
  · intro hc e' he'
    exact absurd (raiseIf_eq_error.mp he').1 hc

theorem raises_validateFilename (hP : Translates P) {filename : Text} :
    Raises P (Textual.validateFilename filename) :=
  raises_bind (raises_raiseIf (hP.valueError _)) fun _ =>
    raises_bind (raises_raiseIf (hP.valueError _)) fun _ =>
      raises_bind (raises_raiseIf (hP.valueError _)) fun _ => raises_raiseIf (hP.valueError _)

theorem raises_bare_iff (hP : Translates P) {f : Textual.SessionFields} :
    Raises P f.postInit ↔
      (Textual.validateFilename f.filename = .ok () → f.size ≤ maxFileSizeBytes) ∧
        (Textual.validateFilename f.filename = .ok () → 0 < f.size → f.size ≤ maxFileSizeBytes →
          f.mimeType ∈ allowedMimeTypes.map Text.ofString) := by
  have hvalue (c : Prop) [Decidable c] (message : String) :
      Raises P (raiseIf c (.valueError message)) := raises_raiseIf (hP.valueError message)
  have hsize (c : Prop) [Decidable c] (size limit : ℤ) :
      Raises P (raiseIf c (.fileSizeLimitExceededError size limit)) ↔ ¬ c :=
    raises_raiseIf_iff (hP.fileSizeLimitExceededError size limit)
  have hmime (c : Prop) [Decidable c] (mimeType : String) (allowed : List String) :
      Raises P (raiseIf c (.unsupportedMediaTypeError mimeType allowed)) ↔ ¬ c :=
    raises_raiseIf_iff (hP.unsupportedMediaTypeError mimeType allowed)
  simp only [Textual.SessionFields.postInit, raises_bind_iff, raises_validateFilename hP, hvalue,
    hsize, hmime, raiseIf_eq_ok, true_and, implies_true, and_true, not_not, gt_iff_lt, forall_const]
  rw [maxFileSizeBytes]
  constructor
  · intro h
    refine ⟨fun hname => ?_, fun hname hpos hmax => ?_⟩
    · by_contra hlarge
      have := (h () hname (by omega)).1
      omega
    · exact (h () hname (by omega)).2 (by omega)
  · rintro ⟨hsize, hmime⟩ _ hname hpos
    have := hsize hname
    exact ⟨by omega, fun _ => hmime hname (by omega) this⟩

theorem raises_session_iff (hP : Translates P) {f : SessionFields} :
    Raises P (UploadSession.new f) ↔ f.Moderate := by
  have hpost : Raises P (UploadSession.new f) ↔ Raises P f.postInit := by
    unfold UploadSession.new
    split
    · next h => exact iff_of_true (raises_ok _) (h ▸ raises_ok _)
    · next e h =>
        rw [h]
        exact ⟨fun he => raises_error (he e rfl), fun he => raises_error (he e rfl)⟩
  rw [hpost, SessionFields.postInit, raises_bind_iff, raises_bare_iff hP]
  simp only [raises_checkChunks_iff hP]
  constructor
  · rintro ⟨⟨hsize, hmime⟩, hchunks⟩
    exact ⟨hsize, hmime, fun h => hchunks () h⟩
  · rintro ⟨hsize, hmime, hchunks⟩
    exact ⟨⟨hsize, hmime⟩, fun _ h => hchunks h⟩

/-! ## The fields -/

theorem raises_parseFields (hP : Translates P) {data : Textual.Hash} :
    Raises P (parseFields lib data) := by
  have hget (key : String) : Raises P (data.get key) := by
    unfold Textual.Hash.get
    split
    · exact raises_ok _
    · exact raises_error (hP.keyError _)
  have hparse {α : Type} (read : Text → Except String α) (text : Text) :
      Raises P (parse read text) := by
    unfold parse
    cases read text with
    | ok a => exact raises_ok a
    | error message => exact raises_error (hP.valueError _)
  have hmanifest (text : Text) : Raises P (parseManifest lib text) := by
    refine raises_bind (hparse _ _) fun value => ?_
    split
    · exact raises_pure _
    · exact raises_error (hP.serializationError _)
  have hid (text : Text) : Raises P (UUID.parse text) := by
    intro e he
    have hvalue := UUID.isValueError_of_parse he
    cases e with
    | valueError message => exact hP.valueError message
    | _ => cases hvalue
  have hint (text : Text) : Raises P (parseInt text) := by
    unfold parseInt
    split
    · exact raises_ok _
    · exact raises_error (hP.valueError _)
  have hchecksum (text : Text) : Raises P (Textual.parseChecksum text) := by
    unfold Textual.parseChecksum SHA256Hash.new
    split
    · split
      · exact raises_error (hP.valueError _)
      · split
        · exact raises_ok _
        · exact raises_error (hP.valueError _)
    · exact raises_error (hP.valueError _)
  have hstatus (text : Text) : Raises P (Textual.parseStatus text) := by
    unfold Textual.parseStatus RedisSessionStore.parseStatus
    split
    · exact raises_ok _
    · exact raises_error (hP.valueError _)
  have hread {β γ : Type} {key : String} {read : Text → Except Exc β} {rest : β → Except Exc γ}
      (hvalue : ∀ text, Raises P (read text)) (hrest : ∀ b, Raises P (rest b)) :
      Raises P (data.get key >>= fun text => read text >>= rest) :=
    raises_bind (hget key) fun text => raises_bind (hvalue text) hrest
  have htime : ∀ text, Raises P (parse lib.fromisoformat text) := hparse _
  -- one step for each field, in the order in which they are read
  refine hread hmanifest fun _ => ?_
  refine hread hid fun _ => ?_
  refine hread hid fun _ => ?_
  refine raises_bind (hget _) fun _ => ?_
  refine hread hint fun _ => ?_
  refine raises_bind (hget _) fun _ => ?_
  refine hread hchecksum fun _ => ?_
  refine hread hint fun _ => ?_
  refine hread hstatus fun _ => ?_
  refine hread htime fun _ => ?_
  exact hread htime fun _ => raises_pure _

/-! ## The store -/

variable {hgetall : SessionKey → Except String HashBytes} {w s : UUID} {key : SessionKey}

/-- The body of the `try` block. -/
def readHash (lib : StandardLibrary) (reply : Except String HashBytes) :
    Except Exc (Option UploadSession) := do
  let rawData ← reply.mapError .redisError
  if rawData.isEmpty then pure none
  else some <$> (decodeHash rawData >>= deserializeSession lib)

theorem getSession_eq (hkey : sessionKey w s = .ok key) :
    getSession lib hgetall w s = tryCatch (readHash lib (hgetall key)) fun e => throw
      (RedisSessionStore.readError "Failed to retrieve session: " "Invalid session data: " e) := by
  rw [getSession, hkey]
  rfl

theorem translates_readError : Translates fun e => (RedisSessionStore.readError
    "Failed to retrieve session: " "Invalid session data: " e).isInfrastructureError :=
  ⟨fun _ => rfl, fun _ => rfl, fun _ => rfl, fun _ => rfl, fun _ _ => rfl, fun _ _ => rfl⟩

theorem decodeHash_eq_ok {rawData : HashBytes} {data : Textual.Hash} :
    decodeHash rawData = .ok data ↔ Textual.decodeHash rawData = some data := by
  unfold decodeHash
  split <;> simp_all

/-- Only the empty hash is taken for no session. -/
theorem readHash_eq_none {reply : Except String HashBytes} (h : readHash lib reply = .ok none) :
    reply = .ok [] := by
  obtain ⟨rawData, hreply, hrest⟩ := except_bind_eq_ok.mp h
  cases reply with
  | error message => cases hreply
  | ok rawData' =>
      cases hreply
      split at hrest
      · next hempty => rw [List.isEmpty_iff.mp hempty]
      · cases hread : decodeHash rawData >>= deserializeSession lib with
        | ok session => rw [hread] at hrest; cases hrest
        | error e => rw [hread] at hrest; cases hrest

theorem raises_readHash_iff (hP : Translates P) (hredis : ∀ message, P (.redisError message) = true)
    {reply : Except String HashBytes} :
    Raises P (readHash lib reply) ↔
      ∀ rawData f, reply = .ok rawData → Stands lib rawData f → f.Moderate := by
  cases reply with
  | error message =>
      exact iff_of_true (raises_error (hredis message)) fun _ _ h => nomatch h
  | ok rawData =>
      have hdecode : Raises P (decodeHash rawData) := by
        unfold decodeHash
        split
        · exact raises_ok _
        · exact raises_error (hP.valueError _)
      have hbody : Raises P (decodeHash rawData >>= deserializeSession lib) ↔
          ∀ f, Stands lib rawData f → f.Moderate := by
        simp only [deserializeSession, raises_bind_iff, hdecode, raises_parseFields hP,
          raises_session_iff hP, decodeHash_eq_ok, true_and]
        exact ⟨fun h f ⟨data, hdata, hf⟩ => h data hdata f hf,
          fun h data hdata f hf => h f ⟨data, hdata, hf⟩⟩
      have hread : readHash lib (.ok rawData) = if rawData.isEmpty then pure none
          else some <$> (decodeHash rawData >>= deserializeSession lib) := rfl
      rw [hread]
      constructor
      · rintro h _ f ⟨⟩ hf
        split at h
        · next hempty =>
            -- the empty hash has no fields
            obtain rfl := List.isEmpty_iff.mp hempty
            obtain ⟨data, hdata, hfields⟩ := hf
            cases hdata
            cases hfields
        · exact hbody.mp (raises_map_iff.mp h) f hf
      · intro h
        split
        · exact raises_pure none
        · exact raises_map_iff.mpr (hbody.mpr fun f => h rawData f rfl)

/-- The reader translates whatever is raised if the outcome is safe. -/
theorem raises_of_safelyRead (hkey : sessionKey w s = .ok key)
    (h : SafelyRead (hgetall key) (getSession lib hgetall w s)) :
    Raises (fun e => (RedisSessionStore.readError "Failed to retrieve session: "
      "Invalid session data: " e).isInfrastructureError) (readHash lib (hgetall key)) := by
  intro e he
  rw [getSession_eq hkey, he] at h
  change (RedisSessionStore.readError _ _ e).isInfrastructureError = true at h
  exact h

/-- What is stored under the key of a session is safely read exactly if no limit is exceeded in
it. -/
theorem get_session_safe_iff (lib : StandardLibrary)
    (hgetall : SessionKey → Except String HashBytes) (hkey : sessionKey w s = .ok key) :
    SafelyRead (hgetall key) (getSession lib hgetall w s) ↔
      ∀ rawData f, hgetall key = .ok rawData → Stands lib rawData f → f.Moderate := by
  rw [← raises_readHash_iff translates_readError fun _ => rfl]
  refine ⟨raises_of_safelyRead hkey, fun hraises => ?_⟩
  rw [getSession_eq hkey]
  cases hread : readHash lib (hgetall key) with
  | error e =>
      change (RedisSessionStore.readError _ _ e).isInfrastructureError = true
      exact hraises e hread
  | ok found =>
      cases found with
      | none => exact readHash_eq_none hread
      | some session =>
          obtain ⟨_, hbare, hchunks⟩ := except_bind_eq_ok.mp session.valid
          exact ⟨hbare, checkChunks_eq_ok_iff.mp hchunks⟩

/-! ## A session of another type -/

namespace Known

/-- The fields of a session for an image. -/
def image : SessionFields where
  sessionId := session
  workspaceId := workspace
  filename := .ofString "a.pdf"
  size := 1
  mimeType := .ofString "image/png"
  sha256Checksum := .fromBytes [1]
  offset := 0
  status := .pending
  createdAt := time
  expiresAt := time
  chunkManifest := []

def imageHash : Textual.Hash :=
  [(.ofString "session_id", .ofString session.str),
    (.ofString "workspace_id", .ofString workspace.str),
    (.ofString "filename", .ofString "a.pdf"),
    (.ofString "size", .ofString "1"),
    (.ofString "mime_type", .ofString "image/png"),
    (.ofString "sha256_checksum", .ofString image.sha256Checksum.value),
    (.ofString "offset", .ofString "0"),
    (.ofString "status", .ofString "pending"),
    (.ofString "created_at", .ofString "2026-05-01T10:30:30.500001+00:00:30.500000"),
    (.ofString "expires_at", .ofString "2026-05-01T10:30:30.500001+00:00:30.500000"),
    (.ofString "chunk_manifest", .ofString "[]")]

/-- Knows the JSON text of the empty list instead. -/
def listLibrary : StandardLibrary :=
  { library with
    loads := fun text =>
      if text = .ofString "[]" then .ok (.list []) else .error "Expecting value" }

/-- Redis holds the hash under every key. -/
def holdsImage : SessionKey → Except String HashBytes :=
  fun _ => .ok ((Textual.encodeHash imageHash).getD [])

theorem parseFields_imageHash : parseFields listLibrary imageHash = .ok image := by
  have hget (key : String) (value : Text)
      (h : imageHash.lookup (Text.ofString key) = some value) :
      imageHash.get key = .ok value := by
    rw [Textual.Hash.get, h]
  have hloads : listLibrary.loads (.ofString "[]") = .ok (.list []) := by
    unfold listLibrary
    dsimp only
    rw [if_pos rfl]
  have hmanifest : parseManifest listLibrary (.ofString "[]") = .ok [] := by
    rw [parseManifest, parse, hloads]
    rfl
  have htime : parse listLibrary.fromisoformat
      (.ofString "2026-05-01T10:30:30.500001+00:00:30.500000") = .ok time := by
    unfold parse listLibrary library
    dsimp only
    rw [Text.display_ofString, fromisoformat_time]
    rfl
  have hsize : parseInt (.ofString "1") = .ok 1 := by decide +kernel
  have hoffset : parseInt (.ofString "0") = .ok 0 := by decide +kernel
  have hstatus : Textual.parseStatus (.ofString "pending") = .ok .pending :=
    Textual.parseStatus_ofString .pending
  unfold parseFields
  simp only [hget "chunk_manifest" _ rfl, hget "session_id" _ rfl, hget "workspace_id" _ rfl,
    hget "filename" _ rfl, hget "size" _ rfl, hget "mime_type" _ rfl,
    hget "sha256_checksum" _ rfl, hget "offset" _ rfl, hget "status" _ rfl,
    hget "created_at" _ rfl, hget "expires_at" _ rfl, hmanifest, UUID.parse_str, hsize, hoffset,
    htime, hstatus, Textual.parseChecksum_ofString, bind, Except.bind, pure, Except.pure]
  rfl

theorem stands_image :
    Stands listLibrary ((Textual.encodeHash imageHash).getD []) image := by
  refine ⟨imageHash, ?_, parseFields_imageHash⟩
  have hencodable : ∀ field ∈ imageHash, field.1.Encodable ∧ field.2.Encodable := by
    simp only [imageHash, List.forall_mem_cons, List.not_mem_nil, false_implies, implies_true,
      Text.encodable_ofString, and_true]
  obtain ⟨bytes, hbytes⟩ := Textual.encode_of_encodable hencodable
  rw [hbytes, Option.getD_some]
  exact Textual.decode_of_encode hbytes

end Known

open Known in
theorem get_session_safe_iff_sample :
    SafelyRead (holdsImage ⟨workspace, session⟩)
        (getSession listLibrary holdsImage workspace session) ↔
      ∀ rawData f, holdsImage ⟨workspace, session⟩ = .ok rawData →
        Stands listLibrary rawData f → f.Moderate :=
  get_session_safe_iff listLibrary holdsImage
    (show sessionKey workspace session = .ok ⟨workspace, session⟩ from rfl)

open Known in
/-- Another stored MIME type ends in an exception that the reader does not translate. -/
theorem image_session_escapes :
    ¬ SafelyRead (holdsImage ⟨workspace, session⟩)
      (getSession listLibrary holdsImage workspace session) := by
  have himage : ¬ image.Moderate := fun hmoderate =>
    absurd (hmoderate.mimeType (by decide +kernel) (by decide) (by decide)) (by decide +kernel)
  exact mt (raises_of_safelyRead rfl) (mt (raises_readHash_iff translates_readError
    fun _ => rfl).mp fun hall => himage (hall _ _ rfl stands_image))

end RagFileUploader.Raw
