import RagFileUploader.Domain.UploadSession
import RagFileUploader.Infrastructure.MetadataText

/-!
# What is read of stored metadata

Metadata that is written is read back as it was, whatever the offset of its time from UTC.  Anything
else that is stored is refused with `SerializationError`, unless a method is called on a value
whose type has not been looked at.

* `metadata_round_trip` rests on the form of the timestamps (`numeric_isoformat`): they contain no
  `Z` for the reader to replace.
* `raises_deserializeMetadata_iff` says for a class of exceptions when reading stays in it; the
  lemmas before it are its parts, in the order of the code.
* `check_duplicate_contract_iff` takes this through the two Redis commands.
-/

namespace RagFileUploader

open Encoding

/-! ## Timestamps -/

namespace DateTime

/-- The text consists of digits and of the marks of the ISO format. -/
def Numeric (text : String) : Prop :=
  ∀ c ∈ text.toList, c.isDigit = true ∨ c ∈ ['-', 'T', ':', '.', '+']

theorem Numeric.append {a b : String} (ha : Numeric a) (hb : Numeric b) : Numeric (a ++ b) := by
  intro c hc
  rw [String.toList_append, List.mem_append] at hc
  exact hc.elim (ha c) (hb c)

theorem numeric_zeroPad (width n : ℕ) : Numeric (zeroPad width n) := by
  intro c hc
  rw [zeroPad, String.toList_ofList, List.mem_append] at hc
  rcases hc with hc | hc
  · rw [List.eq_of_mem_replicate hc]
    exact .inl rfl
  · rw [show (toString n).toList = Nat.toDigits 10 n from Nat.toList_repr] at hc
    exact .inl (Nat.isDigit_of_mem_toDigits (by decide) (by decide) hc)

theorem numeric_mark {mark : String} (h : ∀ c ∈ mark.toList, c ∈ ['-', 'T', ':', '.', '+']) :
    Numeric mark :=
  fun c hc => .inr (h c hc)

theorem numeric_clock (microseconds : ℤ) (seconds : Bool) :
    Numeric (clock microseconds seconds) := by
  have hcolon : Numeric ":" := numeric_mark (by decide)
  have hdot : Numeric "." := numeric_mark (by decide)
  have hpad := numeric_zeroPad
  unfold clock
  dsimp only
  split
  · exact (((((hpad _ _).append hcolon).append (hpad _ _)).append
      (hcolon.append (hpad _ _))).append hdot).append (hpad _ _)
  · split
    · exact (((hpad _ _).append hcolon).append (hpad _ _)).append (hcolon.append (hpad _ _))
    · exact ((hpad _ _).append hcolon).append (hpad _ _)

theorem numeric_isoformat (t : DateTime) : Numeric t.isoformat := by
  have hpad := numeric_zeroPad
  have hdash : Numeric "-" := numeric_mark (by decide)
  refine ((((((((hpad _ _).append hdash).append (hpad _ _)).append hdash).append
    (hpad _ _)).append (numeric_mark (by decide))).append (numeric_clock _ _)).append ?_)
  -- the zone
  cases t.tzinfo with
  | none => exact numeric_mark (by decide)
  | some o =>
      refine Numeric.append ?_ (numeric_clock _ _)
      split
      · exact hdash
      · exact numeric_mark (by decide)

end DateTime

namespace Raw

variable {lib : StandardLibrary} {m : FileMetadata}

/-! ## The round trip -/

/-- The readers undo the writers on the values of the metadata, and what `json.dumps` writes can be
encoded. -/
structure StandardLibrary.Inverts (lib : StandardLibrary) (m : FileMetadata) : Prop where
  loads_dumps : lib.loads (lib.dumps m.toJson) = .ok m.toJson
  fromisoformat_isoformat :
    lib.fromisoformat (.ofString m.uploadedAt.isoformat) = .ok m.uploadedAt
  encodable_dumps : (lib.dumps m.toJson).Encodable

/-- What the checks of the constructor have found out. -/
theorem FileMetadata.checked (m : FileMetadata) :
    isNegative m.size = .ok false ∧ m.size.int? ≠ none ∧ m.uploadedAt.tzinfo ≠ none ∧
      isBlank m.s3Path = .ok false := by
  have hvalid := m.valid
  simp only [MetadataFields.postInit, except_bind_eq_ok, raiseIf_eq_ok, Unique.exists_iff,
    Bool.not_eq_true] at hvalid
  obtain ⟨negative, hnegative, rfl, hint, htz, blank, hblank, rfl⟩ := hvalid
  exact ⟨hnegative, hint, htz, hblank⟩

theorem FileMetadata.new_toMetadataFields (m : FileMetadata) :
    FileMetadata.new m.toMetadataFields = .ok m := by
  unfold FileMetadata.new
  split
  · rfl
  · next e h => rw [m.valid] at h; cases h

/-- The rewriting of the offset is undone, for there is no `Z` in an ISO timestamp. -/
theorem replace_offset (t : DateTime) :
    replace (Text.ofString "Z") (Text.ofString "+00:00")
      (replace (Text.ofString "+00:00") (Text.ofString "Z") (Text.ofString t.isoformat)) =
        Text.ofString t.isoformat := by
  refine replace_replace (a := CodePoint.ofChar 'Z') (by decide) fun hmem => ?_
  obtain ⟨c, hc, heq⟩ := List.mem_map.mp hmem
  obtain rfl := CodePoint.ofChar_injective heq
  exact absurd (t.numeric_isoformat _ hc) (by decide)

theorem parseMetadata_toJson (hlib : lib.Inverts m) : parseMetadata lib m.toJson = .ok m := by
  obtain ⟨hnegative, hint, -, -⟩ := m.checked
  have htime : parseTimestamp lib (.str (replace (Text.ofString "+00:00") (Text.ofString "Z")
      (Text.ofString m.uploadedAt.isoformat))) = .ok m.uploadedAt := by
    rw [parseTimestamp, replace_offset, parse, hlib.fromisoformat_isoformat]
    rfl
  have hid : UUID.ofJson (.str (.ofString m.fileId.str)) = .ok m.fileId := m.fileId.parse_str
  have hnew : FileMetadata.new ⟨m.fileId, m.s3Path, m.size, m.uploadedAt⟩ = .ok m :=
    m.new_toMetadataFields
  have hget (key : String) (value : Json) (h : (match m.toJson with
      | .dict items => Json.get? items key
      | _ => none) = some value) : subscript m.toJson key = .ok value :=
    item_eq_ok.mpr h
  unfold parseMetadata
  simp only [hget "file_id" _ rfl, hget "s3_path" _ rfl, hget "size" _ rfl,
    hget "uploaded_at" _ rfl, hid, htime, hnew, hnegative, hint, bind, Except.bind, raiseIf,
    Bool.false_eq_true, if_false, pure, Except.pure]

theorem serializeMetadata_eq (m : FileMetadata) :
    serializeMetadata lib m = .ok (lib.dumps m.toJson) := by
  obtain ⟨-, -, htz, hpath⟩ := m.checked
  have hnull : ¬ m.s3Path.isNull = true := by
    intro h
    cases hvalue : m.s3Path with
    | null => rw [hvalue] at hpath; cases hpath
    | _ => rw [hvalue] at h; cases h
  exact except_bind_eq_ok.mpr ⟨(), raiseIf_eq_ok.mpr hnull,
    except_bind_eq_ok.mpr ⟨(), raiseIf_eq_ok.mpr htz, rfl⟩⟩

theorem deserializeMetadata_dumps (hlib : lib.Inverts m) {reply : ByteArray ⊕ Text}
    (hreply : replyText reply = .ok (lib.dumps m.toJson)) :
    deserializeMetadata lib reply = .ok m := by
  have hloads : parse lib.loads (lib.dumps m.toJson) = .ok m.toJson := by
    rw [parse, hlib.loads_dumps]
    rfl
  have hbody : (do
      let data ← parse lib.loads (← replyText reply)
      parseMetadata lib data) = .ok m :=
    except_bind_eq_ok.mpr ⟨_, hreply,
      except_bind_eq_ok.mpr ⟨_, hloads, parseMetadata_toJson hlib⟩⟩
  rw [deserializeMetadata, hbody]
  rfl

/-- Metadata that the constructor accepts is read back from what is written, be it as a text or
encoded. -/
theorem metadata_round_trip (hlib : lib.Inverts m) :
    ∃ text, serializeMetadata lib m = .ok text ∧
      deserializeMetadata lib (.inr text) = .ok m ∧
        ∃ bytes, text.encode = some bytes ∧ deserializeMetadata lib (.inl bytes) = .ok m := by
  refine ⟨_, serializeMetadata_eq m, deserializeMetadata_dumps hlib rfl, ?_⟩
  obtain ⟨bytes, hbytes⟩ := Option.ne_none_iff_exists'.mp hlib.encodable_dumps
  refine ⟨bytes, hbytes, deserializeMetadata_dumps hlib ?_⟩
  rw [replyText, Text.decode_of_encode hbytes]

/-! ## Whatever is stored -/

/-- The types are as they are taken to be where they matter: `file_id` is a text or null; if it is
an identifier, and no field is missing, `uploaded_at` is a text; and if there is nothing else
wrong, `s3_path` is a text or counts as false. -/
def Readable (lib : StandardLibrary) (data : Json) : Prop :=
  ∀ items, data = .dict items →
    (∀ fileId ∈ Json.get? items "file_id", UUID.Readable fileId) ∧
      ∀ id s3Path size uploadedAt, UUID.Under items "file_id" id →
        Json.get? items "s3_path" = some s3Path → Json.get? items "size" = some size →
          Json.get? items "uploaded_at" = some uploadedAt →
            uploadedAt.isText = true ∧
              ∀ time, parseTimestamp lib uploadedAt = .ok time → time.tzinfo ≠ none →
                (∃ n, size.int? = some n ∧ 0 ≤ n) → s3Path.truthy = true → s3Path.isText = true

/-- The call is not disturbed: the workspace is not nil, neither call runs into its timeout, and the
types in what is found are as they are taken to be. -/
structure Undisturbed (lib : StandardLibrary) (redis : Fingerprints) (workspaceId : UUID)
    (sha256 : SHA256Hash) : Prop where
  workspace : workspaceId ≠ .nil
  hexists : redis.hexists workspaceId sha256.value ≠ .timeout
  hget : redis.hexists workspaceId sha256.value = .value true →
    redis.hget workspaceId sha256.value ≠ .timeout
  readable : redis.hexists workspaceId sha256.value = .value true →
    ∀ bytes, redis.hget workspaceId sha256.value = .value (some bytes) → bytes.isEmpty = false →
      ∀ text data, Text.decode bytes = some text → lib.loads text = .ok data → Readable lib data

section

variable {P : Exc → Bool} {data value : Json}

theorem subscript_eq_ok {key : String} :
    subscript data key = .ok value ↔
      ∃ items, data = .dict items ∧ Json.get? items key = some value := by
  cases data <;> simp [subscript, item_eq_ok]

theorem raises_isNegative (hP : Foresees P) : Raises P (isNegative value) := by
  unfold isNegative
  split
  case h_6 => exact raises_error (hP.dataError _ rfl)
  all_goals exact raises_ok _

theorem raises_isBlank_iff (hP : Foresees P) :
    Raises P (isBlank value) ↔ (value.truthy = true → value.isText = true) := by
  unfold isBlank
  split
  · next htruthy =>
      split
      · exact iff_of_true (raises_ok _) fun _ => rfl
      · next hother =>
          have htext : value.isText ≠ true := by
            cases value with
            | str text => exact absurd rfl (hother text)
            | _ => exact Bool.false_ne_true
          refine iff_of_false (fun h => ?_) fun h => htext (h htruthy)
          exact ne_true_of_eq_false (hP.attributeError _) (h _ rfl)
  · next hfalsy => exact iff_of_true (raises_ok _) fun h => absurd h hfalsy

/-- The checks find out that a size is a number and not negative. -/
theorem isNegative_eq_ok_false_iff :
    isNegative value = .ok false ∧ value.int? ≠ none ↔ ∃ n, value.int? = some n ∧ 0 ≤ n := by
  cases value with
  | int n => simp [isNegative, Json.int?]
  | bool b => cases b <;> simp [isNegative, Json.int?]
  | _ => simp [Json.int?]

theorem raises_postInit_iff (hP : Foresees P) {f : MetadataFields} :
    Raises P f.postInit ↔
      (f.uploadedAt.tzinfo ≠ none → (∃ n, f.size.int? = some n ∧ 0 ≤ n) →
        f.s3Path.truthy = true → f.s3Path.isText = true) := by
  have hvalue {message : String} : P (.valueError message) = true := hP.dataError _ rfl
  simp only [MetadataFields.postInit, raises_bind_iff, raises_isNegative hP,
    raises_raiseIf hvalue, raises_isBlank_iff hP, raiseIf_eq_ok, true_and, implies_true, and_true,
    ← isNegative_eq_ok_false_iff, Bool.not_eq_true, forall_const]
  constructor
  · rintro h htz ⟨hnegative, hint⟩
    exact h false hnegative rfl hint htz
  · rintro h negative hnegative rfl hint htz
    exact h htz ⟨hnegative, hint⟩

theorem raises_new_iff {f : MetadataFields} :
    Raises P (FileMetadata.new f) ↔ Raises P f.postInit := raises_checked_iff

theorem raises_parse {α : Type} (hP : Foresees P) {read : Text → Except String α} {text : Text} :
    Raises P (parse read text) := by
  unfold parse
  cases read text with
  | ok a => exact raises_ok a
  | error message => exact raises_error (hP.dataError _ rfl)

theorem raises_parseTimestamp_iff (hP : Foresees P) :
    Raises P (parseTimestamp lib value) ↔ value.isText = true := by
  cases value with
  | str text => exact iff_of_true (raises_parse hP) rfl
  | _ =>
      refine iff_of_false (fun h => ?_) Bool.false_ne_true
      exact ne_true_of_eq_false (hP.attributeError _) (h _ rfl)

theorem raises_parseMetadata_iff (hP : Foresees P)
    (hserialization : ∀ message, P (.serializationError message) = true) :
    Raises P (parseMetadata lib data) ↔ Readable lib data := by
  have hchecks (metadata : FileMetadata) : Raises P (do
      raiseIf (← isNegative metadata.size) (.serializationError "Deserialized size is negative")
      raiseIf (metadata.size.int? = none) (.serializationError
        s!"Deserialized size is not an integer: {metadata.size.typeName}")
      pure metadata) :=
    raises_bind (raises_isNegative hP) fun _ => raises_bind (raises_raiseIf (hserialization _))
      fun _ => raises_bind (raises_raiseIf (hserialization _)) fun _ => raises_pure _
  unfold parseMetadata
  simp only [raises_bind_iff (x := subscript _ _), raises_bind_iff (x := UUID.ofJson _),
    raises_bind_iff (x := parseTimestamp _ _), raises_bind_iff (x := FileMetadata.new _),
    raises_subscript hP, UUID.raises_ofJson_iff hP, raises_parseTimestamp_iff hP,
    raises_new_iff, raises_postInit_iff hP, hchecks, true_and, implies_true, and_true,
    subscript_eq_ok]
  constructor
  · rintro h items rfl
    refine ⟨fun fileId hget => (h fileId ⟨items, rfl, hget⟩).1, ?_⟩
    rintro id s3Path size uploadedAt ⟨text, htext, hparse⟩ hpath hsize htime
    have hid := UUID.ofJson_eq_ok.mpr ⟨text, rfl, hparse⟩
    exact (h _ ⟨items, rfl, htext⟩).2 id hid s3Path ⟨items, rfl, hpath⟩ size ⟨items, rfl, hsize⟩
      uploadedAt ⟨items, rfl, htime⟩
  · rintro h fileId ⟨items, rfl, hfileId⟩
    obtain ⟨hreadable, hrest⟩ := h items rfl
    refine ⟨hreadable fileId hfileId, fun id hid s3Path hpath size hsize uploadedAt htime => ?_⟩
    obtain ⟨text, rfl, hparse⟩ := UUID.ofJson_eq_ok.mp hid
    obtain ⟨_, ⟨⟩, hpath⟩ := hpath
    obtain ⟨_, ⟨⟩, hsize⟩ := hsize
    obtain ⟨_, ⟨⟩, htime⟩ := htime
    exact hrest id s3Path size uploadedAt ⟨text, hfileId, hparse⟩ hpath hsize htime

end

/-- What is stored ends in `SerializationError`, or in the `AttributeError` of a missing method. -/
theorem raises_deserializeMetadata_iff {P : Exc → Bool} {reply : ByteArray ⊕ Text}
    (hserialization : ∀ message, P (.serializationError message) = true)
    (hattribute : ∀ message, P (.attributeError message) = false) :
    Raises P (deserializeMetadata lib reply) ↔
      ∀ text data, replyText reply = .ok text → lib.loads text = .ok data → Readable lib data := by
  let P' (e : Exc) : Bool :=
    if isDataError e then
      P (.serializationError s!"Failed to deserialize file metadata: {e.str}")
    else P e
  have hP' : Foresees P' := ⟨fun e he => (if_pos he).trans (hserialization _), hattribute⟩
  have hreply : Raises P' (replyText reply) := by
    unfold replyText
    split
    · split
      · exact raises_ok _
      · exact raises_error (hP'.dataError _ rfl)
    · exact raises_ok _
  have hloads {text : Text} {data : Json} :
      parse lib.loads text = .ok data ↔ lib.loads text = .ok data := by
    unfold parse
    cases lib.loads text <;> simp [Except.mapError]
  unfold deserializeMetadata
  rw [raises_tryExcept_iff]
  change Raises P' _ ↔ _
  simp only [raises_bind_iff, raises_parse hP', hloads,
    raises_parseMetadata_iff hP' hserialization, hreply, true_and]
  exact ⟨fun h text data htext hdata => h text htext data hdata,
    fun h text htext data hdata => h text data htext hdata⟩

theorem replyText_inl_eq_ok {bytes : ByteArray} {text : Text} :
    replyText (.inl bytes) = .ok text ↔ Text.decode bytes = some text := by
  unfold replyText
  dsimp only
  split <;> simp_all

theorem raises_result_iff {α : Type} {P : Exc → Bool} {outcome : Outcome α}
    (hredis : ∀ message, P (.redisError message) = true) (htimeout : P .timeoutError = false) :
    Raises P outcome.result ↔ outcome ≠ .timeout := by
  cases outcome with
  | value reply => exact iff_of_true (raises_ok reply) nofun
  | redisError message => exact iff_of_true (raises_error (hredis message)) nofun
  | timeout =>
      refine iff_of_false (fun h => ?_) (· rfl)
      exact ne_true_of_eq_false htimeout (h _ rfl)

theorem result_eq_ok {α : Type} {outcome : Outcome α} {reply : α} :
    outcome.result = .ok reply ↔ outcome = .value reply := by
  cases outcome <;> simp [Outcome.result]

theorem raises_checkDuplicate_iff {redis : Fingerprints} {workspaceId : UUID}
    {sha256 : SHA256Hash} :
    Raises Exc.isInfrastructureError (checkDuplicate lib redis workspaceId sha256) ↔
      Undisturbed lib redis workspaceId sha256 := by
  -- what is raised inside, seen through the `except` clause
  let P (e : Exc) : Bool :=
    if e.isRedisError then (Exc.infrastructureError
      s!"Deduplication check failed for workspace {workspaceId}: {e.str}").isInfrastructureError
    else e.isInfrastructureError
  have hresult {α : Type} {outcome : Outcome α} : Raises P outcome.result ↔ outcome ≠ .timeout :=
    raises_result_iff (fun _ => rfl) rfl
  have hread {bytes : ByteArray} : Raises P (deserializeMetadata lib (.inl bytes)) ↔
      ∀ text data, Text.decode bytes = some text → lib.loads text = .ok data →
        Readable lib data := by
    rw [raises_deserializeMetadata_iff (fun _ => rfl) fun _ => rfl]
    simp only [replyText_inl_eq_ok]
  unfold checkDuplicate dedupKey
  rw [raises_tryExcept_iff]
  change Raises P _ ↔ _
  by_cases hnil : workspaceId.int = 0#128
  · have hkey : workspaceKey workspaceId =
        .error (.valueError "NIL UUID not allowed for workspace_id") := by
      rw [workspaceKey, validateWorkspaceId, raiseIf, if_pos hnil]
      rfl
    rw [hkey]
    refine iff_of_false (fun h => Bool.false_ne_true (h _ rfl)) fun h => h.workspace ?_
    exact congrArg UUID.mk hnil
  · have hne : workspaceId ≠ .nil := fun h => hnil (congrArg UUID.int h)
    rw [workspaceKey_of_ne hnil]
    change Raises P ((redis.hexists workspaceId sha256.value).result >>= _) ↔ _
    rw [raises_bind_iff, hresult]
    simp only [result_eq_ok]
    -- the part after HEXISTS, as the program has it
    have hfound : ∀ next : Option ByteArray → Except Exc (Option FileMetadata),
        next none = pure none →
        (∀ bytes, next (some bytes) = if bytes.isEmpty then pure none
          else some <$> deserializeMetadata lib (.inl bytes)) →
        (Raises P ((redis.hget workspaceId sha256.value).result >>= next) ↔
          redis.hget workspaceId sha256.value ≠ .timeout ∧
            ∀ bytes, redis.hget workspaceId sha256.value = .value (some bytes) →
              bytes.isEmpty = false → Raises P (deserializeMetadata lib (.inl bytes))) := by
      intro next hnone hsome
      rw [raises_bind_iff, hresult]
      simp only [result_eq_ok]
      refine and_congr_right fun _ => ⟨fun h bytes hget hempty => ?_, fun h found hget => ?_⟩
      · have hbytes := h (some bytes) hget
        rwa [hsome, if_neg (ne_true_of_eq_false hempty), raises_map_iff] at hbytes
      · cases found with
        | none => exact hnone ▸ raises_pure none
        | some bytes =>
            rw [hsome]
            split
            · exact raises_pure none
            · next hempty =>
                exact raises_map_iff.mpr (h bytes hget (Bool.eq_false_iff.mpr hempty))
    -- each command is answered in time, and what HGET returns can be read
    constructor
    · rintro ⟨hexists, hrest⟩
      have htrue (h : redis.hexists workspaceId sha256.value = .value true) :
          redis.hget workspaceId sha256.value ≠ .timeout ∧
            ∀ bytes, redis.hget workspaceId sha256.value = .value (some bytes) →
              bytes.isEmpty = false → Raises P (deserializeMetadata lib (.inl bytes)) := by
        refine (hfound _ ?_ fun bytes => ?_).mp (hrest true h)
        · rfl
        · rfl
      exact ⟨hne, hexists, fun h => (htrue h).1,
        fun h bytes hget hempty => hread.mp ((htrue h).2 bytes hget hempty)⟩
    · rintro ⟨-, hexists, hget, hreadable⟩
      refine ⟨hexists, fun found h => ?_⟩
      cases found with
      | false => exact raises_pure none
      | true =>
          refine (hfound _ ?_ fun bytes => ?_).mpr ⟨hget h, fun bytes hbytes hempty =>
            hread.mpr (hreadable h bytes hbytes hempty)⟩
          · rfl
          · rfl

/-- Whatever is stored, and however the calls end, nothing is found, or metadata with a size, or
`InfrastructureError` is raised, exactly if the call is not disturbed. -/
theorem check_duplicate_contract_iff (lib : StandardLibrary) (redis : Fingerprints)
    (workspaceId : UUID) (sha256 : SHA256Hash) :
    (match checkDuplicate lib redis workspaceId sha256 with
      | .ok found => ∀ metadata ∈ found, ∃ n, metadata.size.int? = some n ∧ 0 ≤ n
      | .error e => e.isInfrastructureError = true) ↔
        Undisturbed lib redis workspaceId sha256 := by
  rw [← raises_checkDuplicate_iff]
  cases checkDuplicate lib redis workspaceId sha256 with
  | ok found =>
      refine iff_of_true (fun metadata _ => ?_) (raises_ok found)
      obtain ⟨hnegative, hint, -⟩ := metadata.checked
      exact isNegative_eq_ok_false_iff.mp ⟨hnegative, hint⟩
  | error e =>
      exact ⟨fun h => raises_error h, fun h => h e rfl⟩

/-! ## One file -/

namespace Known

def session : UUID := ⟨7⟩

def workspace : UUID := ⟨1⟩

/-- Thirty seconds and a half east of Greenwich, where the offset begins like that of UTC. -/
def time : DateTime := ⟨1777631400000001, some 30500000⟩

def metadata : FileMetadata where
  fileId := session
  s3Path := .str (.ofString "workspace_1/a.pdf")
  size := .int 1
  uploadedAt := time
  valid := by decide +kernel

def metadataText : String :=
  "\x7b\"file_id\": \"00000000-0000-0000-0000-000000000007\", " ++
    "\"s3_path\": \"workspace_1/a.pdf\", \"size\": 1, " ++
      "\"uploaded_at\": \"2026-05-01T10:30:30.500001Z:30.500000\"\x7d"

/-- Knows the JSON text of one dictionary, and all timestamps in the format of `isoformat`. -/
def library : StandardLibrary where
  dumps := fun _ => .ofString metadataText
  loads := fun text =>
    if text = .ofString metadataText then .ok metadata.toJson else .error "Expecting value"
  fromisoformat := fun text =>
    match DateTime.fromisoformat? text.display with
    | some time => .ok time
    | none => .error "Invalid isoformat string"

/-- No call is answered in time. -/
def stalled : Fingerprints where
  hexists := fun _ _ => .timeout
  hget := fun _ _ => .timeout

theorem isoformat_time : time.isoformat = "2026-05-01T10:30:30.500001+00:00:30.500000" := by
  decide +kernel

theorem fromisoformat_time :
    DateTime.fromisoformat? "2026-05-01T10:30:30.500001+00:00:30.500000" = some time := by
  decide +kernel

theorem library_inverts : library.Inverts metadata := by
  unfold library
  constructor
  · dsimp only
    rw [if_pos rfl]
  · dsimp only
    rw [Text.display_ofString]
    change (match DateTime.fromisoformat? time.isoformat with
      | some time => Except.ok time
      | none => .error "Invalid isoformat string") = .ok time
    rw [isoformat_time, fromisoformat_time]
  · dsimp only
    exact Text.encodable_ofString metadataText

end Known

open Known in
theorem metadata_round_trip_sample :
    ∃ text, serializeMetadata library metadata = .ok text ∧
      deserializeMetadata library (.inr text) = .ok metadata ∧
        ∃ bytes, text.encode = some bytes ∧
          deserializeMetadata library (.inl bytes) = .ok metadata :=
  metadata_round_trip library_inverts

open Known in
/-- A timeout is no error of Redis, and escapes. -/
theorem timeout_escapes :
    checkDuplicate library stalled workspace (.fromBytes [1]) = .error .timeoutError ∧
      ¬ (match checkDuplicate library stalled workspace (.fromBytes [1]) with
        | .ok found => ∀ metadata ∈ found, ∃ n, metadata.size.int? = some n ∧ 0 ≤ n
        | .error e => e.isInfrastructureError = true) := by
  have hescapes : checkDuplicate library stalled workspace (.fromBytes [1]) =
      .error .timeoutError := rfl
  refine ⟨hescapes, ?_⟩
  rw [hescapes]
  exact Bool.false_ne_true

end Raw

end RagFileUploader
