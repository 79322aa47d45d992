import RagFileUploader.Infrastructure.SessionText
import RagFileUploader.Infrastructure.Service

/-!
# The round trip of a session through its hash

What a session's methods can make of a constructed session passes the constructor again when it is
read back, and it is the same session.  That every session carries the proof of its validity does
most of the work; what is left to show is that its timestamps stay in UTC and that the texts of
the hash survive UTF-8.

* `deserialize_serialize` is the round trip of one hash, by the fields; `encode_serialize` and
  `decode_of_encode` take it through UTF-8.
* `UploadSession.InUtc.mutateAll` keeps the timestamps in UTC, and `round_trip` puts these together.
* `deserializeSession_hashText` and the lemmas on `ofSession` relate the texts to the typed hash and
  the sessions of the other modules.
-/

namespace RagFileUploader.Textual

open Encoding

variable {lib : StandardLibrary}

/-! ## One hash -/

theorem parseChecksum_ofString (h : SHA256Hash) :
    parseChecksum (.ofString h.value) = .ok h := by
  rw [parseChecksum, Text.toString?_ofString]
  exact h.new_value

theorem parseStatus_ofString (status : SessionStatus) :
    parseStatus (.ofString status.value) = .ok status := by
  rw [parseStatus, Text.display_ofString]
  cases status <;> rfl

theorem deserialize_serialize (hlib : lib.Lawful) {s : UploadSession}
    (hcreated : s.createdAt.tzinfo = some 0) (hexpires : s.expiresAt.tzinfo = some 0) :
    deserializeSession lib (serializeSession lib s) = .ok s := by
  have hget : ∀ key value, (serializeSession lib s).lookup (Text.ofString key) = some value →
      (serializeSession lib s).get key = .ok value := fun key value h => by
    rw [Hash.get, h]
  simp only [deserializeSession, hget "chunk_manifest" _ rfl, hget "session_id" _ rfl,
    hget "workspace_id" _ rfl, hget "filename" _ rfl, hget "size" _ rfl, hget "mime_type" _ rfl,
    hget "sha256_checksum" _ rfl, hget "offset" _ rfl, hget "status" _ rfl,
    hget "created_at" _ rfl, hget "expires_at" _ rfl, hlib.loads_dumps, hlib.parseUUID_strUUID,
    hlib.parseInt_strInt, hlib.fromisoformat_isoformat _ hcreated,
    hlib.fromisoformat_isoformat _ hexpires, parseChecksum_ofString, parseStatus_ofString,
    bind, Except.bind, pure, Except.pure]
  exact s.new_toSessionFields

/-! ## The typed hash -/

/-- The entity of the other modules, which has no surrogates. -/
def ofFields (f : RagFileUploader.SessionFields) : SessionFields where
  sessionId := f.sessionId
  workspaceId := f.workspaceId
  filename := .ofString f.filename
  size := f.size
  mimeType := .ofString f.mimeType
  sha256Checksum := f.sha256Checksum
  offset := f.offset
  status := f.status
  createdAt := f.createdAt
  expiresAt := f.expiresAt
  chunkManifest := f.chunkManifest.map fun c => ⟨c.index, c.size, .ofString c.checksum⟩

theorem validateFilename_ofString (filename : String) :
    validateFilename (.ofString filename) = RagFileUploader.validateFilename filename := by
  have hblank : isBlank (.ofString filename) = RagFileUploader.isBlank filename := by
    simp [isBlank, RagFileUploader.isBlank, Text.ofString, Function.comp_def]
  have hcontains : ∀ needle, contains needle (.ofString filename) ↔
      RagFileUploader.contains needle filename := fun needle => by
    rw [contains, Text.ofString, Text.ofString, List.infix_map_iff]
    constructor
    · rintro ⟨l, hl, heq⟩
      have hl' : needle.toList = l := List.map_injective_iff.mpr CodePoint.ofChar_injective heq
      rw [RagFileUploader.contains, hl']
      exact hl
    · exact fun h => ⟨needle.toList, h, rfl⟩
  have hlength : (Text.ofString filename).length = filename.toList.length := by
    simp [Text.ofString]
  simp only [validateFilename, RagFileUploader.validateFilename, hblank, hcontains, hlength]

theorem raiseIf_congr {c c' : Prop} [Decidable c] [Decidable c'] {e : Exc} (h : c ↔ c') :
    (raiseIf c e : Except Exc Unit) = raiseIf c' e := by
  by_cases hc : c
  · rw [raiseIf, raiseIf, if_pos hc, if_pos (h.mp hc)]
  · rw [raiseIf, raiseIf, if_neg hc, if_neg (fun hc' => hc (h.mpr hc'))]

/-- Both constructors make the same checks. -/
theorem postInit_ofFields (f : RagFileUploader.SessionFields) :
    (ofFields f).postInit = f.postInit := by
  have hmime : Text.ofString f.mimeType ∈ allowedMimeTypes.map Text.ofString ↔
      f.mimeType ∈ allowedMimeTypes := List.mem_map_of_injective Text.ofString_injective
  simp only [SessionFields.postInit, RagFileUploader.SessionFields.postInit, ofFields,
    validateFilename_ofString, Text.display_ofString]
  rw [raiseIf_congr (not_congr hmime)]
  rfl

def ofSession (s : RagFileUploader.UploadSession) : UploadSession where
  toSessionFields := ofFields s.toSessionFields
  valid := (postInit_ofFields s.toSessionFields).trans s.valid

theorem new_ofFields (f : RagFileUploader.SessionFields) :
    UploadSession.new (ofFields f) = (RagFileUploader.UploadSession.new f).map ofSession := by
  have hpost := postInit_ofFields f
  unfold UploadSession.new RagFileUploader.UploadSession.new
  split <;> split
  · rfl
  · next h _ h' => rw [hpost, h'] at h; cases h
  · next h h' => rw [hpost, h'] at h; cases h
  · next h _ h' =>
      rw [hpost, h'] at h
      cases h
      rfl

/-- The texts of a typed hash. -/
def hashText (lib : StandardLibrary) (h : SessionHash) : Hash :=
  [(.ofString "session_id", lib.strUUID h.sessionId),
    (.ofString "workspace_id", lib.strUUID h.workspaceId),
    (.ofString "filename", .ofString h.filename),
    (.ofString "size", lib.strInt h.size),
    (.ofString "mime_type", .ofString h.mimeType),
    (.ofString "sha256_checksum", .ofString h.sha256Checksum),
    (.ofString "offset", lib.strInt h.offset),
    (.ofString "status", .ofString h.status),
    (.ofString "created_at", lib.isoformat h.createdAt),
    (.ofString "expires_at", lib.isoformat h.expiresAt),
    (.ofString "chunk_manifest",
      lib.dumps (h.chunkManifest.map fun c => ⟨c.index, c.size, .ofString c.checksum⟩))]

/-- The typed hash of a session stands for the texts of its hash. -/
theorem serializeSession_ofSession (s : RagFileUploader.UploadSession) :
    serializeSession lib (ofSession s) = hashText lib (RedisSessionStore.serializeSession s) := rfl

/-- Reading the texts of a typed hash is reading the typed hash. -/
theorem deserializeSession_hashText (hlib : lib.Lawful) {h : SessionHash}
    (hcreated : h.createdAt.tzinfo = some 0) (hexpires : h.expiresAt.tzinfo = some 0) :
    deserializeSession lib (hashText lib h) =
      (RedisSessionStore.deserializeSession h).map ofSession := by
  have hget : ∀ key value, (hashText lib h).lookup (Text.ofString key) = some value →
      (hashText lib h).get key = .ok value := fun key value h => by
    rw [Hash.get, h]
  have hchecksum : parseChecksum (.ofString h.sha256Checksum) =
      SHA256Hash.new h.sha256Checksum := by
    rw [parseChecksum, Text.toString?_ofString]
  have hstatus : parseStatus (.ofString h.status) = RedisSessionStore.parseStatus h.status := by
    rw [parseStatus, Text.display_ofString]
  simp only [deserializeSession, hget "chunk_manifest" _ rfl, hget "session_id" _ rfl,
    hget "workspace_id" _ rfl, hget "filename" _ rfl, hget "size" _ rfl, hget "mime_type" _ rfl,
    hget "sha256_checksum" _ rfl, hget "offset" _ rfl, hget "status" _ rfl,
    hget "created_at" _ rfl, hget "expires_at" _ rfl, hlib.loads_dumps, hlib.parseUUID_strUUID,
    hlib.parseInt_strInt, hlib.fromisoformat_isoformat _ hcreated,
    hlib.fromisoformat_isoformat _ hexpires, hchecksum, hstatus, bind, Except.bind, pure,
    Except.pure, RedisSessionStore.deserializeSession]
  cases SHA256Hash.new h.sha256Checksum with
  | error e => rfl
  | ok checksum =>
      cases RedisSessionStore.parseStatus h.status with
      | error e => rfl
      | ok status =>
          exact new_ofFields
            { sessionId := h.sessionId
              workspaceId := h.workspaceId
              filename := h.filename
              size := h.size
              mimeType := h.mimeType
              sha256Checksum := checksum
              offset := h.offset
              status
              createdAt := h.createdAt
              expiresAt := h.expiresAt
              chunkManifest := h.chunkManifest }

/-! ## The methods

They are the same for both kinds of text. -/

section

variable (s : RagFileUploader.UploadSession)

theorem withStatus_ofSession (status : SessionStatus) :
    (ofSession s).withStatus status = ofSession (s.withStatus status) := rfl

theorem addChunk_ofSession (i n : ℤ) (checksum : String) :
    (ofSession s).addChunk i n (.ofString checksum) = ofSession <$> s.addChunk i n checksum := by
  have hblank : isBlank (.ofString checksum) = RagFileUploader.isBlank checksum := by
    simp [isBlank, RagFileUploader.isBlank, Text.ofString, Function.comp_def]
  have htaken : (∃ c ∈ (ofSession s).chunkManifest, c.index = i) ↔
      ∃ c ∈ s.chunkManifest, c.index = i := by
    simp [ofSession, ofFields]
  unfold UploadSession.addChunk RagFileUploader.UploadSession.addChunk
  simp only [map_bind, map_pure, hblank, raiseIf_congr htaken]
  simp [ofSession, ofFields]

theorem updateOffset_ofSession (offset : ℤ) :
    (ofSession s).updateOffset offset = ofSession <$> s.updateOffset offset := by
  unfold UploadSession.updateOffset RagFileUploader.UploadSession.updateOffset
  change (if _ then _ else if _ : offset < s.offset then _ else
    if _ : offset > s.size then _ else _) = _
  repeat' split
  all_goals rfl

theorem markInProgress_ofSession :
    (ofSession s).markInProgress = ofSession <$> s.markInProgress := by
  unfold UploadSession.markInProgress RagFileUploader.UploadSession.markInProgress
  simp only [map_bind, map_pure]
  rfl

theorem markComplete_ofSession : (ofSession s).markComplete = ofSession <$> s.markComplete := by
  unfold UploadSession.markComplete RagFileUploader.UploadSession.markComplete
  simp only [map_bind, map_pure]
  rfl

end

/-! ## Through UTF-8 -/

theorem decode_of_encode {data : Hash} {bytes : List (ByteArray × ByteArray)}
    (h : encodeHash data = some bytes) : decodeHash bytes = some data := by
  refine mapM_of_mapM (fun field field' hfield => ?_) h
  obtain ⟨key, value⟩ := field
  unfold encodeField at hfield
  cases hkey : key.encode with
  | none => rw [hkey] at hfield; cases hfield
  | some key' =>
      cases hvalue : value.encode with
      | none => rw [hkey, hvalue] at hfield; cases hfield
      | some value' =>
          rw [hkey, hvalue] at hfield
          cases hfield
          rw [decodeField, Text.decode_of_encode hkey, Text.decode_of_encode hvalue]
          rfl

theorem encode_of_encodable {data : Hash}
    (h : ∀ field ∈ data, field.1.Encodable ∧ field.2.Encodable) :
    ∃ bytes, encodeHash data = some bytes := by
  induction data with
  | nil => exact ⟨[], rfl⟩
  | cons field data ih =>
      obtain ⟨⟨hkey, hvalue⟩, hrest⟩ := List.forall_mem_cons.mp h
      obtain ⟨key', hkey⟩ := Option.ne_none_iff_exists'.mp hkey
      obtain ⟨value', hvalue⟩ := Option.ne_none_iff_exists'.mp hvalue
      obtain ⟨rest, hrest⟩ := ih hrest
      rw [encodeHash] at hrest ⊢
      rw [List.mapM_cons, encodeField, hkey, hvalue, hrest]
      exact ⟨_, rfl⟩

/-- All texts but the filename can be encoded, whatever the session. -/
theorem encode_serialize (hlib : lib.Lawful) {s : UploadSession} (hname : s.filename.Encodable) :
    ∃ bytes, encodeHash (serializeSession lib s) = some bytes := by
  have hmime : s.mimeType.Encodable := by
    obtain ⟨-, -, -, hmime, -⟩ := s.postInit_eq_ok_iff.mp s.valid
    obtain ⟨mimeType, -, hmime⟩ := List.mem_map.mp hmime
    rw [← hmime]
    exact Text.encodable_ofString mimeType
  refine encode_of_encodable ?_
  simp only [serializeSession, List.forall_mem_cons, List.not_mem_nil, false_implies,
    implies_true, Text.encodable_ofString, hlib.encodable_strUUID, hlib.encodable_strInt,
    hlib.encodable_isoformat, hlib.encodable_dumps, hname, hmime, and_true]

/-! ## Everything the methods can make of a session -/

/-- A sequence of successful calls. -/
def UploadSession.mutateAll (s : UploadSession) (mutations : List Mutation) :
    Except Exc UploadSession :=
  mutations.foldlM UploadSession.mutate s

/-- The timestamps are in UTC. -/
structure UploadSession.InUtc (s : UploadSession) : Prop where
  created : s.createdAt.tzinfo = some 0
  expires : s.expiresAt.tzinfo = some 0

/-- No method touches the timestamps. -/
theorem UploadSession.mutate_timestamps {s t : UploadSession} {mutation : Mutation}
    (h : s.mutate mutation = .ok t) : t.createdAt = s.createdAt ∧ t.expiresAt = s.expiresAt := by
  cases mutation with
  | addChunk chunkIndex chunkSize chunkChecksum =>
      simp only [mutate, addChunk, except_bind_eq_ok] at h
      obtain ⟨-, -, -, -, -, -, -, -, h⟩ := h
      cases h
      exact ⟨rfl, rfl⟩
  | updateOffset newOffset =>
      simp only [mutate, updateOffset] at h
      split at h
      · cases h
      split at h
      · cases h
      split at h
      · cases h
      cases h
      exact ⟨rfl, rfl⟩
  | markInProgress =>
      simp only [mutate, markInProgress, except_bind_eq_ok] at h
      obtain ⟨-, -, h⟩ := h
      cases h
      exact ⟨rfl, rfl⟩
  | markComplete =>
      simp only [mutate, markComplete, except_bind_eq_ok] at h
      obtain ⟨-, -, -, -, h⟩ := h
      cases h
      exact ⟨rfl, rfl⟩
  | markFailed =>
      cases h
      exact ⟨rfl, rfl⟩
  | markAborted =>
      cases h
      exact ⟨rfl, rfl⟩

theorem UploadSession.InUtc.mutate {s t : UploadSession} {mutation : Mutation} (hs : s.InUtc)
    (h : s.mutate mutation = .ok t) : t.InUtc := by
  obtain ⟨hcreated, hexpires⟩ := mutate_timestamps h
  exact ⟨hcreated ▸ hs.created, hexpires ▸ hs.expires⟩

theorem UploadSession.InUtc.mutateAll {s t : UploadSession} {mutations : List Mutation}
    (hs : s.InUtc) (h : s.mutateAll mutations = .ok t) : t.InUtc := by
  induction mutations generalizing s with
  | nil =>
      cases h
      exact hs
  | cons mutation mutations ih =>
      rw [UploadSession.mutateAll, List.foldlM_cons, except_bind_eq_ok] at h
      obtain ⟨s', hstep, hrest⟩ := h
      exact ih (hs.mutate hstep) hrest

/-- A session that was constructed with timestamps in UTC, and changed by its methods alone, is read
back as it was written, also with its texts encoded and decoded if the filename can be encoded. -/
theorem round_trip (hlib : lib.Lawful) {f : SessionFields} {s t : UploadSession}
    {mutations : List Mutation} (hcreated : f.createdAt.tzinfo = some 0)
    (hexpires : f.expiresAt.tzinfo = some 0) (hnew : UploadSession.new f = .ok s)
    (hrun : s.mutateAll mutations = .ok t) :
    deserializeSession lib (serializeSession lib t) = .ok t ∧
      (t.filename.Encodable → ∃ bytes, encodeHash (serializeSession lib t) = some bytes ∧
        (decodeHash bytes).map (deserializeSession lib) = some (.ok t)) := by
  have hfields : s.toSessionFields = f := by
    unfold UploadSession.new at hnew
    split at hnew
    · cases hnew
      rfl
    · cases hnew
  have hs : s.InUtc := by
    constructor <;> rw [hfields] <;> assumption
  have ht : t.InUtc := hs.mutateAll hrun
  have hread := deserialize_serialize hlib ht.created ht.expires
  refine ⟨hread, fun hname => ?_⟩
  obtain ⟨bytes, hbytes⟩ := encode_serialize hlib hname
  refine ⟨bytes, hbytes, ?_⟩
  rw [decode_of_encode hbytes, Option.map_some, hread]

/-! ## One upload -/

namespace Known

open Sample

instance : Encodable UUID :=
  Encodable.ofLeftInjection (fun u => u.int.toNat) (fun n => some ⟨BitVec.ofNat 128 n⟩)
    fun u => by simp

instance : Encodable DateTime :=
  Encodable.ofLeftInjection (fun t => (t.instant, t.tzinfo)) (fun x => some ⟨x.1, x.2⟩)
    fun _ => rfl

instance : Encodable ChunkMeta :=
  Encodable.ofLeftInjection (fun c => (c.index, c.size, c.checksum))
    (fun x => some ⟨x.1, x.2.1, x.2.2⟩) fun _ => rfl

section Codec

variable {α : Type} [Encodable α] [DecidableEq α]

/-- Writes the known values as listed, and any other as a row of null characters. -/
def write (known : List (α × String)) (a : α) : Text :=
  .ofString ((known.lookup a).getD (String.ofList (List.replicate (Encodable.encode a) '\x00')))

def read (known : List (α × String)) (t : Text) : Except Exc α :=
  match known.find? fun x => Text.ofString x.2 = t with
  | some x => .ok x.1
  | none =>
      match Encodable.decode t.length with
      | some a => .ok a
      | none => .error (.valueError "invalid text")

theorem read_write {known : List (α × String)} (hnodup : (known.map Prod.snd).Nodup)
    (hprintable : known.all (fun x => x.2.toList.any (· ≠ '\x00')) = true) (a : α) :
    read known (write known a) = .ok a := by
  unfold read write
  cases hlookup : known.lookup a with
  | some text =>
      obtain ⟨l₁, l₂, hknown, -⟩ := List.lookup_eq_some_iff.mp hlookup
      have hmem : (a, text) ∈ known := by rw [hknown]; simp
      rw [Option.getD_some]
      cases hfind : known.find? fun x => Text.ofString x.2 = Text.ofString text with
      | none => simpa using List.find?_eq_none.mp hfind _ hmem
      | some x =>
          have htext : x.2 = text :=
            Text.ofString_injective (by simpa using List.find?_some hfind)
          rw [List.inj_on_of_nodup_map hnodup (List.mem_of_find?_eq_some hfind) hmem htext]
  | none =>
      rw [Option.getD_none]
      cases hfind : known.find? fun x => Text.ofString x.2 =
          Text.ofString (String.ofList (List.replicate (Encodable.encode a) '\x00')) with
      | none => simp [Text.ofString]
      | some x =>
          have htext : x.2 = String.ofList (List.replicate (Encodable.encode a) '\x00') :=
            Text.ofString_injective (by simpa using List.find?_some hfind)
          obtain ⟨c, hc, hne⟩ := List.any_eq_true.mp
            (List.all_eq_true.mp hprintable x (List.mem_of_find?_eq_some hfind))
          rw [htext, String.toList_ofList] at hc
          exact absurd (List.eq_of_mem_replicate hc) (of_decide_eq_true hne)

end Codec

def times : List (DateTime × String) :=
  [(pendingSession.createdAt, "2026-05-01T10:30:00+00:00"),
    (pendingSession.expiresAt, "2026-05-02T10:30:00+00:00")]

def ids : List (UUID × String) :=
  [(session, "00000000-0000-0000-0000-000000000007"),
    (workspace, "00000000-0000-0000-0000-000000000001")]

def numbers : List (ℤ × String) := [(1, "1")]

def manifests : List (List ChunkMeta × String) :=
  [([⟨0, 1, .ofString (sha256Hexdigest [1])⟩], "[\x7b\"index\": 0, \"size\": 1, \"checksum\": " ++
    "\"4bf5122f344554c53bde2ebb8cd2b7e3d1600ad631c385a5d7cce23c7785459a\"\x7d]")]

/-- Writes the values of one upload as Python does. -/
def library : StandardLibrary where
  dumps := write manifests
  loads := fun t => (read manifests t).map Json.list
  isoformat := write times
  fromisoformat := read times
  strUUID := write ids
  parseUUID := read ids
  strInt := write numbers
  parseInt := read numbers

theorem library_lawful : library.Lawful where
  loads_dumps := fun manifest => by
    change (read manifests (write manifests manifest)).map Json.list = _
    rw [read_write (by decide +kernel) (by decide +kernel)]
    rfl
  fromisoformat_isoformat := fun t _ => read_write (by decide +kernel) (by decide +kernel) t
  parseUUID_strUUID := read_write (by decide +kernel) (by decide +kernel)
  parseInt_strInt := read_write (by decide +kernel) (by decide +kernel)
  encodable_dumps := fun _ => Text.encodable_ofString _
  encodable_isoformat := fun _ => Text.encodable_ofString _
  encodable_strUUID := fun _ => Text.encodable_ofString _
  encodable_strInt := fun _ => Text.encodable_ofString _

/-- The mutations of a session whose only chunk arrives. -/
def mutations : List Mutation :=
  [.markInProgress, .addChunk 0 1 (.ofString (sha256Hexdigest [1])), .updateOffset 1, .markComplete]

/-- The session in the end. -/
def completedSession : UploadSession where
  toSessionFields :=
    { ofFields pendingSession.toSessionFields with
      offset := 1
      status := .complete
      chunkManifest := [⟨0, 1, .ofString (sha256Hexdigest [1])⟩] }
  valid := by decide +kernel

end Known

open Known Sample in
theorem round_trip_sample :
    deserializeSession library (serializeSession library completedSession) =
        .ok completedSession ∧
      (completedSession.filename.Encodable → ∃ bytes,
        encodeHash (serializeSession library completedSession) = some bytes ∧
          (decodeHash bytes).map (deserializeSession library) = some (.ok completedSession)) :=
  have hnew : UploadSession.new (ofFields pendingSession.toSessionFields) =
      .ok (ofSession pendingSession) := UploadSession.new_toSessionFields (ofSession pendingSession)
  have hrun : (ofSession pendingSession).mutateAll mutations = .ok completedSession := by
    decide +kernel
  round_trip library_lawful rfl rfl hnew hrun

end RagFileUploader.Textual
