import RagFileUploader.Concurrent.Reachable

/-!
# The expiry metadata in reachable worlds

The only command that writes metadata takes it from a session, whose expiry time has an offset from
UTC, and `isoformat` writes the offset down.  So whoever reads the time back can compare it with
the current one.
-/

namespace RagFileUploader

open Effects Stores

variable {env : Environment} {settings : Settings} {σ : World} {w s : UUID} {α : Type}

/-! ## Timestamps -/

namespace DateTime

/-- What is read from the text, if anything, has an offset from UTC. -/
def Zoned (text : String) : Prop := ∀ t, fromisoformat? text = some t → t.tzinfo ≠ none

/-- After the date there is a sign, where the offset begins. -/
theorem zoned_of_sign {text : String} {before after : List Char} {sign : Char}
    (htext : text.toList = before ++ sign :: after) (hlength : 11 ≤ before.length)
    (hsign : sign = '+' ∨ sign = '-') : Zoned text := by
  intro t ht
  have hmem : sign ∈ text.toList.drop 11 := by
    rw [htext, List.drop_append_of_le_length hlength]
    exact List.mem_append_right _ List.mem_cons_self
  unfold fromisoformat? at ht
  split at ht
  · next rest hrest =>
      rw [hrest] at hmem
      change sign ∈ rest at hmem
      simp only [Option.bind_eq_bind, Option.bind_eq_some_iff] at ht
      obtain ⟨y, -, m, -, d, -, -, -, time, -, ht⟩ := ht
      split at ht
      · next hzone =>
          -- then no character of the rest is a sign
          rw [List.span_eq_takeWhile_dropWhile] at hzone
          have hplain := List.dropWhile_eq_nil_iff.mp hzone sign hmem
          rcases hsign with rfl | rfl <;> simp at hplain
      · obtain ⟨distance, -, ht⟩ := Option.bind_eq_some_iff.mp ht
        cases ht
        exact Option.some_ne_none _
  · cases ht

theorem length_zeroPad (width n : ℕ) : width ≤ (zeroPad width n).toList.length := by
  simp only [zeroPad, String.toList_ofList, List.length_append, List.length_replicate]
  omega

/-- The offset of an aware datetime is written down. -/
theorem zoned_isoformat {t : DateTime} (ht : t.tzinfo ≠ none) : Zoned t.isoformat := by
  obtain ⟨offset, hoffset⟩ := Option.ne_none_iff_exists'.mp ht
  obtain ⟨sign, hsign, heq⟩ : ∃ sign, (sign = '+' ∨ sign = '-') ∧
      (if offset < 0 then "-" else "+") = String.ofList [sign] := by
    split
    · exact ⟨'-', .inr rfl, rfl⟩
    · exact ⟨'+', .inl rfl, rfl⟩
  obtain ⟨y, m, d, time, htext⟩ : ∃ y m d time, t.isoformat =
      (zeroPad 4 y ++ "-" ++ zeroPad 2 m ++ "-" ++ zeroPad 2 d ++ "T" ++ time) ++
        (String.ofList [sign] ++ clock offset.natAbs false) := by
    rw [← heq, isoformat, hoffset]
    exact ⟨_, _, _, _, rfl⟩
  have hlist : t.isoformat.toList =
      (zeroPad 4 y ++ "-" ++ zeroPad 2 m ++ "-" ++ zeroPad 2 d ++ "T" ++ time).toList ++
        sign :: (clock offset.natAbs false).toList := by
    have hoffset : (String.ofList [sign] ++ clock offset.natAbs false).toList =
        sign :: (clock offset.natAbs false).toList := by
      rw [String.toList_append, String.toList_ofList, List.singleton_append]
    rw [htext, String.toList_append, hoffset]
  refine zoned_of_sign hlist ?_ hsign
  have hy := length_zeroPad 4 y
  have hm := length_zeroPad 2 m
  have hd := length_zeroPad 2 d
  have hdash : "-".toList.length = 1 := rfl
  have hletter : "T".toList.length = 1 := rfl
  simp only [String.toList_append, List.length_append, hdash, hletter]
  omega

end DateTime

/-! ## Commands -/

/-- The metadata that the command writes. -/
def Command.metadata? : Command → Option ExpiryMetadata
  | .createSession _ _ _ metadata _ => some metadata
  | _ => none

/-- The expiry time that the command writes, if it does, has an offset. -/
def Command.Dated (c : Command) : Prop :=
  ∀ metadata, c.metadata? = some metadata → DateTime.Zoned metadata.expiresAt

/-- All expiry times in the world have an offset. -/
def World.Dated (σ : World) : Prop :=
  ∀ s entry, σ.expiry s = some entry → DateTime.Zoned entry.value.expiresAt

theorem Command.dated_of_none {c : Command} (h : c.metadata? = none) : c.Dated :=
  fun _ hc => nomatch h.symm.trans hc

theorem InArea.dated {area : Area} {c : Command} (h : InArea area w c) (hs : area ≠ .sessions) :
    c.Dated := by
  obtain ⟨rfl, -⟩ := h
  cases c <;> first | exact Command.dated_of_none rfl | exact absurd rfl hs

/-- The expiry metadata after a command. -/
def Command.expiryAfter (σ : World) : Command → Keyspace UUID ExpiryMetadata
  | .createSession key _ _ metadata ttlSeconds =>
      σ.expiry.put key.documentId metadata (σ.deadline ttlSeconds)
  | .deleteSession key => σ.expiry.erase key.documentId
  | _ => σ.expiry

theorem Command.expiry_act (c : Command) : (c.act env σ).2.expiry = c.expiryAfter σ := by
  by_cases hc : c.area = .s3
  · obtain ⟨objects, uploads, nextUpload, heq⟩ := Command.act_s3 hc
    rw [heq]
    cases c <;> first | rfl | cases hc
  · cases c <;> first | rfl | exact absurd rfl hc

theorem World.Dated.act (h : σ.Dated) {c : Command} (hc : c.Dated) : (c.act env σ).2.Dated := by
  intro s entry hentry
  rw [c.expiry_act] at hentry
  cases c with
  | createSession key data _ metadata _ =>
      rcases Keyspace.of_put_eq_some hentry with ⟨-, rfl⟩ | ⟨-, hold⟩
      · exact hc metadata rfl
      · exact h s entry hold
  | deleteSession key =>
      exact h s entry (Keyspace.of_erase_eq_some hentry).2
  | _ => exact h s entry hentry

/-! ## The use cases -/

theorem dated_getSession : (RedisSessionStore.getSession w s).Issues Command.Dated := by
  refine sessionKey_bind_issues (Program.Issues.tryCatch ?_ fun _ => trivial)
  refine issues_send_bind (Command.dated_of_none rfl) fun data? => ?_
  cases data? with
  | none => trivial
  | some data => exact issues_map issues_ofExcept

theorem dated_updateSession {session : UploadSession} :
    (RedisSessionStore.updateSession session).Issues Command.Dated := by
  refine sessionKey_bind_issues (Program.Issues.tryCatch ?_ fun _ => trivial)
  refine issues_send_bind (Command.dated_of_none rfl) fun ttl => Program.Issues.bind ?_ fun _ =>
    issues_send (Command.dated_of_none rfl)
  unfold raiseIf
  split <;> trivial

theorem dated_deleteSession : (RedisSessionStore.deleteSession w s).Issues Command.Dated :=
  sessionKey_bind_issues (issues_tryExcept (issues_map (issues_send (Command.dated_of_none rfl)))
    fun _ => trivial)

/-- A session has an expiry time with an offset. -/
theorem dated_createSession {session : UploadSession} :
    (RedisSessionStore.createSession session).Issues Command.Dated := by
  have hexpires : session.expiresAt.tzinfo ≠ none :=
    ((session.postInit_eq_ok_iff).mp session.valid).2.2.2.2.2.2.1
  refine sessionKey_bind_issues (Program.Issues.tryCatch (issues_send fun metadata hc => ?_)
    fun _ => trivial)
  cases hc
  exact DateTime.zoned_isoformat hexpires

theorem dated_decrement : (RedisRateLimiter.decrement w).Issues Command.Dated :=
  issues_decrement.mono fun _ hc => hc.dated nofun

theorem InitiateUploadUseCase.dated_execute (request : InitiateUploadRequest) :
    (execute (dependencies settings) request).Issues Command.Dated := by
  have hruntime : ∀ c : Command, c.metadata? = none → (send c).Issues Command.Dated :=
    fun c hc => issues_send (Command.dated_of_none hc)
  refine issues_ofExcept.bind fun _ => Program.Issues.bind
    (issues_checkAndIncrement.mono fun _ hc => hc.dated nofun) fun _ => ?_
  refine issues_tryExcept ?_ fun e => Program.Issues.bind
    (issues_tryExcept dated_decrement fun _ => trivial) fun _ => trivial
  exact Program.Issues.bind (hruntime _ rfl) fun sessionId => Program.Issues.bind (hruntime _ rfl)
    fun createdAt => issues_ofExcept.bind fun session => dated_createSession.bind fun _ =>
      issues_ofExcept

theorem ProcessChunkUseCase.dated_execute (request : ProcessChunkRequest) :
    (execute (dependencies settings) request).Issues Command.Dated := by
  refine dated_getSession.bind fun session? => ?_
  cases session? with
  | none => trivial
  | some session =>
      refine issues_ofExcept.bind fun index => Program.Issues.bind
        (issues_tryExcept (issues_send (Command.dated_of_none rfl)) fun _ => trivial) fun _ => ?_
      exact issues_ofExcept.bind fun session' => dated_updateSession.bind fun _ => trivial

theorem AbortUploadUseCase.dated_execute (w s : UUID) :
    (execute (dependencies settings) w s).Issues Command.Dated := by
  refine dated_getSession.bind fun session? => ?_
  cases session? with
  | none => trivial
  | some session =>
      exact issues_ofExcept.bind fun _ => dated_updateSession.bind fun _ =>
        dated_deleteSession.bind fun _ => issues_tryExcept dated_decrement fun _ => trivial

namespace CompleteUploadUseCase

variable {request : CompleteUploadRequest} {session : UploadSession}

theorem dated_markFailed (session : UploadSession) (e : Exc) :
    (RedisSessionStore.updateSession session.markFailed >>= fun _ => throw e :
      Service α).Issues Command.Dated :=
  dated_updateSession.bind fun _ => trivial

theorem dated_body : (body (dependencies settings) request session).Issues Command.Dated := by
  refine issues_ofExcept.bind fun _ => Program.Issues.bind ?_ fun file =>
    Program.Issues.bind ?_ fun _ => ?_
  · refine Program.Issues.bind ((issues_retrieveAll _).mono fun _ hc => hc.dated nofun)
      fun chunks => ?_
    refine Program.Issues.bind (S3StorageClient.issues_assembleFile.mono fun _ hc =>
      hc.dated nofun) fun file => ?_
    refine Program.Issues.bind (issues_checkDuplicate.mono fun _ hc => hc.dated nofun)
      fun duplicate? => ?_
    cases duplicate? with
    | none => trivial
    | some duplicate => exact dated_markFailed session _
  · refine Program.Issues.bind (issues_send (Command.dated_of_none rfl)) fun _ =>
      Program.Issues.bind (issues_send (Command.dated_of_none rfl)) fun _ =>
        issues_ofExcept.bind fun event =>
          issues_tryExcept (issues_send (Command.dated_of_none rfl)) fun e => ?_
    exact dated_markFailed session e
  · refine issues_ofExcept.bind fun done => dated_updateSession.bind fun _ =>
      Program.Issues.bind (issues_tryExcept dated_decrement fun _ => trivial) fun _ => ?_
    refine Program.Issues.bind (issues_tryExcept (issues_registration.mono fun c hc => ?_)
      fun _ => trivial) fun _ => ?_
    · rcases hc with rfl | hc
      · exact Command.dated_of_none rfl
      · exact hc.dated nofun
    · exact Program.Issues.bind (issues_tryExcept ((issues_cleanup _).mono fun _ hc =>
        hc.dated nofun) fun _ => trivial) fun _ => issues_ofExcept

theorem dated_execute (request : CompleteUploadRequest) :
    (execute (dependencies settings) request).Issues Command.Dated := by
  refine dated_getSession.bind fun session? => ?_
  cases session? with
  | none => trivial
  | some session =>
      refine dated_body.tryCatch fun e => ?_
      rw [settle_eq]
      split
      · exact Program.Issues.bind (issues_tryExcept dated_updateSession fun _ => trivial)
          fun _ => trivial
      · trivial

end CompleteUploadUseCase

theorem Call.dated_program (c : Call) : (c.program settings).Issues Command.Dated := by
  cases c with
  | initiate request => exact issues_map (InitiateUploadUseCase.dated_execute request)
  | processChunk request => exact issues_map (ProcessChunkUseCase.dated_execute request)
  | complete request => exact issues_map (CompleteUploadUseCase.dated_execute request)
  | abort w s => exact issues_map (AbortUploadUseCase.dated_execute w s)

/-- Every expiry time in a reachable world has an offset. -/
theorem World.Reachable.dated (h : σ.Reachable env settings) : σ.Dated := by
  obtain ⟨calls, turns, hpassing, rfl⟩ := h
  refine Pool.run_of_issues (I := World.Dated) (fun program hmem => ?_)
    (fun c σ hc hσ => hσ.act hc) ?_ fun change hmem σ hσ => ?_
  · obtain ⟨c, -, rfl⟩ := List.mem_map.mp hmem
    exact c.dated_program
  · intro s entry hentry
    cases hentry
  · obtain ⟨ms, rfl⟩ := hpassing _ hmem
    exact hσ

end RagFileUploader
