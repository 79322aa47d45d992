import RagFileUploader.Concurrent.DuplicateCalls
import RagFileUploader.Workspaces.Neighbours
import RagFileUploader.Concurrent.Published

/-!
# At most one of several duplicates

Completions of different sessions with one checksum, interleaved command by command.  The lookup of
the fingerprint and its registration are far apart, and two completions that both look in between
both publish.  As long as none looks up the fingerprint while another one has found it free and not
registered it yet, at most one publishes, and the others end with the session FAILED.

`DuplicateCalls.lean` says which stages a completion goes through and what it may do at each of
them.  Here the stages of all completions are put together.

* `Milestone.Holds`: what a completion relies on at a stage.  `holds_after` carries it over the
  completion's own commands, and `spares` over those of the others, whose sessions differ;
* `Contested`: what holds of all of them between any two commands.  `alone`, at most one has found
  the fingerprint free, is where `Registered` is needed (`alone_set`): whoever looks it up after
  another one finds it registered;
* `Contested.sustains` is the step, `Pool.run_watched` makes it a run, and `Contested.decided` and
  `Contested.complete_unique` read the end of the run off the invariant.
-/

namespace RagFileUploader

open Effects Stores

variable {env : Environment} {settings : Settings} {σ σ' σ₀ : World} {w s s' : UUID}
  {sha256 : String} {γs : List Contender} {γ γ' : Contender} {stage : Milestone} {c : Command}
  {i : ℕ} {journal : List (ℕ × Command)} {sessions : List UUID}

/-! ## Lookups and events -/

/-- If the thread of the turn is about to look up the fingerprint and another lookup has been made
before, the fingerprint is there. -/
def Registered (w : UUID) (sha256 : String) (p : Pool serviceSignature World Response) :
    Turn World Fault → Prop
  | .issue i _ => p.pending i = some (.hexistsDedup w sha256) →
      (∃ entry ∈ p.journal, entry.2 = .hexistsDedup w sha256) →
        (p.state.dedup w sha256).isSome = true
  | .drift _ => True

instance (p : Pool serviceSignature World Response) :
    ∀ turn, Decidable (Registered w sha256 p turn)
  | .issue i _ => inferInstanceAs (Decidable (p.pending i = some (.hexistsDedup w sha256) →
      (∃ entry ∈ p.journal, entry.2 = .hexistsDedup w sha256) →
        (p.state.dedup w sha256).isSome = true))
  | .drift _ => isTrue trivial

/-- No command fails, and time passes only as long as nothing expires. -/
def Lasting (p : Pool serviceSignature World Response) : Turn World Fault → Prop
  | .issue _ fault => fault = none
  | .drift change => ∃ ms, change = (fun σ => σ.tick ms) ∧
      (∀ key, (p.state.tick ms).session? key = p.state.session? key) ∧
        ∀ key, (p.state.tick ms).chunk? key = p.state.chunk? key

/-- The events that the calls have published, newest first. -/
def publications (journal : List (ℕ × Command)) : List FileLoadCompletedEvent :=
  journal.filterMap fun entry => entry.2.event?

/-- The session under the key has the status. -/
def World.Marked (σ : World) (key : SessionKey) (status : SessionStatus) : Prop :=
  ∃ data ∈ σ.session? key, data.status = status.value

/-- How the call for the session may end.  Either the event that is out is that of the session, or
the file is a duplicate of one that had been registered or of the one whose event is out. -/
def Decided (σ₀ σ : World) (w : UUID) (sha256 : String) (s : UUID)
    (events : List FileLoadCompletedEvent) : Except Exc Response → Prop
  | .ok _ => (∃ event, events = [event] ∧ event.fileId = s) ∧ σ.Marked ⟨w, s⟩ .complete
  | .error e => e.isDuplicateFileError = true ∧ (∀ event ∈ events, event.fileId ≠ s) ∧
      ((σ₀.dedup w sha256).isSome = true ∨ events ≠ []) ∧ σ.Marked ⟨w, s⟩ .failed

/-- What is registered in the workspace can be read. -/
def World.Legible (σ : World) (w : UUID) : Prop :=
  ∀ sha256 fields, σ.dedup w sha256 = some fields → fields.Legible

/-! ## What a completion relies on -/

/-- As far as the completion of the session can see, nothing has gone. -/
structure World.Spares (σ σ' : World) (w : UUID) (sha256 : String) (s : UUID) : Prop where
  session : σ'.session? ⟨w, s⟩ = σ.session? ⟨w, s⟩
  chunk : ∀ index, σ'.chunk? ⟨w, s, index⟩ = σ.chunk? ⟨w, s, index⟩
  object : σ'.objects ⟨w, s⟩ = σ.objects ⟨w, s⟩
  registered : (σ.dedup w sha256).isSome = true → (σ'.dedup w sha256).isSome = true
  clockReads : σ.clockReads ≤ σ'.clockReads

namespace Milestone

/-- What the completion of the session relies on at the stage. -/
def Holds (env : Environment) (σ₀ σ : World) (w : UUID) (sha256 : String) (s : UUID) :
    Milestone → Prop
  | .unread | .gathering => σ.session? ⟨w, s⟩ = σ₀.session? ⟨w, s⟩ ∧
      (∀ index, σ.chunk? ⟨w, s, index⟩ = σ₀.chunk? ⟨w, s, index⟩) ∧ σ.objects ⟨w, s⟩ = none
  | .uploading _ _ | .stored | .free | .published => σ.session? ⟨w, s⟩ = σ₀.session? ⟨w, s⟩
  | .taken => σ.session? ⟨w, s⟩ = σ₀.session? ⟨w, s⟩ ∧ (σ.dedup w sha256).isSome = true
  | .dated t => σ.session? ⟨w, s⟩ = σ₀.session? ⟨w, s⟩ ∧
      ∃ n < σ.clockReads, t = .utc (env.wallClock n)
  | .complete => σ.Marked ⟨w, s⟩ .complete
  | .failed => σ.Marked ⟨w, s⟩ .failed ∧ (σ.dedup w sha256).isSome = true

theorem Holds.spare (h : stage.Holds env σ₀ σ w sha256 s) (hspares : σ.Spares σ' w sha256 s) :
    stage.Holds env σ₀ σ' w sha256 s := by
  cases stage with
  | unread | gathering =>
      obtain ⟨hsession, hchunk, hobject⟩ := h
      exact ⟨hspares.session.trans hsession, fun index => (hspares.chunk index).trans
        (hchunk index), hspares.object.trans hobject⟩
  | uploading | stored | free | published => exact hspares.session.trans h
  | taken => exact ⟨hspares.session.trans h.1, hspares.registered h.2⟩
  | dated t =>
      obtain ⟨hsession, n, hn, ht⟩ := h
      exact ⟨hspares.session.trans hsession, n, hn.trans_le hspares.clockReads, ht⟩
  | complete =>
      obtain ⟨data, hdata, hstatus⟩ := h
      exact ⟨data, hspares.session.trans hdata, hstatus⟩
  | failed =>
      obtain ⟨⟨data, hdata, hstatus⟩, hregistered⟩ := h
      exact ⟨⟨data, hspares.session.trans hdata, hstatus⟩, hspares.registered hregistered⟩

/-- The session is there at every stage. -/
theorem Holds.present (h : stage.Holds env σ₀ σ w sha256 s) (hready : σ₀.Ready w sha256 s) :
    ∃ data, σ.session? ⟨w, s⟩ = some data := by
  obtain ⟨session, chunks, hcompletable, -⟩ := hready
  have hstored := hcompletable.reads.stored
  cases stage with
  | unread | gathering | taken | dated => exact ⟨_, h.1.trans hstored⟩
  | uploading | stored | free | published => exact ⟨_, Eq.trans h hstored⟩
  | complete =>
      obtain ⟨data, hdata, -⟩ := h
      exact ⟨data, hdata⟩
  | failed =>
      obtain ⟨⟨data, hdata, -⟩, -⟩ := h
      exact ⟨data, hdata⟩

/-- A session that is COMPLETE has been completed. -/
theorem Holds.complete (h : stage.Holds env σ₀ σ w sha256 s) (hready : σ₀.Ready w sha256 s)
    (hcomplete : σ.Marked ⟨w, s⟩ .complete) : stage = .complete := by
  obtain ⟨session, chunks, hcompletable, -⟩ := hready
  obtain ⟨data, hdata, hstatus⟩ := hcomplete
  have hunder : σ.session? ⟨w, s⟩ ≠ σ₀.session? ⟨w, s⟩ := fun heq => by
    cases hdata.symm.trans (heq.trans hcompletable.reads.stored)
    have hactive := (CompleteUploadUseCase.validateSession_eq_ok hcompletable.validated).1
    cases (SessionStatus.value_injective hstatus).symm.trans hactive
  cases stage with
  | unread | gathering | taken | dated => exact absurd h.1 hunder
  | uploading | stored | free | published => exact absurd h hunder
  | complete => rfl
  | failed =>
      obtain ⟨⟨data', hdata', hfailed⟩, -⟩ := h
      cases hdata.symm.trans hdata'
      exact absurd (hstatus.symm.trans hfailed) (by decide)

theorem Out.cleared (h : stage.Out) : stage.Cleared := by
  cases stage <;> trivial

end Milestone

/-! ## One command -/

theorem session?_act_of_area (hc : c.area ≠ .sessions) {key : SessionKey} :
    (c.act env σ).2.session? key = σ.session? key := by
  rw [World.session?, World.session?, Command.sessions_act_of_area hc, c.clock_act]

theorem World.Spares.refl (σ : World) : σ.Spares σ w sha256 s :=
  ⟨rfl, fun _ => rfl, rfl, id, le_rfl⟩

/-- The commands of S3 touch nothing but the object of their own key. -/
theorem World.spares_s3 (hc : c.area = .s3) (hkey : c.objectKey? ≠ some ⟨w, s⟩) :
    σ.Spares (c.act env σ).2 w sha256 s := by
  have hobject := @Command.objects_act env σ _ c hkey
  obtain ⟨objects, uploads, nextUpload, heq⟩ := @Command.act_s3 env σ _ hc
  rw [heq] at hobject ⊢
  exact ⟨rfl, fun _ => rfl, hobject, id, le_rfl⟩

namespace Milestone.May

theorem session?_overwrite_of_ne {data : SessionHash} (hne : s' ≠ s) :
    (σ.sessions.overwrite σ.clock ⟨w, s⟩ data).get? σ.clock ⟨w, s'⟩ = σ.session? ⟨w, s'⟩ :=
  Keyspace.get?_congr (Keyspace.overwrite_of_ne fun h => hne (congrArg SessionKey.documentId h))

/-- What one completion does spares the others. -/
theorem spares (h : stage.May w sha256 s c) (hne : s' ≠ s) :
    σ.Spares (c.act env σ).2 w sha256 s' := by
  have hkey : (⟨w, s⟩ : S3Key) ≠ ⟨w, s'⟩ := fun h => hne (congrArg S3Key.fileId h).symm
  cases h with
  | read | gather | ask | look | live => exact .refl σ
  | head | create | part => exact World.spares_s3 rfl nofun
  | assemble => exact World.spares_s3 rfl fun h => hkey (Option.some_injective _ h)
  | fail | complete =>
      exact ⟨session?_overwrite_of_ne hne, fun _ => rfl, rfl, id, le_rfl⟩
  | date => exact ⟨rfl, fun _ => rfl, rfl, id, Nat.le_succ _⟩
  | publish | release | clamp => exact ⟨rfl, fun _ => rfl, rfl, id, le_rfl⟩
  | register metadata =>
      refine ⟨rfl, fun _ => rfl, rfl, fun _ => ?_, le_rfl⟩
      simp [Command.act, World.setFingerprint]
  | clean index =>
      refine ⟨rfl, fun index' => Keyspace.get?_congr (Keyspace.erase_of_ne fun h => hne ?_), rfl,
        id, le_rfl⟩
      exact congrArg ChunkKey.sessionId h

/-- The completion is told what its monitor expects. -/
theorem hears (h : stage.May w sha256 s c) (hholds : stage.Holds env σ₀ σ w sha256 s)
    (hready : σ₀.Ready w sha256 s)
    (hfits : ∀ uploadId done, stage = .uploading uploadId done → σ.Uploading ⟨w, s⟩ uploadId done)
    (hlegible : σ.Legible w) (hclock : Monotone env.wallClock) :
    c.Prompt (c.act env σ).1 ∧ stage.Hears σ₀ c (c.act env σ).1 := by
  cases h with
  | read =>
      obtain ⟨session, chunks, hcompletable, -⟩ := hready
      have hstored := hholds.1.trans hcompletable.reads.stored
      refine ⟨.inr ⟨hcompletable.reads.valid, session, hcompletable.reads.key_eq, ?_⟩, ?_⟩
      · exact congrArg Except.ok hstored
      · exact congrArg Except.ok hholds.1
  | gather index => exact ⟨.inr ⟨_, rfl⟩, congrArg Except.ok (hholds.2.1 index)⟩
  | head =>
      obtain ⟨-, -, hobject⟩ := hholds
      simp only [Command.act, hobject]
      exact ⟨.inr ⟨_, rfl, rfl⟩, _, rfl, rfl⟩
  | create => exact ⟨⟨_, rfl⟩, trivial⟩
  | part uploadId done body => exact ⟨((hfits _ _ rfl).part body).1, trivial⟩
  | assemble uploadId done => exact ⟨congrArg Prod.fst (hfits _ _ rfl).complete, trivial⟩
  | ask => exact ⟨.inr ⟨_, rfl⟩, trivial⟩
  | look =>
      -- what is registered can be read back
      obtain ⟨metadata, hmetadata⟩ := Option.isSome_iff_exists.mp hholds.2
      obtain ⟨fileMetadata, rfl⟩ := hlegible sha256 metadata hmetadata
      exact ⟨.inr ⟨_, rfl⟩, fileMetadata, congrArg Except.ok hmetadata⟩
  | live =>
      -- the session is still there, so TTL does not answer -2
      obtain ⟨data, hdata⟩ := hholds.present hready
      obtain ⟨entry, hentry, -⟩ := Option.map_eq_some_iff.mp hdata
      refine ⟨.inr ⟨_, rfl⟩, fun hgone => ?_⟩
      simp only [Command.act, hentry] at hgone
      obtain ⟨value, deadline⟩ := entry
      cases deadline with
      | none => cases hgone
      | some deadline => cases hgone
  -- the event's time is read after the session's, and the clock does not run backwards
  | date =>
      refine ⟨⟨_, rfl⟩, fun uploadedAt hdated t ht => ?_⟩
      subst hdated
      obtain ⟨-, n, hn, rfl⟩ := hholds
      cases ht
      exact hclock hn.le
  | fail | publish | complete | release | clamp | register | clean =>
      exact ⟨.inr ⟨_, rfl⟩, trivial⟩

/-- What the completion relies on at the next stage. -/
theorem holds_after (h : stage.May w sha256 s c) (hholds : stage.Holds env σ₀ σ w sha256 s) :
    (stage.after c (c.act env σ).1).Holds env σ₀ (c.act env σ).2 w sha256 s := by
  cases h with
  | read | gather | look => exact hholds
  | live =>
      rw [Milestone.after_ttl]
      exact hholds
  | create => exact hholds.1
  | head => exact hholds.spare (World.spares_s3 rfl nofun)
  | part | assemble => exact (session?_act_of_area (by rintro ⟨⟩)).trans hholds
  | ask =>
      cases hfound : (σ.dedup w sha256).isSome with
      | false =>
          simp only [Command.act, hfound]
          exact hholds
      | true =>
          simp only [Command.act, hfound]
          exact ⟨hholds, hfound⟩
  | fail hstatus => exact ⟨⟨_, Keyspace.get?_overwrite_self, hstatus⟩, hholds.2⟩
  | complete hstatus => exact ⟨_, Keyspace.get?_overwrite_self, hstatus⟩
  | date stage =>
      have hspares : σ.Spares (Command.now.act env σ).2 w sha256 s :=
        ⟨rfl, fun _ => rfl, rfl, id, Nat.le_succ _⟩
      cases stage with
      | free => exact ⟨hholds, _, Nat.lt_succ_self _, rfl⟩
      | _ => exact hholds.spare hspares
  | publish => exact hholds.1
  | release | clamp | register => exact hholds
  | clean => exact hholds

/-- The fingerprint is found free, or it had been found free before. -/
theorem cleared_after (h : stage.May w sha256 s c)
    (hcleared : (stage.after c (c.act env σ).1).Cleared) :
    stage.Cleared ∨ c = .hexistsDedup w sha256 ∧ (σ.dedup w sha256).isSome = false := by
  cases h with
  | ask =>
      cases hfound : (σ.dedup w sha256).isSome with
      | false => exact .inr ⟨rfl, rfl⟩
      | true =>
          simp only [Command.act, hfound] at hcleared
          cases hcleared
  | live =>
      rw [Milestone.after_ttl] at hcleared
      exact .inl hcleared
  | date stage => cases stage <;> first | exact .inl trivial | cases hcleared
  | fail | publish | complete | release | clamp | register | clean => exact .inl hcleared
  | _ => cases hcleared

/-- A command other than the publication leaves it at that whether the event is out. -/
theorem out_after (h : stage.May w sha256 s c) (hc : c.event? = none) :
    (stage.after c (c.act env σ).1).Out ↔ stage.Out := by
  cases h with
  | live => rw [Milestone.after_ttl]
  | ask =>
      cases hfound : (σ.dedup w sha256).isSome <;> simp only [Command.act, hfound] <;> exact Iff.rfl
  | date stage => cases stage <;> exact Iff.rfl
  | publish => cases hc
  | _ => exact Iff.rfl

/-- A fingerprint is there for the first time only after the session is COMPLETE. -/
theorem registered_act (h : stage.May w sha256 s c)
    (hregistered : ((c.act env σ).2.dedup w sha256).isSome = true) :
    (σ.dedup w sha256).isSome = true ∨ stage = .complete := by
  by_cases hc : c.area = .s3
  · obtain ⟨objects, uploads, nextUpload, heq⟩ := @Command.act_s3 env σ _ hc
    rw [heq] at hregistered
    exact .inl hregistered
  · cases h with
    | register metadata => exact .inr rfl
    | head | create | part | assemble => exact absurd rfl hc
    | _ => exact .inl hregistered

/-- A session that is COMPLETE stays so. -/
theorem complete_after (h : Milestone.complete.May w sha256 s c) (reply : Except Exc c.Reply) :
    Milestone.complete.after c reply = .complete := by
  cases h <;> rfl

theorem legible_act (h : stage.May w sha256 s c) (hlegible : σ.Legible w) :
    (c.act env σ).2.Legible w := by
  by_cases hc : c.area = .s3
  · obtain ⟨objects, uploads, nextUpload, heq⟩ := @Command.act_s3 env σ _ hc
    rw [heq]
    exact hlegible
  · cases h with
    | register metadata =>
        intro sha256' fields hfields
        simp only [Command.act, World.setFingerprint, Function.update_self] at hfields
        by_cases heq : sha256' = sha256
        · rw [heq, Function.update_self] at hfields
          exact ⟨metadata, (Option.some_injective _ hfields).symm⟩
        · rw [Function.update_of_ne heq] at hfields
          exact hlegible sha256' fields hfields
    | head | create | part | assemble => exact absurd rfl hc
    | _ => exact hlegible

end Milestone.May

/-! ## Between the commands -/

/-- The upload that the call has under way. -/
def Contender.upload? (w : UUID) (γ : Contender) : Option Sent :=
  match γ.stage with
  | .uploading uploadId done => some ⟨⟨w, γ.sessionId⟩, uploadId, done⟩
  | _ => none

/-- The call after a reply. -/
def Contender.after (γ : Contender) (c : Command) (reply : Except Exc c.Reply) : Contender :=
  ⟨γ.sessionId, γ.stage.after c reply⟩

theorem Sending.contest (h : Sending (Contender.upload? w) γs σ) (hγ : γs[i]? = some γ)
    (hmay : γ.stage.May w sha256 γ.sessionId c) :
    Sending (Contender.upload? w) (γs.set i (γ.after c (c.act env σ).1)) (c.act env σ).2 := by
  obtain ⟨s, stage⟩ := γ
  cases hmay with
  | create => exact h.begin hγ rfl
  | part uploadId done body => exact h.part hγ rfl rfl
  | assemble uploadId done =>
      refine h.ended hγ (fun id hid => ⟨_, rfl, ?_⟩) rfl
      exact Option.some_injective _ hid
  | live =>
      refine h.same hγ rfl ?_
      rw [Contender.after, Milestone.after_ttl]
  | ask =>
      refine h.same hγ rfl ?_
      cases hfound : (σ.dedup w sha256).isSome <;>
        simp only [Contender.after, Command.act, hfound] <;> rfl
  | date stage => cases stage <;> exact h.same (c := .now) hγ rfl rfl
  | _ => exact h.same hγ rfl rfl

/-- What holds of the completions of the sessions, between any two commands.  At most one of them
has found the fingerprint free, and it is the one whose event is out. -/
structure Contested (env : Environment) (σ₀ : World) (w : UUID) (sha256 : String)
    (sessions : List UUID) (γs : List Contender) (σ : World) (journal : List (ℕ × Command)) :
    Prop where
  names : γs.map Contender.sessionId = sessions
  holds : ∀ (i : ℕ) γ, γs[i]? = some γ → γ.stage.Holds env σ₀ σ w sha256 γ.sessionId
  sending : Sending (Contender.upload? w) γs σ
  legible : σ.Legible w
  alone : ∀ (i j : ℕ) γ γ', γs[i]? = some γ → γs[j]? = some γ' → γ.stage.Cleared →
    γ'.stage.Cleared → i = j
  asked : ∀ (i : ℕ) γ, γs[i]? = some γ → γ.stage.Cleared →
    ∃ entry ∈ journal, entry.2 = .hexistsDedup w sha256
  origin : (σ.dedup w sha256).isSome = true →
    (σ₀.dedup w sha256).isSome = true ∨ ∃ γ ∈ γs, γ.stage = .complete
  announced : (publications journal = [] ∧ ∀ γ ∈ γs, ¬ γ.stage.Out) ∨
    ∃ event, publications journal = [event] ∧ ∃ γ ∈ γs, γ.stage.Out ∧ γ.sessionId = event.fileId

/-- Something that one entry of a list has still holds of one after another entry has changed. -/
theorem exists_mem_set {α : Type} {P : α → Prop} {l : List α} {i : ℕ} {a b : α}
    (hi : l[i]? = some a) (hP : P a → P b) (h : ∃ c ∈ l, P c) : ∃ c ∈ l.set i b, P c := by
  obtain ⟨c, hc, hPc⟩ := h
  obtain ⟨j, hj⟩ := List.getElem?_of_mem hc
  have hlt : i < l.length := (List.getElem?_eq_some_iff.mp hi).1
  by_cases hij : i = j
  · subst hij
    cases hi.symm.trans hj
    exact ⟨b, List.mem_of_getElem? (List.getElem?_set_self hlt), hP hPc⟩
  · exact ⟨c, List.mem_of_getElem? ((List.getElem?_set_ne hij).trans hj), hPc⟩

namespace Contested

variable (h : Contested env σ₀ w sha256 sessions γs σ journal)
include h

theorem ready (hready : ∀ s ∈ sessions, σ₀.Ready w sha256 s) (hγ : γs[i]? = some γ) :
    σ₀.Ready w sha256 γ.sessionId := by
  refine hready _ ?_
  rw [← h.names]
  exact List.mem_map.mpr ⟨γ, List.mem_of_getElem? hγ, rfl⟩

theorem names_set (hγ : γs[i]? = some γ) (reply : Except Exc c.Reply) :
    (γs.set i (γ.after c reply)).map Contender.sessionId = sessions := by
  have hname : (γs.map Contender.sessionId)[i]? = some γ.sessionId := by
    rw [List.getElem?_map, hγ]
    rfl
  obtain ⟨hlt, hget⟩ := List.getElem?_eq_some_iff.mp hname
  have hsame : (γ.after c reply).sessionId = γ.sessionId := rfl
  rw [List.map_set, hsame, ← hget, List.set_getElem_self, h.names]

theorem getElem?_names (hγ : γs[i]? = some γ) : sessions[i]? = some γ.sessionId := by
  rw [← h.names, List.getElem?_map, hγ]
  rfl

/-- There is only one call for each session. -/
theorem index_unique (hnodup : sessions.Nodup) {j : ℕ} (hj : γs[j]? = some γ')
    (hγ : γs[i]? = some γ) (heq : γ'.sessionId = γ.sessionId) : j = i := by
  have hname := h.getElem?_names hj
  refine (List.getElem?_inj (List.getElem?_eq_some_iff.mp hname).1 hnodup).mp ?_
  rw [hname, heq, h.getElem?_names hγ]

/-- Each completion goes on relying on what it relies on. -/
theorem holds_set (hnodup : sessions.Nodup) (hγ : γs[i]? = some γ)
    (hmay : γ.stage.May w sha256 γ.sessionId c) (j : ℕ) (γ₁ : Contender)
    (hj : (γs.set i (γ.after c (c.act env σ).1))[j]? = some γ₁) :
    γ₁.stage.Holds env σ₀ (c.act env σ).2 w sha256 γ₁.sessionId := by
  rcases getElem?_set_cases hj with ⟨-, rfl⟩ | ⟨hne, hj⟩
  · exact hmay.holds_after (h.holds i γ hγ)
  · exact (h.holds j γ₁ hj).spare (hmay.spares fun heq => hne (h.index_unique hnodup hj hγ heq))

/-- Nobody finds the fingerprint free after somebody else has. -/
theorem alone_set (hγ : γs[i]? = some γ) (hmay : γ.stage.May w sha256 γ.sessionId c)
    (hregistered : c = .hexistsDedup w sha256 →
      (∃ entry ∈ journal, entry.2 = .hexistsDedup w sha256) →
        (σ.dedup w sha256).isSome = true) (j k : ℕ) (γ₁ γ₂ : Contender)
    (hj : (γs.set i (γ.after c (c.act env σ).1))[j]? = some γ₁)
    (hk : (γs.set i (γ.after c (c.act env σ).1))[k]? = some γ₂) (h₁ : γ₁.stage.Cleared)
    (h₂ : γ₂.stage.Cleared) : j = k := by
  -- the call that moves had cleared already if another one had
  have hmoved : ∀ (j : ℕ) γ₁, γs[j]? = some γ₁ → γ₁.stage.Cleared →
      (γ.after c (c.act env σ).1).stage.Cleared → i = j := by
    intro j γ₁ hj h₁ h₂
    rcases hmay.cleared_after h₂ with hbefore | ⟨hask, hfree⟩
    · exact h.alone i j γ γ₁ hγ hj hbefore h₁
    · cases (hregistered hask (h.asked j γ₁ hj h₁)).symm.trans hfree
  rcases getElem?_set_cases hj with ⟨rfl, rfl⟩ | ⟨-, hj⟩
  · rcases getElem?_set_cases hk with ⟨rfl, -⟩ | ⟨-, hk⟩
    · rfl
    · exact hmoved k γ₂ hk h₂ h₁
  · rcases getElem?_set_cases hk with ⟨rfl, rfl⟩ | ⟨-, hk⟩
    · exact (hmoved j γ₁ (by assumption) h₁ h₂).symm
    · exact h.alone j k γ₁ γ₂ (by assumption) hk h₁ h₂

theorem asked_set (hγ : γs[i]? = some γ) (hmay : γ.stage.May w sha256 γ.sessionId c) (j : ℕ)
    (γ₁ : Contender) (hj : (γs.set i (γ.after c (c.act env σ).1))[j]? = some γ₁)
    (h₁ : γ₁.stage.Cleared) :
    ∃ entry ∈ (i, c) :: journal, entry.2 = .hexistsDedup w sha256 := by
  have hbefore : ∀ (k : ℕ) γ', γs[k]? = some γ' → γ'.stage.Cleared →
      ∃ entry ∈ (i, c) :: journal, entry.2 = .hexistsDedup w sha256 := fun k γ' hk hcleared => by
    obtain ⟨entry, hentry, hask⟩ := h.asked k γ' hk hcleared
    exact ⟨entry, List.mem_cons_of_mem _ hentry, hask⟩
  rcases getElem?_set_cases hj with ⟨-, rfl⟩ | ⟨-, hj⟩
  · rcases hmay.cleared_after h₁ with hcleared | ⟨rfl, -⟩
    · exact hbefore i γ hγ hcleared
    · exact ⟨_, List.mem_cons_self, rfl⟩
  · exact hbefore j γ₁ hj h₁

theorem origin_set (hγ : γs[i]? = some γ) (hmay : γ.stage.May w sha256 γ.sessionId c)
    (hsome : ((c.act env σ).2.dedup w sha256).isSome = true) :
    (σ₀.dedup w sha256).isSome = true ∨
      ∃ γ₁ ∈ γs.set i (γ.after c (c.act env σ).1), γ₁.stage = .complete := by
  have hcomplete : γ.stage = .complete → (γ.after c (c.act env σ).1).stage = .complete := by
    obtain ⟨s, stage⟩ := γ
    rintro rfl
    exact hmay.complete_after (c.act env σ).1
  rcases hmay.registered_act hsome with hbefore | hstage
  · exact (h.origin hbefore).imp_right (exists_mem_set hγ hcomplete)
  · exact .inr (exists_mem_set hγ hcomplete ⟨γ, List.mem_of_getElem? hγ, hstage⟩)

/-- The event that is out is that of a completion that has found the fingerprint free. -/
theorem announced_set (hγ : γs[i]? = some γ) (hmay : γ.stage.May w sha256 γ.sessionId c) :
    (publications ((i, c) :: journal) = [] ∧
        ∀ γ₁ ∈ γs.set i (γ.after c (c.act env σ).1), ¬ γ₁.stage.Out) ∨
      ∃ event, publications ((i, c) :: journal) = [event] ∧
        ∃ γ₁ ∈ γs.set i (γ.after c (c.act env σ).1),
          γ₁.stage.Out ∧ γ₁.sessionId = event.fileId := by
  cases hevent : c.event? with
  | none =>
      -- without a publication nobody gets out, and nobody gets back in
      have hout : (γ.after c (c.act env σ).1).stage.Out ↔ γ.stage.Out := hmay.out_after hevent
      have hsame : publications ((i, c) :: journal) = publications journal := by
        simp [publications, hevent]
      rw [hsame]
      refine h.announced.imp (fun ⟨hnone, hquiet⟩ => ⟨hnone, fun γ₁ hγ₁ h₁ => ?_⟩)
        fun ⟨event, hone, hsome⟩ => ⟨event, hone, exists_mem_set hγ ?_ hsome⟩
      · rcases List.mem_or_eq_of_mem_set hγ₁ with hmem | rfl
        · exact hquiet γ₁ hmem h₁
        · exact hquiet γ (List.mem_of_getElem? hγ) (hout.mp h₁)
      · rintro ⟨hγout, hfile⟩
        exact ⟨hout.mpr hγout, hfile⟩
  | some event =>
      have hlt : i < γs.length := (List.getElem?_eq_some_iff.mp hγ).1
      have hcons : publications ((i, c) :: journal) = event :: publications journal := by
        simp [publications, hevent]
      rw [hcons]
      obtain ⟨s, stage⟩ := γ
      cases hmay with
      | @publish uploadedAt _ hfile =>
          cases hevent
          refine .inr ⟨event, ?_, ⟨s, .published⟩, ?_, trivial, hfile.symm⟩
          · rcases h.announced with ⟨hnone, -⟩ | ⟨_, -, γ₁, hγ₁, hout, -⟩
            · rw [hnone]
            · -- the other one would have found the fingerprint free as well
              obtain ⟨j, hj⟩ := List.getElem?_of_mem hγ₁
              obtain rfl := h.alone i j _ _ hγ hj trivial hout.cleared
              cases hγ.symm.trans hj
              cases hout
          · exact List.mem_of_getElem? (List.getElem?_set_self hlt)
      | _ => cases hevent

theorem step (hnodup : sessions.Nodup) (hγ : γs[i]? = some γ)
    (hmay : γ.stage.May w sha256 γ.sessionId c)
    (hregistered : c = .hexistsDedup w sha256 →
      (∃ entry ∈ journal, entry.2 = .hexistsDedup w sha256) →
        (σ.dedup w sha256).isSome = true) :
    Contested env σ₀ w sha256 sessions (γs.set i (γ.after c (c.act env σ).1)) (c.act env σ).2
      ((i, c) :: journal) where
  names := h.names_set hγ _
  holds := h.holds_set hnodup hγ hmay
  sending := h.sending.contest hγ hmay
  legible := hmay.legible_act h.legible
  alone := h.alone_set hγ hmay hregistered
  asked := h.asked_set hγ hmay
  origin := h.origin_set hγ hmay
  announced := h.announced_set hγ hmay

/-- Nothing that the completions rely on expires. -/
theorem drift (ms : ℕ) (hsession : ∀ key, (σ.tick ms).session? key = σ.session? key)
    (hchunk : ∀ key, (σ.tick ms).chunk? key = σ.chunk? key) :
    Contested env σ₀ w sha256 sessions γs (σ.tick ms) journal := by
  refine ⟨h.names, fun j γ₁ hj => (h.holds j γ₁ hj).spare ?_, ⟨fun j _ _ hj hu => ?_,
    h.sending.apart⟩, h.legible, h.alone, h.asked, h.origin, h.announced⟩
  · exact ⟨hsession _, fun index => hchunk _, rfl, id, le_rfl⟩
  · obtain ⟨hissued, hupload⟩ := h.sending.fits j _ _ hj hu
    exact ⟨hissued, hupload⟩

omit h in
theorem sustains {p : Pool serviceSignature World Response} {turn : Turn World Fault}
    (hclock : Monotone env.wallClock) (hnodup : sessions.Nodup)
    (hready : ∀ s ∈ sessions, σ₀.Ready w sha256 s)
    (h : Contested env σ₀ w sha256 sessions γs p.state p.journal)
    (hturn : Lasting p turn ∧ Registered w sha256 p turn) :
    Pool.Sustains (serviceMachine env) (contestMonitor σ₀ w sha256)
      (Contested env σ₀ w sha256 sessions) p γs turn := by
  obtain ⟨hlasting, hregistered⟩ := hturn
  cases turn with
  | drift change =>
      obtain ⟨ms, rfl, hsession, hchunk⟩ := hlasting
      exact h.drift ms hsession hchunk
  | issue i fault =>
      obtain rfl : fault = none := hlasting
      intro γ c hγ hpending hmay
      refine ⟨Milestone.May.hears hmay (h.holds i γ hγ) (h.ready hready hγ)
        (fun uploadId done hstage => ?_) h.legible hclock,
        h.step hnodup hγ hmay fun hc => hregistered (hpending.trans (congrArg some hc))⟩
      refine h.sending.fits i γ ⟨⟨w, γ.sessionId⟩, uploadId, done⟩ hγ ?_
      rw [Contender.upload?, hstage]

end Contested

/-! ## The theorem -/

theorem lasting_calm (schedule : List ℕ) (p : Pool serviceSignature World Response) :
    Pool.Within (serviceMachine env) Lasting p (calm schedule) := by
  refine Pool.within_of_forall (fun turn hturn q => ?_) p
  obtain ⟨i, -, rfl⟩ := List.mem_map.mp hturn
  rfl

/-- The calls that are going to complete the sessions. -/
def completions (w : UUID) (sessions : List UUID) : List Call :=
  sessions.map fun s => .complete ⟨w, s⟩

theorem contested_start (hlegible : σ.Legible w) (hready : ∀ s ∈ sessions, σ.Ready w sha256 s) :
    Contested env σ w sha256 sessions (sessions.map fun s => ⟨s, .unread⟩) σ [] := by
  have hunread : ∀ (i : ℕ) γ, (sessions.map fun s => (⟨s, .unread⟩ : Contender))[i]? = some γ →
      γ.sessionId ∈ sessions ∧ γ.stage = .unread := by
    intro i γ hγ
    obtain ⟨s, hs, rfl⟩ := List.mem_map.mp (List.mem_of_getElem? hγ)
    exact ⟨hs, rfl⟩
  have hquiet : ∀ (i : ℕ) γ, (sessions.map fun s => (⟨s, .unread⟩ : Contender))[i]? = some γ →
      ¬ γ.stage.Cleared := by
    intro i γ hγ hcleared
    rw [(hunread i γ hγ).2] at hcleared
    exact hcleared
  refine ⟨by simp [Function.comp_def], fun i γ hγ => ?_, ⟨fun i γ u hγ hu => ?_,
    fun i _ γ _ u _ hγ _ hu _ => ?_⟩, hlegible,
    fun i _ γ _ hγ _ hcleared _ => absurd hcleared (hquiet i γ hγ),
    fun i γ hγ hcleared => absurd hcleared (hquiet i γ hγ), .inl, .inl ⟨rfl, fun γ hγ hout => ?_⟩⟩
  · obtain ⟨hs, hstage⟩ := hunread i γ hγ
    obtain ⟨session, chunks, hcompletable, -⟩ := hready _ hs
    rw [hstage]
    exact ⟨rfl, fun _ => rfl, hcompletable.assemblable.absent⟩
  · rw [Contender.upload?, (hunread i γ hγ).2] at hu
    cases hu
  · rw [Contender.upload?, (hunread i γ hγ).2] at hu
    cases hu
  · obtain ⟨i, hi⟩ := List.getElem?_of_mem hγ
    exact hquiet i γ hi hout.cleared

theorem Milestone.Ends.map {α β : Type} {f : α → β} {r : Except Exc α} (h : stage.Ends r) :
    stage.Ends (r.map f) := by
  cases stage with
  | complete => cases r <;> exact h
  | failed =>
      obtain ⟨e, rfl, hduplicate⟩ := h
      exact ⟨e, rfl, hduplicate⟩
  | _ => exact h

theorem watched_completions {I : List Contender → World → List (ℕ × Command) → Prop}
    (hready : ∀ s ∈ sessions, σ₀.Ready w sha256 s)
    (h : I (sessions.map fun s => ⟨s, .unread⟩) σ []) :
    Pool.Watched (contestMonitor σ₀ w sha256) (fun r γ => γ.stage.Ends r) I
      (callPool settings σ (completions w sessions)) (sessions.map fun s => ⟨s, .unread⟩) := by
  refine ⟨?_, h⟩
  clear h
  unfold callPool completions
  induction sessions with
  | nil => exact .nil
  | cons s sessions ih =>
      obtain ⟨hs, hsessions⟩ := List.forall_mem_cons.mp hready
      refine .cons (obeys_map (Program.obeys_mono
        (CompleteUploadUseCase.obeys_contest settings ⟨w, s⟩ hs) fun r γ hr => ?_)) (ih hsessions)
      exact hr.map

namespace Contested

variable (h : Contested env σ₀ w sha256 sessions γs σ journal)
include h

/-- The event of the completion that is out. -/
theorem published_of_out (hγ : γs[i]? = some γ) (hout : γ.stage.Out) :
    ∃ event, publications journal = [event] ∧ event.fileId = γ.sessionId := by
  rcases h.announced with ⟨-, hquiet⟩ | ⟨event, hone, γ₁, hγ₁, hout₁, hfile⟩
  · exact absurd hout (hquiet γ (List.mem_of_getElem? hγ))
  · obtain ⟨j, hj⟩ := List.getElem?_of_mem hγ₁
    obtain rfl := h.alone i j γ γ₁ hγ hj hout.cleared hout₁.cleared
    cases hγ.symm.trans hj
    exact ⟨event, hone, hfile.symm⟩

/-- The last stage of a call says how the call has ended. -/
theorem decided (hnodup : sessions.Nodup) (hγ : γs[i]? = some γ) {r : Except Exc Response}
    (hends : γ.stage.Ends r) : Decided σ₀ σ w sha256 γ.sessionId (publications journal) r := by
  have hholds := h.holds i γ hγ
  obtain ⟨s, stage⟩ := γ
  cases stage with
  | complete =>
      cases r with
      | ok response => exact ⟨h.published_of_out hγ trivial, hholds⟩
      | error e => cases hends
  | failed =>
      obtain ⟨e, rfl, hduplicate⟩ := hends
      refine ⟨hduplicate, fun event hevent hfile => ?_, (h.origin hholds.2).imp_right ?_, hholds.1⟩
      · rcases h.announced with ⟨hnone, -⟩ | ⟨event', hone, γ₁, hγ₁, hout₁, hfile₁⟩
        · rw [hnone] at hevent
          cases hevent
        · rw [hone, List.mem_singleton] at hevent
          subst hevent
          obtain ⟨j, hj⟩ := List.getElem?_of_mem hγ₁
          obtain rfl := h.index_unique hnodup hj hγ (hfile₁.trans hfile)
          cases hγ.symm.trans hj
          cases hout₁
      · rintro ⟨γ₁, hγ₁, hcomplete⟩
        obtain ⟨j, hj⟩ := List.getElem?_of_mem hγ₁
        have hout : γ₁.stage.Out := by
          rw [hcomplete]
          trivial
        obtain ⟨event, hone, -⟩ := h.published_of_out hj hout
        rw [hone]
        exact List.cons_ne_nil _ _
  | _ => cases hends

/-- No two sessions are COMPLETE. -/
theorem complete_unique (hready : ∀ s ∈ sessions, σ₀.Ready w sha256 s) (hs : s ∈ sessions)
    (hs' : s' ∈ sessions) (hcomplete : σ.Marked ⟨w, s⟩ .complete)
    (hcomplete' : σ.Marked ⟨w, s'⟩ .complete) : s = s' := by
  have hstage : ∀ s ∈ sessions, σ.Marked ⟨w, s⟩ .complete →
      ∃ (i : ℕ) (γ : Contender), γs[i]? = some γ ∧ γ.sessionId = s ∧ γ.stage = .complete := by
    intro s hs hcomplete
    rw [← h.names] at hs
    obtain ⟨γ, hγ, rfl⟩ := List.mem_map.mp hs
    obtain ⟨i, hi⟩ := List.getElem?_of_mem hγ
    exact ⟨i, γ, hi, rfl, (h.holds i γ hi).complete (h.ready hready hi) hcomplete⟩
  obtain ⟨i, γ, hi, rfl, hγ⟩ := hstage s hs hcomplete
  obtain ⟨j, γ', hj, rfl, hγ'⟩ := hstage s' hs' hcomplete'
  have hcleared : ∀ γ : Contender, γ.stage = .complete → γ.stage.Cleared := fun γ hγ => by
    rw [hγ]
    trivial
  obtain rfl := h.alone i j γ γ' hi hj (hcleared γ hγ) (hcleared γ' hγ')
  cases hi.symm.trans hj
  rfl

end Contested

/-- At most one event is published, at most one session becomes COMPLETE, and every completion that
has ended either belongs to these, or it has ended with DuplicateFileError and its session is
FAILED. -/
structure Deduplicated (σ₀ : World) (w : UUID) (sha256 : String) (sessions : List UUID)
    (p : Pool serviceSignature World Response) : Prop where
  published : (publications p.journal).length ≤ 1
  complete : ∀ s ∈ sessions, ∀ s' ∈ sessions, p.state.Marked ⟨w, s⟩ .complete →
    p.state.Marked ⟨w, s'⟩ .complete → s = s'
  ended : ∀ i s r, sessions[i]? = some s → p.result? i = some r →
    Decided σ₀ p.state w sha256 s (publications p.journal) r

/-- Completions of different sessions that are ready and declared with one checksum.  Duplicates are
found if none looks up the fingerprint after another has looked it up and before it is
registered. -/
theorem duplicates_settle (hσ : σ.Reachable env settings) (hclock : Monotone env.wallClock)
    (hnodup : sessions.Nodup) (hready : ∀ s ∈ sessions, σ.Ready w sha256 s)
    (turns : List (Turn World Fault))
    (hlasting : Pool.Within (serviceMachine env) Lasting
      (callPool settings σ (completions w sessions)) turns)
    (hregistered : Pool.Within (serviceMachine env) (Registered w sha256)
      (callPool settings σ (completions w sessions)) turns) :
    Deduplicated σ w sha256 sessions
      ((callPool settings σ (completions w sessions)).run (serviceMachine env) turns) := by
  have hwithin : Pool.Within (serviceMachine env)
      (fun p turn => Lasting p turn ∧ Registered w sha256 p turn)
      (callPool settings σ (completions w sessions)) turns :=
    Pool.within_iff.mpr fun before turn after heq =>
      ⟨Pool.within_iff.mp hlasting before turn after heq,
        Pool.within_iff.mp hregistered before turn after heq⟩
  obtain ⟨γs, hend⟩ := Pool.run_watched
    (fun _ _ _ h hturn => Contested.sustains hclock hnodup hready h hturn)
    (watched_completions hready (contested_start (hσ.sound.legible w) hready)) hwithin
  have hstate := hend.holds
  refine ⟨?_, fun s hs s' hs' => hstate.complete_unique hready hs hs', fun i s r hs hr => ?_⟩
  · rcases hstate.announced with ⟨hnone, -⟩ | ⟨event, hone, -⟩
    · rw [hnone]
      exact Nat.zero_le _
    · rw [hone]
      exact le_rfl
  · obtain ⟨γ, hγ, hends⟩ := hend.returned hr
    cases hs.symm.trans (hstate.getElem?_names hγ)
    exact hstate.decided hnodup hγ hends

namespace Sample

/-- Two sessions for the same byte, each with its chunk. -/
def twins : World :=
  (Run.steps environment twoUploads Run.start
    [.call (.initiate upload) [], .call (.initiate upload) [], .call (.processChunk chunk) [],
      .call (.processChunk { chunk with sessionId := ⟨8⟩ }) []]).world

def firstTwin : UploadSession where
  toSessionFields := { pendingSession.toSessionFields with
    offset := 1
    status := .inProgress
    chunkManifest := [⟨0, 1, chunk.chunkChecksum⟩] }
  valid := by decide +kernel

def secondTwin : UploadSession where
  toSessionFields := { firstTwin.toSessionFields with
    sessionId := ⟨8⟩
    createdAt := .utc (environment.wallClock 1)
    expiresAt := (DateTime.utc (environment.wallClock 1)).addHours 24 }
  valid := by decide +kernel

theorem wallClock_monotone : Monotone environment.wallClock := fun m n h => by
  change (1777631400000000 + m : ℤ) ≤ 1777631400000000 + n
  omega

/-- What is stored for the two. -/
theorem twins_stored :
    (twins.session? ⟨workspace, session⟩ = some (RedisSessionStore.serializeSession firstTwin) ∧
      twins.session? ⟨workspace, ⟨8⟩⟩ = some (RedisSessionStore.serializeSession secondTwin)) ∧
    (twins.chunk? ⟨workspace, session, 0⟩ = some [1] ∧
      twins.chunk? ⟨workspace, ⟨8⟩, 0⟩ = some [1]) ∧
    twins.objects (CompleteUploadUseCase.fileKey ⟨workspace, session⟩) = none ∧
      twins.objects (CompleteUploadUseCase.fileKey ⟨workspace, ⟨8⟩⟩) = none := by
  decide +kernel

theorem twins_ready : ∀ s ∈ [session, ⟨8⟩], twins.Ready workspace upload.sha256Checksum s := by
  obtain ⟨⟨hfirst, hsecond⟩, ⟨hchunk, hchunk'⟩, hobject, hobject'⟩ := twins_stored
  intro s hs
  rcases List.mem_pair.mp hs with rfl | rfl
  · exact ⟨firstTwin, [[1]], ⟨⟨by decide, rfl, hfirst⟩, by decide +kernel,
      ⟨.cons hchunk .nil, hobject, by decide +kernel, by decide +kernel⟩, rfl⟩, rfl⟩
  · exact ⟨secondTwin, [[1]], ⟨⟨by decide, rfl, hsecond⟩, by decide +kernel,
      ⟨.cons hchunk' .nil, hobject', by decide +kernel, by decide +kernel⟩, rfl⟩, rfl⟩

end Sample

/-- The second completion reads its session first, and looks up the fingerprint last. -/
theorem duplicates_settle_sample :
    Deduplicated Sample.twins Sample.workspace Sample.upload.sha256Checksum [Sample.session, ⟨8⟩]
      ((callPool Sample.twoUploads Sample.twins
        (completions Sample.workspace [Sample.session, ⟨8⟩])).run
        (serviceMachine Sample.environment)
        (calm ([1, 1] ++ List.replicate 16 0 ++ List.replicate 8 1))) :=
  duplicates_settle (Run.reachable_steps _) Sample.wallClock_monotone (by decide)
    Sample.twins_ready _ (lasting_calm _ _) (by decide +kernel)

/-- Both completions look up the fingerprint before either has registered it, and both publish. -/
theorem twins_both_published :
    ¬ Deduplicated Sample.twins Sample.workspace Sample.upload.sha256Checksum
      [Sample.session, ⟨8⟩]
      ((callPool Sample.twoUploads Sample.twins
        (completions Sample.workspace [Sample.session, ⟨8⟩])).run
        (serviceMachine Sample.environment)
        (calm (List.replicate 8 0 ++ List.replicate 8 1 ++ [0, 0, 1, 1]))) := by
  intro h
  have hboth : (publications ((callPool Sample.twoUploads Sample.twins
      (completions Sample.workspace [Sample.session, ⟨8⟩])).run (serviceMachine Sample.environment)
      (calm (List.replicate 8 0 ++ List.replicate 8 1 ++ [0, 0, 1, 1]))).journal).length = 2 := by
    decide +kernel
  have hone := h.published
  omega

end RagFileUploader
