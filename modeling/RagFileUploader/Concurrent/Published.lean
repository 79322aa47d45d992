import RagFileUploader.Concurrent.FilingCalls
import RagFileUploader.Concurrent.Reachable

/-!
# Published files

Chunk calls, completions and aborts of one session, interleaved command by command.  A completion
checks that the key is free before it uploads, and two completions that both find it free may have
read different chunks.  Then the one overwrites or deletes what the other has published.  As long as
no completion puts its object in the place of another one, every published event stays backed by
its file.

* `World.Expects` fixes the checksum of the session, and `Filed` is the invariant about its file:
  every event that is out, and every completion that is about to publish one, finds it at the key.
* `Filed.keep`, `Filed.complete`, `Filed.delete` and `Filed.publish` are the steps by the kind of
  command; `Unclashed` is needed for the second and the third.
* `BackedState.sustains` is the step of the whole, and `published_backed` the run.
-/

namespace RagFileUploader

open Effects Stores

variable {env : Environment} {settings : Settings} {σ σ' : World} {w s : UUID} {key : S3Key}
  {expected? : Option String} {γs : List Progress} {γ γ' : Progress} {c : Command} {i : ℕ}
  {journal : List (ℕ × Command)} {calls : List Call}

/-! ## What is to be kept -/

/-- The object at the event's path is there, and it is what the event says. -/
def FileLoadCompletedEvent.Backed (settings : Settings) (σ : World)
    (event : FileLoadCompletedEvent) : Prop :=
  ∃ content ∈ σ.objects ⟨event.workspaceId, event.fileId⟩,
    event.Announces settings ⟨event.workspaceId, event.fileId⟩ content

/-- The object that the command puts under the key. -/
def Command.newObject? (σ : World) (key : S3Key) : Command → Option Bytes
  | .completeMultipartUpload key' uploadId parts =>
      if key' = key then (σ.upload? key uploadId).bind fun u => u.collect parts else none
  | _ => none

/-- If the thread of the turn is about to put an object where there is one, it is the same object,
and the one that the session is about. -/
def Unclashed (key : S3Key) (expected? : Option String)
    (p : Pool serviceSignature World Response) : Turn World Fault → Prop
  | .issue i _ => ∀ c ∈ p.pending i, ∀ new ∈ c.newObject? p.state key,
      ∀ old ∈ p.state.objects key, new = old ∧ some (sha256Hexdigest old) = expected?
  | .drift _ => True

instance (p : Pool serviceSignature World Response) :
    ∀ turn, Decidable (Unclashed key expected? p turn)
  | .issue i _ => inferInstanceAs (Decidable (∀ c ∈ p.pending i, ∀ new ∈ c.newObject? p.state key,
      ∀ old ∈ p.state.objects key, new = old ∧ some (sha256Hexdigest old) = expected?))
  | .drift _ => isTrue trivial

/-- No command fails, and nothing happens between commands except that time passes. -/
def Uneventful : Turn World Fault → Prop
  | .issue _ fault => fault = none
  | .drift change => ∃ ms, change = fun σ => σ.tick ms

theorem uneventful_calm (schedule : List ℕ) : ∀ turn ∈ calm schedule, Uneventful turn := by
  intro turn hturn
  obtain ⟨i, -, rfl⟩ := List.mem_map.mp hturn
  rfl


/-! ## The session -/

/-- The hash under the key, if there is one, is that of a session with this checksum. -/
structure World.Expects (σ : World) (key : SessionKey) (expected? : Option String) : Prop where
  well : σ.StoredWell key
  checksum : ∀ entry, σ.sessions key = some entry → some entry.value.sha256Checksum = expected?

/-- What the call has read is that checksum. -/
def Progress.Knows (expected? : Option String) (γ : Progress) : Prop :=
  γ.checksum? = none ∨ γ.checksum? = expected?

namespace Progress.May

/-- The hash after a command is the one before or that of a session which the call knows. -/
theorem sessions_act (h : May settings w s γ c) {entry : Entry SessionHash}
    (hentry : (c.act env σ).2.sessions ⟨w, s⟩ = some entry) :
    σ.sessions ⟨w, s⟩ = some entry ∨ ∃ session : UploadSession, session.key = ⟨w, s⟩ ∧
      SessionKey.Valid ⟨w, s⟩ ∧ entry.value = RedisSessionStore.serializeSession session ∧
        γ.checksum? = some session.sha256Checksum.value := by
  rw [c.sessions_act] at hentry
  cases h with
  | aside _ hc =>
      left
      cases c with
      | deleteSession key =>
          exact (Keyspace.of_erase_eq_some hentry).2
      | createSession => exact absurd hc id
      | hsetSession => exact absurd hc id
      | _ => exact hentry
  | write session hkey hvalid hchecksum =>
      refine .inr ⟨session, hkey, hvalid, ?_, hchecksum⟩
      rw [hkey] at hentry
      change (σ.sessions.put _ _ _) _ = _ at hentry
      rw [Keyspace.put_self] at hentry
      cases hentry
      rfl
  | _ => exact .inl hentry

theorem expects_act (h : May settings w s γ c) (hσ : σ.Expects ⟨w, s⟩ expected?)
    (hγ : γ.Knows expected?) : (c.act env σ).2.Expects ⟨w, s⟩ expected? := by
  refine ⟨fun entry hentry => ?_, fun entry hentry => ?_⟩
  · rcases h.sessions_act hentry with hold | ⟨session, hkey, hvalid, hvalue, -⟩
    · exact hσ.well entry hold
    · exact ⟨hvalid, session, hkey, hvalue⟩
  · rcases h.sessions_act hentry with hold | ⟨session, -, -, hvalue, hchecksum⟩
    · exact hσ.checksum entry hold
    · rw [hvalue]
      exact hchecksum.symm.trans (hγ.resolve_left fun hnone => by
        cases hnone.symm.trans hchecksum)

/-- A call learns the checksum of the stored session. -/
theorem knows_after (h : May settings w s γ c) (hσ : σ.Expects ⟨w, s⟩ expected?)
    (hγ : γ.Knows expected?) : (γ.after c (c.act env σ).1).Knows expected? := by
  cases h with
  | aside _ hc =>
      rw [after_of_aside hc]
      exact hγ
  | read =>
      cases hdata : σ.session? ⟨w, s⟩ with
      | none =>
          simp only [Command.act, hdata]
          exact .inl rfl
      | some data =>
          obtain ⟨d, hentry, -⟩ := Keyspace.get?_eq_some_iff.mp hdata
          simp only [Command.act, hdata]
          exact .inr (hσ.checksum _ hentry)
  | write session _ _ _ => cases γ <;> exact hγ
  | _ => exact hγ

end Progress.May

/-! ## The uploads -/

/-- The upload that the call has under way. -/
def Progress.upload? (key : S3Key) : Progress → Option Sent
  | .uploading _ uploadId done => some ⟨key, uploadId, done⟩
  | _ => none

/-- Every command of a call on the session leaves the uploads in order. -/
theorem Sending.progress (h : Sending (Progress.upload? ⟨w, s⟩) γs σ) (hγ : γs[i]? = some γ)
    (hmay : γ.May settings w s c) :
    Sending (Progress.upload? ⟨w, s⟩) (γs.set i (γ.after c (c.act env σ).1)) (c.act env σ).2 := by
  cases hmay with
  | aside _ hc =>
      rw [Progress.after_of_aside hc]
      refine h.same hγ ?_ rfl
      cases c <;> first | rfl | exact absurd hc id
  | read =>
      refine h.same hγ rfl ?_
      cases hdata : σ.session? ⟨w, s⟩ with
      | none =>
          simp only [Command.act, hdata]
          rfl
      | some data =>
          simp only [Command.act, hdata]
          rfl
  | write session _ _ _ => cases γ <;> exact h.same (c := .hsetSession _ _) hγ rfl rfl
  | create checksum => exact h.begin hγ rfl
  | part checksum uploadId done body => exact h.part hγ rfl rfl
  | complete checksum uploadId done =>
      refine h.ended hγ (fun id hid => ⟨_, rfl, ?_⟩) rfl
      exact Option.some_injective _ hid
  | delete hsha => exact h.same (c := .deleteObject _) hγ rfl rfl
  | publish event hannounces hsha => exact h.same (c := .publish event) hγ rfl rfl

/-! ## The file -/

/-- What the calls have stored is there.  A call that is going to delete the file is the only one
that counts on it, and the events that are out describe it. -/
structure Filed (settings : Settings) (key : S3Key) (expected? : Option String)
    (γs : List Progress) (σ : World) (journal : List (ℕ × Command)) : Prop where
  held : ∀ (i : ℕ) γ content, γs[i]? = some γ → γ.content? = some content →
    σ.objects key = some content
  alone : ∀ (i j : ℕ) γ γ', γs[i]? = some γ → γs[j]? = some γ' → γ.Corrupt →
    γ'.content? ≠ none → j = i
  backed : ∀ (i : ℕ) event, (i, .publish event) ∈ journal → ∃ content,
    σ.objects key = some content ∧ event.Announces settings key content ∧
      some (sha256Hexdigest content) = expected?

namespace Filed

/-- The file stays, and nothing is published. -/
theorem keep (h : Filed settings key expected? γs σ journal) (hγ : γs[i]? = some γ)
    (hobject : σ'.objects key = σ.objects key) (hcontent : γ'.content? = γ.content?)
    (hcorrupt : γ'.Corrupt → γ.Corrupt) (hc : c.event? = none) :
    Filed settings key expected? (γs.set i γ') σ' ((i, c) :: journal) := by
  -- each call has stored what it had stored before
  have hbefore : ∀ (j : ℕ) γ₁, (γs.set i γ')[j]? = some γ₁ → ∃ γ₀, γs[j]? = some γ₀ ∧
      γ₁.content? = γ₀.content? ∧ (γ₁.Corrupt → γ₀.Corrupt) := by
    intro j γ₁ hj
    rcases getElem?_set_cases hj with ⟨rfl, rfl⟩ | ⟨-, hj⟩
    · exact ⟨γ, hγ, hcontent, hcorrupt⟩
    · exact ⟨γ₁, hj, rfl, id⟩
  refine ⟨fun j γ₁ content hj hheld => ?_, fun j k γ₁ γ₂ hj hk h₁ h₂ => ?_,
    fun j event hmem => ?_⟩
  · obtain ⟨γ₀, hj, hsame, -⟩ := hbefore j γ₁ hj
    rw [hobject]
    exact h.held j γ₀ content hj (hsame ▸ hheld)
  · obtain ⟨γ₀, hj, -, hcorrupt'⟩ := hbefore j γ₁ hj
    obtain ⟨γ₀', hk, hsame, -⟩ := hbefore k γ₂ hk
    exact h.alone j k γ₀ γ₀' hj hk (hcorrupt' h₁) (hsame ▸ h₂)
  · rw [hobject]
    rcases List.mem_cons.mp hmem with heq | hmem
    · cases heq
      cases hc
    · exact h.backed j event hmem

/-- The event describes what the call has stored. -/
theorem publish (h : Filed settings key expected? γs σ journal) {content : Bytes}
    {event : FileLoadCompletedEvent} (hγ : γs[i]? = some γ) (hcontent : γ.content? = some content)
    (hannounces : event.Announces settings key content)
    (hsha : some (sha256Hexdigest content) = expected?) (hobject : σ'.objects key = σ.objects key) :
    Filed settings key expected? (γs.set i γ) σ' ((i, .publish event) :: journal) := by
  obtain ⟨hlt, hget⟩ := List.getElem?_eq_some_iff.mp hγ
  have hset : γs.set i γ = γs := by rw [← hget, List.set_getElem_self]
  rw [hset]
  refine ⟨fun j γ₁ content hj hheld => hobject ▸ h.held j γ₁ content hj hheld, h.alone,
    fun j event' hmem => ?_⟩
  rcases List.mem_cons.mp hmem with heq | hmem
  · cases heq
    exact ⟨content, hobject ▸ h.held i γ content hγ hcontent, hannounces, hsha⟩
  · rw [hobject]
    exact h.backed j event' hmem

/-- The new object does not replace another one. -/
theorem complete (h : Filed settings key expected? γs σ journal)
    (hknown : ∀ (j : ℕ) γ, γs[j]? = some γ → γ.Knows expected?) {checksum : String}
    {content : Bytes} (hknows : some checksum = expected?)
    (hobject : σ'.objects key = some content)
    (hunclashed : ∀ old, σ.objects key = some old →
      content = old ∧ some (sha256Hexdigest old) = expected?)
    (hc : c.event? = none) :
    Filed settings key expected? (γs.set i (.stored checksum content)) σ' ((i, c) :: journal) := by
  -- who holds the object already holds the same bytes
  have hheld : ∀ (j : ℕ) γ₁ content', γs[j]? = some γ₁ → γ₁.content? = some content' →
      content' = content ∧ some (sha256Hexdigest content) = expected? := by
    intro j γ₁ content' hj hcontent
    obtain ⟨rfl, hsha⟩ := hunclashed content' (h.held j γ₁ content' hj hcontent)
    exact ⟨rfl, hsha⟩
  refine ⟨fun j γ₁ content' hj hcontent => ?_, fun j k γ₁ γ₂ hj hk h₁ h₂ => ?_,
    fun j event hmem => ?_⟩
  · rcases getElem?_set_cases hj with ⟨-, rfl⟩ | ⟨-, hj⟩
    · cases hcontent
      exact hobject
    · rw [(hheld j γ₁ content' hj hcontent).1]
      exact hobject
  · rcases getElem?_set_cases hk with ⟨hki, -⟩ | ⟨hnek, hk'⟩
    · rcases getElem?_set_cases hj with ⟨hji, -⟩ | ⟨hnej, hj'⟩
      · exact hki.trans hji.symm
      · -- a file that is to be deleted would have been replaced
        cases γ₁ with
        | stored checksum' content' =>
            obtain ⟨rfl, hsha⟩ := hheld j _ content' hj' rfl
            have hsame : some checksum' = expected? :=
              (hknown j _ hj').resolve_left (Option.some_ne_none _)
            exact absurd (Option.some_injective _ (hsha.trans hsame.symm)) h₁
        | _ => cases h₁
    · obtain ⟨content', hcontent'⟩ := Option.ne_none_iff_exists'.mp h₂
      obtain ⟨rfl, hsha⟩ := hheld k γ₂ content' hk' hcontent'
      rcases getElem?_set_cases hj with ⟨-, rfl⟩ | ⟨hnej, hj'⟩
      · exact absurd (Option.some_injective _ (hsha.trans hknows.symm)) h₁
      · exact h.alone j k γ₁ γ₂ hj' hk' h₁ h₂
  · rcases List.mem_cons.mp hmem with heq | hmem
    · cases heq
      cases hc
    · obtain ⟨old, hold, hannounces, hsha⟩ := h.backed j event hmem
      obtain ⟨rfl, -⟩ := hunclashed old hold
      exact ⟨content, hobject, hannounces, hsha⟩

/-- Nobody counts on the file that a call deletes. -/
theorem delete (h : Filed settings key expected? γs σ journal) {checksum : String}
    {content : Bytes} (hγ : γs[i]? = some (.stored checksum content))
    (hknows : some checksum = expected?) (hsha : sha256Hexdigest content ≠ checksum)
    (hc : c.event? = none) :
    Filed settings key expected? (γs.set i (.reading checksum)) σ' ((i, c) :: journal) := by
  have hnone : ∀ (j : ℕ) γ₁, (γs.set i (.reading checksum))[j]? = some γ₁ →
      γ₁.content? = none := by
    intro j γ₁ hj
    rcases getElem?_set_cases hj with ⟨-, rfl⟩ | ⟨hne, hj⟩
    · rfl
    · by_contra hsome
      exact hne (h.alone i j _ γ₁ hγ hj hsha hsome)
  refine ⟨fun j γ₁ content' hj hcontent => ?_, fun j k γ₁ γ₂ _ hk _ h₂ => absurd (hnone k γ₂ hk) h₂,
    fun j event hmem => ?_⟩
  · cases (hnone j γ₁ hj).symm.trans hcontent
  · rcases List.mem_cons.mp hmem with heq | hmem
    · cases heq
      cases hc
    · obtain ⟨content', hobject, -, hsha'⟩ := h.backed j event hmem
      cases (h.held i _ content hγ rfl).symm.trans hobject
      exact absurd (Option.some_injective _ (hsha'.trans hknows.symm)) hsha

end Filed

/-! ## Between the commands -/

/-- What holds of the calls on a session and of its file, between any two commands. -/
structure BackedState (settings : Settings) (w s : UUID) (expected? : Option String)
    (γs : List Progress) (σ : World) (journal : List (ℕ × Command)) : Prop where
  expects : σ.Expects ⟨w, s⟩ expected?
  known : ∀ (i : ℕ) γ, γs[i]? = some γ → γ.Knows expected?
  sending : Sending (Progress.upload? ⟨w, s⟩) γs σ
  filed : Filed settings ⟨w, s⟩ expected? γs σ journal

namespace BackedState

variable (h : BackedState settings w s expected? γs σ journal)
include h

/-- No command fails, and the uploads are where the calls left them. -/
theorem prompt_act (hγ : γs[i]? = some γ) (hmay : γ.May settings w s c) :
    c.Prompt (c.act env σ).1 := by
  cases hmay with
  | aside _ hc =>
      have hplausible : c.Plausible (c.act env σ).1 := by
        refine c.plausible_act fun key heq => ?_
        subst heq
        exact absurd hc id
      cases c with
      | headObject key =>
          simp only [Command.act, Command.Prompt]
          cases σ.objects key with
          | none => exact .inr ⟨_, rfl, rfl⟩
          | some content => exact .inl rfl
      | hgetallSession key => exact absurd hc id
      | createMultipartUpload key => exact absurd hc id
      | uploadPart => exact absurd hc id
      | completeMultipartUpload => exact absurd hc id
      | deleteObject => exact absurd hc id
      | _ => exact hplausible
  | read =>
      refine Command.plausible_act (.hgetallSession ⟨w, s⟩) fun key heq => ?_
      cases heq
      exact h.expects.well
  | write session _ _ _ =>
      exact Command.plausible_act (.hsetSession _ _) fun _ heq => by cases heq
  | create checksum => exact ⟨σ.nextUpload, rfl⟩
  | part checksum uploadId done body => exact ((h.sending.fits i _ _ hγ rfl).part body).1
  | complete checksum uploadId done =>
      exact congrArg Prod.fst (h.sending.fits i _ _ hγ rfl).complete
  | delete hsha => exact rfl
  | publish event hannounces hsha =>
      exact Command.plausible_act (.publish event) fun _ heq => by cases heq

theorem filed_step (hγ : γs[i]? = some γ) (hmay : γ.May settings w s c)
    (hunclashed : ∀ new ∈ c.newObject? σ ⟨w, s⟩, ∀ old ∈ σ.objects ⟨w, s⟩,
      new = old ∧ some (sha256Hexdigest old) = expected?) :
    Filed settings ⟨w, s⟩ expected? (γs.set i (γ.after c (c.act env σ).1)) (c.act env σ).2
      ((i, c) :: journal) := by
  -- a command that stores no object and publishes nothing
  have hsame : ∀ (γ' : Progress) (c : Command), γ'.content? = γ.content? →
      (γ'.Corrupt → γ.Corrupt) → c.objectKey? = none → c.event? = none →
        Filed settings ⟨w, s⟩ expected? (γs.set i γ') (c.act env σ).2 ((i, c) :: journal) :=
    fun γ' c hcontent hcorrupt hc hpublish => h.filed.keep hγ
      (Command.objects_act fun heq => by cases hc.symm.trans heq) hcontent hcorrupt hpublish
  have hknows : ∀ checksum, γ.checksum? = some checksum → some checksum = expected? :=
    fun checksum heq => heq.symm.trans
      ((h.known i γ hγ).resolve_left fun hnone => by cases hnone.symm.trans heq)
  cases hmay with
  | aside _ hc =>
      rw [Progress.after_of_aside hc]
      refine hsame γ c rfl id ?_ ?_ <;> cases c <;> first | rfl | exact absurd hc id
  | read =>
      cases hdata : σ.session? ⟨w, s⟩ with
      | none =>
          simp only [Command.act, hdata]
          exact hsame .unread (.hgetallSession ⟨w, s⟩) rfl id rfl rfl
      | some data =>
          simp only [Command.act, hdata]
          exact hsame (.reading _) (.hgetallSession ⟨w, s⟩) rfl id rfl rfl
  | write session _ _ _ => cases γ <;> exact hsame _ (.hsetSession _ _) rfl id rfl rfl
  | create checksum =>
      exact hsame (.uploading _ _ _) (.createMultipartUpload ⟨w, s⟩) rfl id rfl rfl
  | part checksum uploadId done body =>
      exact hsame (.uploading _ _ _) (.uploadPart _ _ _ _) rfl id rfl rfl
  | complete checksum uploadId done =>
      -- the parts that S3 puts together are the chunks that were sent
      have hfits := h.sending.fits i _ _ hγ rfl
      obtain ⟨u, hu, hparts⟩ := hfits.upload
      refine h.filed.complete h.known (hknows checksum rfl) ?_ (fun old hold => ?_) rfl
      · rw [hfits.complete]
        exact Function.update_self _ _ _
      · refine hunclashed done.flatten ?_ old hold
        simp only [Command.newObject?, if_true, hu, Option.bind_some,
          S3StorageClient.collect_partsFrom hparts, Option.mem_def]
  | delete hsha => exact h.filed.delete hγ (hknows _ rfl) hsha rfl
  | @publish checksum content event hannounces hsha =>
      exact h.filed.publish hγ rfl hannounces (hsha ▸ hknows checksum rfl) rfl

theorem step (hγ : γs[i]? = some γ) (hmay : γ.May settings w s c)
    (hunclashed : ∀ new ∈ c.newObject? σ ⟨w, s⟩, ∀ old ∈ σ.objects ⟨w, s⟩,
      new = old ∧ some (sha256Hexdigest old) = expected?) :
    BackedState settings w s expected? (γs.set i (γ.after c (c.act env σ).1)) (c.act env σ).2
      ((i, c) :: journal) := by
  refine ⟨hmay.expects_act h.expects (h.known i γ hγ), fun j γ' hj => ?_,
    h.sending.progress hγ hmay, h.filed_step hγ hmay hunclashed⟩
  rcases getElem?_set_cases hj with ⟨-, rfl⟩ | ⟨-, hj⟩
  · exact hmay.knows_after h.expects (h.known i γ hγ)
  · exact h.known j γ' hj

omit h in
theorem sustains {p : Pool serviceSignature World Response} {turn : Turn World Fault}
    (h : BackedState settings w s expected? γs p.state p.journal)
    (hturn : Uneventful turn ∧ Unclashed ⟨w, s⟩ expected? p turn) :
    Pool.Sustains (serviceMachine env) (filingMonitor settings w s)
      (BackedState settings w s expected?) p γs turn := by
  obtain ⟨huneventful, hunclashed⟩ := hturn
  cases turn with
  | drift change =>
      obtain ⟨ms, rfl⟩ := huneventful
      refine ⟨⟨h.expects.well, h.expects.checksum⟩, h.known, ⟨fun j _ _ hj hu => ?_,
        h.sending.apart⟩, ⟨h.filed.held, h.filed.alone, h.filed.backed⟩⟩
      obtain ⟨hissued, hupload⟩ := h.sending.fits j _ _ hj hu
      exact ⟨hissued, hupload⟩
  | issue i fault =>
      obtain rfl : fault = none := huneventful
      intro γ c hγ hpending hmay
      exact ⟨h.prompt_act hγ hmay, h.step hγ hmay (hunclashed c hpending)⟩

end BackedState

/-! ## The theorem -/

/-- The call is one on the session. -/
def Call.Concerns (w s : UUID) : Call → Prop
  | .initiate _ => False
  | .processChunk request => request.workspaceId = w ∧ request.sessionId = s
  | .complete request => request.workspaceId = w ∧ request.sessionId = s
  | .abort workspaceId sessionId => workspaceId = w ∧ sessionId = s

instance (w s : UUID) : ∀ c, Decidable (Call.Concerns w s c)
  | .initiate _ => isFalse id
  | .processChunk _ | .complete _ | .abort _ _ => inferInstanceAs (Decidable (_ ∧ _))

theorem Call.obeys_filing {c : Call} (h : c.Concerns w s) (settings : Settings) :
    (c.program settings).Obeys (filingMonitor settings w s) (fun _ _ => True) .unread := by
  cases c with
  | initiate request => cases h
  | processChunk request =>
      obtain ⟨rfl, rfl⟩ := h
      exact obeys_map (ProcessChunkUseCase.obeys_filing settings request)
  | complete request =>
      obtain ⟨rfl, rfl⟩ := h
      exact obeys_map (CompleteUploadUseCase.obeys_filing settings request)
  | abort workspaceId sessionId =>
      obtain ⟨rfl, rfl⟩ := h
      exact obeys_map (AbortUploadUseCase.obeys_filing settings _ _)

/-- The checksum of the session that is stored under the key. -/
def World.checksum? (σ : World) (key : SessionKey) : Option String :=
  (σ.sessions key).map fun entry => entry.value.sha256Checksum

theorem backed_start (hwell : σ.StoredWell ⟨w, s⟩) (n : ℕ) :
    BackedState settings w s (σ.checksum? ⟨w, s⟩) (List.replicate n .unread) σ [] := by
  have hunread : ∀ (i : ℕ) γ, (List.replicate n Progress.unread)[i]? = some γ → γ = .unread :=
    fun i γ hi => List.eq_of_mem_replicate (List.mem_of_getElem? hi)
  refine ⟨⟨hwell, fun entry hentry => ?_⟩, fun i γ hi => .inl ?_, ⟨fun i γ u hi hu => ?_,
    fun i _ γ _ u _ hi _ hu _ => ?_⟩, ⟨fun i γ _ hi hheld => ?_,
      fun i _ γ _ hi _ hcorrupt _ => ?_, fun i event hmem => ?_⟩⟩
  · rw [World.checksum?, hentry]
    rfl
  · rw [hunread i γ hi]
    rfl
  · rw [hunread i γ hi] at hu
    cases hu
  · rw [hunread i γ hi] at hu
    cases hu
  · rw [hunread i γ hi] at hheld
    cases hheld
  · rw [hunread i γ hi] at hcorrupt
    cases hcorrupt
  · cases hmem

/-- If no completion of a multipart upload puts an object in the place of another one, every event
that has been published is backed by its file from then on. -/
theorem published_backed (hσ : σ.Reachable env settings) (hcalls : ∀ c ∈ calls, c.Concerns w s)
    (turns : List (Turn World Fault)) (huneventful : ∀ turn ∈ turns, Uneventful turn)
    (hunclashed : Pool.Within (serviceMachine env) (Unclashed ⟨w, s⟩ (σ.checksum? ⟨w, s⟩))
      (callPool settings σ calls) turns) :
    ∀ i event, (i, Command.publish event) ∈
        ((callPool settings σ calls).run (serviceMachine env) turns).journal →
      event.Backed settings
        ((callPool settings σ calls).run (serviceMachine env) turns).state := by
  have hwatched : Pool.Watched (filingMonitor settings w s) (fun _ _ => True)
      (BackedState settings w s (σ.checksum? ⟨w, s⟩)) (callPool settings σ calls)
      (List.replicate calls.length .unread) := by
    -- each call obeys the monitor from the start
    refine ⟨?_, backed_start (hσ.wellStored _) _⟩
    clear hunclashed
    unfold callPool
    induction calls with
    | nil => exact .nil
    | cons c calls ih =>
        obtain ⟨hc, hcalls⟩ := List.forall_mem_cons.mp hcalls
        exact .cons (Call.obeys_filing hc settings) (ih hcalls)
  have hwithin : Pool.Within (serviceMachine env)
      (fun p turn => Uneventful turn ∧ Unclashed ⟨w, s⟩ (σ.checksum? ⟨w, s⟩) p turn)
      (callPool settings σ calls) turns := by
    refine Pool.within_iff.mpr fun before turn after heq => ⟨huneventful turn ?_, ?_⟩
    · rw [heq]
      exact List.mem_append_right _ List.mem_cons_self
    · exact Pool.within_iff.mp hunclashed before turn after heq
  obtain ⟨γs, hend⟩ := Pool.run_watched (fun _ _ _ h hturn => h.sustains hturn) hwatched hwithin
  -- an event in the journal is backed by what is stored at the end
  intro i event hmem
  obtain ⟨content, hobject, hannounces, -⟩ := hend.holds.filed.backed i event hmem
  have hfile := hannounces.file
  refine ⟨content, ?_, ?_⟩
  · rw [hfile]
    exact hobject
  · rw [hfile]
    exact hannounces

namespace Sample

/-- A chunk, and two completions after it. -/
def chunkAndCompletions : Pool serviceSignature World Response :=
  callPool Sample.settings initiated
    [.processChunk chunk, .complete completion, .complete completion]

/-- The second completion reads the session before the first has put the file together. -/
def takingTurns : List (Turn World Fault) :=
  calm [0, 0, 0, 0, 1, 2, 2, 1, 1, 1, 1, 1, 2, 2, 2, 1, 1, 1, 1, 1]

end Sample

theorem published_backed_sample :
    (Sample.chunkAndCompletions.run (serviceMachine Sample.environment)
        Sample.takingTurns).state.published.length = 1 ∧
      ∀ i event, (i, Command.publish event) ∈ (Sample.chunkAndCompletions.run
          (serviceMachine Sample.environment) Sample.takingTurns).journal →
        event.Backed Sample.settings (Sample.chunkAndCompletions.run
          (serviceMachine Sample.environment) Sample.takingTurns).state :=
  ⟨by decide +kernel,
    published_backed (Run.reachable_steps [.call (.initiate Sample.upload) []])
      (w := Sample.workspace) (s := Sample.session) (by decide) _ (uneventful_calm _)
      (by decide +kernel)⟩

/-- The session expects the byte 1.  Another byte is stored in its place between the reads of two
completions; the second one overwrites what the first has published, and deletes it. -/
theorem published_file_deleted :
    ¬ ∀ i event, (i, Command.publish event) ∈ ((callPool Sample.settings Sample.initiated
        [.processChunk Sample.rival, .processChunk Sample.chunk, .complete Sample.completion,
          .complete Sample.completion]).run (serviceMachine Sample.environment)
        (calm [0, 1, 1, 1, 1, 2, 2, 0, 3, 3, 3, 2, 2, 2, 2, 2, 2, 2, 2, 3, 3, 3, 3])).journal →
      event.Backed Sample.settings ((callPool Sample.settings Sample.initiated
        [.processChunk Sample.rival, .processChunk Sample.chunk, .complete Sample.completion,
          .complete Sample.completion]).run (serviceMachine Sample.environment)
        (calm [0, 1, 1, 1, 1, 2, 2, 0, 3, 3, 3, 2, 2, 2, 2, 2, 2, 2, 2, 3, 3, 3, 3])).state := by
  set p := (callPool Sample.settings Sample.initiated
    [.processChunk Sample.rival, .processChunk Sample.chunk, .complete Sample.completion,
      .complete Sample.completion]).run (serviceMachine Sample.environment)
    (calm [0, 1, 1, 1, 1, 2, 2, 0, 3, 3, 3, 2, 2, 2, 2, 2, 2, 2, 2, 3, 3, 3, 3])
  have hpublished : ∃ event ∈ p.state.published, (2, Command.publish event) ∈ p.journal ∧
      p.state.objects ⟨event.workspaceId, event.fileId⟩ = none := by decide +kernel
  obtain ⟨event, -, hmem, hgone⟩ := hpublished
  intro hbacked
  obtain ⟨content, hcontent, -⟩ := hbacked 2 event hmem
  cases hgone.symm.trans hcontent

end RagFileUploader
