import RagFileUploader.Serial.Representation

/-!
# What is delivered

Two results about serial runs under faults.  A session has at most one event: an event leaves an
object behind, objects stay, and completing a session whose object exists is refused.  And when
completing returns, the object is made of exactly the chunks that were accepted: the manifest
lists them in order, their keys still hold them, and S3 concatenates them.

* `EventsChange` lists what a call can do to events and objects, and keeps `World.Anchored`, from
  which the first result follows.
* `Run.Traced` ties the accepted chunks of the history to the represented list.
* `Delivered.of_outcome` and `complete_delivers` then look at the call that returned.
-/

namespace RagFileUploader

open Effects Stores

variable {env : Environment} {settings : Settings} {F : Fault → Prop} {σ σ' : World} {w s : UUID}

/-! ## Events and objects -/

/-- The S3 key that an event announces. -/
def eventKey (event : FileLoadCompletedEvent) : S3Key := ⟨event.workspaceId, event.fileId⟩

/-- The events of one session. -/
def World.eventsFor (σ : World) (w s : UUID) : List FileLoadCompletedEvent :=
  σ.published.filter fun event => eventKey event = ⟨w, s⟩

/-- The ways in which a call changes events and objects.  Objects that exist are left alone. -/
inductive EventsChange (σ σ' : World) : Prop
  | silent (h : σ'.published = σ.published)
      (hobjects : ∀ key, σ.objects key ≠ none → σ'.objects key = σ.objects key)
  | published (event : FileLoadCompletedEvent) (content : Bytes)
      (h : σ'.published = event :: σ.published) (habsent : σ.objects (eventKey event) = none)
      (hobjects : σ'.objects = Function.update σ.objects (eventKey event) (some content))

theorem CompleteUploadUseCase.Published.eventsChange {request : CompleteUploadRequest}
    {session : UploadSession} {chunks : List Bytes}
    (h : Published env settings request session chunks σ σ') : EventsChange σ σ' := by
  obtain ⟨event, hfields, hevent⟩ := h.published
  have hkey : eventKey event = fileKey request := by
    simp [eventKey, fileKey, hfields, eventFields]
  exact .published event chunks.flatten hevent (hkey ▸ h.absent) (hkey ▸ h.objects)

theorem CallOutcome.eventsChange {c : Call} {r : Except Exc Response}
    (h : CallOutcome env settings F σ c r σ') : EventsChange σ σ' := by
  have hsame : ∀ σ' : World, σ'.published = σ.published → σ'.objects = σ.objects →
      EventsChange σ σ' := fun σ' hp ho => .silent hp fun key _ => by rw [ho]
  cases h with
  | initiate h => cases h <;> exact hsame _ rfl rfl
  | processChunk h => cases h <;> exact hsame _ rfl rfl
  | complete h =>
      cases h with
      | notReady => exact hsame _ rfl rfl
      | unpublished e session σ' _ _ _ h =>
          refine .silent h.published fun key hkey => ?_
          rcases h.objects with ho | ⟨habsent, content, ho⟩
          · rw [ho]
          · rw [ho, Function.update_of_ne]
            rintro rfl
            exact hkey habsent
      | unsettled e session chunks σ' _ _ hpublished => exact hpublished.eventsChange
      | completed session chunks σ₁ σ' _ _ hpublished _ hcompleted =>
          cases hpublished.eventsChange with
          | silent h hobjects =>
              exact .silent (hcompleted.published.trans h) fun key hkey => by
                rw [hcompleted.objects, hobjects key hkey]
          | published event content h habsent hobjects =>
              exact .published event content (hcompleted.published.trans h) habsent
                (hcompleted.objects.trans hobjects)
  | abort h => cases h <;> exact hsame _ rfl rfl

/-- Every event has its object, and no two events share one. -/
structure World.Anchored (σ : World) : Prop where
  present : ∀ event ∈ σ.published, σ.objects (eventKey event) ≠ none
  nodup : (σ.published.map eventKey).Nodup

theorem EventsChange.anchored (h : EventsChange σ σ') (hσ : σ.Anchored) : σ'.Anchored := by
  cases h with
  | silent h hobjects =>
      refine ⟨fun event hevent => ?_, by rw [h]; exact hσ.nodup⟩
      rw [h] at hevent
      rw [hobjects _ (hσ.present event hevent)]
      exact hσ.present event hevent
  | published event content h habsent hobjects =>
      have hnew : ∀ event' ∈ σ.published, eventKey event' ≠ eventKey event :=
        fun event' hevent' heq => hσ.present event' hevent' (heq ▸ habsent)
      refine ⟨fun event' hevent' => ?_, ?_⟩
      · rw [h, List.mem_cons] at hevent'
        rw [hobjects]
        rcases hevent' with rfl | hevent'
        · simp
        · rw [Function.update_of_ne (hnew event' hevent')]
          exact hσ.present event' hevent'
      · rw [h, List.map_cons, List.nodup_cons]
        refine ⟨fun hmem => ?_, hσ.nodup⟩
        obtain ⟨event', hevent', heq⟩ := List.mem_map.mp hmem
        exact hnew event' hevent' heq

theorem anchored_steps (ops : List Op) :
    (Run.steps env settings Run.start ops).world.Anchored :=
  (Run.steps_induction (C := fun _ _ => True) (I := fun run => run.world.Anchored)
    (fun _ _ _ _ _ _ h _ houtcome => houtcome.eventsChange.anchored h)
    (fun _ _ _ h _ => ⟨h.present, h.nodup⟩) Run.wellStored_start
    ⟨fun _ h => (nomatch h), List.nodup_nil⟩ (Run.within_true _ ops)).2

theorem World.Anchored.length_eventsFor (h : σ.Anchored) (w s : UUID) :
    (σ.eventsFor w s).length ≤ 1 := by
  have hnodup : ((σ.eventsFor w s).map eventKey).Nodup :=
    h.nodup.sublist (List.filter_sublist.map eventKey)
  have hall : ∀ key ∈ (σ.eventsFor w s).map eventKey, key = ⟨w, s⟩ := by
    intro key hkey
    obtain ⟨event, hevent, rfl⟩ := List.mem_map.mp hkey
    simpa using (List.mem_filter.mp hevent).2
  rw [← List.length_map (f := eventKey), List.eq_replicate_of_mem hall, List.length_replicate]
  rw [List.eq_replicate_of_mem hall, List.nodup_replicate] at hnodup
  exact hnodup

/-- Whatever fails and however often calls are retried, a session has at most one event. -/
theorem at_most_one_event (env : Environment) (settings : Settings) (ops : List Op) (w s : UUID) :
    ((Run.steps env settings Run.start ops).world.eventsFor w s).length ≤ 1 :=
  (anchored_steps ops).length_eventsFor w s

/-! ## The chunks that were accepted -/

/-- The bytes that a call of `process_chunk` on this session added by returning normally. -/
def Record.accepted (w s : UUID) : Record → Option Bytes
  | ⟨.processChunk request, .ok _⟩ =>
      if request.workspaceId = w ∧ request.sessionId = s then some request.chunkData else none
  | _ => none

/-- The byte strings of the calls on this session that returned normally, in their order. -/
def acceptedChunks (history : List Record) (w s : UUID) : List Bytes :=
  history.reverse.filterMap (Record.accepted w s)

theorem acceptedChunks_cons (record : Record) (history : List Record) (w s : UUID) :
    acceptedChunks (record :: history) w s =
      acceptedChunks history w s ++ (record.accepted w s).toList := by
  rw [acceptedChunks, List.reverse_cons, List.filterMap_append]
  cases h : record.accepted w s <;> simp [acceptedChunks, h]

/-- A session's chunks are accepted after its id has been handed out, so with distinct ids the
session has received all of them. -/
structure Run.Traced (env : Environment) (run : Run) : Prop where
  issued : run.world.Issued env
  accepted_issued : ∀ w s, acceptedChunks run.history w s ≠ [] → s ∈ run.world.ids env
  received_eq : (run.world.ids env).Nodup → ∀ key,
    received run.history key = acceptedChunks run.history key.workspaceId key.documentId

theorem Record.accepted_of_ne {request : ProcessChunkRequest} {r : Except Exc Response}
    (h : ¬ (request.workspaceId = w ∧ request.sessionId = s)) :
    Record.accepted w s ⟨.processChunk request, r⟩ = none := by
  cases r <;> simp [Record.accepted, h]

theorem CallOutcome.traced {run : Run} {c : Call} {r : Except Exc Response}
    (houtcome : CallOutcome env settings F run.world c r σ') (h : run.Traced env) :
    Run.Traced env ⟨σ', ⟨c, r⟩ :: run.history⟩ := by
  have hsub : (run.world.ids env).Sublist (σ'.ids env) := ids_sublist houtcome.drawn_le
  have hissued : σ'.Issued env := houtcome.issued h.issued
  -- a call that accepts nothing and starts nothing
  have hkeep : (∀ w s, Record.accepted w s ⟨c, r⟩ = none) →
      (∀ D, Record.receive ⟨c, r⟩ D = D) → Run.Traced env ⟨σ', ⟨c, r⟩ :: run.history⟩ := by
    intro hnone hsame
    refine ⟨hissued, fun w s hne => ?_, fun hnodup key => ?_⟩
    · rw [acceptedChunks_cons, hnone] at hne
      exact hsub.subset (h.accepted_issued w s (by simpa using hne))
    · rw [acceptedChunks_cons, hnone, received, hsame, h.received_eq (hnodup.sublist hsub)]
      simp
  cases houtcome with
  | @initiate request r σ' ho =>
      cases ho with
      | refused => exact hkeep (fun _ _ => rfl) fun _ => rfl
      | rolledBack => exact hkeep (fun _ _ => rfl) fun _ => rfl
      | created session createdAt expiresAt hvalid hnew =>
          refine ⟨hissued, fun w s hne => ?_, fun hnodup key => ?_⟩
          · rw [acceptedChunks_cons] at hne
            exact hsub.subset (h.accepted_issued w s (by simpa [Record.accepted] using hne))
          -- no chunk can have been accepted under an id that is new
          · have hfresh : env.uuid4 run.world.drawn ∉ run.world.ids env :=
              uuid4_notMem_ids hnodup (Nat.lt_succ_self _)
            rw [acceptedChunks_cons]
            change Function.update (received run.history) _ [] key = _ ++ []
            rw [List.append_nil]
            by_cases hkey : key = ⟨request.workspaceId, env.uuid4 run.world.drawn⟩
            · subst hkey
              rw [Function.update_self]
              by_contra hne
              exact hfresh (h.accepted_issued _ _ (Ne.symm hne))
            · rw [Function.update_of_ne hkey]
              exact h.received_eq (hnodup.sublist hsub) key
  | @processChunk request r σ' ho =>
      cases ho with
      | rejected => exact hkeep (fun _ _ => rfl) fun _ => rfl
      | stray => exact hkeep (fun _ _ => rfl) fun _ => rfl
      | accepted session session' index reads hvalid hrecord =>
          obtain ⟨d, hentry, -⟩ := reads.exists_entry
          -- the session was stored, so its id was generated
          have hid : request.sessionId ∈ run.world.ids env := h.issued _ _ hentry
          refine ⟨hissued, fun w s hne => ?_, fun hnodup key => ?_⟩
          · by_cases hkey : request.workspaceId = w ∧ request.sessionId = s
            · obtain ⟨rfl, rfl⟩ := hkey
              exact hid
            · rw [acceptedChunks_cons, Record.accepted_of_ne hkey] at hne
              exact h.accepted_issued w s (by simpa using hne)
          · rw [acceptedChunks_cons, ← h.received_eq hnodup]
            change Function.update (received run.history) _ _ key = _
            by_cases hkey : key = ⟨request.workspaceId, request.sessionId⟩
            · subst hkey
              rw [Function.update_self]
              simp [Record.accepted, Except.map]
            · have hne : ¬ (request.workspaceId = key.workspaceId ∧
                  request.sessionId = key.documentId) := fun hboth =>
                hkey (by cases key; simp_all)
              rw [Function.update_of_ne hkey, Record.accepted_of_ne hne]
              simp
  | complete => exact hkeep (fun _ _ => rfl) fun _ => rfl
  | abort => exact hkeep (fun _ _ => rfl) fun _ => rfl

theorem traced_steps (ops : List Op) : (Run.steps env settings Run.start ops).Traced env :=
  (Run.steps_induction (C := fun _ _ => True) (I := Run.Traced env)
    (fun _ _ _ _ _ _ h _ houtcome => houtcome.traced h) (fun _ _ _ h _ => ⟨h.1, h.2, h.3⟩)
    Run.wellStored_start
    ⟨fun _ _ h => (nomatch h), fun _ _ h => absurd rfl h, fun _ _ => rfl⟩
    (Run.within_true _ ops)).2

/-! ## The content of a completed upload -/

theorem sortManifest_manifestOf (datas : List Bytes) :
    CompleteUploadUseCase.sortManifest (manifestOf datas) = manifestOf datas := by
  refine List.Pairwise.insertionSort_eq ?_
  have hindices : ((manifestOf datas).map ChunkMeta.index).Pairwise (· ≤ ·) := by
    rw [indices_manifestOf, List.pairwise_map]
    exact (List.pairwise_lt_range).imp fun h => Int.ofNat_le.mpr h.le
  exact List.pairwise_map.mp hindices

/-- The chunks that are read back are the bytes that the session received. -/
theorem CompleteUploadUseCase.Retrieved.eq {session : UploadSession} {d : Option ℕ}
    {datas chunks : List Bytes}
    (h : Represents σ ⟨w, s⟩ ⟨RedisSessionStore.serializeSession session, d⟩ datas)
    (hstatus : session.status = .inProgress)
    (hretrieved : Retrieved σ w s (sortManifest session.chunkManifest) chunks) :
    chunks = datas := by
  have hmanifest : session.chunkManifest = manifestOf datas := h.manifest
  rw [hmanifest, sortManifest_manifestOf] at hretrieved
  obtain ⟨hlength, hget⟩ := List.forall₂_iff_get.mp hretrieved
  rw [length_manifestOf] at hlength
  refine List.ext_getElem hlength.symm fun i hi hi' => ?_
  have hchunk := hget i (by rwa [length_manifestOf]) hi
  have hindex : ((manifestOf datas).get ⟨i, by rwa [length_manifestOf]⟩).index = i := by
    simp [manifestOf]
  rw [hindex, List.get_eq_getElem] at hchunk
  obtain ⟨d', hstored, -⟩ := Keyspace.get?_eq_some_iff.mp hchunk
  obtain ⟨d'', hbacked, -⟩ := h.backed (congrArg SessionStatus.value hstatus) i datas[i]
    (List.getElem?_eq_getElem hi')
  have heq := hstored.symm.trans hbacked
  simp only [Option.some.injEq, Entry.mk.injEq] at heq
  exact heq.1

/-- Everything that the pipeline and the client are told about a file is true of it. -/
structure Delivered (settings : Settings) (σ : World) (request : CompleteUploadRequest)
    (response : CompleteUploadResponse) (accepted : List Bytes) : Prop where
  stored : ∃ data, σ.session? ⟨request.workspaceId, request.sessionId⟩ = some data ∧
    data.status = SessionStatus.complete.value ∧ data.size = accepted.flatten.length ∧
      data.sha256Checksum = sha256Hexdigest accepted.flatten
  object : σ.objects ⟨request.workspaceId, request.sessionId⟩ = some accepted.flatten
  returned : response = ⟨request.sessionId,
    S3StorageClient.s3Path settings ⟨request.workspaceId, request.sessionId⟩,
      accepted.flatten.length⟩
  event : ∃ event, σ.eventsFor request.workspaceId request.sessionId = [event] ∧
    event.s3Path = response.s3Path ∧ event.sizeBytes = response.sizeBytes ∧
      event.sha256Checksum.value = sha256Hexdigest accepted.flatten

/-- A completion that returns publishes the only event of its session. -/
theorem World.Anchored.eventsFor_cons {event : FileLoadCompletedEvent} (h : σ.Anchored)
    (hkey : eventKey event = ⟨w, s⟩) (habsent : σ.objects ⟨w, s⟩ = none)
    (hpublished : σ'.published = event :: σ.published) : σ'.eventsFor w s = [event] := by
  have hnone : σ.eventsFor w s = [] := by
    refine List.filter_eq_nil_iff.mpr fun event' hevent' heq => ?_
    exact h.present event' hevent' (by rw [of_decide_eq_true heq, habsent])
  rw [World.eventsFor, hpublished, List.filter_cons_of_pos (by simpa using hkey)]
  exact congrArg (event :: ·) hnone

theorem Delivered.of_outcome {run : Run} {request : CompleteUploadRequest}
    {response : CompleteUploadResponse} (hanchored : run.world.Anchored)
    (hrep : Represented run.world (received run.history)) (htraced : run.Traced env)
    (hids : (run.world.ids env).Nodup)
    (ho : CompleteUploadUseCase.Outcome env settings F request run.world (.ok response) σ') :
    Delivered settings σ' request response
      (acceptedChunks run.history request.workspaceId request.sessionId) := by
  cases ho with
  | completed session chunks σ₁ σ' reads ready hpublished hframe hcompleted =>
      obtain ⟨hstatus, hoffset, -⟩ := CompleteUploadUseCase.validateSession_eq_ok ready
      obtain ⟨d, hentry, hlive⟩ := reads.exists_entry
      have hrepresents := hrep _ _ hentry
      have hchunks : chunks =
          acceptedChunks run.history request.workspaceId request.sessionId := by
        rw [← htraced.received_eq hids ⟨request.workspaceId, request.sessionId⟩]
        exact hpublished.retrieved.eq hrepresents hstatus
      have hsize : session.size = chunks.flatten.length := by
        rw [← hoffset, hpublished.retrieved.eq hrepresents hstatus]
        exact hrepresents.offset
      obtain ⟨event, hfields, hevent⟩ := hpublished.published
      rw [← hchunks]
      refine ⟨⟨RedisSessionStore.serializeSession (session.withStatus .complete), ?_, rfl, hsize,
        hpublished.sha.symm⟩, ?_, rfl, event, ?_, ?_, ?_, ?_⟩
      · rw [CompleteUploadUseCase.session?_congr hcompleted.sessions hcompleted.clock]
        exact World.session?_putSession reads.key_eq
      · rw [hcompleted.objects, hpublished.objects]
        exact Function.update_self _ _ _
      · refine hanchored.eventsFor_cons ?_ hpublished.absent (hcompleted.published.trans hevent)
        simp [eventKey, hfields, CompleteUploadUseCase.eventFields]
      · simp [hfields, CompleteUploadUseCase.eventFields, CompleteUploadUseCase.fileKey]
      · simp [hfields, CompleteUploadUseCase.eventFields]
      · simp [hfields, CompleteUploadUseCase.eventFields, hpublished.sha]

/-- A completion that returns has delivered what the session received. -/
theorem Delivered.of_call {run : Run} {request : CompleteUploadRequest}
    {response : CompleteUploadResponse} {faults : List (Option Fault)}
    (hwell : run.world.WellStored) (hanchored : run.world.Anchored)
    (hrep : Represented run.world (received run.history)) (htraced : run.Traced env)
    (hids : (run.world.ids env).Nodup)
    (hreturns : (Run.call env settings run.world (.complete request) faults).1 =
      .ok (.completed response)) :
    Delivered settings (Run.call env settings run.world (.complete request) faults).2 request
      response (acceptedChunks run.history request.workspaceId request.sessionId) := by
  have houtcome : CallOutcome env settings (some · ∈ faults) run.world (.complete request) _ _ :=
    call_outcome hwell (.complete request) faults
  rw [hreturns] at houtcome
  generalize (Run.call env settings run.world (.complete request) faults).2 = σ' at houtcome ⊢
  generalize hr : (Except.ok (Response.completed response) : Except Exc Response) = r at houtcome
  cases houtcome with
  | @complete _ r σ' ho =>
      cases r with
      | error e => cases hr
      | ok response' =>
          cases hr
          exact Delivered.of_outcome hanchored hrep htraced hids ho

/-- When completing returns, the file consists of exactly the accepted chunks, in their order, and
session, response and event agree with it. -/
theorem complete_delivers (env : Environment) (settings : Settings) (ops : List Op)
    (request : CompleteUploadRequest) (faults : List (Option Fault))
    (response : CompleteUploadResponse)
    (hids : ((Run.steps env settings Run.start ops).world.ids env).Nodup)
    (hreturns : (Run.call env settings (Run.steps env settings Run.start ops).world
      (.complete request) faults).1 = .ok (.completed response)) :
    Delivered settings (Run.call env settings (Run.steps env settings Run.start ops).world
        (.complete request) faults).2 request response
      (acceptedChunks (Run.steps env settings Run.start ops).history request.workspaceId
        request.sessionId) :=
  Delivered.of_call (Run.wellStored_steps ops) (anchored_steps ops) (represented_steps ops)
    (traced_steps ops) hids hreturns

/-- A file of two chunks, one of which was sent twice. -/
theorem complete_delivers_sample :
    Delivered Sample.settings
      (Run.call Sample.environment Sample.settings
        (Run.steps Sample.environment Sample.settings Run.start Sample.uploaded).world
        (.complete Sample.completion) []).2
      Sample.completion
      ⟨Sample.session, S3StorageClient.s3Path Sample.settings ⟨Sample.workspace, Sample.session⟩, 2⟩
      (acceptedChunks
        (Run.steps Sample.environment Sample.settings Run.start Sample.uploaded).history
        Sample.workspace Sample.session) :=
  complete_delivers Sample.environment Sample.settings Sample.uploaded Sample.completion [] _
    (by decide +kernel) (by decide +kernel)

end RagFileUploader
