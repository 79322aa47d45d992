import RagFileUploader.Contracts.Connection
import RagFileUploader.Contracts.DeadLetters

/-!
# The subjects that a connected NATS publisher publishes to

The stream is created with the subject of the settings, events name their own, and nothing compares
the two.  After `connect` every event goes to a subject of the publisher's stream exactly if that
stream existed with subjects that cover the one of events, or is created and the settings have the
subject of events.
-/

namespace RagFileUploader

open Effects

/-- The subject of every event. -/
def eventSubject : String := "upload.file.load_completed"

namespace NATSEventPublisher

section

variable (self : NATSEventPublisher)

/-- Each message that `publish` sends in this state goes to a subject of the publisher's stream. -/
def PublishesCovered (s : NatsState) : Prop :=
  ∀ (event : FileLoadCompletedEvent) (outcome : NatsCommand → Option Exc),
    ∀ y ∈ (publish self event).trace (natsMachine outcome) [] s,
      ∀ js subject payload timeout, y.2 = .publish js subject payload timeout →
        ∃ config ∈ s.stream? self.streamName, config.Covers subject

/-- Nothing raises while `connect` connects, but for the answer that there is no stream. -/
def Reaches (outcome : NatsCommand → Option Exc) (streams : List StreamConfig) : Prop :=
  outcome (connectCommand self) = none ∧ streamFailure? self outcome (.fresh streams) 0 = none

/-- The stream of the publisher has a subject that covers the one of events, now or as soon as it
is created. -/
def SubjectsAgree (outcome : NatsCommand → Option Exc) (streams : List StreamConfig) : Prop :=
  match (NatsState.fresh streams).stream? self.streamName with
  | some config => config.Covers eventSubject
  | none => outcome (.addStream 0 self.streamConfig) = none ∧ self.natsSubject = eventSubject

end

variable {self : NATSEventPublisher} {outcome : NatsCommand → Option Exc} {s : NatsState}
  {streams : List StreamConfig}

/-! ## What `publish` sends -/

/-- A message goes to the subject of events. -/
def OnEventSubject (c : NatsCommand) : Prop :=
  ∀ js subject payload timeout, c = .publish js subject payload timeout → subject = eventSubject

theorem issues_onEventSubject {event : FileLoadCompletedEvent} :
    (publish self event).Issues OnEventSubject := by
  refine Program.Issues.bind ⟨nofun, fun _ => trivial⟩ fun attributes => ?_
  split
  · refine issues_tryExcept ?_ fun e => ?_
    · refine issues_ofExcept.bind fun eventJson =>
        Program.Issues.bind ⟨fun js subject payload timeout h => ?_, fun _ => trivial⟩
          fun _ => trivial
      cases h
      rfl
    · split <;> trivial
  · trivial

theorem subject_of_publish {event : FileLoadCompletedEvent} {y : NatsState × NatsCommand}
    (hy : y ∈ (publish self event).trace (natsMachine outcome) [] s) : OnEventSubject y.2 := by
  have hsafe : (publish self event).Safe (natsMachine outcome) (fun _ => True)
      (fun _ c => OnEventSubject c) s :=
    issues_onEventSubject.safe (I := fun _ => True) (fun c _ hc _ => ⟨hc, trivial⟩) trivial
  exact hsafe.trace (fun f => nomatch f) y hy

/-- A connected publisher sends every event that has a JSON form. -/
theorem mem_trace_publish {event : FileLoadCompletedEvent} {payload : EventDict} {client js : ℕ}
    (hjson : event.toJson = .ok payload)
    (hs : s.attributes = ⟨some client, some js, true⟩) :
    (s, .publish js eventSubject payload self.connectionTimeout) ∈
      (publish self event).trace (natsMachine outcome) [] s := by
  obtain ⟨attributes, streams, opened⟩ := s
  obtain rfl : attributes = ⟨some client, some js, true⟩ := hs
  -- the first command reads the attributes
  refine List.mem_cons_of_mem _ ?_
  change _ ∈ (tryExcept (do
      let eventJson ← MonadExcept.ofExcept event.toJson
      issue (.publish js event.subjectName eventJson self.connectionTimeout)
      pure true) _ _ : Nats Bool).trace (natsMachine outcome) [] _
  rw [hjson]
  exact List.mem_cons_self

/-! ## After `connect` -/

theorem plain_of_validateNatsSubject {v w : String} (h : validateNatsSubject v = .ok w) :
    '*' ∉ v.toList ∧ '>' ∉ v.toList := by
  have hmatches : MatchesSubject v.toList := by
    simp only [validateNatsSubject, except_bind_eq_ok, raiseIf_eq_ok, not_not] at h
    obtain ⟨_, hmatches, -⟩ := h
    exact hmatches
  have hchars : ∀ c ∈ v.toList, isSubjectChar c = true ∨ c = '\n' := by
    intro c hc
    rw [← List.takeWhile_append_dropWhile (p := isSubjectChar) (l := v.toList)] at hc
    rcases List.mem_append.mp hc with hc | hc
    · exact .inl (List.mem_takeWhile_imp hc)
    · rcases hmatches.2 with hrest | hrest
      · rw [hrest] at hc
        cases hc
      · rw [hrest] at hc
        exact .inr (List.mem_singleton.mp hc)
  constructor
  · intro hstar
    exact absurd (hchars _ hstar) (by decide)
  · intro hmark
    exact absurd (hchars _ hmark) (by decide)

theorem covers_streamConfig {w : String} (hsubject : validateNatsSubject self.natsSubject = .ok w) :
    self.streamConfig.Covers eventSubject ↔ self.natsSubject = eventSubject := by
  rw [← Encoding.Subjects.covers_iff_eq (plain_of_validateNatsSubject hsubject)]
  simp [StreamConfig.Covers, streamConfig]

/-- The stream that the publisher is connected to covers the subject of events. -/
theorem covers_after_connect {w : String} (connection : Connection) (opened : ℕ)
    (hsubject : validateNatsSubject self.natsSubject = .ok w)
    (hinfo : ∀ js name e, outcome (.streamInfo js name) = some e → e.isNotFoundError = true →
      (NatsState.fresh streams).stream? name = none)
    (hok : streamFailure? self outcome (.fresh streams) 0 = none) :
    (∃ config ∈ (⟨connection, streamsAfter self outcome (.fresh streams) 0, opened⟩ :
        NatsState).stream? self.streamName, config.Covers eventSubject) ↔
      SubjectsAgree self outcome streams := by
  have hmissing : missing self outcome (.fresh streams) 0 =
      ((NatsState.fresh streams).stream? self.streamName).isNone := by
    unfold missing
    cases hreply : outcome (.streamInfo 0 self.streamName) with
    | none => rfl
    | some e =>
        cases hnot : e.isNotFoundError with
        | true =>
            rw [hinfo 0 _ e hreply hnot, Option.isNone_none]
            exact hnot
        | false =>
            -- then the stream phase has failed
            have hfound : missing self outcome (.fresh streams) 0 = false := by
              simp [missing, hreply, hnot]
            rw [streamFailure?, hfound, hreply] at hok
            cases hok
  have hafter : (⟨connection, streamsAfter self outcome (.fresh streams) 0, opened⟩ :
      NatsState).stream? self.streamName =
      (streamsAfter self outcome (.fresh streams) 0).find? (·.name = self.streamName) := rfl
  rw [hafter, SubjectsAgree]
  cases hstream : (NatsState.fresh streams).stream? self.streamName with
  | some config =>
      have hfound : missing self outcome (.fresh streams) 0 = false := by
        rw [hmissing, hstream, Option.isNone_some]
      have hfind : streams.find? (·.name = self.streamName) = some config := hstream
      have hstreams : streamsAfter self outcome (.fresh streams) 0 = streams :=
        if_neg (by simp [hfound])
      rw [hstreams, hfind]
      simp
  | none =>
      have hnot : missing self outcome (.fresh streams) 0 = true := by
        rw [hmissing, hstream, Option.isNone_none]
      have hfind : streams.find? (·.name = self.streamName) = none := hstream
      cases hadd : outcome (.addStream 0 self.streamConfig) with
      | none =>
          have hstreams : streamsAfter self outcome (.fresh streams) 0 =
              streams ++ [self.streamConfig] := if_pos ⟨hnot, hadd⟩
          have hname : self.streamConfig.name = self.streamName := rfl
          rw [hstreams, List.find?_append, hfind]
          simp [hname, covers_streamConfig hsubject]
      | some e =>
          have hstreams : streamsAfter self outcome (.fresh streams) 0 = streams :=
            if_neg (by simp [hadd])
          rw [hstreams, hfind]
          simp

/-- Connected, the publisher publishes into its stream exactly if the stream covers the subject of
events. -/
theorem publishesCovered_iff {client js : ℕ} (hs : s.attributes = ⟨some client, some js, true⟩) :
    PublishesCovered self s ↔
      ∃ config ∈ s.stream? self.streamName, config.Covers eventSubject := by
  constructor
  · intro h
    have hserializes : Sample.event.toJson.isOk = true := by decide +kernel
    cases hjson : Sample.event.toJson with
    | error e =>
        rw [hjson] at hserializes
        cases hserializes
    | ok payload =>
        exact h Sample.event (fun _ => none) _ (mem_trace_publish hjson hs) _ _ _ _ rfl
  · intro hcovers event outcome y hy js' subject payload timeout hpublish
    rw [subject_of_publish hy _ _ _ _ hpublish]
    exact hcovers

/-- If `connect` returns, each message is published into the publisher's stream: exactly if the
subjects agree, should nothing be raised on the way. -/
theorem connected_publishes_iff (self : NATSEventPublisher) (streams : List StreamConfig)
    (outcome : NatsCommand → Option Exc)
    (hsubject : validateNatsSubject self.natsSubject = .ok self.natsSubject)
    (hinfo : ∀ js name e, outcome (.streamInfo js name) = some e → e.isNotFoundError = true →
      (NatsState.fresh streams).stream? name = none) :
    (((connect self).run (natsMachine outcome) [] (.fresh streams)).1 = .ok () →
        PublishesCovered self ((connect self).run (natsMachine outcome) [] (.fresh streams)).2) ↔
      (Reaches self outcome streams → SubjectsAgree self outcome streams) := by
  have hends : Connecting self outcome (.fresh streams)
      ((connect self).run (natsMachine outcome) [] (.fresh streams)).1
      ((connect self).run (natsMachine outcome) [] (.fresh streams)).2 :=
    Program.run_calm_of_wp (F := fun _ => True) wp_connect
  generalize ((connect self).run (natsMachine outcome) [] (.fresh streams)).1 = r at hends ⊢
  generalize ((connect self).run (natsMachine outcome) [] (.fresh streams)).2 = s' at hends ⊢
  cases hends with
  | already hset => cases hset
  | refused e e' _ hconnect =>
      exact iff_of_true nofun fun h => (nomatch hconnect.symm.trans h.1)
  | ready _ hconnect hstream =>
      rw [publishesCovered_iff rfl]
      have hcovers := covers_after_connect ⟨some 0, some 0, true⟩ 1 hsubject hinfo hstream
      exact ⟨fun h _ => hcovers.mp (h rfl), fun h _ => hcovers.mpr (h ⟨hconnect, hstream⟩)⟩
  | closed e e' _ _ hstream =>
      exact iff_of_true nofun fun h => (nomatch hstream.symm.trans h.2)
  | leftOpen e e' _ _ hstream =>
      exact iff_of_true nofun fun h => (nomatch hstream.symm.trans h.2)

end NATSEventPublisher

namespace Sample

/-- The settings with their default subject. -/
def defaultPublisher : NATSEventPublisher where
  natsUrl := "nats://localhost:4222"
  natsSubject := "upload.file.load.completed"
  valid := by decide +kernel

end Sample

namespace NATSEventPublisher

open Sample

/-- Nothing fails, and the stream is created. -/
theorem connected_publishes_iff_sample :
    (((connect natsPublisher).run (natsMachine fun _ => none) [] (.fresh [])).1 = .ok () →
        PublishesCovered natsPublisher
          ((connect natsPublisher).run (natsMachine fun _ => none) [] (.fresh [])).2) ↔
      (Reaches natsPublisher (fun _ => none) [] → SubjectsAgree natsPublisher (fun _ => none) []) :=
  connected_publishes_iff natsPublisher [] (fun _ => none) (by decide +kernel)
    fun _ _ _ h => nomatch h

/-- The stream is created with the default subject, and no event goes there. -/
theorem default_subject_uncovered :
    ¬ ∀ (self : NATSEventPublisher) (streams : List StreamConfig)
        (outcome : NatsCommand → Option Exc),
      validateNatsUrl (some self.natsUrl) = .ok (some self.natsUrl) →
      validateNatsSubject self.natsSubject = .ok self.natsSubject →
      (∀ js name e, outcome (.streamInfo js name) = some e → e.isNotFoundError = true →
        (NatsState.fresh streams).stream? name = none) →
      ((connect self).run (natsMachine outcome) [] (.fresh streams)).1 = .ok () →
      PublishesCovered self ((connect self).run (natsMachine outcome) [] (.fresh streams)).2 := by
  intro h
  have hcovered := h defaultPublisher [] (fun _ => none) (by decide +kernel) (by decide +kernel)
    (fun _ _ _ h => nomatch h) rfl
  obtain ⟨config, hconfig, hcovers⟩ := (publishesCovered_iff rfl).mp hcovered
  have hstream : some defaultPublisher.streamConfig = some config := by
    rw [← Option.mem_def.mp hconfig]
    decide +kernel
  cases hstream
  exact absurd hcovers (by decide +kernel)

end NATSEventPublisher

end RagFileUploader
