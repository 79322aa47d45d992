import RagFileUploader.Infrastructure.EventPublisherWithRetry
import RagFileUploader.Infrastructure.Service

/-!
# What becomes of an event that is handed to the retrying publisher

Every sequence of outcomes of the wrapped publisher and of the Redis writes, cancellation apart.
The publisher returns exactly if one of the attempts it is allowed succeeds; otherwise it raises
`InfrastructureError`, and the event is in the dead letter queue if one of at most three writes
went through.

The proof follows the two loops: `Tried` and `Written` are what holds before an attempt, and the
commands so far are read off the record of the run.

* `wp_writeEntry` and `wp_publishFrom` are the rules of the loops, by induction on the tries left.
* `publishing_verdict` lists how the whole call can end, and `publishing_neverSilent` reads the
  contract off the list.
-/

namespace RagFileUploader

open Effects

/-- What the n-th attempt and the n-th write come to, counted from one, and the clock. -/
structure RetryOutcomes where
  publish : ℕ → Except Exc Unit
  setex : ℕ → Except Exc Unit
  now : DateTime

/-- The attempts and writes so far, and the values in Redis with their lifetimes. -/
structure RetryStage where
  attempts : ℕ
  writes : ℕ
  redis : String → Option (DlqEntry × ℤ)

/-- A write that raises has no effect. -/
def retryMachine (o : RetryOutcomes) : Machine retrySignature RetryStage Empty where
  act
    | .publish _, s => (o.publish (s.attempts + 1), { s with attempts := s.attempts + 1 })
    | .sleep _, s => (.ok (), s)
    | .setex key seconds entry, s => (o.setex (s.writes + 1),
        { s with
          writes := s.writes + 1
          redis := match o.setex (s.writes + 1) with
            | .ok _ => Function.update s.redis key (some (entry, seconds))
            | .error _ => s.redis })
    | .now, s => (.ok o.now, s)
  fails := fun f => nomatch f

namespace EventPublisherWithRetry

/-- The commands of a record, in the order in which they were issued. -/
def issued (record : List ((c : RetryCommand) × Except Exc c.Reply)) : List RetryCommand :=
  (record.map Sigma.fst).reverse

@[simp] theorem issued_cons (c : RetryCommand) (r : Except Exc c.Reply)
    (record : List ((c : RetryCommand) × Except Exc c.Reply)) :
    issued (⟨c, r⟩ :: record) = issued record ++ [c] := by
  simp [issued]

/-- The result of `publish`, the state it leaves and the commands it has issued. -/
structure Publishing where
  result : Except Exc Unit
  redis : String → Option (DlqEntry × ℤ)
  commands : List RetryCommand

/-- What `publish` does under these outcomes. -/
def publishing (self : EventPublisherWithRetry) (event : FileLoadCompletedEvent)
    (o : RetryOutcomes) (redis : String → Option (DlqEntry × ℤ)) : Publishing :=
  let out := (publish self event).run (retryMachine o).recording [] (⟨0, 0, redis⟩, [])
  ⟨out.1, out.2.1.redis, issued out.2.2⟩

/-- So many failed tries of a command, with the pause after each. -/
def failedTries (c : RetryCommand) (pause : ℕ → ℚ) (k : ℕ) : List RetryCommand :=
  (List.range k).flatMap fun i => [c, .sleep (pause (i + 1))]

/-- So many tries of a command, with a pause after each but the last. -/
def tries (c : RetryCommand) (pause : ℕ → ℚ) (k : ℕ) : List RetryCommand :=
  failedTries c pause (k - 1) ++ [c]

theorem failedTries_succ (c : RetryCommand) (pause : ℕ → ℚ) (k : ℕ) :
    failedTries c pause (k + 1) = failedTries c pause k ++ [c] ++ [.sleep (pause (k + 1))] := by
  simp [failedTries, List.range_succ]

/-- The pause after the i-th failed attempt to publish. -/
def backoff (i : ℕ) : ℚ := 2 ^ (i - 1)

/-- The pause after the i-th failed write. -/
def writePause (i : ℕ) : ℚ := 1 / 2 * i

section

variable (self : EventPublisherWithRetry) (event : FileLoadCompletedEvent) (o : RetryOutcomes)
  (redis : String → Option (DlqEntry × ℤ))

/-- The largest number of attempts. -/
def attemptLimit : ℕ := self.maxRetryAttempts.toNat

/-- The entry for an event whose last attempt raised this exception. -/
def deadLetter (payload : EventDict) (lastError : Exc) : DlqEntry where
  eventPayload := payload
  originalTimestamp := event.timestamp.isoformat
  retryCount := self.maxRetryAttempts
  lastError := lastError.str
  failedAt := o.now.isoformat

/-- The write of an entry. -/
def entryWrite (entry : DlqEntry) : RetryCommand :=
  .setex (dlqKey event) self.dlqTtlSeconds entry

/-- How the dead letter queue ends up after the last attempt, and the commands that are issued
for it. -/
inductive DeadLettered (lastError : Exc) :
    (String → Option (DlqEntry × ℤ)) → List RetryCommand → Prop
  /-- The event has no JSON form, and nothing is written. -/
  | unserializable (e : Exc) (hjson : event.toJson = .error e) : DeadLettered lastError redis []
  /-- The j-th write is the first that succeeds. -/
  | written (payload : EventDict) (j : ℕ) (hjson : event.toJson = .ok payload) (hj : 1 ≤ j)
      (hj' : j ≤ 3) (hok : o.setex j = .ok ()) (hfirst : ∀ i, 1 ≤ i → i < j → o.setex i ≠ .ok ()) :
      DeadLettered lastError
        (Function.update redis (dlqKey event)
          (some (deadLetter self event o payload lastError, self.dlqTtlSeconds)))
        (.now :: tries (entryWrite self event (deadLetter self event o payload lastError))
          writePause j)
  /-- All three writes fail. -/
  | unwritten (payload : EventDict) (hjson : event.toJson = .ok payload)
      (hfail : ∀ i, 1 ≤ i → i ≤ 3 → o.setex i ≠ .ok ()) :
      DeadLettered lastError redis
        (.now :: tries (entryWrite self event (deadLetter self event o payload lastError))
          writePause 3)

/-- What `publish` comes to. -/
inductive Verdict : Except Exc Unit → (String → Option (DlqEntry × ℤ)) → List RetryCommand → Prop
  /-- The k-th attempt is the first that succeeds. -/
  | published (k : ℕ) (hk : 1 ≤ k) (hk' : k ≤ self.attemptLimit) (hok : o.publish k = .ok ())
      (hfirst : ∀ i, 1 ≤ i → i < k → o.publish i ≠ .ok ()) :
      Verdict (.ok ()) redis (tries (.publish event) backoff k)
  /-- All attempts fail. -/
  | lost (lastError : Exc) (message : String) (redis' : String → Option (DlqEntry × ℤ))
      (commands : List RetryCommand)
      (hfail : ∀ i, 1 ≤ i → i ≤ self.attemptLimit → o.publish i ≠ .ok ())
      (hlast : o.publish self.attemptLimit = .error lastError)
      (hletter : DeadLettered self event o redis lastError redis' commands) :
      Verdict (.error (.infrastructureError message)) redis'
        (tries (.publish event) backoff self.attemptLimit ++ commands)

end

/-! ## One command -/

section

variable {self : EventPublisherWithRetry} {event : FileLoadCompletedEvent} {o : RetryOutcomes}
  {redis : String → Option (DlqEntry × ℤ)} {F : Empty → Prop} {α : Type}
  {x : RetryStage × List ((c : RetryCommand) × Except Exc c.Reply)}

theorem wp_ask {c : RetryCommand}
    {Q : Except Exc c.Reply → RetryStage × List ((c : RetryCommand) × Except Exc c.Reply) → Prop} :
    (ask c).wp (retryMachine o).recording F Q x ↔
      Q ((retryMachine o).act c x.1).1
        (((retryMachine o).act c x.1).2, ⟨c, ((retryMachine o).act c x.1).1⟩ :: x.2) :=
  Program.wp_perform.trans (and_iff_left fun f => nomatch f)

theorem wp_failure? {p : Retry Unit}
    {Q : Except Exc (Option Exc) →
      RetryStage × List ((c : RetryCommand) × Except Exc c.Reply) → Prop}
    (h : p.wp (retryMachine o).recording F (fun r x' => match r with
      | .ok _ => Q (.ok none) x'
      | .error e => e.isException = true ∧ Q (.ok (some e)) x') x) :
    (failure? p).wp (retryMachine o).recording F Q x := by
  refine wp_tryExcept.mpr ?_
  rw [Program.wp_bind]
  refine Program.wp_mono h fun r x' hr => ?_
  cases r with
  | ok _ => exact hr
  | error e =>
      refine ⟨fun _ => hr.2, fun hexc => ?_⟩
      rw [hr.1] at hexc
      cases hexc

/-! ## The dead letter queue -/

/-- Before a write: so many have failed, after these commands. -/
structure Written (o : RetryOutcomes) (redis : String → Option (DlqEntry × ℤ))
    (before : List RetryCommand) (c : RetryCommand) (n : ℕ)
    (x : RetryStage × List ((c : RetryCommand) × Except Exc c.Reply)) : Prop where
  writes : x.1.writes = n
  redis : x.1.redis = redis
  commands : issued x.2 = before ++ failedTries c writePause n
  failed : ∀ i, 1 ≤ i → i ≤ n → o.setex i ≠ .ok ()

/-- What the writes come to. -/
inductive EntryWritten (self : EventPublisherWithRetry) (event : FileLoadCompletedEvent)
    (o : RetryOutcomes) (redis : String → Option (DlqEntry × ℤ)) (entry : DlqEntry) :
    Except Exc Unit → (String → Option (DlqEntry × ℤ)) → List RetryCommand → Prop
  | written (j : ℕ) (hj : 1 ≤ j) (hj' : j ≤ 3) (hok : o.setex j = .ok ())
      (hfirst : ∀ i, 1 ≤ i → i < j → o.setex i ≠ .ok ()) :
      EntryWritten self event o redis entry (.ok ())
        (Function.update redis (dlqKey event) (some (entry, self.dlqTtlSeconds)))
        (tries (entryWrite self event entry) writePause j)
  | unwritten (message : String) (hfail : ∀ i, 1 ≤ i → i ≤ 3 → o.setex i ≠ .ok ()) :
      EntryWritten self event o redis entry (.error (.infrastructureError message)) redis
        (tries (entryWrite self event entry) writePause 3)

theorem tries_succ (c : RetryCommand) (pause : ℕ → ℚ) (k : ℕ) :
    tries c pause (k + 1) = failedTries c pause k ++ [c] := rfl

/-- The next write succeeds and ends the loop, or it fails and leaves the state as it was. -/
theorem Written.wp_setex {entry : DlqEntry} {before : List RetryCommand} {n : ℕ}
    {Q : Except Exc (Option Exc) →
      RetryStage × List ((c : RetryCommand) × Except Exc c.Reply) → Prop}
    (h : Written o redis before (entryWrite self event entry) n x)
    (hsetex : ∀ n e, o.setex n = .error e → e.isException = true)
    (hok : o.setex (n + 1) = .ok () → ∀ x',
      x'.1.redis = Function.update redis (dlqKey event) (some (entry, self.dlqTtlSeconds)) →
      issued x'.2 = before ++ tries (entryWrite self event entry) writePause (n + 1) →
      Q (.ok none) x')
    (herror : ∀ e x', x'.1.writes = n + 1 → x'.1.redis = redis →
      issued x'.2 = before ++ tries (entryWrite self event entry) writePause (n + 1) →
      (∀ i, 1 ≤ i → i ≤ n + 1 → o.setex i ≠ .ok ()) → Q (.ok (some e)) x') :
    (failure? (ask (entryWrite self event entry))).wp (retryMachine o).recording F Q x := by
  have hissued : ∀ r, issued (⟨entryWrite self event entry, r⟩ :: x.2) =
      before ++ tries (entryWrite self event entry) writePause (n + 1) := fun r => by
    rw [issued_cons, h.commands, tries_succ, List.append_assoc]
  refine wp_failure? (wp_ask.mpr ?_)
  simp only [entryWrite, retryMachine, h.writes, h.redis]
  cases hr : o.setex (n + 1) with
  | ok _ => exact hok hr _ rfl (hissued _)
  | error e =>
      refine ⟨hsetex _ _ hr, herror e _ rfl rfl (hissued _) fun i hi hi' => ?_⟩
      rcases Nat.lt_or_eq_of_le hi' with hlt | rfl
      · exact h.failed i hi (Nat.lt_succ_iff.mp hlt)
      · rw [hr]
        nofun

theorem wp_writeEntry {entry : DlqEntry} {before : List RetryCommand}
    (hsetex : ∀ n e, o.setex n = .error e → e.isException = true) (rest n : ℕ)
    (hn : n + rest + 1 = 3) (h : Written o redis before (entryWrite self event entry) n x) :
    (writeEntry self event entry (List.range' (n + 1) (rest + 1))).wp
      (retryMachine o).recording F
      (fun r x' => ∃ commands, EntryWritten self event o redis entry r x'.1.redis commands ∧
        issued x'.2 = before ++ commands) x := by
  induction rest generalizing n x with
  | zero =>
      obtain rfl : n = 2 := by omega
      rw [List.range'_succ, writeEntry, Program.wp_bind]
      refine h.wp_setex hsetex (fun hok x' hredis hissued => ?_)
        fun e x' _ hredis hissued hfail => ?_
      · refine ⟨_, ?_, hissued⟩
        rw [hredis]
        exact .written 3 (by omega) le_rfl hok fun i hi hi' => h.failed i hi (by omega)
      · refine ⟨_, ?_, hissued⟩
        rw [hredis]
        exact .unwritten _ hfail
  | succ rest ih =>
      rw [List.range'_succ, writeEntry, Program.wp_bind]
      refine h.wp_setex hsetex (fun hok x' hredis hissued => ?_)
        fun e x' hwrites hredis hissued hfail => ?_
      · refine ⟨_, ?_, hissued⟩
        rw [hredis]
        exact .written (n + 1) (by omega) (by omega) hok
          fun i hi hi' => h.failed i hi (by omega)
      · have hlt : n + 1 < 3 := by omega
        simp only [hlt, if_true]
        rw [Program.wp_bind]
        refine wp_ask.mpr (ih (n + 1) (by omega) ⟨hwrites, hredis, ?_, hfail⟩)
        rw [issued_cons, hissued, tries_succ, failedTries_succ]
        simp [writePause, List.append_assoc]

theorem isException_of_toDict {e : Exc} (h : event.toDict = .error e) : e.isException = true := by
  have hconvert : ∀ (t : DateTime) (e : Exc), t.astimezoneUtc = .error e →
      e.isException = true := by
    intro t e h
    unfold DateTime.astimezoneUtc at h
    by_cases hrange : t.instant < -62135596800000000 ∨ 253402300799999999 < t.instant
    · simp only [raiseIf, hrange, if_true] at h
      cases h
      rfl
    · simp only [raiseIf, hrange, if_false] at h
      cases h
  unfold FileLoadCompletedEvent.toDict at h
  cases htimestamp : event.timestamp.astimezoneUtc with
  | error e' =>
      rw [htimestamp] at h
      cases h
      exact hconvert _ _ htimestamp
  | ok timestamp =>
      cases huploaded : event.uploadedAt.astimezoneUtc with
      | error e' =>
          rw [htimestamp, huploaded] at h
          cases h
          exact hconvert _ _ huploaded
      | ok uploadedAt =>
          rw [htimestamp, huploaded] at h
          cases h

theorem isException_of_toJson {e : Exc} (h : event.toJson = .error e) : e.isException = true := by
  unfold FileLoadCompletedEvent.toJson tryExcept at h
  cases hdict : event.toDict with
  | ok dict =>
      rw [hdict] at h
      cases h
  | error e' =>
      rw [hdict] at h
      change (if e'.isException = true then _ else _) = _ at h
      rw [if_pos (isException_of_toDict hdict)] at h
      cases h
      rfl

theorem wp_writeToDlq {lastError : Exc} {before : List RetryCommand}
    (hsetex : ∀ n e, o.setex n = .error e → e.isException = true) (hwrites : x.1.writes = 0)
    (hredis : x.1.redis = redis) (hissued : issued x.2 = before) :
    (writeToDlq self event self.maxRetryAttempts (some lastError)).wp
      (retryMachine o).recording F
      (fun r x' => ∃ message commands, r = .error (.infrastructureError message) ∧
        DeadLettered self event o redis lastError x'.1.redis commands ∧
        issued x'.2 = before ++ commands) x := by
  rw [writeToDlq, Program.wp_bind]
  refine wp_tryExcept.mpr (wp_ofExcept (fun payload hjson => ?_) fun e hjson => ?_)
  · dsimp only
    rw [Program.wp_bind]
    refine wp_ask.mpr ?_
    dsimp only [retryMachine]
    rw [Program.wp_bind]
    have hstart : Written o redis (before ++ [.now])
        (entryWrite self event (deadLetter self event o payload lastError)) 0
        (x.1, ⟨.now, .ok o.now⟩ :: x.2) := by
      refine ⟨hwrites, hredis, ?_, fun i hi hi' => absurd hi' (by omega)⟩
      rw [issued_cons, hissued]
      exact (List.append_nil _).symm
    refine Program.wp_mono (wp_writeEntry hsetex 2 0 rfl hstart) fun r x' hwritten => ?_
    obtain ⟨commands, hwritten, hissued'⟩ := hwritten
    rw [List.append_assoc] at hissued'
    generalize hredis' : x'.1.redis = redis' at hwritten
    cases hwritten with
    | written j hj hj' hok hfirst =>
        refine ⟨_, _, rfl, ?_, hissued'⟩
        rw [hredis']
        exact .written payload j hjson hj hj' hok hfirst
    | unwritten message hfail =>
        exact ⟨_, _, rfl, .unwritten payload hjson hfail, hissued'⟩
  · refine ⟨fun _ => ⟨_, [], rfl, ?_, ?_⟩, fun hexc => ?_⟩
    · rw [hredis]
      exact .unserializable e hjson
    · rw [hissued, List.append_nil]
    · rw [isException_of_toJson hjson] at hexc
      cases hexc

/-! ## The attempts -/

/-- Before an attempt: so many have failed, and Redis has not been touched. -/
structure Tried (event : FileLoadCompletedEvent) (o : RetryOutcomes)
    (redis : String → Option (DlqEntry × ℤ)) (n : ℕ)
    (x : RetryStage × List ((c : RetryCommand) × Except Exc c.Reply)) : Prop where
  attempts : x.1.attempts = n
  writes : x.1.writes = 0
  redis : x.1.redis = redis
  commands : issued x.2 = failedTries (.publish event) backoff n
  failed : ∀ i, 1 ≤ i → i ≤ n → o.publish i ≠ .ok ()

/-- The next attempt succeeds, or it fails and leaves Redis as it was. -/
theorem Tried.wp_publish {n : ℕ}
    {Q : Except Exc (Option Exc) →
      RetryStage × List ((c : RetryCommand) × Except Exc c.Reply) → Prop}
    (h : Tried event o redis n x)
    (hpublish : ∀ n e, o.publish n = .error e → e.isException = true)
    (hok : o.publish (n + 1) = .ok () → ∀ x', x'.1.redis = redis →
      issued x'.2 = tries (.publish event) backoff (n + 1) → Q (.ok none) x')
    (herror : ∀ e x', o.publish (n + 1) = .error e → x'.1.attempts = n + 1 →
      x'.1.writes = 0 → x'.1.redis = redis →
      issued x'.2 = tries (.publish event) backoff (n + 1) →
      (∀ i, 1 ≤ i → i ≤ n + 1 → o.publish i ≠ .ok ()) → Q (.ok (some e)) x') :
    (failure? (ask (.publish event))).wp (retryMachine o).recording F Q x := by
  have hissued : ∀ r, issued (⟨.publish event, r⟩ :: x.2) =
      tries (.publish event) backoff (n + 1) := fun r => by
    rw [issued_cons, h.commands, tries_succ]
  refine wp_failure? (wp_ask.mpr ?_)
  simp only [retryMachine, h.attempts]
  cases hr : o.publish (n + 1) with
  | ok _ => exact hok hr _ h.redis (hissued _)
  | error e =>
      refine ⟨hpublish _ _ hr, herror e _ hr rfl h.writes h.redis (hissued _) fun i hi hi' => ?_⟩
      rcases Nat.lt_or_eq_of_le hi' with hlt | rfl
      · exact h.failed i hi (Nat.lt_succ_iff.mp hlt)
      · rw [hr]
        nofun

theorem wp_publishFrom {lastError : Option Exc}
    (hpublish : ∀ n e, o.publish n = .error e → e.isException = true)
    (hsetex : ∀ n e, o.setex n = .error e → e.isException = true) (rest n : ℕ)
    (hn : n + rest + 1 = self.attemptLimit) (h : Tried event o redis n x) :
    (publishFrom self event (List.range' (n + 1) (rest + 1)) lastError).wp
      (retryMachine o).recording F
      (fun r x' => Verdict self event o redis r x'.1.redis (issued x'.2)) x := by
  have hlimit : ((n + rest + 1 : ℕ) : ℤ) = self.maxRetryAttempts := by
    have := (validateRetry_eq_ok_iff.mp self.valid).1
    rw [hn, attemptLimit, Int.toNat_of_nonneg (by omega)]
  -- on the attempts that are left; `Tried` says what the earlier ones have done
  induction rest generalizing n x lastError with
  | zero =>
      rw [List.range'_succ, publishFrom, Program.wp_bind]
      refine h.wp_publish hpublish (fun hok x' hredis hissued => ?_)
        fun e x' hlast _ hwrites hredis hissued hfail => ?_
      · change Verdict self event o redis (.ok ()) x'.1.redis (issued x'.2)
        rw [hissued]
        exact hredis ▸ .published (n + 1) (by omega) (by omega) hok
          fun i hi hi' => h.failed i hi (by omega)
      -- the last attempt has failed, so there is no pause, and the event goes to the queue
      · have hnot : ¬ ((n + 1 : ℕ) : ℤ) < self.maxRetryAttempts := by omega
        simp only [hnot, if_false]
        refine Program.wp_mono (wp_writeToDlq hsetex hwrites hredis hissued) fun r x'' hletter => ?_
        obtain ⟨message, commands, rfl, hletter, hissued'⟩ := hletter
        have hlast' : n + 1 = self.attemptLimit := hn
        rw [hissued', hlast']
        rw [hlast'] at hfail hlast
        exact .lost e message _ commands hfail hlast hletter
  | succ rest ih =>
      rw [List.range'_succ, publishFrom, Program.wp_bind]
      refine h.wp_publish hpublish (fun hok x' hredis hissued => ?_)
        fun e x' hlast hattempts hwrites hredis hissued hfail => ?_
      · change Verdict self event o redis (.ok ()) x'.1.redis (issued x'.2)
        rw [hissued]
        exact hredis ▸ .published (n + 1) (by omega) (by omega) hok
          fun i hi hi' => h.failed i hi (by omega)
      -- there are attempts left, so the loop pauses first
      · have hlt : ((n + 1 : ℕ) : ℤ) < self.maxRetryAttempts := by omega
        simp only [hlt, if_true]
        rw [Program.wp_bind]
        refine wp_ask.mpr (ih (n + 1) (by omega) ⟨hattempts, hwrites, hredis, ?_, hfail⟩ (by omega))
        rw [issued_cons, hissued, tries_succ, failedTries_succ]
        simp [backoff]

/-! ## The whole call -/

theorem publishing_verdict
    (hpublish : ∀ n e, o.publish n = .error e → e.isException = true)
    (hsetex : ∀ n e, o.setex n = .error e → e.isException = true) :
    Verdict self event o redis (publishing self event o redis).result
      (publishing self event o redis).redis (publishing self event o redis).commands := by
  have hpositive := (validateRetry_eq_ok_iff.mp self.valid).1
  obtain ⟨rest, hrest⟩ : ∃ rest, self.attemptLimit = rest + 1 :=
    ⟨self.attemptLimit - 1, by unfold attemptLimit; omega⟩
  have hstart : Tried event o redis 0 (⟨0, 0, redis⟩, []) :=
    ⟨rfl, rfl, rfl, rfl, fun i hi hi' => absurd hi' (by omega)⟩
  have hwp : (publishFrom self event (List.range' 1 (rest + 1)) none).wp
      (retryMachine o).recording (fun _ => True)
      (fun r x' => Verdict self event o redis r x'.1.redis (issued x'.2)) (⟨0, 0, redis⟩, []) :=
    wp_publishFrom hpublish hsetex rest 0 (by omega) hstart
  have h := Program.run_calm_of_wp hwp
  rw [← hrest] at h
  exact h

end

/-- The publisher returns exactly if one of the attempts it is allowed succeeds.  If the k-th is
the first, there are k attempts, with growing pauses between them, and Redis is not touched.  If
all fail, it raises `InfrastructureError` after the last of them and the writes to the dead letter
queue. -/
structure NeverSilent (self : EventPublisherWithRetry) (event : FileLoadCompletedEvent)
    (o : RetryOutcomes) (redis : String → Option (DlqEntry × ℤ)) (p : Publishing) : Prop where
  returns_iff : p.result = .ok () ↔ ∃ k, 1 ≤ k ∧ k ≤ self.attemptLimit ∧ o.publish k = .ok ()
  published : ∀ k, 1 ≤ k → k ≤ self.attemptLimit → o.publish k = .ok () →
    (∀ i, 1 ≤ i → i < k → o.publish i ≠ .ok ()) →
    p.commands = tries (.publish event) backoff k ∧ p.redis = redis
  lost : (∀ k, 1 ≤ k → k ≤ self.attemptLimit → o.publish k ≠ .ok ()) →
    ∃ lastError message commands, o.publish self.attemptLimit = .error lastError ∧
      p.result = .error (.infrastructureError message) ∧
      p.commands = tries (.publish event) backoff self.attemptLimit ++ commands ∧
      DeadLettered self event o redis lastError p.redis commands

theorem publishing_neverSilent (self : EventPublisherWithRetry) (event : FileLoadCompletedEvent)
    (o : RetryOutcomes) (redis : String → Option (DlqEntry × ℤ))
    (hpublish : ∀ n e, o.publish n = .error e → e.isException = true)
    (hsetex : ∀ n e, o.setex n = .error e → e.isException = true) :
    NeverSilent self event o redis (publishing self event o redis) := by
  have hverdict : Verdict self event o redis (publishing self event o redis).result
      (publishing self event o redis).redis (publishing self event o redis).commands :=
    publishing_verdict hpublish hsetex
  generalize publishing self event o redis = p at hverdict
  obtain ⟨result, redis', commands⟩ := p
  dsimp only at hverdict
  cases hverdict with
  | published k hk hk' hok hfirst =>
      refine ⟨iff_of_true rfl ⟨k, hk, hk', hok⟩, fun j hj hj' hok' hfirst' => ?_,
        fun hfail => absurd hok (hfail k hk hk')⟩
      -- both are the first
      obtain hlt | rfl | hlt := Nat.lt_trichotomy j k
      · exact absurd hok' (hfirst j hj hlt)
      · exact ⟨rfl, rfl⟩
      · exact absurd hok (hfirst' k hk hlt)
  | lost lastError message redis' commands hfail hlast hletter =>
      refine ⟨iff_of_false nofun ?_, fun k hk hk' hok _ => absurd hok (hfail k hk hk'),
        fun _ => ⟨lastError, message, commands, hlast, rfl, rfl, hletter⟩⟩
      rintro ⟨k, hk, hk', hok⟩
      exact hfail k hk hk' hok

end EventPublisherWithRetry

namespace Sample

def event : FileLoadCompletedEvent where
  fileId := session
  workspaceId := workspace
  s3Path := s!"s3://uploads/workspace_{workspace}/{session}.pdf"
  sha256Checksum := .fromBytes [1]
  sizeBytes := 1
  uploadedAt := .utc (environment.wallClock 0)
  timestamp := .utc (environment.wallClock 1)
  valid := by decide +kernel

/-- One attempt. -/
def publisher : EventPublisherWithRetry where
  maxRetryAttempts := 1
  valid := by decide

/-- No attempt succeeds, and the first write fails. -/
def outageOutcomes : RetryOutcomes where
  publish := fun _ => .error .timeoutError
  setex := fun n => if n = 1 then .error (.redisError "unavailable") else .ok ()
  now := .utc (environment.wallClock 2)

end Sample

namespace EventPublisherWithRetry

open Sample

/-- The event goes to the dead letter queue with the second write. -/
theorem publishing_neverSilent_sample :
    NeverSilent publisher event outageOutcomes (fun _ => none)
      (publishing publisher event outageOutcomes fun _ => none) :=
  publishing_neverSilent publisher event outageOutcomes (fun _ => none)
    (fun n e h => by cases h; rfl)
    (fun n e h => by
      dsimp only [outageOutcomes] at h
      split at h
      · cases h
        rfl
      · cases h)

/-- It sleeps after its only attempt. -/
theorem sleeps_after_last_attempt :
    ¬ ∀ before seconds after, (publishing publisher event outageOutcomes fun _ => none).commands =
        before ++ .sleep seconds :: after →
      .publish event ∈ before ∧ .publish event ∈ after := by
  intro h
  have hcommands : (publishing publisher event outageOutcomes fun _ => none).commands =
      (publishing publisher event outageOutcomes fun _ => none).commands.take 3 ++
        .sleep (1 / 2) ::
          (publishing publisher event outageOutcomes fun _ => none).commands.drop 4 := by
    decide +kernel
  exact absurd (h _ _ _ hcommands).2 (by decide +kernel)

end EventPublisherWithRetry

end RagFileUploader
