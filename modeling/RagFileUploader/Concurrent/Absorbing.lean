import RagFileUploader.Concurrent.Standing

/-!
# Terminal states

COMPLETE, FAILED and ABORTED are meant to be final.  Each use case looks at the status once, when
it reads the session, and writes the whole hash much later, so what it writes may come after
another call's terminal write.  Nothing else can go wrong: `terminal_absorbing_iff` says that a
stored terminal status is followed by no other one exactly if no write comes after a different
terminal status that another call has stored since the writer read the session.

* `Standing.Aware` is what is known of each call: once it has read the session, every terminal hash
  in the record is one that others have stored since, or its own FAILED.
* `AbsorbState.pass`, `read` and `write` are the steps by the kind of command, and
  `AbsorbState.sustains` finds the one that applies; `Undisputed` is used for writes only.
* The other direction of the theorem needs no invariant: a disputed write is itself the pair of
  hashes that breaks absorption.
-/

namespace RagFileUploader

open Effects Stores

variable {env : Environment} {settings : Settings} {σ σ' : World} {w s : UUID} {key : SessionKey}
  {γs : List Standing} {journal : List (ℕ × Command)} {calls : List Call} {schedule : List ℕ}

/-! ## What is stored -/

/-- The hash says COMPLETE, FAILED or ABORTED. -/
def SessionHash.Ended (data : SessionHash) : Prop :=
  data.status ∈ [SessionStatus.complete.value, SessionStatus.failed.value,
    SessionStatus.aborted.value]

instance (data : SessionHash) : Decidable data.Ended :=
  inferInstanceAs (Decidable (_ ∈ [_, _, _]))

theorem ended_serialize {session : UploadSession} :
    (RedisSessionStore.serializeSession session).Ended ↔ session.status.Terminal := by
  change session.status.value ∈ _ ↔ _
  cases session.status <;> decide

theorem SessionHash.Ended.congr {data data' : SessionHash} (h : data.Ended)
    (hstatus : data'.status = data.status) : data'.Ended := by
  rw [SessionHash.Ended, hstatus]
  exact h

/-- The hashes under the key, in the order in which they came to be there. -/
def storedHashes (σ : World) (key : SessionKey) (journal : List (ℕ × Command)) :
    List SessionHash :=
  (σ.session? key).toList ++ journal.reverse.filterMap fun (_, c) => c.storedAt? key

theorem storedHashes_cons {i : ℕ} {c : Command} : storedHashes σ key ((i, c) :: journal) =
    storedHashes σ key journal ++ (c.storedAt? key).toList := by
  cases h : c.storedAt? key <;> simp [storedHashes, h]

/-- Once a terminal status is stored, every hash that is stored later has the same status. -/
def Absorbing (σ : World) (key : SessionKey) (journal : List (ℕ × Command)) : Prop :=
  (storedHashes σ key journal).Pairwise fun data data' =>
    data.Ended → data'.status = data.status

/-- What the thread of the turn is about to store has the status of every terminal hash that
another call has stored since the thread's call read the session. -/
def Undisputed (key : SessionKey) (p : Pool serviceSignature World Response) :
    Turn World Fault → Prop
  | .issue i _ => ∀ c ∈ p.pending i, ∀ data ∈ c.storedAt? key,
      ∀ rival ∈ rivals i key p.journal, rival.Ended → data.status = rival.status
  | .drift _ => True

instance (p : Pool serviceSignature World Response) : ∀ turn, Decidable (Undisputed key p turn)
  | .issue i _ => inferInstanceAs (Decidable (∀ c ∈ p.pending i, ∀ data ∈ c.storedAt? key,
      ∀ rival ∈ rivals i key p.journal, rival.Ended → data.status = rival.status))
  | .drift _ => isTrue trivial

theorem storedHashes_of_rivals {i : ℕ} {data : SessionHash} (h : data ∈ rivals i key journal) :
    data ∈ storedHashes σ key journal := by
  obtain ⟨⟨j, c⟩, hmem, hdata⟩ := List.mem_filterMap.mp h
  refine List.mem_append_right _ (List.mem_filterMap.mpr ⟨(j, c), ?_, ?_⟩)
  · exact List.mem_reverse.mpr ((List.takeWhile_prefix _).subset hmem)
  · dsimp only at hdata
    split at hdata
    · cases hdata
    · exact hdata

/-! ## The invariant -/

/-- What is known of a call: every terminal hash so far was stored by others since it has read
the session, or by the call itself when it failed. -/
def Standing.Aware (σ : World) (key : SessionKey) (journal : List (ℕ × Command)) (i : ℕ) :
    Standing → Prop
  | .fresh key' _ => key' = key
  | .live key' _ => key' = key ∧ ∀ data ∈ storedHashes σ key journal, data.Ended →
      data ∈ rivals i key journal
  | .failing key' => key' = key ∧ ∀ data ∈ storedHashes σ key journal, data.Ended →
      data ∈ rivals i key journal ∨ data.status = SessionStatus.failed.value
  | .ending key' => key' = key
  | .asking _ | .reserved _ => False
  | .clamping _ | .over => True

/-- Terminal states have been absorbing so far, and the hash agrees with what was stored last. -/
structure AbsorbState (σ : World) (key : SessionKey) (γs : List Standing) (σ' : World)
    (journal : List (ℕ × Command)) : Prop where
  well : σ'.StoredWell key
  absorbing : Absorbing σ key journal
  current : ∀ data ∈ σ'.session? key, ∀ earlier ∈ storedHashes σ key journal, earlier.Ended →
    data.status = earlier.status
  calls : ∀ i, ∀ γ : Standing, γs[i]? = some γ → γ.Aware σ key journal i

/-- A call does not mind the commands of others, as these become its rivals. -/
theorem Standing.Aware.other {γ : Standing} {i j : ℕ} {c : Command}
    (h : γ.Aware σ key journal i) (hne : j ≠ i) : γ.Aware σ key ((j, c) :: journal) i := by
  have hgrow : ∀ data ∈ storedHashes σ key ((j, c) :: journal),
      data ∈ storedHashes σ key journal ∨ data ∈ rivals i key ((j, c) :: journal) := by
    intro data hdata
    rw [storedHashes_cons] at hdata
    rw [rivals_cons_other hne]
    exact (List.mem_append.mp hdata).imp_right (List.mem_append_left _)
  have hkeep : ∀ data ∈ rivals i key journal, data ∈ rivals i key ((j, c) :: journal) :=
    fun data hdata => rivals_cons_other hne ▸ List.mem_append_right _ hdata
  cases γ with
  | live key' writes =>
      refine ⟨h.1, fun data hdata hended => ?_⟩
      rcases hgrow data hdata with hold | hnew
      · exact hkeep data (h.2 data hold hended)
      · exact hnew
  | failing key' =>
      refine ⟨h.1, fun data hdata hended => ?_⟩
      rcases hgrow data hdata with hold | hnew
      · exact (h.2 data hold hended).imp_left (hkeep data)
      · exact .inl hnew
  | _ => exact h

/-- A call goes on with a command that stores nothing under the key. -/
theorem Standing.Aware.self {γ : Standing} {i : ℕ} {c : Command} (h : γ.Aware σ key journal i)
    (hstores : c.storedAt? key = none) (hread : c ≠ .hgetallSession key) :
    γ.Aware σ key ((i, c) :: journal) i := by
  have hsame : storedHashes σ key ((i, c) :: journal) = storedHashes σ key journal := by
    rw [storedHashes_cons, hstores, Option.toList_none, List.append_nil]
  cases γ with
  | live key' writes => exact ⟨h.1, by rw [hsame, rivals_cons_self hread]; exact h.2⟩
  | failing key' => exact ⟨h.1, by rw [hsame, rivals_cons_self hread]; exact h.2⟩
  | _ => exact h

theorem AbsorbState.calls_set (h : AbsorbState σ key γs σ' journal) {i : ℕ} {c : Command}
    {γ : Standing} (hγ : γ.Aware σ key ((i, c) :: journal) i) :
    ∀ j, ∀ γ' : Standing, (γs.set i γ)[j]? = some γ' → γ'.Aware σ key ((i, c) :: journal) j := by
  intro j γ' hγ'
  by_cases hij : i = j
  · subst hij
    have hlt : i < γs.length := by
      have := (List.getElem?_eq_some_iff.mp hγ').1
      rwa [List.length_set] at this
    rw [List.getElem?_set_self hlt] at hγ'
    cases hγ'
    exact hγ
  · rw [List.getElem?_set_ne hij] at hγ'
    exact (h.calls j γ' hγ').other hij

/-- A command that stores nothing under the key, and leaves the hash there alone or removes it. -/
theorem AbsorbState.pass (h : AbsorbState σ key γs σ' journal) {σ'' : World} {i : ℕ} {c : Command}
    {γ : Standing} (hstores : c.storedAt? key = none) (hwell : σ''.StoredWell key)
    (hsession : ∀ data ∈ σ''.session? key, data ∈ σ'.session? key)
    (hγ : γ.Aware σ key ((i, c) :: journal) i) :
    AbsorbState σ key (γs.set i γ) σ'' ((i, c) :: journal) := by
  have hsame : storedHashes σ key ((i, c) :: journal) = storedHashes σ key journal := by
    rw [storedHashes_cons, hstores, Option.toList_none, List.append_nil]
  refine ⟨hwell, ?_, fun data hdata => ?_, h.calls_set hγ⟩
  · rw [Absorbing, hsame]
    exact h.absorbing
  · rw [hsame]
    exact h.current data (hsession data hdata)

/-- A hash is stored that no terminal hash contradicts. -/
theorem AbsorbState.store (h : AbsorbState σ key γs σ' journal) {σ'' : World} {i : ℕ}
    {data : SessionHash} {γ : Standing} (hwell : σ''.StoredWell key)
    (hsession : σ''.session? key = some data)
    (hagrees : ∀ earlier ∈ storedHashes σ key journal, earlier.Ended →
      data.status = earlier.status)
    (hγ : γ.Aware σ key ((i, .hsetSession key data) :: journal) i) :
    AbsorbState σ key (γs.set i γ) σ'' ((i, .hsetSession key data) :: journal) := by
  have hstored : storedHashes σ key ((i, .hsetSession key data) :: journal) =
      storedHashes σ key journal ++ [data] := by
    rw [storedHashes_cons, Command.storedAt?, if_pos rfl, Option.toList_some]
  refine ⟨hwell, ?_, fun data' hdata' earlier hearlier hended => ?_, h.calls_set hγ⟩
  · rw [Absorbing, hstored, List.pairwise_append]
    refine ⟨h.absorbing, List.pairwise_singleton _ _, fun earlier hearlier data' hdata' => ?_⟩
    rw [List.mem_singleton.mp hdata']
    exact hagrees earlier hearlier
  · cases hsession.symm.trans hdata'
    rw [hstored, List.mem_append, List.mem_singleton] at hearlier
    rcases hearlier with hold | rfl
    · exact hagrees earlier hold hended
    · rfl

/-! ## One turn -/

theorem Command.storedAt?_unwatched {c : Command} (h : c.Unwatched) : c.storedAt? key = none := by
  cases c <;> first | rfl | exact absurd h id

theorem storedWell_congr (h : σ.StoredWell key) (hsessions : σ'.sessions key = σ.sessions key) :
    σ'.StoredWell key := fun entry hentry => h entry (hsessions ▸ hentry)

/-- Whoever reads a session that is under way finds no terminal hash so far. -/
theorem AbsorbState.read (h : AbsorbState σ key γs σ' journal) {i : ℕ}
    {writes : List SessionStatus} :
    ((Standing.fresh key writes).after (.hgetallSession key) (.ok (σ'.session? key))).Aware σ key
      ((i, .hgetallSession key) :: journal) i := by
  cases hdata : σ'.session? key with
  | none => trivial
  | some data =>
      simp only [Standing.after]
      split
      · next hactive =>
          refine ⟨rfl, fun earlier hearlier hended => ?_⟩
          have hsame : storedHashes σ key ((i, .hgetallSession key) :: journal) =
              storedHashes σ key journal := storedHashes_cons.trans (List.append_nil _)
          rw [hsame] at hearlier
          have hstatus := h.current data hdata earlier hearlier hended
          have hboth : data.Ended := hended.congr hstatus
          obtain ⟨d, hentry, -⟩ := Keyspace.get?_eq_some_iff.mp hdata
          obtain ⟨-, session, -, hvalue⟩ := h.well _ hentry
          obtain rfl : data = RedisSessionStore.serializeSession session := hvalue
          exact absurd (ended_serialize.mp hboth) (active_serialize.mp hactive)
      · trivial

/-- A write that agrees with the terminal hashes of the others. -/
theorem AbsorbState.write (h : AbsorbState σ key γs σ' journal) {i : ℕ} {γ' : Standing}
    {session : UploadSession} (hkey : session.key = key) (hvalid : key.Valid)
    (haware : ∀ data ∈ storedHashes σ key journal, data.Ended →
      data ∈ rivals i key journal ∨ session.status.value = data.status)
    (hrivals : ∀ rival ∈ rivals i key journal, rival.Ended → session.status.value = rival.status)
    (hγ' : γ'.Aware σ key ((i, .hsetSession key (RedisSessionStore.serializeSession session)) ::
      journal) i) :
    AbsorbState σ key (γs.set i γ') (σ'.putSession session)
      ((i, .hsetSession key (RedisSessionStore.serializeSession session)) :: journal) := by
  refine h.store ?_ ?_ (fun earlier hearlier hended => ?_) hγ'
  · rintro entry hentry
    obtain rfl := hkey
    have hself : (σ'.putSession session).sessions session.key =
        some ⟨RedisSessionStore.serializeSession session, _⟩ := Keyspace.put_self
    cases hself.symm.trans hentry
    exact ⟨hvalid, session, rfl, rfl⟩
  · exact World.session?_putSession hkey
  · exact (haware earlier hearlier hended).elim (hrivals earlier · hended) id

/-- A call that has stored FAILED knows of its own hash. -/
theorem Standing.Aware.failing {i : ℕ} {data : SessionHash}
    (hfailed : data.status = SessionStatus.failed.value)
    (hseen : ∀ earlier ∈ storedHashes σ key journal, earlier.Ended →
      earlier ∈ rivals i key journal ∨ earlier.status = SessionStatus.failed.value) :
    (Standing.failing key).Aware σ key ((i, .hsetSession key data) :: journal) i := by
  refine ⟨rfl, fun earlier hearlier hended => ?_⟩
  have hsame : rivals i key ((i, .hsetSession key data) :: journal) = rivals i key journal :=
    rivals_cons_self fun h => nomatch h
  rw [hsame]
  rw [storedHashes_cons, Command.storedAt?, if_pos rfl, Option.toList_some, List.mem_append,
    List.mem_singleton] at hearlier
  rcases hearlier with hold | rfl
  · exact hseen earlier hold hended
  · exact .inr hfailed

theorem AbsorbState.sustains {p : Pool serviceSignature World Response} {i : ℕ}
    (h : AbsorbState σ key γs p.state p.journal) (hC : Undisputed key p (.issue i none)) :
    Pool.Sustains (serviceMachine env) standingMonitor (AbsorbState σ key) p γs
      (.issue i none) := by
  intro γ c hγ hpending hmay
  have haware := h.calls i γ hγ
  have hrivals := hC c hpending
  rw [Machine.attempt_none]
  -- what a call reads is the hash under its own key
  refine ⟨c.plausible_act fun key' heq => ?_, ?_⟩
  · subst heq
    cases hmay with
    | unwatched _ hc => exact absurd hc id
    | read _ writes =>
        obtain rfl : key' = key := haware
        exact h.well
  cases hmay with
  | unwatched _ hc =>
      have hstores : c.storedAt? key = none := c.storedAt?_unwatched hc
      have hsessions : ((serviceMachine env).act c p.state).2.sessions = p.state.sessions :=
        c.sessions_unwatched hc
      refine h.pass hstores (storedWell_congr h.well (congrFun hsessions key))
        (fun data hdata => ?_) ?_
      · rw [← CompleteUploadUseCase.session?_congr hsessions c.clock_act]
        exact hdata
      · change Standing.Aware σ key _ i (γ.after c _)
        rw [Standing.after_of_unwatched hc]
        exact haware.self hstores (by rintro rfl; exact hc)
  | read key' writes =>
      obtain rfl : key' = key := haware
      exact h.pass rfl h.well (fun _ hdata => hdata) h.read
  | @write key' writes session hkey hvalid hstatus =>
      obtain ⟨rfl, hseen⟩ := haware
      subst hkey
      -- the write agrees with all final statuses that others are about to write
      have hagrees := hrivals _ (if_pos rfl)
      refine h.write rfl hvalid (fun data hdata hended => .inl (hseen data hdata hended)) hagrees ?_
      change Standing.Aware σ _ _ i (if _ then _ else if _ then _ else _)
      split
      · next hfailed =>
          exact .failing hfailed fun data hdata hended => .inl (hseen data hdata hended)
      · split
        · trivial
        · exact rfl
  | @rewrite key' session hkey hvalid hstatus =>
      obtain ⟨rfl, hseen⟩ := haware
      subst hkey
      have hagrees := hrivals _ (if_pos rfl)
      have hfailed : session.status.value = SessionStatus.failed.value :=
        congrArg SessionStatus.value hstatus
      refine h.write rfl hvalid (fun data hdata hended => ?_) hagrees (.failing hfailed hseen)
      -- what has ended is what the call has seen, or it is FAILED as well
      exact (hseen data hdata hended).imp_right fun h => hfailed.trans h.symm
  | delete key' =>
      obtain rfl : key' = key := haware
      refine h.pass rfl (fun entry hentry => ?_) (fun data hdata => ?_) rfl
      · exact nomatch Keyspace.erase_self.symm.trans hentry
      · obtain ⟨d, hentry, -⟩ := Keyspace.get?_eq_some_iff.mp hdata
        exact nomatch Keyspace.erase_self.symm.trans hentry
  | release key' =>
      refine h.pass rfl h.well (fun _ hdata => hdata) ?_
      change Standing.Aware σ key _ i (if _ then _ else _)
      split <;> trivial
  | take | create | giveBack => exact absurd haware id
  | clamp w => exact h.pass rfl h.well (fun _ hdata => hdata) trivial

/-! ## The run -/

/-- In a run of chunk, completion and abort calls on a session, terminal states are absorbing
exactly if no write comes after a different terminal status that another call has stored since the
writer read the session. -/
theorem terminal_absorbing_iff (env : Environment) (settings : Settings) (σ : World) (w s : UUID)
    (calls : List Call) (schedule : List ℕ) (hwell : σ.StoredWell ⟨w, s⟩)
    (hon : ∀ c ∈ calls, c.key? = some ⟨w, s⟩) :
    Absorbing σ ⟨w, s⟩
        ((callPool settings σ calls).run (serviceMachine env) (calm schedule)).journal ↔
      Pool.Within (serviceMachine env) (Undisputed ⟨w, s⟩) (callPool settings σ calls)
        (calm schedule) := by
  constructor
  · intro habsorbing
    refine Pool.within_iff.mpr fun before turn after hsplit => ?_
    cases turn with
    | drift _ => trivial
    | issue i fault =>
        intro c hc data hdata rival hrival hended
        obtain ⟨next, hget⟩ := Pool.pending_eq_some.mp hc
        -- the journal of the whole run extends the one after this turn
        have hsuffix := Pool.journal_suffix_run (serviceMachine env)
          (((callPool settings σ calls).run (serviceMachine env) before).step (serviceMachine env)
            (.issue i fault)) after
        rw [← Pool.run_cons, ← Pool.run_append, ← hsplit] at hsuffix
        simp only [Pool.step, hget] at hsuffix
        obtain ⟨later, hlater⟩ := hsuffix
        rw [Absorbing, ← hlater, storedHashes, List.reverse_append, List.filterMap_append,
          ← List.append_assoc] at habsorbing
        have hpairs := (List.pairwise_append.mp habsorbing).1
        change Absorbing σ ⟨w, s⟩ ((i, c) :: _) at hpairs
        rw [Absorbing, storedHashes_cons, hdata, Option.toList_some, List.pairwise_append] at hpairs
        exact hpairs.2.2 rival (storedHashes_of_rivals hrival) data List.mem_cons_self hended
  · intro hundisputed
    have hstart : AbsorbState σ ⟨w, s⟩ (calls.map Call.standing) σ [] := by
      have hhashes : storedHashes σ ⟨w, s⟩ [] = (σ.session? ⟨w, s⟩).toList := by
        simp [storedHashes]
      refine ⟨hwell, ?_, fun data hdata earlier hearlier _ => ?_, fun i γ hγ => ?_⟩
      · rw [Absorbing, hhashes]
        cases σ.session? ⟨w, s⟩ <;> simp
      · rw [hhashes, Option.mem_toList] at hearlier
        cases hearlier.symm.trans hdata
        rfl
      · obtain ⟨c, hc, rfl⟩ := List.mem_map.mp (List.mem_of_getElem? hγ)
        have hkey := hon c hc
        cases c with
        | initiate request => cases hkey
        | processChunk request => exact Option.some.inj hkey
        | complete request => exact Option.some.inj hkey
        | abort w s => exact Option.some.inj hkey
    obtain ⟨γs, hwatched⟩ := Pool.run_watched_calm (fun _ _ _ h hC => h.sustains hC)
      (watched_callPool settings hstart) hundisputed
    exact hwatched.holds.absorbing

/-- An abort that reads the session while a chunk call is under way, and writes after it. -/
theorem terminal_absorbing_iff_sample :
    Absorbing Sample.initiated ⟨Sample.workspace, Sample.session⟩
      ((callPool Sample.settings Sample.initiated
        [.processChunk Sample.chunk, .abort Sample.workspace Sample.session]).run
          (serviceMachine Sample.environment) (calm [0, 1, 0, 0, 0, 1, 1, 1])).journal :=
  (terminal_absorbing_iff Sample.environment Sample.settings Sample.initiated Sample.workspace
    Sample.session [.processChunk Sample.chunk, .abort Sample.workspace Sample.session]
    [0, 1, 0, 0, 0, 1, 1, 1] (Run.wellStored_steps _ _) (by decide)).mpr (by decide +kernel)

/-- A chunk call has read the session and stored its bytes when the session is aborted; then it
writes IN_PROGRESS over ABORTED. -/
theorem aborted_resumes :
    ¬ Absorbing Sample.initiated ⟨Sample.workspace, Sample.session⟩
      ((callPool Sample.settings Sample.initiated
        [.processChunk Sample.chunk, .abort Sample.workspace Sample.session]).run
          (serviceMachine Sample.environment) (calm [0, 0, 0, 1, 1, 1, 0])).journal := by
  unfold Absorbing
  decide +kernel

end RagFileUploader
