import RagFileUploader.Effects.Serial
import Mathlib

/-!
# Several programs, one command at a time

A `Pool` holds programs that share one state.  In a turn one thread's next command acts on the
shared state while every other thread waits, or the state changes by itself.  The journal records
who issued which command, newest first.

Reasoning about a pool goes in two steps.  A `Monitor` watches one thread: from the replies that
the thread has seen it derives a value of type `Γ`, and it says which commands the thread may
issue there.  `Program.Obeys` proves of a program alone, for all replies, that it keeps to its
monitor.  `Pool.run_watched` then needs an invariant of the watched values, the state and the
journal that every turn sustains; the programs are no longer mentioned.
-/

namespace Effects

variable {S : Signature} {σ φ Γ : Type} {α β : Type}

/-- One step of the scheduler: a thread issues its next command, which a fault may hit, or the
state changes by itself. -/
inductive Turn (σ φ : Type) where
  | issue (thread : ℕ) (fault : Option φ)
  | drift (change : σ → σ)

/-- The threads of the schedule, one after another, without faults. -/
def calm (schedule : List ℕ) : List (Turn σ φ) := schedule.map fun i => .issue i none

/-- Programs that share a state. -/
structure Pool (S : Signature) (σ α : Type) where
  state : σ
  threads : List (Program S α)
  journal : List (ℕ × S.Command)

namespace Pool

/-- The command that thread `i` issues next, unless the thread is done. -/
def pending (p : Pool S σ α) (i : ℕ) : Option S.Command :=
  match p.threads[i]? with
  | some (.call command _) => some command
  | _ => none

/-- The result of thread `i`, once it is done. -/
def result? (p : Pool S σ α) (i : ℕ) : Option (Except S.Exn α) :=
  match p.threads[i]? with
  | some (.done r) => some r
  | _ => none

theorem pending_eq_some {p : Pool S σ α} {i : ℕ} {command : S.Command} :
    p.pending i = some command ↔ ∃ next, p.threads[i]? = some (.call command next) := by
  unfold pending
  constructor
  · intro h
    split at h
    · next command' next hget =>
        cases h
        exact ⟨next, hget⟩
    · cases h
  · rintro ⟨next, hget⟩
    rw [hget]

theorem result?_eq_some {p : Pool S σ α} {i : ℕ} {r : Except S.Exn α} :
    p.result? i = some r ↔ p.threads[i]? = some (.done r) := by
  unfold result?
  constructor
  · intro h
    split at h
    · next r' hget =>
        cases h
        exact hget
    · cases h
  · intro hget
    rw [hget]

/-- The thread of the turn issues its next command; a finished thread stays as it is. -/
def step (M : Machine S σ φ) (p : Pool S σ α) : Turn σ φ → Pool S σ α
  | .issue i fault =>
      match p.threads[i]? with
      | some (.call command next) =>
          let out := M.attempt fault command p.state
          { state := out.2
            threads := p.threads.set i (next out.1)
            journal := (i, command) :: p.journal }
      | _ => p
  | .drift change => { p with state := change p.state }

/-- Take the turns of a schedule in order. -/
def run (M : Machine S σ φ) (p : Pool S σ α) (turns : List (Turn σ φ)) : Pool S σ α :=
  turns.foldl (step M) p

@[simp] theorem run_nil (M : Machine S σ φ) (p : Pool S σ α) : p.run M [] = p := rfl

@[simp] theorem run_cons (M : Machine S σ φ) (p : Pool S σ α) (turn : Turn σ φ)
    (turns : List (Turn σ φ)) : p.run M (turn :: turns) = (p.step M turn).run M turns := rfl

theorem run_append (M : Machine S σ φ) (p : Pool S σ α) (turns turns' : List (Turn σ φ)) :
    p.run M (turns ++ turns') = (p.run M turns).run M turns' :=
  List.foldl_append

/-- Every turn satisfies `C` in the pool that it finds. -/
def Within (M : Machine S σ φ) (C : Pool S σ α → Turn σ φ → Prop) :
    Pool S σ α → List (Turn σ φ) → Prop
  | _, [] => True
  | p, turn :: turns => C p turn ∧ Within M C (p.step M turn) turns

instance Within.decidable (M : Machine S σ φ) (C : Pool S σ α → Turn σ φ → Prop)
    [∀ p turn, Decidable (C p turn)] :
    ∀ (p : Pool S σ α) (turns : List (Turn σ φ)), Decidable (Within M C p turns)
  | _, [] => isTrue trivial
  | p, turn :: turns =>
      have := Within.decidable M C (p.step M turn) turns
      inferInstanceAs (Decidable (_ ∧ Within M C (p.step M turn) turns))

theorem Within.append {M : Machine S σ φ} {C : Pool S σ α → Turn σ φ → Prop} {p : Pool S σ α}
    {turns turns' : List (Turn σ φ)} (h : Within M C p (turns ++ turns')) :
    Within M C p turns ∧ Within M C (p.run M turns) turns' := by
  induction turns generalizing p with
  | nil => exact ⟨trivial, h⟩
  | cons turn turns ih => exact ⟨⟨h.1, (ih h.2).1⟩, (ih h.2).2⟩

theorem within_of_forall {M : Machine S σ φ} {C : Pool S σ α → Turn σ φ → Prop}
    {turns : List (Turn σ φ)} (h : ∀ turn ∈ turns, ∀ p, C p turn) (p : Pool S σ α) :
    Within M C p turns := by
  induction turns generalizing p with
  | nil => trivial
  | cons turn turns ih =>
      exact ⟨h turn List.mem_cons_self p, ih (fun t ht => h t (List.mem_cons_of_mem _ ht)) _⟩

/-- Staying within `C` is a matter of every single turn. -/
theorem within_iff {M : Machine S σ φ} {C : Pool S σ α → Turn σ φ → Prop} {p : Pool S σ α}
    {turns : List (Turn σ φ)} : Within M C p turns ↔
      ∀ before turn after, turns = before ++ turn :: after → C (p.run M before) turn := by
  induction turns generalizing p with
  | nil => exact ⟨fun _ _ _ _ h => by simp at h, fun _ => trivial⟩
  | cons turn turns ih =>
      constructor
      · intro h before turn' after heq
        cases before with
        | nil =>
            cases heq
            exact h.1
        | cons turn'' before =>
            cases heq
            exact ih.mp h.2 before turn' after rfl
      · intro h
        refine ⟨h [] turn turns rfl, ih.mpr fun before turn' after heq => ?_⟩
        exact h (turn :: before) turn' after (by rw [heq, List.cons_append])

/-- A turn of a thread changes nothing, or it issues the pending command. -/
theorem step_issue_cases (M : Machine S σ φ) (p : Pool S σ α) (i : ℕ) (fault : Option φ) :
    p.step M (.issue i fault) = p ∨
      ∃ command next, p.threads[i]? = some (.call command next) ∧
        p.step M (.issue i fault) =
          { state := (M.attempt fault command p.state).2
            threads := p.threads.set i (next (M.attempt fault command p.state).1)
            journal := (i, command) :: p.journal } := by
  simp only [step]
  split
  · next command next hget => exact .inr ⟨command, next, hget, rfl⟩
  · exact .inl rfl

/-- The journal only grows. -/
theorem journal_suffix_run (M : Machine S σ φ) (p : Pool S σ α) (turns : List (Turn σ φ)) :
    p.journal <:+ (p.run M turns).journal := by
  induction turns generalizing p with
  | nil => exact List.suffix_rfl
  | cons turn turns ih =>
      refine List.IsSuffix.trans ?_ (ih (p.step M turn))
      cases turn with
      | issue i fault =>
          rcases step_issue_cases M p i fault with hidle | ⟨command, next, -, hstep⟩
          · exact ⟨[], (congrArg Pool.journal hidle).symm⟩
          · exact ⟨[_], (congrArg Pool.journal hstep).symm⟩
      | drift change => exact List.suffix_rfl

/-- A thread that takes all the turns runs as it would alone. -/
theorem run_alone (M : Machine S σ φ) {program : Program S α} {p : Pool S σ α} {i : ℕ}
    (hi : p.threads[i]? = some program) (faults : List (Option φ)) :
    ∃ faults' : List (Option φ),
      (p.run M (faults'.map (.issue i))).state = (program.run M faults p.state).2 ∧
      (p.run M (faults'.map (.issue i))).threads =
        p.threads.set i (.done (program.run M faults p.state).1) := by
  obtain ⟨hlt, hget⟩ := List.getElem?_eq_some_iff.mp hi
  induction program generalizing faults p with
  | done r =>
      refine ⟨[], rfl, ?_⟩
      change p.threads = p.threads.set i (.done r)
      rw [← hget, List.set_getElem_self]
  | call command next ih =>
      have hstep : p.step M (.issue i faults.head?.join) =
          { state := (M.attempt faults.head?.join command p.state).2
            threads := p.threads.set i (next (M.attempt faults.head?.join command p.state).1)
            journal := (i, command) :: p.journal } := by
        simp only [step, hi]
      have hself := List.getElem?_set_self hlt
        (a := next (M.attempt faults.head?.join command p.state).1)
      obtain ⟨faults', hstate, hthreads⟩ := ih (M.attempt faults.head?.join command p.state).1
        (p := p.step M (.issue i faults.head?.join)) (by rw [hstep]; exact hself) faults.tail
        (by rw [hstep]; simpa using hlt) (by simp [hstep])
      refine ⟨faults.head?.join :: faults', ?_, ?_⟩
      · rw [List.map_cons, run_cons, hstate, hstep]
        rfl
      · rw [List.map_cons, run_cons, hthreads, hstep, List.set_set]
        rfl

/-- An invariant of pools that every turn within `C` preserves holds after every run within
`C`. -/
theorem run_induction {M : Machine S σ φ} {C : Pool S σ α → Turn σ φ → Prop}
    {I : Pool S σ α → Prop} (hstep : ∀ p turn, I p → C p turn → I (p.step M turn))
    {p : Pool S σ α} (hp : I p) {turns : List (Turn σ φ)} (hC : Within M C p turns) :
    I (p.run M turns) := by
  induction turns generalizing p with
  | nil => exact hp
  | cons turn turns ih => exact ih (hstep p turn hp hC.1) hC.2

section Issues

variable {M : Machine S σ φ} {P : S.Command → Prop} {I : σ → Prop} {p : Pool S σ α}

theorem step_of_issues (hp : ∀ program ∈ p.threads, program.Issues P)
    (hact : ∀ c s, P c → I s → I (M.act c s).2) (hs : I p.state) {turn : Turn σ φ}
    (hdrift : ∀ change, turn = .drift change → ∀ s, I s → I (change s)) :
    (∀ program ∈ (p.step M turn).threads, program.Issues P) ∧ I (p.step M turn).state := by
  cases turn with
  | drift change => exact ⟨hp, hdrift change rfl _ hs⟩
  | issue i fault =>
      rcases step_issue_cases M p i fault with hidle | ⟨command, next, hi, hstep⟩
      · rw [hidle]
        exact ⟨hp, hs⟩
      · have hissues : (Program.call command next).Issues P := hp _ (List.mem_of_getElem? hi)
        rw [hstep]
        refine ⟨fun program hmem => ?_, ?_⟩
        · rcases List.mem_or_eq_of_mem_set hmem with hmem | rfl
          · exact hp program hmem
          · exact hissues.2 _
        · rcases M.attempt_cases fault command p.state with hacts | ⟨_, _, e, -, hfail⟩
          · rw [hacts]
            exact hact _ _ hissues.1 hs
          · rw [hfail]
            exact hs

/-- A state property that no command of the threads breaks survives every run. -/
theorem run_of_issues (hp : ∀ program ∈ p.threads, program.Issues P)
    (hact : ∀ c s, P c → I s → I (M.act c s).2) (hs : I p.state) {turns : List (Turn σ φ)}
    (hdrift : ∀ change, .drift change ∈ turns → ∀ s, I s → I (change s)) :
    I (p.run M turns).state := by
  induction turns generalizing p with
  | nil => exact hs
  | cons turn turns ih =>
      obtain ⟨hthreads, hstate⟩ := step_of_issues hp hact hs fun change hturn =>
        hdrift change (hturn ▸ List.mem_cons_self)
      exact ih hthreads hstate fun change hmem => hdrift change (List.mem_cons_of_mem _ hmem)

/-- What a thread may issue stays so. -/
theorem issues_run {i : ℕ} (hp : ∀ program ∈ p.threads[i]?, program.Issues P)
    (turns : List (Turn σ φ)) : ∀ program ∈ (p.run M turns).threads[i]?, program.Issues P := by
  induction turns generalizing p with
  | nil => exact hp
  | cons turn turns ih =>
      refine ih fun program hi => ?_
      cases turn with
      | drift change => exact hp program hi
      | issue j fault =>
          rcases step_issue_cases M p j fault with hidle | ⟨command, next, hget, hstep⟩
          · exact hp program (hidle ▸ hi)
          · rw [hstep] at hi
            by_cases hij : j = i
            · subst hij
              rw [List.getElem?_set_self (List.getElem?_eq_some_iff.mp hget).1] at hi
              cases hi
              exact (hp _ hget).2 _
            · exact hp program ((List.getElem?_set_ne hij).symm.trans hi)

end Issues

end Pool

/-! ## Watching one thread -/

/-- A monitor derives a value from the replies that a thread has seen, and says which commands
the thread may issue next.  `replies` restricts attention to replies that can occur. -/
structure Monitor (S : Signature) (Γ : Type) where
  may : Γ → S.Command → Prop
  replies : Γ → (command : S.Command) → Except S.Exn (S.Reply command) → Prop
  after : Γ → (command : S.Command) → Except S.Exn (S.Reply command) → Γ

namespace Program

/-- From `γ` on, the program only issues permitted commands, and it ends within `Q`. -/
def Obeys (W : Monitor S Γ) : Program S α → (Except S.Exn α → Γ → Prop) → Γ → Prop
  | .done r, Q, γ => Q r γ
  | .call command next, Q, γ =>
      W.may γ command ∧
        ∀ reply, W.replies γ command reply → (next reply).Obeys W Q (W.after γ command reply)

variable {W : Monitor S Γ}

@[simp] theorem obeys_done {Q : Except S.Exn α → Γ → Prop} {r : Except S.Exn α} {γ : Γ} :
    (Program.done r).Obeys W Q γ ↔ Q r γ := Iff.rfl

theorem obeys_call {Q : Except S.Exn α → Γ → Prop} {command : S.Command}
    {next : Except S.Exn (S.Reply command) → Program S α} {γ : Γ} :
    (Program.call command next).Obeys W Q γ ↔
      W.may γ command ∧ ∀ reply, W.replies γ command reply →
        (next reply).Obeys W Q (W.after γ command reply) := Iff.rfl

theorem obeys_perform {command : S.Command} {Q : Except S.Exn (S.Reply command) → Γ → Prop}
    {γ : Γ} :
    (perform command).Obeys W Q γ ↔
      W.may γ command ∧ ∀ reply, W.replies γ command reply →
        Q reply (W.after γ command reply) := Iff.rfl

theorem obeys_mono {p : Program S α} {Q Q' : Except S.Exn α → Γ → Prop} {γ : Γ}
    (h : p.Obeys W Q γ) (hQ : ∀ r γ', Q r γ' → Q' r γ') : p.Obeys W Q' γ := by
  induction p generalizing γ with
  | done r => exact hQ r γ h
  | call command next ih => exact ⟨h.1, fun reply hr => ih reply (h.2 reply hr)⟩

theorem obeys_bind {p : Program S α} {f : α → Program S β} {Q : Except S.Exn β → Γ → Prop}
    {γ : Γ} :
    (p >>= f).Obeys W Q γ ↔
      p.Obeys W (fun r γ' => match r with
        | .ok a => (f a).Obeys W Q γ'
        | .error e => Q (.error e) γ') γ := by
  induction p generalizing γ with
  | done r => cases r <;> exact Iff.rfl
  | call command next ih =>
      rw [call_bind, obeys_call, obeys_call]
      simp only [ih]

theorem obeys_tryCatch {p : Program S α} {handler : S.Exn → Program S α}
    {Q : Except S.Exn α → Γ → Prop} {γ : Γ} :
    (tryCatch p handler).Obeys W Q γ ↔
      p.Obeys W (fun r γ' => match r with
        | .ok a => Q (.ok a) γ'
        | .error e => (handler e).Obeys W Q γ') γ := by
  induction p generalizing γ with
  | done r => cases r <;> exact Iff.rfl
  | call command next ih =>
      rw [call_tryCatch, obeys_call, obeys_call]
      simp only [ih]

end Program

/-! ## Watching all of them -/

namespace Pool

variable {M : Machine S σ φ} {W : Monitor S Γ} {C : Pool S σ α → Turn σ φ → Prop}
  {Q : Except S.Exn α → Γ → Prop} {I : List Γ → σ → List (ℕ × S.Command) → Prop}

/-- The watched values `γs` fit the threads, and they satisfy `I` with state and journal. -/
structure Watched (W : Monitor S Γ) (Q : Except S.Exn α → Γ → Prop)
    (I : List Γ → σ → List (ℕ × S.Command) → Prop) (p : Pool S σ α) (γs : List Γ) : Prop where
  obeys : List.Forall₂ (fun program γ => program.Obeys W Q γ) p.threads γs
  holds : I γs p.state p.journal

theorem Watched.getElem? {p : Pool S σ α} {γs : List Γ} (h : Watched W Q I p γs) {i : ℕ}
    {program : Program S α} (hi : p.threads[i]? = some program) :
    ∃ γ, γs[i]? = some γ ∧ program.Obeys W Q γ := by
  obtain ⟨hlt, hget⟩ := List.getElem?_eq_some_iff.mp hi
  have hlt' : i < γs.length := h.obeys.length_eq ▸ hlt
  have hobeys := h.obeys.get hlt hlt'
  refine ⟨γs[i], List.getElem?_eq_getElem hlt', ?_⟩
  simpa [hget] using hobeys

theorem Watched.thread {p : Pool S σ α} {γs : List Γ} (h : Watched W Q I p γs) {i : ℕ} {γ : Γ}
    (hi : γs[i]? = some γ) : ∃ program, p.threads[i]? = some program ∧ program.Obeys W Q γ := by
  obtain ⟨hlt, hget⟩ := List.getElem?_eq_some_iff.mp hi
  have hlt' : i < p.threads.length := h.obeys.length_eq ▸ hlt
  have hobeys := h.obeys.get hlt' hlt
  refine ⟨p.threads[i], List.getElem?_eq_getElem hlt', ?_⟩
  simpa [hget] using hobeys

/-- The monitor's verdict on a thread that is done. -/
theorem Watched.returned {p : Pool S σ α} {γs : List Γ} (h : Watched W Q I p γs) {i : ℕ}
    {r : Except S.Exn α} (hi : p.result? i = some r) : ∃ γ, γs[i]? = some γ ∧ Q r γ :=
  h.getElem? (result?_eq_some.mp hi)

theorem forall₂_set {R : α → β → Prop} {l : List α} {l' : List β} (h : List.Forall₂ R l l')
    (i : ℕ) {a : α} {b : β} (hab : R a b) : List.Forall₂ R (l.set i a) (l'.set i b) := by
  induction h generalizing i with
  | nil => simp
  | cons hab' _ ih =>
      cases i with
      | zero => exact .cons hab (by assumption)
      | succ i => exact .cons hab' (ih i)

/-- A quantity that every watched value contributes to, after one value has changed. -/
theorem sum_map_set (f : Γ → ℕ) {γs : List Γ} {i : ℕ} {γ : Γ} (hi : γs[i]? = some γ) (γ' : Γ) :
    ((γs.set i γ').map f).sum + f γ = (γs.map f).sum + f γ' := by
  induction γs generalizing i with
  | nil => cases hi
  | cons γ₀ γs ih =>
      cases i with
      | zero =>
          cases hi
          simp only [List.set_cons_zero, List.map_cons, List.sum_cons]
          omega
      | succ i =>
          have := ih hi
          simp only [List.set_cons_succ, List.map_cons, List.sum_cons]
          omega

/-- What a turn must do to keep the invariant: if the monitor lets a thread issue its pending
command, the reply is one that the monitor knows and the invariant holds afterwards. -/
def Sustains (M : Machine S σ φ) (W : Monitor S Γ)
    (I : List Γ → σ → List (ℕ × S.Command) → Prop) (p : Pool S σ α) (γs : List Γ) :
    Turn σ φ → Prop
  | .issue i fault => ∀ γ c, γs[i]? = some γ → p.pending i = some c → W.may γ c →
      W.replies γ c (M.attempt fault c p.state).1 ∧
        I (γs.set i (W.after γ c (M.attempt fault c p.state).1))
          (M.attempt fault c p.state).2 ((i, c) :: p.journal)
  | .drift change => I γs (change p.state) p.journal

theorem Watched.step {p : Pool S σ α} {γs : List Γ} (h : Watched W Q I p γs) {turn : Turn σ φ}
    (hturn : Sustains M W I p γs turn) : ∃ γs', Watched W Q I (p.step M turn) γs' := by
  cases turn with
  | issue i fault =>
      rcases step_issue_cases M p i fault with hidle | ⟨command, next, hget, hstep⟩
      · exact ⟨γs, by rw [hidle]; exact h⟩
      · obtain ⟨γ, hγ, hmay, hobeys⟩ := h.getElem? hget
        obtain ⟨hreply, hI⟩ := hturn γ command hγ (pending_eq_some.mpr ⟨next, hget⟩) hmay
        rw [hstep]
        exact ⟨_, forall₂_set h.obeys i (hobeys _ hreply), hI⟩
  | drift change => exact ⟨γs, h.obeys, hturn⟩

/-- The watch is kept in every run within `C`. -/
theorem run_watched
    (hturn : ∀ (p : Pool S σ α) γs turn, I γs p.state p.journal → C p turn →
      Sustains M W I p γs turn)
    {p : Pool S σ α} {γs : List Γ} (h : Watched W Q I p γs) {turns : List (Turn σ φ)}
    (hC : Within M C p turns) : ∃ γs', Watched W Q I (p.run M turns) γs' :=
  run_induction (I := fun p => ∃ γs, Watched W Q I p γs)
    (fun p turn ⟨γs, h⟩ hC => h.step (hturn p γs turn h.holds hC)) ⟨γs, h⟩ hC

/-- The watch is kept in a run without faults. -/
theorem run_watched_calm
    (hturn : ∀ (p : Pool S σ α) γs i, I γs p.state p.journal → C p (.issue i none) →
      Sustains M W I p γs (.issue i none))
    {p : Pool S σ α} {γs : List Γ} (h : Watched W Q I p γs) {schedule : List ℕ}
    (hC : Within M C p (calm schedule)) : ∃ γs', Watched W Q I (p.run M (calm schedule)) γs' := by
  induction schedule generalizing p γs with
  | nil => exact ⟨γs, h⟩
  | cons i schedule ih =>
      obtain ⟨γs', h'⟩ := h.step (hturn p γs i h.holds hC.1)
      exact ih h' hC.2

end Pool

end Effects
