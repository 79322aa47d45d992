import RagFileUploader.Effects.Interleaving

/-!
# Two programs in step

Whether two runs look the same to some of their threads, although the other threads differ.  A `Tie`
says which two commands count as the same and which two replies may be told apart; both may depend
on what the two runs have agreed on so far, a value that only grows.  Two programs are `InStep` if
they issue the same commands as long as they get the same replies.

`Pool.view` is what a run shows of the threads in view.  `Pool.paired_run` takes two pools whose
threads in view are in step: if the threads out of view leave the tied part of the states alone, and
the same command does the same to it, then two runs with the same view end in step.
-/

namespace Effects

variable {S : Signature} {Γ α β α' β' : Type} [Preorder Γ]

/-- The same commands, and the replies to them that are not told apart. -/
structure Tie (S : Signature) (Γ : Type) [Preorder Γ] where
  same : Γ → S.Command → S.Command → Prop
  replies : Γ → (c c' : S.Command) → Except S.Exn (S.Reply c) → Except S.Exn (S.Reply c') → Prop
  same_mono : ∀ {γ γ' c c'}, γ ≤ γ' → same γ c c' → same γ' c c'

namespace Program

/-- The programs issue the same commands as long as they get the same replies, and end within
`Q`. -/
def InStep (T : Tie S Γ) (Q : Γ → Except S.Exn α → Except S.Exn β → Prop) :
    Program S α → Program S β → Γ → Prop
  | .done r, .done r', γ => Q γ r r'
  | .call c next, .call c' next', γ =>
      T.same γ c c' ∧ ∀ γ', γ ≤ γ' → ∀ r r', T.replies γ' c c' r r' →
        (next r).InStep T Q (next' r') γ'
  | _, _, _ => False

variable {T : Tie S Γ} {γ γ' : Γ} {Q : Γ → Except S.Exn α → Except S.Exn β → Prop}

theorem inStep_call {c c' : S.Command} {next : Except S.Exn (S.Reply c) → Program S α}
    {next' : Except S.Exn (S.Reply c') → Program S β} :
    (Program.call c next).InStep T Q (.call c' next') γ ↔
      T.same γ c c' ∧ ∀ γ', γ ≤ γ' → ∀ r r', T.replies γ' c c' r r' →
        (next r).InStep T Q (next' r') γ' := Iff.rfl

theorem inStep_perform {c c' : S.Command}
    {Q : Γ → Except S.Exn (S.Reply c) → Except S.Exn (S.Reply c') → Prop} :
    (perform c).InStep T Q (perform c') γ ↔
      T.same γ c c' ∧ ∀ γ', γ ≤ γ' → ∀ r r', T.replies γ' c c' r r' → Q γ' r r' := Iff.rfl

/-- Induction over two programs in step. -/
theorem InStep.induction_on {motive : Program S α → Program S β → Γ → Prop} {p : Program S α}
    {p' : Program S β} (h : p.InStep T Q p' γ)
    (done : ∀ γ r r', Q γ r r' → motive (.done r) (.done r') γ)
    (call : ∀ c c' next next' γ, T.same γ c c' →
      (∀ γ', γ ≤ γ' → ∀ r r', T.replies γ' c c' r r' → motive (next r) (next' r') γ') →
        motive (.call c next) (.call c' next') γ) : motive p p' γ := by
  induction p generalizing p' γ with
  | done r =>
      cases p' with
      | done r' => exact done γ r r' h
      | call c' next' => exact h.elim
  | call c next ih =>
      cases p' with
      | done r' => exact h.elim
      | call c' next' =>
          exact call c c' next next' γ h.1 fun γ' hle r r' hr => ih r (h.2 γ' hle r r' hr)

theorem InStep.mono {Q' : Γ → Except S.Exn α → Except S.Exn β → Prop} {p : Program S α}
    {p' : Program S β} (h : p.InStep T Q p' γ) (hQ : ∀ γ r r', Q γ r r' → Q' γ r r') :
    p.InStep T Q' p' γ :=
  h.induction_on hQ fun _ _ _ _ _ hsame ih => ⟨hsame, ih⟩

/-- What has been agreed on at the end was agreed on later than at the beginning. -/
theorem InStep.and_le {p : Program S α} {p' : Program S β} {γ₀ : Γ} (h : p.InStep T Q p' γ)
    (hle : γ₀ ≤ γ) : p.InStep T (fun γ' r r' => γ₀ ≤ γ' ∧ Q γ' r r') p' γ :=
  h.induction_on (motive := fun p p' γ => γ₀ ≤ γ →
      p.InStep T (fun γ' r r' => γ₀ ≤ γ' ∧ Q γ' r r') p' γ)
    (fun _ _ _ hr hle => ⟨hle, hr⟩)
    (fun _ _ _ _ _ hsame ih hle =>
      ⟨hsame, fun γ' hle' r r' hr => ih γ' hle' r r' hr (hle.trans hle')⟩) hle

/-- What has been agreed on stays so. -/
theorem InStep.of_le {p : Program S α} {p' : Program S β} (h : p.InStep T Q p' γ)
    (hQ : ∀ γ γ' r r', γ ≤ γ' → Q γ r r' → Q γ' r r') (hle : γ ≤ γ') : p.InStep T Q p' γ' := by
  cases p with
  | done r =>
      cases p' with
      | done r' => exact hQ γ γ' r r' hle h
      | call c' next' => exact h
  | call c next =>
      cases p' with
      | done r' => exact h
      | call c' next' =>
          exact ⟨T.same_mono hle h.1, fun γ'' hle' => h.2 γ'' (hle.trans hle')⟩

/-- How the second parts go on after the first ones. -/
def Follow (Q : Γ → Except S.Exn α' → Except S.Exn β' → Prop)
    (R : α → β → Γ → Prop) (γ : Γ) : Except S.Exn α → Except S.Exn β → Prop
  | .ok a, .ok b => R a b γ
  | .error e, .error e' => Q γ (.error e) (.error e')
  | _, _ => False

theorem InStep.bind {Q : Γ → Except S.Exn α' → Except S.Exn β' → Prop} {p : Program S α}
    {p' : Program S β} {f : α → Program S α'} {f' : β → Program S β'}
    (h : p.InStep T (Follow Q fun a b => (f a).InStep T Q (f' b)) p' γ) :
    (p >>= f).InStep T Q (p' >>= f') γ := by
  refine h.induction_on (motive := fun p p' γ => (p >>= f).InStep T Q (p' >>= f') γ)
    (fun γ r r' hr => ?_) fun _ _ _ _ _ hsame ih => ⟨hsame, ih⟩
  cases r <;> cases r' <;> first | exact hr | exact hr.elim

/-- How the handlers go on after what they handle. -/
def Handle (Q : Γ → Except S.Exn α → Except S.Exn β → Prop)
    (R : S.Exn → S.Exn → Γ → Prop) (γ : Γ) : Except S.Exn α → Except S.Exn β → Prop
  | .ok a, .ok b => Q γ (.ok a) (.ok b)
  | .error e, .error e' => R e e' γ
  | _, _ => False

theorem InStep.tryCatch {p : Program S α} {p' : Program S β} {f : S.Exn → Program S α}
    {f' : S.Exn → Program S β}
    (h : p.InStep T (Handle Q fun e e' => (f e).InStep T Q (f' e')) p' γ) :
    (tryCatch p f).InStep T Q (tryCatch p' f') γ := by
  refine h.induction_on (motive := fun p p' γ => (MonadExcept.tryCatch p f).InStep T Q
    (MonadExcept.tryCatch p' f') γ) (fun γ r r' hr => ?_) fun _ _ _ _ _ hsame ih => ⟨hsame, ih⟩
  cases r <;> cases r' <;> first | exact hr | exact hr.elim

/-! ## Programs that do the same -/

/-- The programs do the same, and end with the same result. -/
abbrev Matches (T : Tie S Γ) (p p' : Program S α) (γ : Γ) : Prop :=
  p.InStep T (fun _ r r' => r = r') p' γ

theorem Matches.of_le {p p' : Program S α} (h : Matches T p p' γ) (hle : γ ≤ γ') :
    Matches T p p' γ' :=
  InStep.of_le h (fun _ _ _ _ _ hr => hr) hle

/-- If all commands are the same as themselves and only equal replies are not told apart. -/
theorem matches_of_issues {P : S.Command → Prop} {p : Program S α} (hp : p.Issues P)
    (hsame : ∀ γ c, P c → T.same γ c c)
    (hreplies : ∀ γ c r r', P c → T.replies γ c c r r' → r = r') : Matches T p p γ := by
  induction p generalizing γ with
  | done r => rfl
  | call c next ih =>
      refine ⟨hsame γ c hp.1, fun γ' _ r r' hr => ?_⟩
      obtain rfl := hreplies γ' c r r' hp.1 hr
      exact ih r (hp.2 r)

theorem Matches.bind {p p' : Program S α} {f f' : α → Program S β} (hp : Matches T p p' γ)
    (hf : ∀ a γ', γ ≤ γ' → Matches T (f a) (f' a) γ') : Matches T (p >>= f) (p' >>= f') γ := by
  refine InStep.bind ((hp.and_le le_rfl).mono fun γ' r r' ⟨hle, hr⟩ => ?_)
  subst hr
  cases r with
  | ok a => exact hf a γ' hle
  | error e => rfl

theorem Matches.tryCatch {p p' : Program S α} {f f' : S.Exn → Program S α}
    (hp : Matches T p p' γ) (hf : ∀ e γ', γ ≤ γ' → Matches T (f e) (f' e) γ') :
    Matches T (MonadExcept.tryCatch p f) (MonadExcept.tryCatch p' f') γ := by
  refine InStep.tryCatch ((hp.and_le le_rfl).mono fun γ' r r' ⟨hle, hr⟩ => ?_)
  subst hr
  cases r with
  | ok a => rfl
  | error e => exact hf e γ' hle

theorem Matches.map {p p' : Program S α} {f : α → β} (hp : Matches T p p' γ) :
    Matches T (f <$> p) (f <$> p') γ := by
  rw [map_eq_pure_bind, map_eq_pure_bind]
  exact hp.bind fun _ _ _ => rfl

end Program

/-! ## Two pools -/

namespace Pool

variable {σ σ' φ O : Type} {M : Machine S σ φ} {M' : Machine S σ' φ}

section View

variable (inView : ℕ → Prop) [DecidablePred inView] (see : σ → S.Command → O)

/-- What a turn shows of the threads in view: which of them issues a command, the fault that it
meets, and what `see` makes of the command and the state that it finds. -/
def beat? (p : Pool S σ α) : Turn σ φ → Option (ℕ × Option φ × O)
  | .issue i fault =>
      if inView i then (p.pending i).map fun c => (i, fault, see p.state c) else none
  | .drift _ => none

/-- What a run shows of them. -/
def view (M : Machine S σ φ) : Pool S σ α → List (Turn σ φ) → List (ℕ × Option φ × O)
  | _, [] => []
  | p, turn :: turns => (p.beat? inView see turn).toList ++ view M (p.step M turn) turns

variable {inView see} {p : Pool S σ α} {turn : Turn σ φ} {turns : List (Turn σ φ)}

/-- A turn that shows nothing leaves the threads in view alone. -/
theorem getElem?_threads_of_hidden (h : p.beat? inView see turn = none) {i : ℕ} (hi : inView i) :
    (p.step M turn).threads[i]? = p.threads[i]? := by
  cases turn with
  | drift change => rfl
  | issue j fault =>
      rcases step_issue_cases M p j fault with hidle | ⟨c, next, hget, hstep⟩
      · rw [hidle]
      · have hne : j ≠ i := by
          rintro rfl
          rw [beat?, if_pos hi, pending_eq_some.mpr ⟨next, hget⟩] at h
          cases h
        rw [hstep]
        exact List.getElem?_set_ne hne

/-- A turn that shows something issues a command of a thread in view. -/
theorem beat?_eq_some {beat : ℕ × Option φ × O} (h : p.beat? inView see turn = some beat) :
    ∃ i fault c next, turn = .issue i fault ∧ inView i ∧ p.threads[i]? = some (.call c next) ∧
      beat = (i, fault, see p.state c) := by
  cases turn with
  | drift change => cases h
  | issue i fault =>
      rw [beat?] at h
      split at h
      · next hi =>
          obtain ⟨c, hpending, rfl⟩ := Option.map_eq_some_iff.mp h
          obtain ⟨next, hget⟩ := pending_eq_some.mp hpending
          exact ⟨i, fault, c, next, rfl, hi, hget, rfl⟩
      · cases h

/-- The first thing that a run shows. -/
theorem view_eq_cons {beat : ℕ × Option φ × O} {beats : List (ℕ × Option φ × O)}
    (h : view inView see M p turns = beat :: beats) :
    ∃ before turn after, turns = before ++ turn :: after ∧ view inView see M p before = [] ∧
      (p.run M before).beat? inView see turn = some beat ∧
        view inView see M ((p.run M before).step M turn) after = beats := by
  induction turns generalizing p with
  | nil => cases h
  | cons turn turns ih =>
      rw [view] at h
      cases hbeat : p.beat? inView see turn with
      | none =>
          rw [hbeat] at h
          obtain ⟨before, turn', after, rfl, hbefore, hturn, hafter⟩ := ih h
          refine ⟨turn :: before, turn', after, rfl, ?_, hturn, hafter⟩
          rw [view, hbeat, hbefore]
          rfl
      | some beat' =>
          rw [hbeat] at h
          obtain ⟨rfl, hrest⟩ := List.cons.inj h
          exact ⟨[], turn, turns, rfl, rfl, hbeat, hrest⟩

end View

/-- The threads in view are in step, and the states are tied. -/
structure Paired (T : Tie S Γ) (inView : ℕ → Prop) (I : Γ → σ → σ' → Prop) (p : Pool S σ α)
    (p' : Pool S σ' α) (γ : Γ) : Prop where
  threads : ∀ i, inView i → Option.Rel
    (fun program program' => Program.Matches T program program' γ) p.threads[i]? p'.threads[i]?
  tied : I γ p.state p'.state

variable {inView : ℕ → Prop} [DecidablePred inView] {see : σ → S.Command → O}
  {see' : σ' → S.Command → O} {I : Γ → σ → σ' → Prop} {J : Pool S σ α → List (Turn σ φ) → Prop}
  {J' : Pool S σ' α → List (Turn σ' φ) → Prop} {T : Tie S Γ}

/-- What makes two runs with the same view end in step.  Each of them has an invariant of its own,
of the pool and the turns to come; a turn that shows nothing keeps the states tied; and a command
in view, once it is issued in both, does the same to what is tied and gets the same reply. -/
structure Pairing (T : Tie S Γ) (M : Machine S σ φ) (M' : Machine S σ' φ) (inView : ℕ → Prop)
    [DecidablePred inView] (see : σ → S.Command → O) (see' : σ' → S.Command → O)
    (I : Γ → σ → σ' → Prop) (J : Pool S σ α → List (Turn σ φ) → Prop)
    (J' : Pool S σ' α → List (Turn σ' φ) → Prop) : Prop where
  step : ∀ {p turn turns}, J p (turn :: turns) → J (p.step M turn) turns
  step' : ∀ {p turn turns}, J' p (turn :: turns) → J' (p.step M' turn) turns
  hidden : ∀ {p turn turns γ s'}, J p (turn :: turns) → p.beat? inView see turn = none →
    I γ p.state s' → I γ (p.step M turn).state s'
  hidden' : ∀ {p turn turns γ s}, J' p (turn :: turns) → p.beat? inView see' turn = none →
    I γ s p.state → I γ s (p.step M' turn).state
  shown : ∀ {p p' i fault turns turns' c c' γ}, J p (.issue i fault :: turns) →
    J' p' (.issue i fault :: turns') → inView i → p.pending i = some c → p'.pending i = some c' →
    T.same γ c c' → see p.state c = see' p'.state c' → I γ p.state p'.state →
      ∃ γ', γ ≤ γ' ∧
        T.replies γ' c c' (M.attempt fault c p.state).1 (M'.attempt fault c' p'.state).1 ∧
        I γ' (M.attempt fault c p.state).2 (M'.attempt fault c' p'.state).2

namespace Paired

variable {p : Pool S σ α} {p' : Pool S σ' α} {γ : Γ} {turn : Turn σ φ} {turns : List (Turn σ φ)}
  {turn' : Turn σ' φ} {turns' : List (Turn σ' φ)}

theorem step_hidden (hP : Pairing T M M' inView see see' I J J') (h : Paired T inView I p p' γ)
    (hJ : J p (turn :: turns)) (hturn : p.beat? inView see turn = none) :
    Paired T inView I (p.step M turn) p' γ := by
  refine ⟨fun i hi => ?_, hP.hidden hJ hturn h.tied⟩
  rw [getElem?_threads_of_hidden hturn hi]
  exact h.threads i hi

theorem step_hidden' (hP : Pairing T M M' inView see see' I J J') (h : Paired T inView I p p' γ)
    (hJ : J' p' (turn' :: turns')) (hturn : p'.beat? inView see' turn' = none) :
    Paired T inView I p (p'.step M' turn') γ := by
  refine ⟨fun i hi => ?_, hP.hidden' hJ hturn h.tied⟩
  rw [getElem?_threads_of_hidden hturn hi]
  exact h.threads i hi

theorem step_shown (hP : Pairing T M M' inView see see' I J J') (h : Paired T inView I p p' γ)
    (hJ : J p (turn :: turns)) (hJ' : J' p' (turn' :: turns')) {beat : ℕ × Option φ × O}
    (hturn : p.beat? inView see turn = some beat)
    (hturn' : p'.beat? inView see' turn' = some beat) :
    ∃ γ', Paired T inView I (p.step M turn) (p'.step M' turn') γ' := by
  obtain ⟨i, fault, c, next, rfl, hi, hget, rfl⟩ := beat?_eq_some hturn
  obtain ⟨_, _, c', next', rfl, -, hget', heq⟩ := beat?_eq_some hturn'
  simp only [Prod.mk.injEq] at heq
  obtain ⟨rfl, rfl, hsee⟩ := heq
  have hstep : Program.Matches T (.call c next) (.call c' next') γ := by
    have hthread := h.threads i hi
    rw [hget, hget'] at hthread
    cases hthread with
    | some hstep => exact hstep
  obtain ⟨γ', hle, hreplies, htied⟩ := hP.shown hJ hJ' hi (pending_eq_some.mpr ⟨next, hget⟩)
    (pending_eq_some.mpr ⟨next', hget'⟩) hstep.1 hsee h.tied
  refine ⟨γ', fun j hj => ?_, ?_⟩
  · simp only [step, hget, hget']
    by_cases hji : i = j
    · subst hji
      rw [List.getElem?_set_self (List.getElem?_eq_some_iff.mp hget).1,
        List.getElem?_set_self (List.getElem?_eq_some_iff.mp hget').1]
      exact .some (hstep.2 γ' hle _ _ hreplies)
    · rw [List.getElem?_set_ne hji, List.getElem?_set_ne hji]
      have hthread := h.threads j hj
      revert hthread
      generalize p.threads[j]? = program
      generalize p'.threads[j]? = program'
      rintro (hthread | _)
      · exact .some (Program.Matches.of_le hthread hle)
      · exact .none
  · simp only [step, hget, hget']
    exact htied

theorem run_hidden' (hP : Pairing T M M' inView see see' I J J') (h : Paired T inView I p p' γ)
    {after : List (Turn σ' φ)} (hJ : J' p' (turns' ++ after))
    (hturns : view inView see' M' p' turns' = []) :
    Paired T inView I p (p'.run M' turns') γ ∧ J' (p'.run M' turns') after := by
  induction turns' generalizing p' with
  | nil => exact ⟨h, hJ⟩
  | cons turn' turns' ih =>
      rw [view, List.append_eq_nil_iff, Option.toList_eq_nil_iff] at hturns
      exact ih (h.step_hidden' hP hJ hturns.1) (hP.step' hJ) hturns.2

/-- Two runs with the same view end in step. -/
theorem run (hP : Pairing T M M' inView see see' I J J') (h : Paired T inView I p p' γ)
    (hJ : J p turns) (hJ' : J' p' turns')
    (hview : view inView see M p turns = view inView see' M' p' turns') :
    ∃ γ', Paired T inView I (p.run M turns) (p'.run M' turns') γ' := by
  induction turns generalizing p p' γ turns' with
  | nil => exact ⟨γ, (h.run_hidden' hP (by rwa [List.append_nil]) hview.symm).1⟩
  | cons turn turns ih =>
      rw [run_cons]
      cases hturn : p.beat? inView see turn with
      | none =>
          rw [view, hturn] at hview
          exact ih (h.step_hidden hP hJ hturn) (hP.step hJ) hJ' hview
      | some beat =>
          rw [view, hturn] at hview
          obtain ⟨before, turn', after, rfl, hbefore, hturn', hafter⟩ := view_eq_cons hview.symm
          obtain ⟨h₁, hJ₁⟩ := h.run_hidden' hP hJ' hbefore
          obtain ⟨γ₁, h₂⟩ := h₁.step_shown hP hJ hJ₁ hturn hturn'
          rw [run_append, run_cons]
          exact ih h₂ (hP.step hJ) (hP.step' hJ₁) hafter.symm

omit [DecidablePred inView] in
/-- A thread in view has the same result in both. -/
theorem result?_eq (h : Paired T inView I p p' γ) {i : ℕ} (hi : inView i) :
    p.result? i = p'.result? i := by
  have hthread := h.threads i hi
  unfold result?
  revert hthread
  generalize p.threads[i]? = thread
  generalize p'.threads[i]? = thread'
  rintro (@⟨program, program', hstep⟩ | _)
  · cases program with
    | done r =>
        cases program' with
        | done r' => exact congrArg some hstep
        | call c' next' => exact hstep.elim
    | call c next =>
        cases program' with
        | done r' => exact hstep.elim
        | call c' next' => rfl
  · rfl

end Paired

end Pool

end Effects
