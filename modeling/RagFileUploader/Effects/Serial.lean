import RagFileUploader.Effects.Program

/-!
# One program, alone on a machine

A `Machine` says what every command does to a state and which faults it may suffer.  A command
hit by a fault raises the fault's exception and leaves the state alone.  `Program.run` plays a
program against a list of faults, one entry a command.

`Program.wp` is the weakest precondition of a program under every fault schedule whose faults
satisfy a predicate: the state must lead to the postcondition whichever commands fail.  The
rules follow the constructors of programs (`wp_bind`, `wp_tryCatch`), and `run_of_wp` turns a
weakest precondition into a statement about runs.
-/

namespace Effects

/-- What the commands of `S` do to a state of type `σ`, and which faults of type `φ` hit them. -/
structure Machine (S : Signature) (σ φ : Type) where
  act : (command : S.Command) → σ → Except S.Exn (S.Reply command) × σ
  fails : φ → S.Command → Option S.Exn

variable {S : Signature} {σ φ : Type} {α β : Type}

/-- One command under an optional fault.  A fault that does not concern the command is idle. -/
def Machine.attempt (M : Machine S σ φ) (fault : Option φ) (command : S.Command) (s : σ) :
    Except S.Exn (S.Reply command) × σ :=
  match fault.bind (M.fails · command) with
  | some e => (.error e, s)
  | none => M.act command s

@[simp] theorem Machine.attempt_none (M : Machine S σ φ) (command : S.Command) (s : σ) :
    M.attempt none command s = M.act command s := rfl

/-- An attempted command acts, or it raises the exception of an admitted fault. -/
theorem Machine.attempt_cases (M : Machine S σ φ) (fault : Option φ) (command : S.Command)
    (s : σ) :
    M.attempt fault command s = M.act command s ∨
      ∃ f ∈ fault, ∃ e, M.fails f command = some e ∧
        M.attempt fault command s = (.error e, s) := by
  unfold Machine.attempt
  cases fault with
  | none => exact .inl rfl
  | some f =>
      cases h : M.fails f command with
      | none => left; simp [h]
      | some e => right; exact ⟨f, rfl, e, h, by simp [h]⟩

namespace Program

/-- Run a program from a state.  The head of the fault list concerns the next command; a
program that outlives its list runs on without faults. -/
def run (M : Machine S σ φ) : Program S α → List (Option φ) → σ → Except S.Exn α × σ
  | .done r, _, s => (r, s)
  | .call command next, faults, s =>
      let out := M.attempt faults.head?.join command s
      (next out.1).run M faults.tail out.2

/-! ## Runs without faults -/

section Calm

variable (M : Machine S σ φ) (s : σ)

@[simp] theorem run_done (r : Except S.Exn α) (faults : List (Option φ)) :
    (Program.done r).run M faults s = (r, s) := rfl

theorem run_calm_call (command : S.Command)
    (next : Except S.Exn (S.Reply command) → Program S α) :
    (Program.call command next).run M [] s =
      (next (M.act command s).1).run M [] (M.act command s).2 := rfl

theorem run_calm_perform (command : S.Command) :
    (perform command).run M [] s = M.act command s := rfl

theorem run_calm_bind (p : Program S α) (f : α → Program S β) :
    (p >>= f).run M [] s = match p.run M [] s with
      | (.ok a, s') => (f a).run M [] s'
      | (.error e, s') => (.error e, s') := by
  induction p generalizing s with
  | done r => cases r <;> rfl
  | call command next ih =>
      rw [call_bind, run_calm_call, run_calm_call]
      exact ih _ _

theorem run_calm_tryCatch (p : Program S α) (handler : S.Exn → Program S α) :
    (tryCatch p handler).run M [] s = match p.run M [] s with
      | (.ok a, s') => (.ok a, s')
      | (.error e, s') => (handler e).run M [] s' := by
  induction p generalizing s with
  | done r => cases r <;> rfl
  | call command next ih =>
      rw [call_tryCatch, run_calm_call, run_calm_call]
      exact ih _ _

theorem run_calm_map (p : Program S α) (f : α → β) :
    (f <$> p).run M [] s = Prod.map (Except.map f) id (p.run M [] s) := by
  rw [map_eq_pure_bind, run_calm_bind]
  generalize p.run M [] s = out
  obtain ⟨r, s'⟩ := out
  cases r <;> rfl

variable {M s} {s' : σ} {p : Program S α} {a : α} {e : S.Exn}

theorem run_calm_bind_ok {f : α → Program S β} (h : p.run M [] s = (.ok a, s')) :
    (p >>= f).run M [] s = (f a).run M [] s' := by
  rw [run_calm_bind, h]

theorem run_calm_bind_error {f : α → Program S β} (h : p.run M [] s = (.error e, s')) :
    (p >>= f).run M [] s = (.error e, s') := by
  rw [run_calm_bind, h]

theorem run_calm_tryCatch_ok {handler : S.Exn → Program S α} (h : p.run M [] s = (.ok a, s')) :
    (tryCatch p handler).run M [] s = (.ok a, s') := by
  rw [run_calm_tryCatch, h]

end Calm

/-- The weakest precondition of `Q` under every schedule of faults that satisfy `F`. -/
def wp (M : Machine S σ φ) (F : φ → Prop) :
    Program S α → (Except S.Exn α → σ → Prop) → σ → Prop
  | .done r, Q, s => Q r s
  | .call command next, Q, s =>
      (next (M.act command s).1).wp M F Q (M.act command s).2 ∧
        ∀ f e, F f → M.fails f command = some e → (next (.error e)).wp M F Q s

variable {M : Machine S σ φ} {F : φ → Prop}

@[simp] theorem wp_done {Q : Except S.Exn α → σ → Prop} {r : Except S.Exn α} {s : σ} :
    (Program.done r).wp M F Q s ↔ Q r s := Iff.rfl

theorem wp_call {Q : Except S.Exn α → σ → Prop} {command : S.Command}
    {next : Except S.Exn (S.Reply command) → Program S α} {s : σ} :
    (Program.call command next).wp M F Q s ↔
      (next (M.act command s).1).wp M F Q (M.act command s).2 ∧
        ∀ f e, F f → M.fails f command = some e → (next (.error e)).wp M F Q s := Iff.rfl

theorem wp_perform {command : S.Command} {Q : Except S.Exn (S.Reply command) → σ → Prop} {s : σ} :
    (perform command).wp M F Q s ↔
      Q (M.act command s).1 (M.act command s).2 ∧
        ∀ f e, F f → M.fails f command = some e → Q (.error e) s := Iff.rfl

theorem wp_mono {p : Program S α} {Q Q' : Except S.Exn α → σ → Prop} {s : σ}
    (h : p.wp M F Q s) (hQ : ∀ r s', Q r s' → Q' r s') : p.wp M F Q' s := by
  induction p generalizing s with
  | done r => exact hQ r s h
  | call command next ih => exact ⟨ih _ h.1, fun f e hf he => ih _ (h.2 f e hf he)⟩

/-- What holds of the run of the first part becomes the precondition of the second. -/
theorem wp_bind {p : Program S α} {f : α → Program S β} {Q : Except S.Exn β → σ → Prop} {s : σ} :
    (p >>= f).wp M F Q s ↔
      p.wp M F (fun r s' => match r with
        | .ok a => (f a).wp M F Q s'
        | .error e => Q (.error e) s') s := by
  induction p generalizing s with
  | done r => cases r <;> exact Iff.rfl
  | call command next ih =>
      rw [call_bind, wp_call, wp_call, ih]
      simp only [ih]

theorem wp_tryCatch {p : Program S α} {handler : S.Exn → Program S α}
    {Q : Except S.Exn α → σ → Prop} {s : σ} :
    (tryCatch p handler).wp M F Q s ↔
      p.wp M F (fun r s' => match r with
        | .ok a => Q (.ok a) s'
        | .error e => (handler e).wp M F Q s') s := by
  induction p generalizing s with
  | done r => cases r <;> exact Iff.rfl
  | call command next ih =>
      rw [call_tryCatch, wp_call, wp_call, ih]
      simp only [ih]

theorem wp_true {p : Program S α} {s : σ} : p.wp M F (fun _ _ => True) s := by
  induction p generalizing s with
  | done r => trivial
  | call command next ih => exact ⟨ih _, fun _ _ _ _ => ih _⟩

/-- A state property that no issued command breaks survives the whole program. -/
theorem Issues.wp {P : S.Command → Prop} {I : σ → Prop} {p : Program S α} {s : σ}
    (hp : p.Issues P) (hact : ∀ c s, P c → I s → I (M.act c s).2) (hs : I s) :
    p.wp M F (fun _ s' => I s') s := by
  induction p generalizing s with
  | done r => exact hs
  | call command next ih =>
      exact ⟨ih _ (hp.2 _) (hact _ _ hp.1 hs), fun _ _ _ _ => ih _ (hp.2 _) hs⟩

/-- A weakest precondition holds of every run whose faults are admitted. -/
theorem run_of_wp {p : Program S α} {Q : Except S.Exn α → σ → Prop} {s : σ}
    (h : p.wp M F Q s) {faults : List (Option φ)} (hF : ∀ f, some f ∈ faults → F f) :
    Q (p.run M faults s).1 (p.run M faults s).2 := by
  induction p generalizing s faults with
  | done r => exact h
  | call command next ih =>
      have htail : ∀ f, some f ∈ faults.tail → F f :=
        fun f hf => hF f (List.mem_of_mem_tail hf)
      rcases M.attempt_cases faults.head?.join command s with hact | ⟨f, hf, e, he, hfail⟩
      · simp only [run, hact]
        exact ih _ h.1 htail
      · have hmem : some f ∈ faults := by
          cases faults with
          | nil => simp at hf
          | cons a l =>
              have : a = some f := by simpa using hf
              simp [this]
        simp only [run, hfail]
        exact ih _ (h.2 f e (hF f hmem) he) htail

theorem run_calm_of_wp {p : Program S α} {Q : Except S.Exn α → σ → Prop} {s : σ}
    (h : p.wp M F Q s) : Q (p.run M [] s).1 (p.run M [] s).2 :=
  run_of_wp h nofun

/-- If no fault is admitted, there is only the run without faults. -/
theorem wp_calm_iff {p : Program S α} {Q : Except S.Exn α → σ → Prop} {s : σ} :
    p.wp M (fun _ => False) Q s ↔ Q (p.run M [] s).1 (p.run M [] s).2 := by
  refine ⟨run_calm_of_wp, fun h => ?_⟩
  induction p generalizing s with
  | done r => exact h
  | call command next ih => exact ⟨ih _ h, fun _ _ hf => hf.elim⟩

/-! ## What holds whenever a command is issued -/

/-- In each state that the program goes through, under every schedule of faults that satisfy `F`,
the state and the command that is issued there satisfy `P`. -/
def Safe (M : Machine S σ φ) (F : φ → Prop) (P : σ → S.Command → Prop) : Program S α → σ → Prop
  | .done _, _ => True
  | .call command next, s =>
      P s command ∧ (next (M.act command s).1).Safe M F P (M.act command s).2 ∧
        ∀ f e, F f → M.fails f command = some e → (next (.error e)).Safe M F P s

/-- The states in which a run issues commands, each with its command. -/
def trace (M : Machine S σ φ) : Program S α → List (Option φ) → σ → List (σ × S.Command)
  | .done _, _, _ => []
  | .call command next, faults, s =>
      (s, command) :: (next (M.attempt faults.head?.join command s).1).trace M faults.tail
        (M.attempt faults.head?.join command s).2

section Safe

variable {P : σ → S.Command → Prop} {s : σ}

@[simp] theorem safe_done {r : Except S.Exn α} : (Program.done r).Safe M F P s := trivial

@[simp] theorem safe_perform {command : S.Command} :
    (perform command).Safe M F P s ↔ P s command :=
  ⟨fun h => h.1, fun h => ⟨h, trivial, fun _ _ _ _ => trivial⟩⟩

theorem Safe.bind {p : Program S α} {f : α → Program S β} (hp : p.Safe M F P s)
    (hf : p.wp M F (fun r s' => match r with
      | .ok a => (f a).Safe M F P s'
      | .error _ => True) s) : (p >>= f).Safe M F P s := by
  induction p generalizing s with
  | done r =>
      cases r with
      | ok a => exact hf
      | error e => trivial
  | call command next ih =>
      exact ⟨hp.1, ih _ hp.2.1 hf.1, fun f' e hF he => ih _ (hp.2.2 f' e hF he) (hf.2 f' e hF he)⟩

theorem Safe.tryCatch {p : Program S α} {handler : S.Exn → Program S α} (hp : p.Safe M F P s)
    (hh : p.wp M F (fun r s' => match r with
      | .ok _ => True
      | .error e => (handler e).Safe M F P s') s) : (tryCatch p handler).Safe M F P s := by
  induction p generalizing s with
  | done r =>
      cases r with
      | ok a => trivial
      | error e => exact hh
  | call command next ih =>
      exact ⟨hp.1, ih _ hp.2.1 hh.1, fun f' e hF he => ih _ (hp.2.2 f' e hF he) (hh.2 f' e hF he)⟩

/-- Commands that keep an invariant are safe where the invariant allows them. -/
theorem Issues.safe {K : S.Command → Prop} {I : σ → Prop} {p : Program S α} (hp : p.Issues K)
    (hK : ∀ c s, K c → I s → P s c ∧ I (M.act c s).2) (hs : I s) : p.Safe M F P s := by
  induction p generalizing s with
  | done r => trivial
  | call command next ih =>
      obtain ⟨hP, hI⟩ := hK command s hp.1 hs
      exact ⟨hP, ih _ (hp.2 _) hI, fun _ e _ _ => ih _ (hp.2 _) hs⟩

/-- A program that starts with such commands. -/
theorem Issues.safe_bind {K : S.Command → Prop} {I : σ → Prop} {p : Program S α}
    {f : α → Program S β} (hp : p.Issues K)
    (hK : ∀ c s, K c → I s → P s c ∧ I (M.act c s).2) (hs : I s)
    (hf : ∀ a s', I s' → (f a).Safe M F P s') : (p >>= f).Safe M F P s := by
  refine (hp.safe hK hs).bind (wp_mono (hp.wp (fun c s hc h => (hK c s hc h).2) hs) ?_)
  intro r s' hs'
  cases r with
  | ok a => exact hf a s' hs'
  | error e => trivial

/-- A safe program is safe in every run whose faults are admitted. -/
theorem Safe.trace {p : Program S α} (h : p.Safe M F P s) {faults : List (Option φ)}
    (hF : ∀ f, some f ∈ faults → F f) : ∀ x ∈ p.trace M faults s, P x.1 x.2 := by
  induction p generalizing s faults with
  | done r => exact fun x hx => nomatch hx
  | call command next ih =>
      intro x hx
      rcases List.mem_cons.mp hx with rfl | hx
      · exact h.1
      have htail : ∀ f, some f ∈ faults.tail → F f :=
        fun f hf => hF f (List.mem_of_mem_tail hf)
      rcases M.attempt_cases faults.head?.join command s with hact | ⟨f, hf, e, he, hfail⟩
      · rw [hact] at hx
        exact ih _ h.2.1 htail x hx
      · have hmem : some f ∈ faults := by
          cases faults with
          | nil => simp at hf
          | cons a l =>
              have : a = some f := by simpa using hf
              simp [this]
        rw [hfail] at hx
        exact ih _ (h.2.2 f e (hF f hmem) he) htail x hx

/-- An invariant that the issued commands keep holds at the end. -/
theorem Safe.run {I : σ → Prop} {p : Program S α} (h : p.Safe M F P s)
    (hP : ∀ s c, P s c → I (M.act c s).2) (hs : I s) {faults : List (Option φ)}
    (hF : ∀ f, some f ∈ faults → F f) : I (p.run M faults s).2 := by
  refine run_of_wp (Q := fun _ s' => I s') ?_ hF
  clear hF
  induction p generalizing s with
  | done r => exact hs
  | call command next ih =>
      exact ⟨ih _ h.2.1 (hP s command h.1), fun f e hF he => ih _ (h.2.2 f e hF he) hs⟩

end Safe

end Program

/-! ## Recorded runs -/

/-- The machine that also writes down each command that acts and its reply, the last one first. -/
def Machine.recording (M : Machine S σ φ) :
    Machine S (σ × List ((command : S.Command) × Except S.Exn (S.Reply command))) φ where
  act := fun command s =>
    ((M.act command s.1).1, (M.act command s.1).2, ⟨command, (M.act command s.1).1⟩ :: s.2)
  fails := M.fails

/-- Writing them down changes nothing else. -/
theorem Program.run_recording (M : Machine S σ φ) (p : Program S α)
    (faults : List (Option φ)) (s : σ)
    (record : List ((command : S.Command) × Except S.Exn (S.Reply command))) :
    (p.run M.recording faults (s, record)).1 = (p.run M faults s).1 ∧
      (p.run M.recording faults (s, record)).2.1 = (p.run M faults s).2 := by
  induction p generalizing faults s record with
  | done r => exact ⟨rfl, rfl⟩
  | call command next ih =>
      have hattempt : ∃ record',
          M.recording.attempt faults.head?.join command (s, record) =
            ((M.attempt faults.head?.join command s).1,
              (M.attempt faults.head?.join command s).2, record') := by
        simp only [Machine.attempt, show M.recording.fails = M.fails from rfl]
        cases faults.head?.join.bind (M.fails · command) with
        | none => exact ⟨_, rfl⟩
        | some e => exact ⟨record, rfl⟩
      obtain ⟨record', hattempt⟩ := hattempt
      simp only [Program.run, hattempt]
      exact ih _ _ _ _

end Effects
