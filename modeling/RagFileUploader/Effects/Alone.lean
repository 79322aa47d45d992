import RagFileUploader.Effects.InStep

/-!
# Programs that run alone

A program that takes all the turns itself.  `Obeys.run` carries an invariant of the watched value
and of the state over its whole run.  `InStep.run` does so for two programs in step, each on its own
machine: what a machine deals out to a command (an id, a reading) is no part of the states, so the
two runs must be dealt the same, as far as both ask for it.
-/

namespace Effects

/-- Two monitors that watch together. -/
def Monitor.both {S : Signature} {κ κ' : Type} (W : Monitor S κ) (W' : Monitor S κ') :
    Monitor S (κ × κ') where
  may := fun k c => W.may k.1 c ∧ W'.may k.2 c
  replies := fun k c reply => W.replies k.1 c reply ∧ W'.replies k.2 c reply
  after := fun k c reply => (W.after k.1 c reply, W'.after k.2 c reply)

namespace Program

variable {S : Signature} {Γ κ κ' σ σ' φ O α β : Type} {M : Machine S σ φ} {M' : Machine S σ' φ}
  {W : Monitor S κ} {W' : Monitor S κ'}

/-- What every command that the program may issue keeps holds at the end of its run. -/
theorem Obeys.run {F : φ → Prop} {Q : Except S.Exn α → κ → Prop} {I : κ → σ → Prop}
    (hstep : ∀ k s c fault, I k s → W.may k c → (∀ f ∈ fault, F f) →
      W.replies k c (M.attempt fault c s).1 ∧
        I (W.after k c (M.attempt fault c s).1) (M.attempt fault c s).2)
    {p : Program S α} {k : κ} {s : σ} (h : p.Obeys W Q k) (hI : I k s) {faults : List (Option φ)}
    (hF : ∀ f, some f ∈ faults → F f) :
    ∃ k', Q (p.run M faults s).1 k' ∧ I k' (p.run M faults s).2 := by
  induction p generalizing k s faults with
  | done r => exact ⟨k, h, hI⟩
  | call c next ih =>
      have hhead : ∀ f ∈ faults.head?.join, F f := by
        intro f hf
        cases faults with
        | nil => cases hf
        | cons fault faults => exact hF f (hf ▸ List.mem_cons_self)
      obtain ⟨hreplies, hnext⟩ := hstep k s c _ hI h.1 hhead
      exact ih _ (h.2 _ hreplies) hnext fun f hf => hF f (List.mem_of_mem_tail hf)

/-- A program that obeys both monitors obeys the two of them. -/
theorem Obeys.both {Q : Except S.Exn α → κ → Prop} {Q' : Except S.Exn α → κ' → Prop}
    {p : Program S α} {k : κ} {k' : κ'} (h : p.Obeys W Q k) (h' : p.Obeys W' Q' k') :
    p.Obeys (W.both W') (fun r k => Q r k.1 ∧ Q' r k.2) (k, k') := by
  induction p generalizing k k' with
  | done r => exact ⟨h, h'⟩
  | call c next ih =>
      exact ⟨⟨h.1, h'.1⟩, fun reply hr => ih reply (h.2 reply hr.1) (h'.2 reply hr.2)⟩

/-- What every command keeps. -/
theorem run_keeps {I : σ → Prop} (hstep : ∀ s c fault, I s → I (M.attempt fault c s).2)
    (p : Program S α) {s : σ} (hI : I s) (faults : List (Option φ)) : I (p.run M faults s).2 := by
  induction p generalizing s faults with
  | done r => exact hI
  | call c next ih => exact ih _ (hstep s c _ hI) _

/-- What `deal` hands out to the commands of a run, one after another. -/
def dealt (M : Machine S σ φ) (deal : σ → S.Command → Option O) (p : Program S α)
    (faults : List (Option φ)) (s : σ) : List O :=
  (p.trace M faults s).filterMap fun moment => deal moment.1 moment.2

/-- One of the lists begins with the other. -/
def SameSoFar (l l' : List O) : Prop := l <+: l' ∨ l' <+: l

theorem sameSoFar_cons {a a' : O} {l l' : List O} (h : SameSoFar (a :: l) (a' :: l')) :
    a = a' ∧ SameSoFar l l' := by
  rcases h with h | h
  · exact (List.cons_prefix_cons.mp h).imp_right .inl
  · exact (List.cons_prefix_cons.mp h).imp Eq.symm .inr

variable [Preorder Γ] {T : Tie S Γ} {deal : σ → S.Command → Option O}
  {deal' : σ' → S.Command → Option O}

/-- If something is dealt to both commands or to neither, what they are dealt agrees, and so does
what comes after. -/
theorem sameSoFar_dealt {c c' : S.Command} {next : Except S.Exn (S.Reply c) → Program S α}
    {next' : Except S.Exn (S.Reply c') → Program S β} {faults : List (Option φ)} {s : σ} {s' : σ'}
    (hboth : (deal s c).isSome = (deal' s' c').isSome)
    (h : SameSoFar ((Program.call c next).dealt M deal faults s)
      ((Program.call c' next').dealt M' deal' faults s')) :
    deal s c = deal' s' c' ∧
      SameSoFar
        ((next (M.attempt faults.head?.join c s).1).dealt M deal faults.tail
          (M.attempt faults.head?.join c s).2)
        ((next' (M'.attempt faults.head?.join c' s').1).dealt M' deal' faults.tail
          (M'.attempt faults.head?.join c' s').2) := by
  unfold dealt trace at h
  rw [List.filterMap_cons, List.filterMap_cons] at h
  cases hdeal : deal s c with
  | none =>
      have hdeal' : deal' s' c' = none := by simpa [hdeal] using hboth.symm
      rw [hdeal, hdeal'] at h
      exact ⟨hdeal'.symm, h⟩
  | some o =>
      obtain ⟨o', hdeal'⟩ : ∃ o', deal' s' c' = some o' :=
        Option.isSome_iff_exists.mp (by simpa [hdeal] using hboth.symm)
      rw [hdeal, hdeal'] at h
      rw [hdeal']
      exact (sameSoFar_cons h).imp_left (congrArg some)

/-- Two programs in step, which obey their monitors, end in step. -/
theorem InStep.run {Q : Γ → Except S.Exn α → Except S.Exn β → Prop}
    {R : Except S.Exn α → κ → Prop} {R' : Except S.Exn β → κ → Prop}
    {I : Γ → κ → κ → σ → σ' → Prop}
    (hboth : ∀ γ c c' s s', T.same γ c c' → (deal s c).isSome = (deal' s' c').isSome)
    (hstep : ∀ γ k k' s s' c c' fault, I γ k k' s s' → W.may k c → W.may k' c' →
      T.same γ c c' → deal s c = deal' s' c' →
        W.replies k c (M.attempt fault c s).1 ∧ W.replies k' c' (M'.attempt fault c' s').1 ∧
        ∃ γ', γ ≤ γ' ∧ T.replies γ' c c' (M.attempt fault c s).1 (M'.attempt fault c' s').1 ∧
          I γ' (W.after k c (M.attempt fault c s).1) (W.after k' c' (M'.attempt fault c' s').1)
            (M.attempt fault c s).2 (M'.attempt fault c' s').2)
    {p : Program S α} {p' : Program S β} {γ : Γ} {k k' : κ} {s : σ} {s' : σ'}
    (h : p.InStep T Q p' γ) (hp : p.Obeys W R k) (hp' : p'.Obeys W R' k') (hI : I γ k k' s s')
    {faults : List (Option φ)}
    (hdealt : SameSoFar (p.dealt M deal faults s) (p'.dealt M' deal' faults s')) :
    ∃ γ' k₁ k₁', Q γ' (p.run M faults s).1 (p'.run M' faults s').1 ∧
      I γ' k₁ k₁' (p.run M faults s).2 (p'.run M' faults s').2 := by
  induction p generalizing p' γ k k' s s' faults with
  | done r =>
      cases p' with
      | done r' => exact ⟨γ, k, k', h, hI⟩
      | call c' next' => exact h.elim
  | call c next ih =>
      cases p' with
      | done r' => exact h.elim
      | call c' next' =>
          obtain ⟨hdeal, hrest⟩ := sameSoFar_dealt (hboth γ c c' s s' h.1) hdealt
          obtain ⟨hreplies, hreplies', γ', hle, htied, hnext⟩ :=
            hstep γ k k' s s' c c' faults.head?.join hI hp.1 hp'.1 h.1 hdeal
          exact ih _ (h.2 γ' hle _ _ htied) (hp.2 _ hreplies) (hp'.2 _ hreplies') hnext hrest

end Program

end Effects
