import RagFileUploader.Domain.UploadSession
import RagFileUploader.Effects.Interleaving

/-!
# Rules for the constructs of the source

What use cases and infrastructure are written with: raising, checks that are pure, and `try`
blocks with their `except` clauses.  First their weakest preconditions, for every machine whose
programs raise the service's exceptions, then what they do under a monitor.
-/

namespace RagFileUploader

open Effects

/-- Programs that raise the service's exceptions. -/
abbrev Prog (C : Type) (R : C → Type) := Program ⟨C, R, Exc⟩

variable {C : Type} {R : C → Type} {σ φ : Type} {M : Machine ⟨C, R, Exc⟩ σ φ} {F : φ → Prop}
  {α β : Type} {s : σ}

theorem wp_pure {a : α} {Q : Except Exc α → σ → Prop} :
    (pure a : Prog C R α).wp M F Q s ↔ Q (.ok a) s := Iff.rfl

theorem wp_throw {e : Exc} {Q : Except Exc α → σ → Prop} :
    (throw e : Prog C R α).wp M F Q s ↔ Q (.error e) s := Iff.rfl

theorem run_ofExcept {r : Except Exc α} {faults : List (Option φ)} :
    (MonadExcept.ofExcept r : Prog C R α).run M faults s = (r, s) := by
  cases r <;> rfl

theorem wp_map {p : Prog C R α} {f : α → β} {Q : Except Exc β → σ → Prop}
    (h : p.wp M F (fun r s' => Q (r.map f) s') s) :
    (f <$> p).wp M F Q s := by
  rw [map_eq_pure_bind, Program.wp_bind]
  refine Program.wp_mono h fun r s' hr => ?_
  cases r with
  | ok a => exact hr
  | error e => exact hr

theorem wp_ofExcept {r : Except Exc α} {Q : Except Exc α → σ → Prop}
    (hok : ∀ a, r = .ok a → Q (.ok a) s) (herror : ∀ e, r = .error e → Q (.error e) s) :
    (MonadExcept.ofExcept r : Prog C R α).wp M F Q s := by
  cases r with
  | ok a => exact hok a rfl
  | error e => exact herror e rfl

theorem wp_ofExcept_bind {r : Except Exc α} {f : α → Prog C R β}
    {Q : Except Exc β → σ → Prop}
    (hok : ∀ a, r = .ok a → (f a).wp M F Q s)
    (herror : ∀ e, r = .error e → Q (.error e) s) :
    (MonadExcept.ofExcept r >>= f : Prog C R β).wp M F Q s := by
  cases r with
  | ok a => exact hok a rfl
  | error e => exact herror e rfl

theorem wp_tryExcept {p : Prog C R α} {catches : Exc → Bool} {handler : Exc → Prog C R α}
    {Q : Except Exc α → σ → Prop} :
    (tryExcept p catches handler).wp M F Q s ↔
      p.wp M F (fun r s' => match r with
        | .ok a => Q (.ok a) s'
        | .error e => (catches e = true → (handler e).wp M F Q s') ∧
            (catches e = false → Q (.error e) s')) s := by
  rw [tryExcept, Program.wp_tryCatch]
  have hclause : ∀ e s', (if catches e = true then handler e else throw e : Prog C R α).wp
        M F Q s' ↔
        (catches e = true → (handler e).wp M F Q s') ∧
          (catches e = false → Q (.error e) s') := by
    intro e s'
    cases catches e with
    | true => exact ⟨fun h => ⟨fun _ => h, (nomatch ·)⟩, fun h => h.1 rfl⟩
    | false => exact ⟨fun h => ⟨(nomatch ·), fun _ => h⟩, fun h => h.2 rfl⟩
  constructor <;> intro h <;> refine Program.wp_mono h fun r s' hr => ?_
  · cases r with
    | ok a => exact hr
    | error e => exact (hclause e s').mp hr
  · cases r with
    | ok a => exact hr
    | error e => exact (hclause e s').mpr hr

/-- `try: p` with `except Exception: pass`, where `p` only raises exceptions of that class. -/
theorem wp_swallow {p : Prog C R Unit} {Q : Except Exc Unit → σ → Prop}
    (h : p.wp M F (fun r s' => match r with
      | .ok _ => Q (.ok ()) s'
      | .error e => e.isException = true ∧ Q (.ok ()) s') s) :
    (tryExcept p Exc.isException fun _ => pure ()).wp M F Q s := by
  refine wp_tryExcept.mpr (Program.wp_mono h fun r s' hr => ?_)
  cases r with
  | ok a => exact hr
  | error e => exact ⟨fun _ => hr.2, fun hc => by simp [hr.1] at hc⟩

/-! ## Which commands are issued -/

section Issues

variable {P : C → Prop}

theorem issues_ofExcept {r : Except Exc α} :
    (MonadExcept.ofExcept r : Prog C R α).Issues P := by
  cases r <;> trivial

theorem issues_map {p : Prog C R α} {f : α → β} (hp : p.Issues P) : (f <$> p).Issues P := by
  rw [map_eq_pure_bind]
  exact hp.bind fun _ => trivial

theorem issues_tryExcept {p : Prog C R α} {catches : Exc → Bool} {handler : Exc → Prog C R α}
    (hp : p.Issues P) (hh : ∀ e, (handler e).Issues P) :
    (tryExcept p catches handler).Issues P := by
  refine hp.tryCatch fun e => ?_
  split
  · exact hh e
  · trivial

end Issues

/-! ## Safety -/

section Safe

variable {P : σ → C → Prop}

theorem safe_ofExcept {r : Except Exc α} :
    (MonadExcept.ofExcept r : Prog C R α).Safe M F P s := by
  cases r <;> trivial

theorem safe_ofExcept_bind {r : Except Exc α} {f : α → Prog C R β}
    (hok : ∀ a, r = .ok a → (f a).Safe M F P s) :
    (MonadExcept.ofExcept r >>= f : Prog C R β).Safe M F P s := by
  cases r with
  | ok a => exact hok a rfl
  | error e => trivial

theorem safe_map {p : Prog C R α} {f : α → β} (hp : p.Safe M F P s) :
    (f <$> p).Safe M F P s := by
  rw [map_eq_pure_bind]
  refine hp.bind (Program.wp_mono (Q := fun _ _ => True) ?_ fun r s' _ => ?_)
  · exact Program.wp_true
  · cases r <;> trivial

theorem safe_tryExcept {p : Prog C R α} {catches : Exc → Bool} {handler : Exc → Prog C R α}
    (hp : p.Safe M F P s)
    (hh : p.wp M F (fun r s' => match r with
      | .ok _ => True
      | .error e => catches e = true → (handler e).Safe M F P s') s) :
    (tryExcept p catches handler).Safe M F P s := by
  refine hp.tryCatch (Program.wp_mono hh fun r s' hr => ?_)
  cases r with
  | ok a => trivial
  | error e =>
      dsimp only at hr ⊢
      split
      · next hc => exact hr hc
      · trivial

/-- Translating exceptions issues no commands. -/
theorem safe_tryCatch_throw {p : Prog C R α} {translate : Exc → Exc} (hp : p.Safe M F P s) :
    (tryCatch p fun e => throw (translate e) : Prog C R α).Safe M F P s := by
  refine hp.tryCatch (Program.wp_mono Program.wp_true fun r s' _ => ?_)
  cases r <;> trivial

/-- Swallowing exceptions issues no commands. -/
theorem safe_swallow {p : Prog C R Unit} {catches : Exc → Bool} (hp : p.Safe M F P s) :
    (tryExcept p catches fun _ => pure () : Prog C R Unit).Safe M F P s := by
  refine safe_tryExcept hp (Program.wp_mono Program.wp_true fun r s' _ => ?_)
  cases r with
  | ok a => trivial
  | error e => exact fun _ => trivial

end Safe

/-! ## Under a monitor -/

section Monitor

variable {Γ : Type} {W : Monitor ⟨C, R, Exc⟩ Γ} {γ : Γ}

theorem obeys_ofExcept {r : Except Exc α} {Q : Except Exc α → Γ → Prop} :
    (MonadExcept.ofExcept r : Prog C R α).Obeys W Q γ ↔ Q r γ := by
  cases r <;> exact Iff.rfl

theorem obeys_ofExcept_bind {r : Except Exc α} {f : α → Prog C R β} {Q : Except Exc β → Γ → Prop}
    (hok : ∀ a, r = .ok a → (f a).Obeys W Q γ) (herror : ∀ e, r = .error e → Q (.error e) γ) :
    (MonadExcept.ofExcept r >>= f : Prog C R β).Obeys W Q γ := by
  cases r with
  | ok a => exact hok a rfl
  | error e => exact herror e rfl

theorem obeys_map {p : Prog C R α} {f : α → β} {Q : Except Exc β → Γ → Prop}
    (h : p.Obeys W (fun r γ' => Q (r.map f) γ') γ) : (f <$> p).Obeys W Q γ := by
  rw [map_eq_pure_bind, Program.obeys_bind]
  refine Program.obeys_mono h fun r γ' hr => ?_
  cases r with
  | ok a => exact hr
  | error e => exact hr

theorem obeys_tryExcept {p : Prog C R α} {catches : Exc → Bool} {handler : Exc → Prog C R α}
    {Q : Except Exc α → Γ → Prop}
    (h : p.Obeys W (fun r γ' => match r with
      | .ok a => Q (.ok a) γ'
      | .error e => (catches e = true → (handler e).Obeys W Q γ') ∧
          (catches e = false → Q (.error e) γ')) γ) :
    (tryExcept p catches handler).Obeys W Q γ := by
  rw [tryExcept, Program.obeys_tryCatch]
  refine Program.obeys_mono h fun r γ' hr => ?_
  cases r with
  | ok a => exact hr
  | error e =>
      dsimp only at hr ⊢
      cases hc : catches e with
      | true => exact hr.1 hc
      | false => exact hr.2 hc

/-- Commands that the monitor lets through without taking notice. -/
theorem obeys_of_issues {P : C → Prop} {p : Prog C R α} (hp : p.Issues P)
    (hmay : ∀ c, P c → W.may γ c) (hafter : ∀ c reply, P c → W.after γ c reply = γ) :
    p.Obeys W (fun _ γ' => γ' = γ) γ := by
  induction p with
  | done r => rfl
  | call command next ih =>
      refine ⟨hmay command hp.1, fun reply _ => ?_⟩
      rw [hafter command reply hp.1]
      exact ih reply (hp.2 reply)

/-- Such a part of a program, and how it ends. -/
theorem obeys_of_issues_ends {P : C → Prop} {p : Prog C R α} {E : Except Exc α → Prop}
    (hp : p.Issues P) (hends : p.Ends E) (hmay : ∀ c, P c → W.may γ c)
    (hafter : ∀ c reply, P c → W.after γ c reply = γ) :
    p.Obeys W (fun r γ' => γ' = γ ∧ E r) γ := by
  induction p with
  | done r => exact ⟨rfl, hends⟩
  | call command next ih =>
      refine ⟨hmay command hp.1, fun reply _ => ?_⟩
      rw [hafter command reply hp.1]
      exact ih reply (hp.2 reply) (hends reply)

end Monitor

end RagFileUploader
