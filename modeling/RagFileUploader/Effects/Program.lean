import Mathlib.Data.List.Basic
import Mathlib.Tactic.Common

/-!
# Programs that issue commands

A program of a service that talks to the outside world is a tree: it is done, with a result or an
exception, or it issues a command and goes on with whatever the command replies.  A command may
reply with an exception, which the program sees like any other reply, so that `try`/`except`
blocks are ordinary functions on trees.

The tree fixes no meaning of the commands.  `Serial.lean` runs one program alone on a machine,
`Interleaving.lean` runs several at once, one command at a time.
-/

namespace Effects

/-- The commands a program may issue, the reply each of them gives, and the exceptions that
commands and programs raise. -/
structure Signature where
  Command : Type
  Reply : Command → Type
  Exn : Type

/-- A program over the commands of `S` with results in `α`. -/
inductive Program (S : Signature) (α : Type) : Type where
  | done (result : Except S.Exn α)
  | call (command : S.Command) (next : Except S.Exn (S.Reply command) → Program S α)

namespace Program

variable {S : Signature} {α β γ : Type}

/-- Issue one command and return its reply. -/
def perform (command : S.Command) : Program S (S.Reply command) :=
  .call command .done

/-- Continue with `f` on a result; an exception ends the program. -/
def bind : Program S α → (α → Program S β) → Program S β
  | .done (.ok a), f => f a
  | .done (.error e), _ => .done (.error e)
  | .call command next, f => .call command fun reply => (next reply).bind f

/-- Continue with `handler` on an exception; a result ends the program. -/
def catchWith : Program S α → (S.Exn → Program S α) → Program S α
  | .done (.ok a), _ => .done (.ok a)
  | .done (.error e), handler => handler e
  | .call command next, handler => .call command fun reply => (next reply).catchWith handler

instance : Monad (Program S) where
  pure a := .done (.ok a)
  bind := bind

instance : MonadExcept S.Exn (Program S) where
  throw e := .done (.error e)
  tryCatch := catchWith

@[simp] theorem pure_eq (a : α) : (pure a : Program S α) = .done (.ok a) := rfl

@[simp] theorem throw_eq (e : S.Exn) : (throw e : Program S α) = .done (.error e) := rfl

@[simp] theorem ok_bind (a : α) (f : α → Program S β) :
    (Program.done (.ok a) >>= f) = f a := rfl

@[simp] theorem error_bind (e : S.Exn) (f : α → Program S β) :
    (Program.done (.error e) >>= f) = .done (.error e) := rfl

@[simp] theorem call_bind (command : S.Command)
    (next : Except S.Exn (S.Reply command) → Program S α) (f : α → Program S β) :
    (Program.call command next >>= f) = .call command fun reply => next reply >>= f := rfl

@[simp] theorem perform_bind (command : S.Command) (f : S.Reply command → Program S β) :
    (perform command >>= f) = .call command fun reply => Program.done reply >>= f := rfl

@[simp] theorem ok_tryCatch (a : α) (handler : S.Exn → Program S α) :
    tryCatch (Program.done (.ok a)) handler = .done (.ok a) := rfl

@[simp] theorem error_tryCatch (e : S.Exn) (handler : S.Exn → Program S α) :
    tryCatch (Program.done (.error e)) handler = handler e := rfl

@[simp] theorem call_tryCatch (command : S.Command)
    (next : Except S.Exn (S.Reply command) → Program S α) (handler : S.Exn → Program S α) :
    tryCatch (Program.call command next) handler =
      .call command fun reply => tryCatch (next reply) handler := rfl

@[simp] theorem ofExcept_eq (r : Except S.Exn α) :
    (MonadExcept.ofExcept r : Program S α) = .done r := by
  cases r <;> rfl

theorem id_map' (p : Program S α) : id <$> p = p := by
  induction p with
  | done r => cases r <;> rfl
  | call command next ih => exact congrArg (Program.call command) (funext ih)

theorem bind_assoc' (p : Program S α) (f : α → Program S β) (g : β → Program S γ) :
    p >>= f >>= g = p >>= fun a => f a >>= g := by
  induction p with
  | done r => cases r <;> rfl
  | call command next ih => exact congrArg (Program.call command) (funext ih)

instance : LawfulMonad (Program S) :=
  LawfulMonad.mk' (Program S) id_map' (fun _ _ => rfl) bind_assoc'

/-- The command that the program issues first. -/
def command? : Program S α → Option S.Command
  | .done _ => none
  | .call command _ => some command

theorem command?_eq_none {p : Program S α} : p.command? = none ↔ ∃ r, p = .done r := by
  cases p with
  | done r => exact ⟨fun _ => ⟨r, rfl⟩, fun _ => rfl⟩
  | call command next => exact ⟨nofun, fun ⟨_, h⟩ => nomatch h⟩

/-! ## Which commands a program may issue -/

/-- Every command the program may issue, whatever the replies, satisfies `P`. -/
def Issues (P : S.Command → Prop) : Program S α → Prop
  | .done _ => True
  | .call command next => P command ∧ ∀ reply, (next reply).Issues P

variable {P P' : S.Command → Prop}

@[simp] theorem issues_done (r : Except S.Exn α) : (Program.done r : Program S α).Issues P :=
  trivial

@[simp] theorem issues_perform {command : S.Command} :
    (perform command).Issues P ↔ P command :=
  ⟨fun h => h.1, fun h => ⟨h, fun _ => trivial⟩⟩

theorem Issues.bind {p : Program S α} {f : α → Program S β} (hp : p.Issues P)
    (hf : ∀ a, (f a).Issues P) : (p >>= f).Issues P := by
  induction p with
  | done r =>
      cases r with
      | ok a => exact hf a
      | error e => trivial
  | call command next ih => exact ⟨hp.1, fun reply => ih reply (hp.2 reply)⟩

theorem Issues.tryCatch {p : Program S α} {handler : S.Exn → Program S α} (hp : p.Issues P)
    (hh : ∀ e, (handler e).Issues P) : (tryCatch p handler).Issues P := by
  induction p with
  | done r =>
      cases r with
      | ok a => trivial
      | error e => exact hh e
  | call command next ih => exact ⟨hp.1, fun reply => ih reply (hp.2 reply)⟩

theorem Issues.mono {p : Program S α} (hp : p.Issues P) (h : ∀ c, P c → P' c) :
    p.Issues P' := by
  induction p with
  | done r => trivial
  | call command next ih => exact ⟨h _ hp.1, fun reply => ih reply (hp.2 reply)⟩

/-! ## How a program may end -/

/-- Every result of the program, whatever the replies, satisfies `Q`. -/
def Ends (Q : Except S.Exn α → Prop) : Program S α → Prop
  | .done r => Q r
  | .call _ next => ∀ reply, (next reply).Ends Q

theorem ends_true {p : Program S α} : p.Ends fun _ => True := by
  induction p with
  | done r => trivial
  | call command next ih => exact ih

theorem ends_bind {p : Program S α} {f : α → Program S β} {Q : Except S.Exn β → Prop} :
    (p >>= f).Ends Q ↔ p.Ends fun r => match r with
      | .ok a => (f a).Ends Q
      | .error e => Q (.error e) := by
  induction p with
  | done r => cases r <;> exact Iff.rfl
  | call command next ih => exact forall_congr' ih

theorem ends_tryCatch {p : Program S α} {handler : S.Exn → Program S α}
    {Q : Except S.Exn α → Prop} :
    (tryCatch p handler).Ends Q ↔ p.Ends fun r => match r with
      | .ok a => Q (.ok a)
      | .error e => (handler e).Ends Q := by
  induction p with
  | done r => cases r <;> exact Iff.rfl
  | call command next ih => exact forall_congr' ih

/-- Whatever the first part returns. -/
theorem ends_bind_of_forall {p : Program S α} {f : α → Program S β} {Q : Except S.Exn β → Prop}
    (hf : ∀ a, (f a).Ends Q) (herror : ∀ e, Q (.error e)) : (p >>= f).Ends Q := by
  induction p with
  | done r =>
      cases r with
      | ok a => exact hf a
      | error e => exact herror e
  | call command next ih => exact ih

theorem ends_mono {p : Program S α} {Q Q' : Except S.Exn α → Prop} (h : p.Ends Q)
    (hQ : ∀ r, Q r → Q' r) : p.Ends Q' := by
  induction p with
  | done r => exact hQ r h
  | call command next ih => exact fun reply => ih reply (h reply)

end Program

end Effects
