import RagFileUploader.Infrastructure.World
import RagFileUploader.Infrastructure.SessionStore
import RagFileUploader.Application.Rules

/-!
# Assigned outcomes

The outside world with an outcome assigned to every command: an exception, and then the command has
no effect, or none, and then it does what it does.  A program that issues no command twice can meet
any combination of outcomes this way.  The runtime does not fail.
-/

namespace RagFileUploader

open Effects

variable {env : Environment} {outcome : Command → Option Exc} {σ : World}

/-- The exception that is assigned to the command. -/
def Command.failure? (outcome : Command → Option Exc) (c : Command) : Option Exc :=
  if c.area = .runtime then none else outcome c

/-- The world under an assignment of outcomes. -/
def assignedMachine (env : Environment) (outcome : Command → Option Exc) :
    Machine serviceSignature World Empty where
  act := fun c σ => match c.failure? outcome with
    | some e => (.error e, σ)
    | none => c.act env σ
  fails := fun f => nomatch f

theorem wp_assigned {F : Empty → Prop} {c : Command} {Q : Except Exc c.Reply → World → Prop}
    (hact : Q (c.act env σ).1 (c.act env σ).2) (hfail : ∀ e, outcome c = some e → Q (.error e) σ) :
    (send c).wp (assignedMachine env outcome) F Q σ := by
  refine Program.wp_perform.mpr ⟨?_, fun f => nomatch f⟩
  simp only [assignedMachine, Command.failure?]
  by_cases hruntime : c.area = .runtime
  · rw [if_pos hruntime]
    exact hact
  · rw [if_neg hruntime]
    cases houtcome : outcome c with
    | none => exact hact
    | some e => exact hfail e houtcome

/-- A command of the runtime, or one that is assigned no exception. -/
theorem wp_assigned_none {F : Empty → Prop} {c : Command} {Q : Except Exc c.Reply → World → Prop}
    (hc : c.area = .runtime ∨ outcome c = none) (hact : Q (c.act env σ).1 (c.act env σ).2) :
    (send c).wp (assignedMachine env outcome) F Q σ := by
  refine Program.wp_perform.mpr ⟨?_, fun f => nomatch f⟩
  have hnone : c.failure? outcome = none := by
    unfold Command.failure?
    rcases hc with hc | hc
    · exact if_pos hc
    · rw [hc, ite_self]
  simp only [assignedMachine, hnone]
  exact hact

end RagFileUploader
