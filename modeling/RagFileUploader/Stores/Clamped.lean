import Mathlib.Algebra.Order.Group.Int
import Mathlib.Data.List.Count
import Mathlib.Tactic.Common

/-!
# Counters that stop at zero

A counter that goes up and down by one and does not go below zero.  Steps down that are taken at
zero are lost, so the order of the steps matters; `exists_order_iff` says which values a given
number of steps up and down can lead to.
-/

namespace Stores.Clamped

inductive Step where
  | up
  | down
  deriving DecidableEq, Repr

def Step.apply (c : ℤ) : Step → ℤ
  | .up => c + 1
  | .down => max 0 (c - 1)

/-- Take the steps one after another. -/
def run (c : ℤ) (steps : List Step) : ℤ := steps.foldl Step.apply c

variable {c f : ℤ} {steps : List Step}

@[simp] theorem run_nil (c : ℤ) : run c [] = c := rfl

@[simp] theorem run_cons (c : ℤ) (step : Step) (steps : List Step) :
    run c (step :: steps) = run (step.apply c) steps := rfl

theorem run_append (c : ℤ) (steps steps' : List Step) :
    run c (steps ++ steps') = run (run c steps) steps' :=
  List.foldl_append

theorem run_up (c : ℤ) (n : ℕ) : run c (List.replicate n .up) = c + n := by
  induction n generalizing c with
  | zero => simp
  | succ n ih =>
      rw [List.replicate_succ, run_cons, ih, Step.apply]
      omega

theorem run_down (hc : 0 ≤ c) (n : ℕ) : run c (List.replicate n .down) = max 0 (c - n) := by
  induction n generalizing c with
  | zero =>
      rw [List.replicate_zero, run_nil]
      omega
  | succ n ih =>
      rw [List.replicate_succ, run_cons, Step.apply, ih (le_max_left _ _)]
      omega

/-- The first steps down may be lost, the last ones may not. -/
theorem run_bounds (hc : 0 ≤ c) (steps : List Step) :
    max 0 (c + steps.count .up - steps.count .down) ≤ run c steps ∧
      run c steps ≤ max 0 (c - steps.count .down) + steps.count .up := by
  induction steps generalizing c with
  | nil =>
      simp only [List.count_nil, run_nil]
      omega
  | cons step steps ih =>
      cases step with
      | up =>
          obtain ⟨hlower, hupper⟩ := ih (c := c + 1) (by omega)
          rw [run_cons, Step.apply, List.count_cons_self,
            List.count_cons_of_ne (by decide : Step.up ≠ Step.down)]
          omega
      | down =>
          obtain ⟨hlower, hupper⟩ := ih (c := max 0 (c - 1)) (le_max_left _ _)
          rw [run_cons, Step.apply, List.count_cons_self,
            List.count_cons_of_ne (by decide : Step.down ≠ Step.up)]
          omega

/-- `m` steps up and `n` steps down lead to all values from the one where no more steps than
necessary are lost to the one where as many as possible are. -/
theorem exists_order_iff (hc : 0 ≤ c) (m n : ℕ) :
    (∃ steps : List Step, steps.count .up = m ∧ steps.count .down = n ∧ f = run c steps) ↔
      max 0 (c + m - n) ≤ f ∧ f ≤ max 0 (c - n) + m := by
  constructor
  · rintro ⟨steps, rfl, rfl, rfl⟩
    exact run_bounds hc steps
  · intro ⟨hlower, hupper⟩
    by_cases hn : (n : ℤ) ≤ c
    · -- no step is lost, in whatever order
      refine ⟨List.replicate n .down ++ List.replicate m .up, ?_, ?_, ?_⟩
      · simp [List.count_replicate]
      · simp [List.count_replicate]
      · rw [run_append, run_down hc, run_up]
        omega
    · -- go down to zero, lose as many steps as it takes, go up, and down for the rest
      obtain ⟨first, hfirst⟩ : ∃ first : ℕ, (first : ℤ) = f - m + n :=
        ⟨(f - m + n).toNat, by omega⟩
      obtain ⟨last, rfl⟩ : ∃ last : ℕ, n = first + last := ⟨n - first, by omega⟩
      refine ⟨List.replicate first .down ++ (List.replicate m .up ++ List.replicate last .down),
        ?_, ?_, ?_⟩
      · simp [List.count_replicate]
      · simp [List.count_replicate]
      · rw [run_append, run_append, run_down hc, run_up, run_down (by omega)]
        omega

end Stores.Clamped
