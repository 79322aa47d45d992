import Mathlib.Tactic.Common

/-!
# Hierarchical subjects

Subjects of messages are rows of tokens with dots between them.  A pattern may have `*` for any one
token, and end in `>` for any tokens, but at least one.
-/

namespace Encoding.Subjects

/-- The tokens of a subject. -/
def tokens (subject : String) : List (List Char) := subject.toList.splitOn '.'

/-- The tokens match those of the pattern. -/
def MatchesTokens : List (List Char) → List (List Char) → Prop
  | [], [] => True
  | pattern :: patterns, token :: tokens =>
      (pattern = ['>'] ∧ patterns = []) ∨
        ((pattern = ['*'] ∨ pattern = token) ∧ MatchesTokens patterns tokens)
  | _, _ => False

instance decidableMatchesTokens : ∀ patterns tokens, Decidable (MatchesTokens patterns tokens)
  | [], [] => isTrue trivial
  | _ :: patterns, _ :: tokens =>
      have := decidableMatchesTokens patterns tokens
      inferInstanceAs (Decidable (_ ∨ _))
  | [], _ :: _ => isFalse id
  | _ :: _, [] => isFalse id

/-- The pattern covers the subject. -/
def Covers (pattern subject : String) : Prop := MatchesTokens (tokens pattern) (tokens subject)

instance (pattern subject : String) : Decidable (Covers pattern subject) :=
  inferInstanceAs (Decidable (MatchesTokens _ _))

example : Covers "upload.*.load_completed" "upload.file.load_completed" := by decide +kernel

example : ¬ Covers "upload.file.load.completed" "upload.file.load_completed" := by decide +kernel

theorem matchesTokens_self (l : List (List Char)) : MatchesTokens l l := by
  induction l with
  | nil => trivial
  | cons token l ih => exact .inr ⟨.inr rfl, ih⟩

/-- Without the two marks a pattern covers nothing but itself. -/
theorem eq_of_matchesTokens {patterns tokens : List (List Char)}
    (hplain : ∀ pattern ∈ patterns, '*' ∉ pattern ∧ '>' ∉ pattern)
    (h : MatchesTokens patterns tokens) : patterns = tokens := by
  induction patterns generalizing tokens with
  | nil =>
      cases tokens with
      | nil => rfl
      | cons => cases h
  | cons pattern patterns ih =>
      cases tokens with
      | nil => cases h
      | cons token tokens =>
          obtain ⟨⟨hstar, hrest⟩, hplain⟩ := List.forall_mem_cons.mp hplain
          rcases h with ⟨rfl, -⟩ | ⟨rfl | rfl, h⟩
          · exact absurd List.mem_cons_self hrest
          · exact absurd List.mem_cons_self hstar
          · rw [ih hplain h]

theorem mem_intersperse {l : List (List Char)} {separator token : List Char} (h : token ∈ l) :
    token ∈ l.intersperse separator := by
  induction l with
  | nil => cases h
  | cons first l ih =>
      cases l with
      | nil => exact h
      | cons second l =>
          rw [List.intersperse_cons_cons]
          rcases List.mem_cons.mp h with rfl | h
          · exact List.mem_cons_self
          · exact List.mem_cons_of_mem _ (List.mem_cons_of_mem _ (ih h))

theorem mem_of_mem_tokens {subject : String} {token : List Char} {c : Char}
    (htoken : token ∈ tokens subject) (hc : c ∈ token) : c ∈ subject.toList := by
  have hjoin : ['.'].intercalate (subject.toList.splitOn '.') = subject.toList :=
    List.intercalate_splitOn '.'
  rw [← hjoin]
  exact List.mem_flatten.mpr ⟨token, mem_intersperse htoken, hc⟩

theorem covers_iff_eq {pattern subject : String}
    (hplain : '*' ∉ pattern.toList ∧ '>' ∉ pattern.toList) :
    Covers pattern subject ↔ pattern = subject := by
  constructor
  · intro h
    have htokens : tokens pattern = tokens subject := eq_of_matchesTokens (fun token htoken =>
      ⟨fun hc => hplain.1 (mem_of_mem_tokens htoken hc),
        fun hc => hplain.2 (mem_of_mem_tokens htoken hc)⟩) h
    have hjoin := congrArg (['.'].intercalate ·) htokens
    simp only [tokens, List.intercalate_splitOn] at hjoin
    exact String.toList_inj.mp hjoin
  · rintro rfl
    exact matchesTokens_self _

end Encoding.Subjects
