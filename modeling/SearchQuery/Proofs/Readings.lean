import SearchQuery.Proofs.ReaderProgress

/-!
# Reading between the ends of a text

A text is read as an expression by its grammar, and what is read is refused if
its automata are too large. Expressions that have to cover a whole text begin
and end with the marks of its two ends.
-/

namespace SearchQuery
namespace Regex

theorem skipIgnored_false (text : List Char) :
    skipIgnored false text = text := by
  cases text <;> simp [skipIgnored]

variable [Properties]

/-- Read an expression, where only its grammar and the depth of its operators
count. -/
def reading? (text : String) : Option Regex :=
  let characters := text.toList
  (alternatives? (2 * characters.length + 2) [] ⟨Flags.initial, [],
    characters⟩).bind
    fun (result, state) =>
      if state.rest = [] ∧ result.depth ≤ depthLimit then some result.expression
      else none

/-- What is read is refused if its automata are too large. -/
theorem ofText?_eq_filter (text : String) :
    ofText? text = (reading? text).filter isAdmitted := by
  unfold ofText? reading?
  simp only [Option.bind_eq_bind]
  cases alternatives? (2 * text.toList.length + 2) [] ⟨Flags.initial, [],
    text.toList⟩ with
  | none => rfl
  | some read =>
      obtain ⟨result, state⟩ := read
      by_cases whole : state.rest = [] ∧ result.depth ≤ depthLimit
      · cases admitted : result.expression.isAdmitted <;>
          simp [guard, whole, admitted, Option.filter_some]
      · have refused : ¬ (state.rest = [] ∧ result.depth ≤ depthLimit ∧
            result.expression.isAdmitted) := fun h => whole ⟨h.1, h.2.1⟩
        simp only [Option.bind_some, if_neg whole, guard, if_neg refused]
        rfl

theorem parts?_textStart (fuel : Nat) (text : List Char) :
    parts? (fuel + 1) [] ⟨Flags.initial, [], '^' :: text⟩ =
      parts? fuel [some ⟨.assertion .textStart, 0⟩]
        ⟨Flags.initial, [], text⟩ := by
  rw [parts?_succ]
  simp [Flags.initial, skipIgnored_false, endsSequence, part?, symbol?,
    Symbol.expression, Flags.lineStart]

theorem parts?_textEnd (fuel : Nat) (parts : Parts) (names : List String) :
    parts? (fuel + 2) parts ⟨Flags.initial, names, ['$']⟩ =
      some (sequenceOf (some ⟨.assertion .textEnd, 0⟩ :: parts),
        ⟨Flags.initial, names, []⟩) := by
  rw [parts?_succ]
  simp [Flags.initial, skipIgnored_false, endsSequence, part?, symbol?,
    Symbol.expression, Flags.lineEnd, parts?_succ]

end Regex
end SearchQuery
