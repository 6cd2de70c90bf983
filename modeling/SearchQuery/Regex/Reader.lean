import SearchQuery.Regex.Automaton
import SearchQuery.Regex.Bracket

/-!
# Reading regular expressions

The reader follows the grammar of a linear-time dialect: no look-around and no
references back. Flags set in a group act up to its end, also across a bar.
Expressions that are nested too deeply, or whose automata would be too large,
are refused.

Each function takes the text that is left and gives the text after what it read.
The number of recursive calls is bounded by the length of the expression.
-/

namespace SearchQuery
namespace Regex

/-- The digits at the start of a text, with ignored characters skipped after
each, and the text after them. -/
def takeDigits (extended : Bool) (text : List Char) : List Char × List Char :=
  match text with
  | [] => ([], [])
  | c :: rest =>
      if c.isDigit then
        let (more, rest) := takeDigits extended (skipIgnored extended rest)
        (c :: more, rest)
      else ([], c :: rest)
termination_by text.length
decreasing_by
  have := length_skipIgnored_le extended rest
  simp only [List.length_cons]
  omega

/-- A number in a count, with blanks around it. -/
def countNumber? (extended : Bool) (text : List Char) :
    Option (Nat × List Char) := do
  let (digits, rest) := takeDigits extended (Text.trimLeft text)
  let value ← Text.natural? (Nat.pow 2 32) digits
  return (value, skipIgnored extended (Text.trimLeft rest))

/-- The counts of a repetition, after its opening brace. -/
def counts? (flags : Flags) (text : List Char) :
    Option (Nat × Option Nat × List Char) := do
  let (least, rest) ← countNumber? flags.extended
      (skipIgnored flags.extended text)
  let (most, rest) ←
    match rest with
    | ',' :: rest =>
        match skipIgnored flags.extended rest with
        | '\x7d' :: rest => some (none, '\x7d' :: rest)
        | rest =>
            (countNumber? flags.extended rest).map fun (most, rest) =>
              (some most, rest)
    | _ => some (some least, rest)
  let rest ←
    match rest with
    | '\x7d' :: rest => some (skipIgnored flags.extended rest)
    | _ => none
  guard (most.all (least ≤ ·))
  return (least, most, rest)

/-- Whether the mark of the other preference follows an operator, and the text
after it. -/
def preferenceMark : List Char → Bool × List Char
  | '?' :: rest => (true, rest)
  | text => (false, text)

/-- An expression with the depth to which operators are nested in it. -/
structure Nested where
  expression : Regex
  depth : Nat

/-- What the reader keeps: the modes, the names of groups, and the text that is
left. -/
structure State where
  flags : Flags
  names : List String
  rest : List Char

/-- The parts of a sequence, last first; flags leave an empty place. -/
abbrev Parts := List (Option Nested)

/-- The greatest depth in some expressions. -/
def greatestDepth (expressions : List Nested) : Nat :=
  expressions.foldl (fun depth part => max depth part.depth) 0

/-- The parts in order as one expression. -/
def sequenceOf (parts : Parts) : Nested :=
  let present := parts.reverse.filterMap id
  let depth := greatestDepth present
  ⟨concat (present.map (·.expression)),
    if parts.length < 2 then depth else depth + 1⟩

/-- The choice between several expressions. -/
def choiceOf (expressions : List Nested) : Nested :=
  ⟨alternate (expressions.map (·.expression)), greatestDepth expressions + 1⟩

/-- Repeat the last part, which must be an expression, and go on behind the mark
of a preference. -/
def repeatLast? (least : Nat) (most : Option Nat) (parts : Parts)
    (state : State)
    (rest : List Char) : Option (Parts × State) :=
  match parts with
  | some part :: before =>
      let (marked, rest) := preferenceMark rest
      let greedy := marked == state.flags.swapGreed
      some
        (some ⟨part.expression.times least most greedy, part.depth + 1⟩ ::
          before,
        { state with rest := rest })
  | _ => none

/-- The letters of a flag group, with the flags that they give. A letter occurs
once, and so does the hyphen, which is not last. -/
def flagLetters? (flags : Flags) (on : Bool) (seen : List Char) :
    List Char → Option (Flags × Bool × List Char)
  | [] => none
  | ':' :: rest =>
      if seen.head? = some '-' then none
      else some (flags, !seen.isEmpty, ':' :: rest)
  | ')' :: rest =>
      if seen.head? = some '-' then none
      else some (flags, !seen.isEmpty, ')' :: rest)
  | '-' :: rest =>
      if seen.contains '-' then none
      else flagLetters? flags false ('-' :: seen) rest
  | c :: rest =>
      if seen.contains c then none
      else
        match flags.switch? c on with
        | some flags => flagLetters? flags on (c :: seen) rest
        | none => none

/-- The name of a group, up to its closing angle. -/
def groupName? (names : List String) (text : List Char) :
    Option (String × List Char) := do
  let name := text.takeWhile (· ≠ '>')
  let rest ←
    match text.dropWhile (· ≠ '>') with
    | _ :: rest => some rest
    | [] => none
  let first ← name.head?
  guard (first = '_' ∨ Text.isAlphabetic first)
  guard (name.all fun c =>
    c = '_' || c = '.' || c = '[' || c = ']' || Text.isAlphanumeric c)
  guard (!names.contains (String.ofList name))
  return (String.ofList name, rest)

/-- How a group opens: with flags for what follows, or with a body, which can be
recorded or not. -/
inductive Opening
  | switch (flags : Flags) (rest : List Char)
  | body (recorded : Bool) (state : State)

/-- The opening of a group, after the parenthesis. Look-around is refused. -/
def opening? (state : State) : Option Opening :=
  let text := skipIgnored state.flags.extended state.rest
  let named (rest : List Char) : Option Opening :=
    (groupName? state.names rest).map fun (name, rest) =>
      .body true { state with names := name :: state.names, rest := rest }
  match text with
  | '?' :: 'P' :: '<' :: rest => named rest
  | '?' :: '<' :: rest =>
      match rest with
      | '=' :: _ | '!' :: _ => none
      | _ => named rest
  | '?' :: rest =>
      match flagLetters? state.flags true [] rest with
      | some (flags, someFlags, ')' :: rest) =>
          if someFlags then some (.switch flags rest) else none
      | some (flags, _, _ :: rest) =>
          some (.body false { state with flags := flags, rest := rest })
      | _ => none
  | _ => some (.body true { state with rest := text })

/-- The expression of a group. -/
def groupOf (recorded : Bool) (body : Nested) : Nested :=
  ⟨if recorded then .group body.expression else body.expression, body.depth + 1⟩

/-- The greatest admitted depth of nested operators. -/
def depthLimit : Nat := 250

section Properties

variable [Properties]

mutual

/-- The alternatives from here to a closing parenthesis or the end, where
`before` holds the alternatives already read, last first. -/
def alternatives? (fuel : Nat) (before : List Nested) (state : State) :
    Option (Nested × State) :=
  match fuel with
  | 0 => none
  | fuel + 1 => do
      let (last, state) ← parts? fuel [] state
      match state.rest with
      | '|' :: rest =>
          alternatives? fuel (last :: before) { state with rest := rest }
      | _ =>
          match before with
          | [] => return (last, state)
          | _ => return (choiceOf (last :: before).reverse, state)

/-- The parts of a sequence, up to a bar, a closing parenthesis or the end. -/
def parts? (fuel : Nat) (parts : Parts) (state : State) :
    Option (Nested × State) :=
  match fuel with
  | 0 => none
  | fuel + 1 =>
      let flags := state.flags
      let repeating (least : Nat) (most : Option Nat) (rest : List Char) := do
        let (parts, state) ← repeatLast? least most parts state rest
        parts? fuel parts state
      match skipIgnored flags.extended state.rest with
      | [] => some (sequenceOf parts, { state with rest := [] })
      | '|' :: rest =>
          some (sequenceOf parts, { state with rest := '|' :: rest })
      | ')' :: rest =>
          some (sequenceOf parts, { state with rest := ')' :: rest })
      | '(' :: rest => do
          match ← opening? { state with rest := rest } with
          | .switch flags rest =>
              parts? fuel (none :: parts)
                { state with flags := flags, rest := rest }
          | .body recorded inner => do
              let (body, inner) ← alternatives? fuel [] inner
              match inner.rest with
              | ')' :: rest =>
                  parts? fuel (some (groupOf recorded body) :: parts)
                    { flags := flags, names := inner.names, rest := rest }
              | _ => none
      | '[' :: rest => do
          let (inner, rest) ← bracketed? flags fuel rest
          parts? fuel (some ⟨ofSet inner.characters, inner.depth⟩ :: parts)
            { state with rest := rest }
      | '?' :: rest => repeating 0 (some 1) rest
      | '*' :: rest => repeating 0 none rest
      | '+' :: rest => repeating 1 none rest
      | '\x7b' :: rest => do
          let (least, most, rest) ← counts? flags rest
          repeating least most rest
      | text => do
          let (symbol, rest) ← symbol? flags text
          parts? fuel
            (some ⟨symbol.expression flags, 0⟩ :: parts)
            { state with rest := rest }

end

/-- Read an expression. -/
def ofText? (text : String) : Option Regex := do
  let characters := text.toList
  let (result, state) ← alternatives? (2 * characters.length + 2) []
    ⟨Flags.initial, [], characters⟩
  guard (state.rest = [] ∧ result.depth ≤ depthLimit ∧
    result.expression.isAdmitted)
  return result.expression

end Properties

end Regex
end SearchQuery
