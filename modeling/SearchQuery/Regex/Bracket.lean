import SearchQuery.Regex.Symbol

/-!
# Sets in brackets

A set in brackets lists characters, ranges, classes and sets in brackets of
their own. The operators `&&`, `--` and `~~` stand between such lists and
associate to the left. How deeply brackets and operators are nested is part of
what is read.
-/

namespace SearchQuery
namespace Regex

/-- A set with the depth to which brackets and operators are nested in it. -/
structure NestedSet where
  characters : CharSet
  depth : Nat

/-- The operators between the operands of a bracketed set. -/
inductive SetOperator
  | inter
  | difference
  | symmetricDifference

/-- What an operator makes of two sets. -/
def SetOperator.apply : SetOperator → CharSet → CharSet → CharSet
  | .inter, a, b => a.inter b
  | .difference, a, b => a.difference b
  | .symmetricDifference, a, b => a.symmetricDifference b

/-- What a bracketed set holds so far: the operands before the last operator
with that operator, and the items behind it, with their number and the greatest
depth in one. -/
structure SetState where
  before : Option (NestedSet × SetOperator)
  items : CharSet
  count : Nat
  depth : Nat

namespace SetState

/-- No items. -/
def empty : SetState := ⟨none, .empty, 0, 0⟩

/-- Take an item into the set that is being read. -/
def add (state : SetState) (item : NestedSet) : SetState :=
  { state with
    items := state.items.union item.characters
    count := state.count + 1
    depth := max state.depth item.depth }

/-- Take characters into the set that is being read. -/
def addCharacters (state : SetState) (characters : CharSet) : SetState :=
  state.add ⟨characters, 0⟩

/-- The value of all operands. Two items or more are nested in a list, and two
operands in their operator. -/
def value (flags : Flags) (state : SetState) : NestedSet :=
  let depth := if state.count < 2 then state.depth else state.depth + 1
  match state.before with
  | none => ⟨state.items, depth⟩
  | some (left, operator) =>
      ⟨operator.apply (flags.applyCase left.characters)
        (flags.applyCase state.items),
        max left.depth depth + 1⟩

/-- Close the operand and begin the next one. -/
def operator (flags : Flags) (state : SetState) (operator : SetOperator) :
    SetState :=
  { empty with before := some (state.value flags, operator) }

/-- The whole set, which can be negated only with Unicode. -/
def close? (flags : Flags) (negated : Bool) (state : SetState) :
    Option NestedSet :=
  let value := state.value flags
  let characters := flags.applyCase value.characters
  if !negated then some ⟨characters, value.depth + 1⟩
  else if flags.unicode then some ⟨characters.complement, value.depth + 1⟩
  else none

end SetState

/-- An item of a bracketed set. -/
def setItem? [Properties] (flags : Flags) :
    List Char → Option (Symbol × List Char)
  | [] => none
  | '\\' :: rest => escape? flags rest
  | c :: rest => some (.literal c, rest)

/-- The set of an item. Without Unicode an item is inside ASCII. -/
def Symbol.itemSet? (flags : Flags) : Symbol → Option CharSet
  | .literal c =>
      if flags.unicode ∨ c.toNat < 0x80 then some (.single c) else none
  | .set characters => some characters
  | .assertion _ => none

/-- The character that decides, behind a hyphen, whether a range follows. Blanks
and the mark of a comment do not count, but the text of a comment does. -/
def decidingCharacter? (extended : Bool) (text : List Char) : Option Char :=
  if !extended then text.head?
  else
    match Text.trimLeft text with
    | [] => text.head?
    | '#' :: comment => (Text.trimLeft comment).head?.or text.head?
    | c :: _ => some c

/-- An item, or a range between two characters. A hyphen before the closing
bracket or before another hyphen makes no range. -/
def setRange? [Properties] (flags : Flags) (text : List Char) :
    Option (CharSet × List Char) := do
  let (first, rest) ← setItem? flags text
  let rest := skipIgnored flags.extended rest
  let alone : Option (CharSet × List Char) :=
    (first.itemSet? flags).map fun characters => (characters, rest)
  match rest with
  | [] => none
  | '-' :: more => do
      let next ← decidingCharacter? flags.extended more
      if next = ']' ∨ next = '-' then alone
      else
        let (last, rest) ← setItem? flags (skipIgnored flags.extended more)
        match first, last with
        | .literal a, .literal b =>
            guard (a ≤ b ∧ (flags.unicode ∨ b.toNat < 0x80))
            return (.interval a b, rest)
        | _, _ => none
  | _ => alone

/-- A named set in brackets and colons. -/
structure NamedSet where
  characters : CharSet
  negated : Bool

/-- The set under the current modes, which can be negated only with Unicode. -/
def NamedSet.value? (flags : Flags) (named : NamedSet) : Option CharSet :=
  let characters := flags.applyCase named.characters
  if !named.negated then some characters
  else if flags.unicode then some characters.complement
  else none

/-- A named set in brackets and colons, after the bracket. A name that is not
known is no named set, and the bracket then opens a set like any other. -/
def namedSet? : List Char → Option (NamedSet × List Char)
  | ':' :: text => do
      let (negated, text) :=
        match text with
        | '^' :: rest => (true, rest)
        | _ => (false, text)
      let name := text.takeWhile (· ≠ ':')
      let rest ←
        match text.dropWhile (· ≠ ':') with
        | ':' :: ']' :: rest => some rest
        | _ => none
      let characters ← CharSet.named? (String.ofList name)
      return (⟨characters, negated⟩, rest)
  | _ => none

/-- The set with the hyphens at the start of a text, and the text after them. -/
def leadingHyphens (extended : Bool) (state : SetState) (text : List Char) :
    SetState × List Char :=
  match text with
  | '-' :: rest =>
      leadingHyphens extended (state.addCharacters (.single '-'))
        (skipIgnored extended rest)
  | text => (state, text)
termination_by text.length
decreasing_by
  have := length_skipIgnored_le extended rest
  simp only [List.length_cons]
  omega

/-- What stands between the brackets of a set, after the opening bracket: an
optional negation, then hyphens or a closing bracket that stand for
themselves. -/
def setOpening (flags : Flags) (text : List Char) :
    Bool × SetState × List Char :=
  let text := skipIgnored flags.extended text
  let (negated, text) :=
    match text with
    | '^' :: rest => (true, skipIgnored flags.extended rest)
    | _ => (false, text)
  match text with
  | ']' :: rest =>
      (negated, SetState.empty.addCharacters (.single ']'),
        skipIgnored flags.extended rest)
  | _ => (negated, leadingHyphens flags.extended .empty text)

/-- The rest of a bracketed set, up to its closing bracket. The fuel bounds the
number of items and brackets, and the length of the text is enough of it. -/
def setBody? [Properties] (flags : Flags) (negated : Bool) :
    Nat → SetState → List Char → Option (NestedSet × List Char)
  | 0, _, _ => none
  | fuel + 1, state, text =>
      match skipIgnored flags.extended text with
      | [] => none
      | '[' :: rest =>
          match namedSet? rest with
          | some (named, rest) => do
              setBody? flags negated fuel
                (state.addCharacters (← named.value? flags)) rest
          | none => do
              let (innerNegated, innerState, more) := setOpening flags rest
              let (inner, rest) ← setBody? flags innerNegated fuel
                  innerState more
              setBody? flags negated fuel (state.add inner) rest
      | ']' :: rest => (state.close? flags negated).map fun set => (set, rest)
      | '&' :: '&' :: rest =>
          setBody? flags negated fuel (state.operator flags .inter) rest
      | '-' :: '-' :: rest =>
          setBody? flags negated fuel (state.operator flags .difference) rest
      | '~' :: '~' :: rest =>
          setBody? flags negated fuel
            (state.operator flags .symmetricDifference) rest
      | text => do
          let (characters, rest) ← setRange? flags text
          setBody? flags negated fuel (state.addCharacters characters) rest

/-- A set, after its opening bracket, with fuel of more than the length of the
text. -/
def bracketed? [Properties] (flags : Flags) (fuel : Nat) (text : List Char) :
    Option (NestedSet × List Char) :=
  let (negated, state, rest) := setOpening flags text
  setBody? flags negated fuel state rest

end Regex
end SearchQuery
