import SearchQuery.Regex.Syntax

/-!
# Expressions in normal form

The functions here build expressions and keep them simple. Sequences and choices
are flat and have at least two parts, neighbouring literals are one literal, a
choice between characters is a set, and what can only match the empty text is
repeated at most once.
-/

namespace SearchQuery
namespace Regex

/-- The expression that matches nothing. -/
def fail : Regex := .set .empty

/-- The expression of a set, where a single character is a literal. -/
def ofSet (characters : CharSet) : Regex :=
  match characters.single? with
  | some c => .literal [c]
  | none => .set characters

/-- Repeat an expression between two counts. -/
def times (least : Nat) (most : Option Nat) (greedy : Bool) (body : Regex) :
    Regex :=
  let (least, most) :=
    if body.matchesNoCharacter then (min least 1, some (min (most.getD 1) 1))
    else (least, most)
  if least = 0 ∧ most = some 0 then .empty
  else if least = 1 ∧ most = some 1 then body
  else .repeated least most greedy body

/-- The parts that an expression brings into a sequence. -/
def pieces : Regex → List Regex
  | .empty => []
  | .sequence parts => parts
  | expression => [expression]

/-- Put an expression before others, joined with a literal at their start. -/
def attach (expression : Regex) (parts : List Regex) : List Regex :=
  match expression, parts with
  | .literal text, .literal next :: rest => .literal (text ++ next) :: rest
  | _, _ => expression :: parts

/-- The expressions one after the other. -/
def concat (parts : List Regex) : Regex :=
  match (parts.flatMap pieces).foldr attach [] with
  | [] => .empty
  | [expression] => expression
  | parts => .sequence parts

/-- The parts that an expression brings into a choice. -/
def branches : Regex → List Regex
  | .choice parts => parts
  | expression => [expression]

/-- The character of a literal that has only one. -/
def character? : Regex → Option Char
  | .literal [c] => some c
  | _ => none

/-- The set that an expression is. -/
def set? : Regex → Option CharSet
  | .set characters => some characters
  | _ => none

/-- The parts of a sequence. -/
def sequence? : Regex → Option (List Regex)
  | .sequence parts => some parts
  | _ => none

/-- The characters of a choice between characters only, or between sets only. -/
def mergedSet? (parts : List Regex) : Option CharSet :=
  match parts.mapM character? with
  | some characters =>
      some (CharSet.ofRanges (characters.map fun c => (c.toNat, c.toNat)))
  | none => (parts.mapM set?).map fun sets => sets.foldr CharSet.union .empty

/-- The choice between expressions, each with the start that it has. -/
def choose (parts : List Regex) : Regex :=
  match parts.flatMap branches with
  | [] => fail
  | [expression] => expression
  | parts =>
      match mergedSet? parts with
      | some characters => ofSet characters
      | none => .choice parts

/-- The parts with which both of two sequences begin. -/
def commonStart : List Regex → List Regex → List Regex
  | a :: rest, b :: rest' =>
      if a.agrees b then a :: commonStart rest rest' else []
  | _, _ => []

/-- The choice between expressions, where sequences with a common start have it
in front of the choice. -/
def alternate (parts : List Regex) : Regex :=
  match (parts.flatMap branches).mapM sequence? with
  | some (first :: next :: rest) =>
      let start := (next :: rest).foldl commonStart first
      if start.isEmpty then choose parts
      else
        let tails := (first :: next :: rest).map fun parts =>
          concat (parts.drop start.length)
        concat (start ++ [choose tails])
  | _ => choose parts

end Regex
end SearchQuery
