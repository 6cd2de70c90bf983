import SearchQuery.Regex.Syntax

/-!
# Matching

An expression takes the places of a text where a match may begin to the places
where it may then end. Both are decreasing lists, because a repetition mostly
adds places behind those it has. A repetition without an upper count goes on
from new places until there are none, and there are no more rounds than places.
-/

namespace SearchQuery
namespace Regex

/-- A character is part of a word. -/
def isWord (ascii : Bool) (c : Char) : Bool :=
  if ascii then c.isAlphanum || c = '_' else Text.isWordCharacter c

/-- The character in front of a place. -/
def before? (text : Array Char) (place : Nat) : Option Char :=
  match place with
  | 0 => none
  | place + 1 => text[place]?

/-- The character in front of a place is part of a word. -/
def wordBefore (ascii : Bool) (text : Array Char) (place : Nat) : Bool :=
  (before? text place).any (isWord ascii)

/-- The character behind a place is part of a word. -/
def wordAfter (ascii : Bool) (text : Array Char) (place : Nat) : Bool :=
  (text[place]?).any (isWord ascii)

/-- The condition holds at a place of a text. -/
def Assertion.holds (text : Array Char) (place : Nat) : Assertion → Bool
  | .textStart => place == 0
  | .textEnd => place == text.size
  | .lineStart => place == 0 || before? text place == some '\n'
  | .lineEnd => place == text.size || text[place]? == some '\n'
  | .returnLineStart =>
      place == 0 || before? text place == some '\n' ||
        (before? text place == some '\r' && text[place]? != some '\n')
  | .returnLineEnd =>
      place == text.size || text[place]? == some '\r' ||
        (text[place]? == some '\n' && before? text place != some '\r')
  | .wordBoundary ascii =>
      wordBefore ascii text place != wordAfter ascii text place
  | .notWordBoundary ascii =>
      wordBefore ascii text place == wordAfter ascii text place
  | .wordStart ascii =>
      !wordBefore ascii text place && wordAfter ascii text place
  | .wordEnd ascii => wordBefore ascii text place && !wordAfter ascii text place
  | .wordStartHalf ascii => !wordBefore ascii text place
  | .wordEndHalf ascii => !wordAfter ascii text place

/-- The places of two decreasing lists, each once. -/
def merge : List Nat → List Nat → List Nat
  | [], second => second
  | first, [] => first
  | a :: rest, b :: rest' =>
      if b < a then a :: merge rest (b :: rest')
      else if a < b then b :: merge (a :: rest) rest'
      else a :: merge rest rest'

/-- The places of a decreasing list that are not in another. -/
def without : List Nat → List Nat → List Nat
  | [], _ => []
  | first, [] => first
  | a :: rest, b :: rest' =>
      if b < a then a :: without rest (b :: rest')
      else if a < b then without (a :: rest) rest'
      else without rest rest'

/-- The places behind a character that satisfies a condition. -/
def advance (text : Array Char) (holds : Char → Bool) (places : List Nat) :
    List Nat :=
  (places.filter fun place => (text[place]?).any holds).map (· + 1)

/-- Apply a step a number of times, or until it changes nothing. -/
def iterate (step : List Nat → List Nat) : Nat → List Nat → List Nat
  | 0, places => places
  | count + 1, places =>
      let next := step places
      if next = places then places else iterate step count next

/-- Add to the places reached so far those that a step reaches from the last new
ones, at most a number of times. -/
def grow (step : List Nat → List Nat) : Nat → List Nat → List Nat → List Nat
  | 0, reached, _ => reached
  | count + 1, reached, last =>
      match without (step last) reached with
      | [] => reached
      | new => grow step count (merge new reached) new

mutual

/-- The places where a match can end, from the places where it can begin. -/
def ends (text : Array Char) : Regex → List Nat → List Nat
  | .empty, places => places
  | .literal characters, places =>
      characters.foldl (fun places c => advance text (· == c) places) places
  | .set characters, places => advance text characters.contains places
  | .assertion condition, places =>
      places.filter fun place => condition.holds text place
  | .repeated least most _ body, places =>
      let rounds :=
        match most with
        | some most => most - least
        | none => text.size + 1
      let first := iterate (body.ends text) least places
      grow (body.ends text) rounds first first
  | .group body, places => body.ends text places
  | .sequence parts, places => endsOfAll text parts places
  | .choice parts, places => endsOfSome text parts places

/-- The places where matches of all parts, one after the other, can end. -/
def endsOfAll (text : Array Char) : List Regex → List Nat → List Nat
  | [], places => places
  | part :: rest, places => endsOfAll text rest (part.ends text places)

/-- The places where a match of some part can end. -/
def endsOfSome (text : Array Char) : List Regex → List Nat → List Nat
  | [], _ => []
  | part :: rest, places =>
      merge (part.ends text places) (endsOfSome text rest places)

end

/-- Some part of the text matches. -/
def isMatch (expression : Regex) (text : String) : Bool :=
  let characters := text.toList.toArray
  !(expression.ends characters
    (List.range (characters.size + 1)).reverse).isEmpty

end Regex
end SearchQuery
