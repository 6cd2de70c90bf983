import Std.Data.HashMap
import SearchQuery.Regex.ByteSequence
import SearchQuery.Regex.LiteralTrie
import SearchQuery.Regex.Normal

/-!
# Automata of expressions

An expression is searched for with two automata over bytes, one that reads
forward and one that reads backward. This module follows their construction as
far as it decides how large they become. Repetitions with counts are written
out, and states for the bytes of a set are shared where a table of bounded size
remembers them.
-/

namespace SearchQuery
namespace Regex

/-- The direction in which an automaton reads. -/
inductive Direction
  | forward
  | backward
  deriving DecidableEq

/-- What is built so far, and whether it ends in a fork, which takes a further
link to go on. -/
structure Piece where
  extent : Extent
  endsInFork : Bool

namespace Piece

/-- Go on behind a piece. -/
def linked (piece : Piece) : Extent :=
  if piece.endsInFork then piece.extent.plus (.links 1) else piece.extent

/-- Go on behind a piece to a state of its own. -/
def closed (piece : Piece) : Piece := ⟨piece.linked.plus (.plain 1), false⟩

end Piece

/-- A table of states by what they are for. A key has one place in the table,
where it drives out the key before it. -/
structure StateTable where
  places : Nat
  entries : Std.HashMap Nat (List Nat × Nat)

namespace StateTable

/-- A table without states. -/
def empty (places : Nat) : StateTable := ⟨places, ∅⟩

/-- The hash of no numbers. -/
def hashStart : UInt64 := 14695981039346656037

/-- The prime that spreads each number over the hash. -/
def hashPrime : UInt64 := 1099511628211

/-- A hash of numbers: each is added without carry, and the sum multiplied by a
prime. -/
def hash (key : List Nat) : UInt64 :=
  key.foldl
    (fun hash number => (hash ^^^ number.toUInt64) * hashPrime) hashStart

/-- The place of a key. -/
def placeOf (table : StateTable) (key : List Nat) : Nat :=
  (hash key).toNat % table.places

/-- The state of a key, where the table remembers it. -/
def find? (table : StateTable) (key : List Nat) : Option Nat :=
  match table.entries[table.placeOf key]? with
  | some (other, state) => if other = key then some state else none
  | none => none

/-- Remember the state of a key. -/
def remember (table : StateTable) (key : List Nat) (state : Nat) : StateTable :=
  { table with
    entries := table.entries.insert (table.placeOf key) (key, state) }

end StateTable

/-- The states for a set while they are being built. -/
structure SharedStates where
  extent : Extent
  table : StateTable

namespace SharedStates

/-- The state of a key, built with an extent of one state where the table does
not have it. -/
def obtain (shared : SharedStates) (key : List Nat) (state : Extent) :
    Nat × SharedStates :=
  match shared.table.find? key with
  | some found => (found, shared)
  | none =>
      let number := shared.extent.states
      (number, ⟨shared.extent.plus state, shared.table.remember key number⟩)

end SharedStates

/-- Sequences by their first byte ranges, where neighbours with one first range
come together. -/
def byHead (sequences : List (List ByteRange)) :
    List (ByteRange × List (List ByteRange)) :=
  sequences.foldr
    (fun bytes groups =>
      match bytes with
      | [] => groups
      | head :: tail =>
          match groups with
          | (next, tails) :: rest =>
              if next = head then (next, tail :: tails) :: rest
              else (head, [tail]) :: groups
          | [] => [(head, [tail])])
    []

/-- Build the state that reads some sequences of byte ranges up to a target. The
states behind it are built first, and a state that reads the same to the same
states is shared. -/
def readForward (target : Nat) : Nat → List (List ByteRange) → SharedStates →
    Nat × SharedStates
  | 0, _, shared => (target, shared)
  | width + 1, sequences, shared =>
      if sequences.any List.isEmpty then (target, shared)
      else
        let (key, shared) := (byHead sequences).foldl
          (fun ((key, shared) : List Nat × SharedStates) (head, tails) =>
            let (next, shared) := readForward target width tails shared
            (next :: head.2 :: head.1 :: key, shared))
          ([], shared)
        shared.obtain key.reverse (.reader (key.length / 3))

/-- Build the states that read sequences of byte ranges backward, each linked
from a fork. States that read the same to one state are shared. -/
def readBackward (target : Nat) (sequences : List (List ByteRange))
    (shared : SharedStates) :
    SharedStates :=
  sequences.foldl
    (fun shared bytes =>
      let (_, shared) := bytes.foldl
        (fun ((next, shared) : Nat × SharedStates) range =>
          shared.obtain [next, range.1, range.2] (.plain 1))
        (target, shared)
      { shared with extent := shared.extent.plus (.links 1) })
    shared

/-- The greatest number of bytes of a character. -/
def greatestWidth : Nat := 4

/-- The places of the table for states that read forward. -/
def forwardPlaces : Nat := 10000

/-- The places of the table for states that read backward. -/
def backwardPlaces : Nat := 1000

/-- The states for a set of characters. -/
def setExtent (direction : Direction) (set : CharSet) (extent : Extent) :
    Extent :=
  if set.isAscii then (extent.plus (.plain 1)).plus (.reader set.ranges.length)
  else
    match direction with
    | .forward =>
        let shared : SharedStates :=
          ⟨extent.plus (.plain 1), .empty forwardPlaces⟩
        (readForward extent.states greatestWidth set.byteSequences
          shared).2.extent
    | .backward =>
        let shared : SharedStates :=
          ⟨extent.plus (.plain 2), .empty backwardPlaces⟩
        (readBackward (extent.states + 1) set.byteSequences shared).extent

/-- Add copies of a part, one after the other, while the size is admitted. -/
def copies (part : Extent → Piece) : Nat → Piece → Piece
  | 0, piece => piece
  | count + 1, piece =>
      if piece.extent.fits then copies part count (part piece.linked) else piece

/-- Add copies of a part, each of which can be left out with all that follow,
while the size is admitted. -/
def optionalCopies (part : Extent → Piece) : Nat → Piece → Piece
  | 0, piece => piece
  | count + 1, piece =>
      if piece.extent.fits then
        optionalCopies part count
          (part ((piece.linked.plus (.plain 1)).plus (.links 2)))
      else piece

/-- A number of copies of a part, or a state of its own for none. -/
def exactly (part : Extent → Piece) (count : Nat) (extent : Extent) : Piece :=
  match count with
  | 0 => ⟨extent.plus (.plain 1), false⟩
  | count => copies part count ⟨extent, false⟩

/-- A repetition without an upper count. A body that can match the empty text
needs a way around it of its own. -/
def atLeast (part : Extent → Piece) (canBeEmpty : Bool) (least : Nat)
    (extent : Extent) :
    Piece :=
  match least with
  | 0 =>
      if canBeEmpty then
        ⟨((part extent).linked.plus (.plain 3)).plus (.links 4), false⟩
      else
        let body := part (extent.plus (.plain 1))
        ⟨body.linked.plus (.links 1), true⟩
  | 1 => ⟨((part extent).linked.plus (.plain 1)).plus (.links 1), true⟩
  | least + 1 =>
      let before := exactly part least extent
      ⟨((part before.linked).linked.plus (.plain 1)).plus (.links 1), true⟩

/-- A repetition between two counts. -/
def between (part : Extent → Piece) (least most : Nat) (extent : Extent) :
    Piece :=
  if least = most then exactly part least extent
  else if least = 0 ∧ most = 1 then
    let body := part (extent.plus (.plain 1))
    ⟨(body.linked.plus (.plain 1)).plus (.links 2), false⟩
  else
    let before := exactly part least extent
    let start : Piece := ⟨before.extent.plus (.plain 1), before.endsInFork⟩
    ⟨(optionalCopies part (most - least) start).linked, false⟩

/-- The text of a literal. -/
def literal? : Regex → Option (List Char)
  | .literal text => some text
  | _ => none

/-- The bytes of a text in UTF-8. -/
def encodeText (text : List Char) : List Nat :=
  text.flatMap fun c => encode c.toNat

/-- The states for a choice between literals. -/
def literalsExtent (direction : Direction) (literals : List (List Char)) :
    Extent :=
  let bytes :=
    match direction with
    | .forward => literals.map encodeText
    | .backward => literals.map fun text => (encodeText text).reverse
  (Extent.plain 1).plus (LiteralTrie.ofLiterals bytes).extent

mutual

/-- Add the states for an expression. -/
def build (direction : Direction) : Regex → Extent → Piece
  | .empty, extent => ⟨extent.plus (.plain 1), false⟩
  | .literal text, extent =>
      ⟨extent.plus (.plain (encodeText text).length), false⟩
  | .set characters, extent => ⟨setExtent direction characters extent, false⟩
  | .assertion _, extent => ⟨extent.plus (.plain 1), false⟩
  | .repeated least most _ body, extent =>
      match most with
      | some most => between (body.build direction) least most extent
      | none =>
          let canBeEmpty := body.leastLength.all (· = 0)
          atLeast (body.build direction) canBeEmpty least extent
  | .group body, extent =>
      match direction with
      | .forward => (body.build direction (extent.plus (.plain 1))).closed
      | .backward => body.build direction extent
  | .sequence parts, extent =>
      match direction with
      | .forward => buildForward direction parts ⟨extent, false⟩
      | .backward => buildBackward direction parts ⟨extent, false⟩
  | .choice parts, extent =>
      match parts.mapM literal? with
      | some literals =>
          ⟨extent.plus (literalsExtent direction literals), false⟩
      | none => ⟨buildChoice direction 0 parts extent, false⟩

/-- Add the states for parts, from the first to the last. -/
def buildForward (direction : Direction) : List Regex → Piece → Piece
  | [], piece => piece
  | part :: rest, piece =>
      buildForward direction rest (part.build direction piece.linked)

/-- Add the states for parts, from the last to the first. -/
def buildBackward (direction : Direction) : List Regex → Piece → Piece
  | [], piece => piece
  | part :: rest, piece =>
      part.build direction (buildBackward direction rest piece).linked

/-- Add the states for the parts of a choice, with a fork and a common end after
the second. -/
def buildChoice (direction : Direction) (before : Nat) :
    List Regex → Extent → Extent
  | [], extent => extent
  | part :: rest, extent =>
      let extent := (part.build direction extent).linked.plus (.links 1)
      buildChoice direction (before + 1) rest
        (if before = 1 then extent.plus (.plain 2) else extent)

end

/-- The start of an automaton: a search that can begin anywhere first skips
bytes. -/
def startExtent (direction : Direction) (expression : Regex) : Extent :=
  let fixed :=
    match direction with
    | .forward => expression.startsWith .textStart
    | .backward => expression.endsWith .textEnd
  if fixed then .plain 1 else (Extent.plain 3).plus (.links 4)

/-- The size of an automaton for an expression. The automaton that reads forward
records where the match begins and ends. -/
def automatonExtent (direction : Direction) (expression : Regex) : Extent :=
  let start := expression.startExtent direction
  match direction with
  | .forward =>
      (expression.build direction (start.plus (.plain 1))).closed.closed.extent
  | .backward => (expression.build direction start).closed.extent

/-- The automata for an expression are of an admitted size. -/
def isAdmitted (expression : Regex) : Bool :=
  (expression.automatonExtent .forward).fits &&
    (expression.automatonExtent .backward).fits

end Regex
end SearchQuery
