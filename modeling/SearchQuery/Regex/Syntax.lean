import SearchQuery.Regex.CharSet

/-!
# Regular expressions

The abstract syntax of regular expressions over characters, with assertions
about the place between two characters. Groups and the preference of an operator
for short or long matches do not change which texts match, but they do change
how large an automaton for the expression is.
-/

namespace SearchQuery
namespace Regex

/-- A condition on a place in a text. The flag of a word condition restricts
words to ASCII. -/
inductive Assertion
  | textStart
  | textEnd
  | lineStart
  | lineEnd
  | returnLineStart
  | returnLineEnd
  | wordBoundary (ascii : Bool)
  | notWordBoundary (ascii : Bool)
  | wordStart (ascii : Bool)
  | wordEnd (ascii : Bool)
  | wordStartHalf (ascii : Bool)
  | wordEndHalf (ascii : Bool)
  deriving DecidableEq

end Regex

/-- A regular expression. A group records where its body matches. -/
inductive Regex
  | empty
  | literal (text : List Char)
  | set (characters : Regex.CharSet)
  | assertion (condition : Regex.Assertion)
  | repeated (least : Nat) (most : Option Nat) (greedy : Bool) (body : Regex)
  | group (body : Regex)
  | sequence (parts : List Regex)
  | choice (parts : List Regex)

namespace Regex

/-- Both values, combined where both are known. -/
def both (combine : Nat → Nat → Nat) (a b : Option Nat) : Option Nat :=
  a.bind fun x => b.map (combine x)

mutual

/-- The least number of characters in a match, for expressions that can
match. -/
def leastLength : Regex → Option Nat
  | .empty => some 0
  | .literal text => some text.length
  | .set characters => if characters.isEmpty then none else some 1
  | .assertion _ => some 0
  | .repeated least _ _ body => body.leastLength.map (· * least)
  | .group body => body.leastLength
  | .sequence parts => leastTotal parts
  | .choice [] => none
  | .choice (part :: rest) => leastOf part.leastLength rest

/-- The least number of characters in matches of all parts together. -/
def leastTotal : List Regex → Option Nat
  | [] => some 0
  | part :: rest => both (· + ·) part.leastLength (leastTotal rest)

/-- The least of a length and the lengths of the parts. -/
def leastOf (least : Option Nat) : List Regex → Option Nat
  | [] => least
  | part :: rest => leastOf (both min least part.leastLength) rest

end

mutual

/-- The greatest number of characters in a match, where there is one. -/
def greatestLength : Regex → Option Nat
  | .empty => some 0
  | .literal text => some text.length
  | .set characters => if characters.isEmpty then none else some 1
  | .assertion _ => some 0
  | .repeated _ most _ body => both (· * ·) body.greatestLength most
  | .group body => body.greatestLength
  | .sequence parts => greatestTotal parts
  | .choice [] => none
  | .choice (part :: rest) => greatestOf part.greatestLength rest

/-- The greatest number of characters in matches of all parts together. -/
def greatestTotal : List Regex → Option Nat
  | [] => some 0
  | part :: rest => both (· + ·) part.greatestLength (greatestTotal rest)

/-- The greatest of a length and the lengths of the parts. -/
def greatestOf (greatest : Option Nat) : List Regex → Option Nat
  | [] => greatest
  | part :: rest => greatestOf (both max greatest part.greatestLength) rest

end

/-- A match of the expression has no characters. -/
def matchesNoCharacter (expression : Regex) : Bool :=
  expression.greatestLength == some 0

mutual

/-- Every match begins with a condition, read off the form of the expression. -/
def startsWith (condition : Assertion) : Regex → Bool
  | .assertion other => other == condition
  | .group body => body.startsWith condition
  | .repeated least _ _ body => least != 0 && body.startsWith condition
  | .sequence parts => someStartsWith condition parts
  | .choice parts => allStartWith condition parts
  | _ => false

/-- A condition stands at the start of the parts, before any character. -/
def someStartsWith (condition : Assertion) : List Regex → Bool
  | [] => false
  | part :: rest =>
      part.startsWith condition ||
        (part.matchesNoCharacter && someStartsWith condition rest)

/-- Every part begins with a condition. -/
def allStartWith (condition : Assertion) : List Regex → Bool
  | [] => true
  | part :: rest => part.startsWith condition && allStartWith condition rest

end

mutual

/-- Every match ends with a condition, read off the form of the expression. -/
def endsWith (condition : Assertion) : Regex → Bool
  | .assertion other => other == condition
  | .group body => body.endsWith condition
  | .repeated least _ _ body => least != 0 && body.endsWith condition
  | .sequence parts => someEndsWith condition parts
  | .choice parts => allEndWith condition parts
  | _ => false

/-- A condition stands at the end of the parts, behind all characters. -/
def someEndsWith (condition : Assertion) : List Regex → Bool
  | [] => false
  | part :: rest =>
      someEndsWith condition rest ||
        (greatestTotal rest == some 0 && part.endsWith condition)

/-- Every part ends with a condition. -/
def allEndWith (condition : Assertion) : List Regex → Bool
  | [] => true
  | part :: rest => part.endsWith condition && allEndWith condition rest

end

mutual

/-- Two expressions have one form and record nothing, so that either can stand
for the other. -/
def agrees : Regex → Regex → Bool
  | .empty, .empty => true
  | .literal a, .literal b => a == b
  | .set a, .set b => a == b
  | .assertion a, .assertion b => a == b
  | .repeated least most greedy body, .repeated least' most' greedy' body' =>
      least == least' && most == most' && greedy == greedy' && body.agrees body'
  | .sequence parts, .sequence parts' => allAgree parts parts'
  | .choice parts, .choice parts' => allAgree parts parts'
  | _, _ => false

/-- The parts agree one by one. -/
def allAgree : List Regex → List Regex → Bool
  | [], [] => true
  | part :: rest, part' :: rest' => part.agrees part' && allAgree rest rest'
  | _, _ => false

end

end Regex
end SearchQuery
