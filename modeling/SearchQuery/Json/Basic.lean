import SearchQuery.Binary64.Basic

/-!
# JSON values

A number is an integer or a finite binary number, and the two are kept apart:
`1` and `1.0` are different values. The members of an object keep the order in
which their keys first came, and a key occurs once.
-/

namespace SearchQuery

/-- A JSON value. -/
inductive Json
  | null
  | bool (value : Bool)
  | int (value : Int)
  | float (value : Binary64)
  | str (value : String)
  | arr (items : List Json)
  | obj (members : List (String × Json))
  deriving Inhabited

namespace Json

/-- Set a member: a key that is present keeps its place. -/
def insertMember (key : String) (value : Json) :
    List (String × Json) → List (String × Json)
  | [] => [(key, value)]
  | (otherKey, otherValue) :: rest =>
      if otherKey = key then (key, value) :: rest
      else (otherKey, otherValue) :: insertMember key value rest

/-- The object that results from setting members in turn. -/
def ofMembers (members : List (String × Json)) : Json :=
  .obj (members.foldl
    (fun object member => insertMember member.1 member.2 object) [])

/-- The value of a key, where the value is an object that has it. -/
def get? (key : String) : Json → Option Json
  | .obj members => members.lookup key
  | _ => none

/-- A number where it is finite, and `null` elsewhere. -/
def ofBinary64 (x : Binary64) : Json := if x.isFinite then .float x else .null

/-- A text, or `null` for none. -/
def ofText? : Option String → Json
  | some text => .str text
  | none => .null

/-- A natural number, or `null` for none. -/
def ofNat? : Option Nat → Json
  | some n => .int n
  | none => .null

mutual

/-- Equality of documents, where numbers compare as numbers and the members of
an object have no order. -/
def same : Json → Json → Bool
  | .null, .null => true
  | .bool a, .bool b => a == b
  | .int a, .int b => a == b
  | .float a, .float b => a.equals b
  | .str a, .str b => a == b
  | .arr a, .arr b => sameItems a b
  | .obj a, .obj b => a.length == b.length && sameMembers a b
  | _, _ => false

/-- Equality of lists of documents, item by item. -/
def sameItems : List Json → List Json → Bool
  | [], [] => true
  | a :: restA, b :: restB => same a b && sameItems restA restB
  | _, _ => false

/-- Every listed member has an equal one among `others`. -/
def sameMembers : List (String × Json) → List (String × Json) → Bool
  | [], _ => true
  | (key, value) :: rest, others =>
      (match others.lookup key with
        | some other => same value other
        | none => false) && sameMembers rest others

end

end Json

end SearchQuery
