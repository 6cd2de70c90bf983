import SearchQuery.Json.Basic

/-!
# Allowed edit distance

How many edits a fuzzy condition allows: a fixed number, or one that grows with
the length of the term.
-/

namespace SearchQuery

/-- The allowance of edits. `auto` allows none below `low` characters, one below
`high`, and two from there. -/
inductive Fuzziness
  | distance (edits : UInt8)
  | auto (low high : UInt8)
  deriving DecidableEq

namespace Fuzziness

/-- The allowance where none is given. -/
def standard : Fuzziness := .auto 3 6

/-- The edits allowed in a term of the given length. -/
def editsFor (length : Nat) : Fuzziness → Nat
  | .distance edits => edits.toNat
  | .auto low high =>
      if length < low.toNat then 0
      else if length < high.toNat then 1
      else 2

/-- The allowance in a search document. -/
def toJson : Fuzziness → Json
  | .distance edits => .int edits.toNat
  | .auto low high =>
      .str ("AUTO:" ++ toString low.toNat ++ "," ++ toString high.toNat)

end Fuzziness
end SearchQuery
