/-!
# Sizes of automata

An automaton has states of one size, and some of them hold lists of branches
beside it. Expressions whose automaton would be too large are refused.
-/

namespace SearchQuery
namespace Regex

/-- The states of a part of an automaton, and the bytes that they hold in
lists. -/
structure Extent where
  states : Nat
  held : Nat
  deriving DecidableEq

namespace Extent

/-- No states. -/
def zero : Extent := ⟨0, 0⟩

/-- Both parts together. -/
def plus (a b : Extent) : Extent := ⟨a.states + b.states, a.held + b.held⟩

/-- States that hold no list. -/
def plain (count : Nat) : Extent := ⟨count, 0⟩

/-- The entries of a state that goes on without reading. -/
def links (count : Nat) : Extent := ⟨0, 4 * count⟩

/-- A state with a list of byte ranges to read. -/
def reader (ranges : Nat) : Extent := ⟨1, 8 * ranges⟩

/-- The number of bytes that the states take. -/
def bytes (extent : Extent) : Nat := 32 * extent.states + extent.held

/-- The greatest admitted number of bytes. -/
def limit : Nat := 10 * Nat.pow 2 20

/-- The size is admitted. -/
def fits (extent : Extent) : Bool := extent.bytes ≤ limit

end Extent
end Regex
end SearchQuery
