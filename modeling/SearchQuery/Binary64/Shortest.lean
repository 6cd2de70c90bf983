import SearchQuery.Binary64.Rounding

/-!
# Shortest decimal digits

The decimal numeral with the fewest digits that reads back as a given number,
and among those the nearest one. The numbers that read back form an interval
around the given one; for each count of digits, only the two neighbours on that
decimal grid can be the nearest in it.
-/

namespace SearchQuery

/-- The decimal number `significand * 10 ^ exponent`. -/
structure Decimal where
  significand : Nat
  exponent : Int
  deriving DecidableEq

namespace Decimal

/-- Move the trailing zeros of the significand into the exponent. -/
def trimZeros (fuel : Nat) (value : Decimal) : Decimal :=
  match fuel with
  | 0 => value
  | fuel + 1 =>
      if value.significand ≠ 0 ∧ value.significand % 10 = 0 then
        trimZeros fuel ⟨value.significand / 10, value.exponent + 1⟩
      else value

end Decimal

namespace Binary64

/-- The significand of a finite magnitude, counted in its unit in the last
place. -/
def significand (magnitude : Nat) : Nat :=
  if magnitude < Nat.pow 2 52 then magnitude
  else Nat.pow 2 52 + magnitude % Nat.pow 2 52

/-- The exponent of the unit in the last place of a finite magnitude. -/
def exponent (magnitude : Nat) : Int :=
  leastExponent + ((magnitude / Nat.pow 2 52 - 1 : Nat) : Int)

/-- A magnitude and the ends of the interval that rounds to it, all counted in
one unit `1 / scale`, with the ends themselves in it or not. -/
structure Neighbourhood where
  value : Nat
  lower : Nat
  upper : Nat
  scale : Nat
  endsIncluded : Bool

/-- The interval that rounds to a positive finite magnitude. It reaches half a
unit to each side, and a quarter below a power of two, where the units get
finer. -/
def neighbourhood (magnitude : Nat) : Neighbourhood :=
  let m := significand magnitude
  let e := exponent magnitude
  let below := if m = Nat.pow 2 52 ∧ leastExponent < e then 1 else 2
  let factor := if 0 ≤ e then Nat.pow 2 e.toNat else 1
  { value := 4 * m * factor
    lower := (4 * m - below) * factor
    upper := (4 * m + 2) * factor
    scale := if 0 ≤ e then 4 else 4 * Nat.pow 2 (-e).toNat
    endsIncluded := m % 2 = 0 }

/-- The candidate `count * 10 ^ exponent` lies in the interval. -/
def Neighbourhood.holds (area : Neighbourhood) (count : Nat) (exponent : Int) :
    Bool :=
  let up := if 0 ≤ exponent then Nat.pow 10 exponent.toNat else 1
  let down := if 0 ≤ exponent then 1 else Nat.pow 10 (-exponent).toNat
  let candidate := count * up * area.scale
  if area.endsIncluded then
    area.lower * down ≤ candidate && candidate ≤ area.upper * down
  else
    area.lower * down < candidate && candidate < area.upper * down

/-- The nearest point of the interval on the grid of multiples of
`10 ^ exponent`, if there is one. A tie goes to the point above. -/
def Neighbourhood.nearest? (area : Neighbourhood) (exponent : Int) :
    Option Nat :=
  let up := if 0 ≤ exponent then Nat.pow 10 exponent.toNat else 1
  let down := if 0 ≤ exponent then 1 else Nat.pow 10 (-exponent).toNat
  let unit := up * area.scale
  let count := area.value * down / unit
  let left := area.value * down % unit
  let above := area.holds (count + 1) exponent
  if area.holds count exponent then
    some (if above && unit ≤ 2 * left then count + 1 else count)
  else if above then some (count + 1)
  else none

/-- Try ever finer grids, beginning with multiples of `10 ^ exponent`. -/
def Neighbourhood.search (area : Neighbourhood) : Nat → Int → Decimal
  | 0, exponent =>
      ⟨area.value * Nat.pow 10 (-exponent).toNat / area.scale, exponent⟩
  | fuel + 1, exponent =>
      match area.nearest? exponent with
      | some count => ⟨count, exponent⟩
      | none => area.search fuel (exponent - 1)

/-- An exponent of ten whose power is at least the value: every grid that can
hold a point of the interval is as fine as this one. -/
def Neighbourhood.topExponent (area : Neighbourhood) : Int :=
  let binary : Int := (area.value.log2 : Int) + 1 - area.scale.log2
  (binary * 30103).fdiv 100000 + 2

/-- The shortest decimal that reads back as a finite magnitude. -/
def shortest (magnitude : Nat) : Decimal :=
  if magnitude = 0 then ⟨0, 0⟩
  else
    let area := neighbourhood magnitude
    (area.search 24 area.topExponent).trimZeros 2

end Binary64
end SearchQuery
