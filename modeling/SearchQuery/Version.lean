import SearchQuery.Text.Numeral

/-!
# Order of version texts

A version is a core, and after the first hyphen a pre-release. Both are compared
part by part between their dots.
-/

namespace SearchQuery
namespace Version

/-- The order of texts by code point. -/
def textOrder (a b : String) : Ordering := compare a b

/-- The order of two parts: numbers by value and before all other parts, which
are ordered as texts. A part is a number where it fits 64 bits. -/
def partOrder (a b : List Char) : Ordering :=
  match Text.natural? (Nat.pow 2 64) a, Text.natural? (Nat.pow 2 64) b with
  | some n, some m => compare n m
  | some _, none => .lt
  | none, some _ => .gt
  | none, none => textOrder (String.ofList a) (String.ofList b)

/-- The order of two cores, where a missing part counts as zero. -/
def coreOrder : List (List Char) → List (List Char) → Ordering
  | [], [] => .eq
  | a :: restA, [] => (partOrder a ['0']).then (coreOrder restA [])
  | [], b :: restB => (partOrder ['0'] b).then (coreOrder [] restB)
  | a :: restA, b :: restB => (partOrder a b).then (coreOrder restA restB)

/-- The order of two pre-releases, where the one that ends first is less. -/
def preReleaseOrder : List (List Char) → List (List Char) → Ordering
  | [], [] => .eq
  | _ :: _, [] => .gt
  | [], _ :: _ => .lt
  | a :: restA, b :: restB => (partOrder a b).then (preReleaseOrder restA restB)

/-- The core of a version and its pre-release, if it has one. -/
def splitPreRelease (text : String) : List Char × Option (List Char) :=
  match Text.splitFirst? '-' text.toList with
  | some (core, preRelease) => (core, some preRelease)
  | none => (text.toList, none)

/-- The order of versions: by core, then a pre-release before the version
without one, then by pre-release. -/
def order (a b : String) : Ordering :=
  let (coreA, preA) := splitPreRelease a
  let (coreB, preB) := splitPreRelease b
  (coreOrder (Text.split '.' coreA) (Text.split '.' coreB)).then <|
    match preA, preB with
    | none, none => .eq
    | some _, none => .lt
    | none, some _ => .gt
    | some a, some b => preReleaseOrder (Text.split '.' a) (Text.split '.' b)

end Version
end SearchQuery
