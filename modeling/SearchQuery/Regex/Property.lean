import SearchQuery.Regex.CharSet

/-!
# Properties of characters

An expression can name a set of characters by a property that they have, or by
the value that a property has for them. Which sets these are is a standard of
its own, and the reader of expressions works with any table of them.
-/

namespace SearchQuery
namespace Regex

/-- A question for the characters with a property, or with a value of one. -/
inductive PropertyQuery
  | having (property : String)
  | withValue (property value : String)
  deriving DecidableEq

/-- A table of the sets that properties and their values name. -/
class Properties where
  characters? : PropertyQuery → Option CharSet

/-- The characters before and behind the first place of a mark. -/
def cutAt? (mark : List Char) : List Char → Option (List Char × List Char)
  | [] => none
  | c :: rest =>
      if mark.isPrefixOf (c :: rest) then
        some ([], (c :: rest).drop mark.length)
      else (cutAt? mark rest).map fun (front, behind) => (c :: front, behind)

/-- The question that stands in braces, and whether it is for the other
characters. -/
def PropertyQuery.read (text : List Char) : Bool × PropertyQuery :=
  let valued (parts : List Char × List Char) :=
    withValue (String.ofList parts.1) (String.ofList parts.2)
  match cutAt? ['!', '='] text, cutAt? [':'] text, cutAt? ['='] text with
  | some parts, _, _ => (true, valued parts)
  | none, some parts, _ => (false, valued parts)
  | none, none, some parts => (false, valued parts)
  | none, none, none => (false, having (String.ofList text))

end Regex
end SearchQuery
