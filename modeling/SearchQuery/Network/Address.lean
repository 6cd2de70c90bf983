import SearchQuery.Text.Numeral

/-!
# Network addresses

An address has 32 or 128 bits. It is read and written in dotted decimal or in
groups of hexadecimal digits, where the written form leaves out the first of the
longest runs of at least two zero groups.
-/

namespace SearchQuery

/-- An address of either version of the protocol. -/
inductive Address
  | v4 (bits : BitVec 32)
  | v6 (bits : BitVec 128)
  deriving DecidableEq

namespace Address

/-- How many bits the address has. -/
def width : Address → Nat
  | .v4 _ => 32
  | .v6 _ => 128

/-- The address as a number, its first bit the highest. -/
def toNat : Address → Nat
  | .v4 bits => bits.toNat
  | .v6 bits => bits.toNat

/-- The digits of a number of at most `most` digits in a base. -/
def takeNumber? (base most : Nat) (text : List Char) :
    Option (List Nat × List Char) :=
  let value (c : Char) : Option Nat :=
    let digit :=
      if c.isDigit then some (c.toNat - '0'.toNat)
      else if 'a' ≤ c ∧ c ≤ 'f' then some (c.toNat - 'a'.toNat + 10)
      else if 'A' ≤ c ∧ c ≤ 'F' then some (c.toNat - 'A'.toNat + 10)
      else none
    digit.filter (· < base)
  let taken := text.takeWhile fun c => (value c).isSome
  if taken ≠ [] ∧ taken.length ≤ most then
    some (taken.filterMap value, text.drop taken.length)
  else none

/-- The number with the given digits. -/
def ofDigits (base : Nat) (digits : List Nat) : Nat :=
  digits.foldl (fun value digit => value * base + digit) 0

/-- A decimal byte without leading zeros. -/
def takeByte? (text : List Char) : Option (Nat × List Char) := do
  let (digits, rest) ← takeNumber? 10 3 text
  guard (digits.length = 1 ∨ digits.head? ≠ some 0)
  let value := ofDigits 10 digits
  guard (value < 256)
  return (value, rest)

/-- A separator, then what is read after it; nothing comes before the first. -/
def afterSeparator? (separator : Char) (isFirst : Bool) (text : List Char) :
    Option (List Char) :=
  if isFirst then some text
  else
    match text with
    | c :: rest => if c = separator then some rest else none
    | [] => none

/-- An address in dotted decimal, with the rest. -/
def takeDotted? (text : List Char) : Option (Nat × List Char) := do
  let (a, text) ← takeByte? text
  let (b, text) ← takeByte? (← afterSeparator? '.' false text)
  let (c, text) ← takeByte? (← afterSeparator? '.' false text)
  let (d, text) ← takeByte? (← afterSeparator? '.' false text)
  return (((a * 256 + b) * 256 + c) * 256 + d, text)

/-- A group of one to four hexadecimal digits. -/
def takeGroup? (text : List Char) : Option (Nat × List Char) :=
  (takeNumber? 16 4 text).map fun (digits, rest) => (ofDigits 16 digits, rest)

/-- What a run of groups holds: the groups, whether a dotted part ended it, and
the text after it. -/
structure Groups where
  values : List Nat
  endsDotted : Bool
  rest : List Char

/-- Read at most `room` groups with colons between them. Where two groups have
room, a dotted part may stand for the last two. -/
def takeGroups (isFirst : Bool) : Nat → List Char → Groups
  | 0, text => ⟨[], false, text⟩
  | room + 1, text =>
      let after := afterSeparator? ':' isFirst text
      match (if 1 ≤ room then after.bind takeDotted? else none) with
      | some (value, rest) => ⟨[value / 65536, value % 65536], true, rest⟩
      | none =>
          match after.bind takeGroup? with
          | some (value, rest) =>
              let groups := takeGroups false room rest
              { groups with values := value :: groups.values }
          | none => ⟨[], false, text⟩

/-- Groups of hexadecimal digits. Where fewer than eight are written, a double
colon stands for the zero groups that are left out, at least one. -/
def takeColons? (text : List Char) : Option (List Nat × List Char) :=
  let head := takeGroups true 8 text
  if head.values.length = 8 then some (head.values, head.rest)
  else if head.endsDotted then none
  else
    match head.rest with
    | ':' :: ':' :: rest =>
        let tail := takeGroups true (7 - head.values.length) rest
        let zeros := 8 - head.values.length - tail.values.length
        some (head.values ++ List.replicate zeros 0 ++ tail.values, tail.rest)
    | _ => none

/-- Read a text that is one address. -/
def ofText? (text : List Char) : Option Address :=
  match takeDotted? text with
  | some (value, rest) =>
      if rest = [] then some (.v4 (BitVec.ofNat 32 value)) else none
  | none =>
      match takeColons? text with
      | some (groups, []) =>
          some (.v6 (BitVec.ofNat 128 (ofDigits 65536 groups)))
      | _ => none

/-- The dotted decimal text of 32 bits. -/
def dotted (bits : Nat) : List Char :=
  let byte (shift : Nat) := Nat.toDigits 10 (bits / Nat.pow 2 shift % 256)
  byte 24 ++ '.' :: byte 16 ++ '.' :: byte 8 ++ '.' :: byte 0

/-- The eight groups of 128 bits. -/
def groups (bits : Nat) : List Nat :=
  [112, 96, 80, 64, 48, 32, 16, 0].map fun shift =>
    bits / Nat.pow 2 shift % 65536

/-- The groups in hexadecimal with colons between them. -/
def joined : List Nat → List Char
  | [] => []
  | [group] => Nat.toDigits 16 group
  | group :: rest => Nat.toDigits 16 group ++ ':' :: joined rest

/-- The first of the longest runs of zeros, as position and length. -/
def longestZeros (values : List Nat) : Nat × Nat :=
  let runs := (List.range values.length).map fun start =>
    (start, ((values.drop start).takeWhile (· == 0)).length)
  runs.foldl (fun best run => if best.2 < run.2 then run else best) (0, 0)

/-- The text of an address. The addresses that embed one of 32 bits behind
`ffff` show it in dotted decimal. -/
def text : Address → List Char
  | .v4 bits => dotted bits.toNat
  | .v6 bits =>
      let values := groups bits.toNat
      if bits.toNat / Nat.pow 2 32 = 0xFFFF then
        ':' :: ':' :: joined [0xFFFF] ++
          ':' :: dotted (bits.toNat % Nat.pow 2 32)
      else
        let (start, length) := longestZeros values
        if 1 < length then
          joined (values.take start) ++
            ':' :: ':' :: joined (values.drop (start + length))
        else joined values

end Address
end SearchQuery
