import SearchQuery.Network.Address

/-!
# Address blocks

A block is an address with the length of the network part. A single address is a
block of full length.
-/

namespace SearchQuery

/-- An address and the number of its leading bits that name the network. -/
structure Block where
  address : Address
  length : UInt8
  deriving DecidableEq

namespace Block

/-- The address with the bits behind the network part cleared. -/
def network (block : Block) : Nat :=
  let bits := block.address.toNat
  bits - bits % Nat.pow 2 (block.address.width - block.length.toNat)

/-- Blocks of the shorter addresses come first, then the order is by network and
by length. -/
def order (a b : Block) : Ordering :=
  (compare a.address.width b.address.width).then
    ((compare a.network b.network).then (compare a.length.toNat b.length.toNat))

/-- The text of a block; a single address is written without a length. -/
def text (block : Block) : String :=
  String.ofList <|
    if block.length.toNat = block.address.width then block.address.text
    else block.address.text ++ '/' :: Nat.toDigits 10 block.length.toNat

end Block
end SearchQuery
