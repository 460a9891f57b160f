import LogGate.Value

/-!
Digests. Two hashable values that are equal have equal digests; different values may share one, as
numbers that agree modulo 2⁶¹ - 1, or a text and the bytes of its characters, do.
-/

namespace LogGate

/-- A digest is a sequence of marks; a tuple announces how many digests follow. -/
inductive DigestMark where
  | nothing
  | number (residue : Int)
  | undefined (mark : Nat)
  | octets (bytes : List Nat)
  | group (size : Nat)
deriving DecidableEq

abbrev Digest := List DigestMark

namespace Digest

def modulus : Nat := Nat.pow 2 61 - 1

/-- The residue keeps the sign of a number; -1 is no residue and gives way to -2. -/
def residue (negative : Bool) (magnitude : Nat) : Int :=
  let size : Int := (magnitude % modulus : Nat)
  let signed := if negative then -size else size
  if signed == -1 then -2 else signed

/-- Dividing by a power of two multiplies by a power of two, as 2⁶¹ leaves the residue 1. -/
def ofRat (number : Rat) : DigestMark :=
  let inverse := Nat.pow 2 ((61 - number.den.log2 % 61) % 61)
  .number (residue (number.num < 0) (number.num.natAbs * inverse))

def ofQuantity : Quantity → DigestMark
  | .exact number => ofRat number
  | .infinite negative => .number (if negative then -314159 else 314159)
  | .undefined mark => .undefined mark

/-- Every character takes as many bytes as the largest one needs: one, two or four. -/
def characterWidth (chars : List Char) : Nat :=
  if chars.all (·.toNat < 0x100) then 1 else if chars.all (·.toNat < 0x10000) then 2 else 4

/-- The bytes of a number, the lowest first. -/
def lowFirst : Nat → Nat → List Nat
  | 0, _ => []
  | width + 1, code => code % 256 :: lowFirst width (code / 256)

/-- Empty data has the digest of zero. -/
def ofBytes (bytes : List Nat) : DigestMark :=
  if bytes.isEmpty then .number 0 else .octets bytes

def ofText (content : String) : DigestMark :=
  let chars := content.toList
  ofBytes (chars.flatMap fun c => lowFirst (characterWidth chars) c.toNat)

/-- A level has the digest of the tuple of its name and rank. -/
def ofLevel (grade : Level) : Digest :=
  [.group 2, ofText grade.name, ofRat grade.rank]

end Digest

namespace Value

mutual

/-- The digest of a hashable value. -/
def digest : Value → Digest
  | absent => [.nothing]
  | bool truth => [Digest.ofRat (if truth then 1 else 0)]
  | int number => [Digest.ofRat number]
  | float number => [Digest.ofQuantity number.quantity]
  | text content => [Digest.ofText content]
  | bytes octets => [Digest.ofBytes (octets.map (·.toNat))]
  | tuple items => .group items.length :: digestItems items
  | level grade => Digest.ofLevel grade
  | verdict outcome => [Digest.ofText outcome.name]
  | pair key value => .group 2 :: (digest key ++ digest value)
  | list _ => []
  | mapping _ => []

def digestItems : List Value → Digest
  | [] => []
  | item :: rest => digest item ++ digestItems rest

end

end Value

/-- The digest of a set counts its members and keeps those met an odd number of times. -/
structure SetDigest where
  size : Nat
  odd : List Digest

namespace SetDigest

/-- A digest met again cancels the earlier one. -/
def toggle (odd : List Digest) (member : Digest) : List Digest :=
  if odd.contains member then odd.erase member else member :: odd

def ofMembers (members : List Digest) : SetDigest :=
  ⟨members.length, members.foldl toggle []⟩

def same (first second : SetDigest) : Bool :=
  first.size == second.size && first.odd.all second.odd.contains &&
    second.odd.all first.odd.contains

end SetDigest

end LogGate
