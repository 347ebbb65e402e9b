/-!
# A single-byte character set

In a set of this kind every byte is one character or none. A set lists the characters of its last
bytes; those before stand for the code points of their own number, as in Latin-1. The replacement
character in the list stands for a byte that is no character.
-/

namespace TokenBroker

namespace Text

/-- A set: the names that it has, and the characters of its last bytes. -/
structure SingleByteSet where
  labels : List String
  upper : String
  deriving DecidableEq, Repr

namespace SingleByteSet

/-- The character of a byte. -/
def char? (s : SingleByteSet) (b : UInt8) : Option Char :=
  let listed := s.upper.toList
  let start := 256 - listed.length
  if b.toNat < start then some (Char.ofNat b.toNat)
  else listed[b.toNat - start]?.filter (· ≠ '\uFFFD')

end SingleByteSet

end Text

end TokenBroker
