import TokenBroker.Text.SingleByte.Ebcdic
import TokenBroker.Text.SingleByte.Iso
import TokenBroker.Text.SingleByte.National
import TokenBroker.Text.SingleByte.Platforms

/-!
# Single-byte character sets

All the sets that are known by a name. No label belongs to two of them.
-/

namespace TokenBroker

namespace Text

namespace SingleByteSet

/-- All sets that are known. -/
def all : List SingleByteSet :=
  isoSets ++ windowsSets ++ dosSets ++ ebcdicSets ++ macSets ++ nationalSets

/-- The set of a label. -/
def ofLabel? (label : String) : Option SingleByteSet := all.find? (·.labels.contains label)

end SingleByteSet

end Text

end TokenBroker
