/-!
# Ranges of characters

A class of characters as the ranges of their codes, in three lists so that few are looked at.
-/

namespace CloudAudit.Text

/-- Whether the code of a character lies in one of the ranges, ends included: of the first list
below U+1000, of the last from U+10000, and of the middle one between. -/
def inRanges (c : Char) (low middle high : List (Nat × Nat)) : Bool :=
  let n := c.toNat
  let ranges := if n < 0x1000 then low else if n < 0x10000 then middle else high
  ranges.any fun (first, last) => first ≤ n && n ≤ last

end CloudAudit.Text
