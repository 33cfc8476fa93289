/-!
# Blank characters

The characters with the White_Space property, and the cutting of them from the two ends of a text.
`Char.isWhitespace` of the core library knows four of them only.
-/

namespace CloudAudit.Text

/-- The White_Space property. -/
def isBlank (c : Char) : Bool :=
  let n := c.toNat
  (9 ≤ n && n ≤ 13) || n == 0x20 || n == 0x85 || n == 0xA0 || n == 0x1680 ||
    (0x2000 ≤ n && n ≤ 0x200A) || n == 0x2028 || n == 0x2029 || n == 0x202F || n == 0x205F ||
    n == 0x3000

/-- The characters after the blank ones in front. -/
def dropBlanks (cs : List Char) : List Char :=
  cs.dropWhile isBlank

/-- The characters before the blank ones at the end. -/
def dropBlanksEnd (cs : List Char) : List Char :=
  (cs.reverse.dropWhile isBlank).reverse

def trimChars (cs : List Char) : List Char :=
  dropBlanksEnd (dropBlanks cs)

/-- The text without the blank characters at its two ends. -/
def trim (s : String) : String :=
  String.ofList (trimChars s.toList)

/-- Nothing but blank characters. -/
def isBlankText (s : String) : Bool :=
  s.toList.all isBlank

end CloudAudit.Text
