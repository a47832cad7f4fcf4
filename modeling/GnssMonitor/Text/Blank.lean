import GnssMonitor.Text.CodeRange

/-! White space of every script, and the two trimmings built on it. -/

namespace GnssMonitor.Text

def blankRanges : List CodeRange :=
  [(0x9, 0xd), (0x1c, 0x20), (0x85, 0x85), (0xa0, 0xa0), (0x1680, 0x1680), (0x2000, 0x200a),
    (0x2028, 0x2029), (0x202f, 0x202f), (0x205f, 0x205f), (0x3000, 0x3000)]

def isBlank (c : Char) : Bool := inRanges blankRanges c

/-- White space around a number: the four separators 0x1c to 0x1f do not count. -/
def isNumberBlank (c : Char) : Bool :=
  isBlank c && !(0x1c ≤ c.toNat && c.toNat ≤ 0x1f)

def dropRight (p : Char → Bool) (cs : List Char) : List Char :=
  (cs.reverse.dropWhile p).reverse

/-- The text between its first and last character outside the class. -/
def trim (p : Char → Bool) (cs : List Char) : List Char :=
  dropRight p (cs.dropWhile p)

end GnssMonitor.Text
