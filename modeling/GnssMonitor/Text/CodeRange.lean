/-! Character classes as tables of code point ranges. -/

namespace GnssMonitor.Text

/-- First and last code point of a range. -/
abbrev CodeRange := Nat × Nat

def inRanges (table : List CodeRange) (c : Char) : Bool :=
  table.any fun r => r.1 ≤ c.toNat && c.toNat ≤ r.2

end GnssMonitor.Text
