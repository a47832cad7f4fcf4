/-! The part of the screen that a handler draws on. -/

namespace GnssMonitor

inductive WindowOp
  | clear
  | put (row col : Nat) (text : String) (bold : Bool)
  | refresh
  deriving DecidableEq, Repr

structure Cell where
  row : Nat
  col : Nat
  text : String
  bold : Bool
  deriving DecidableEq, Repr

/-- What stands on a window, a text for each place that was put to since the last clearing. -/
abbrev Window := List Cell

namespace Window

def put (w : Window) (c : Cell) : Window :=
  w.filter (fun d => !(d.row == c.row && d.col == c.col)) ++ [c]

def apply (w : Window) : WindowOp → Window
  | .clear => []
  | .put row col text bold => w.put ⟨row, col, text, bold⟩
  | .refresh => w

def applyAll (w : Window) (ops : List WindowOp) : Window := ops.foldl apply w

end Window
end GnssMonitor
