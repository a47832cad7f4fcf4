import GnssMonitor.Text.Blank

/-! A line typed by the operator: a verb of one character and its argument. -/

namespace GnssMonitor

/-- Whether the run goes on after a command. -/
inductive CommandResult
  | proceed
  | quit
  deriving DecidableEq, Repr

structure Command where
  verb : Char
  argument : String
  deriving DecidableEq, Repr

namespace Command

def isLineEnd (c : Char) : Bool := c == '\r' || c == '\n'

def withoutLineEnd (line : List Char) : List Char := Text.dropRight isLineEnd line

/-- The verb and what follows it, less the white space between them. -/
def read? (line : String) : Option Command :=
  match withoutLineEnd line.toList with
  | [] => none
  | verb :: rest => some ⟨verb, String.ofList (rest.dropWhile Text.isBlank)⟩

end Command
end GnssMonitor
