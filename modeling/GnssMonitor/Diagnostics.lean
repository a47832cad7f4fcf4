/-! How much the program says about itself, beside what it shows and logs of the packets. -/

namespace GnssMonitor

inductive Severity
  | debug
  | info
  | warning
  deriving DecidableEq, Repr

namespace Severity

/-- The rank among the severities. -/
def rank : Severity → Nat
  | debug => 10
  | info => 20
  | warning => 30

/-- The least severity that is written at a debug level: only the levels 0 and 1 are reticent. -/
def ofLevel (level : Int) : Severity :=
  if level = 0 then warning else if level = 1 then info else debug

end Severity

structure Diagnostics where
  name : String
  least : Severity
  /-- A file to write to beside the standard error. -/
  file : Option String
  deriving DecidableEq, Repr

namespace Diagnostics

/-- The source of all that comes without a name of its own. -/
def rootName : String := "root"

/-- A file without a name is none. -/
def configure (name : String) (file : Option String) (level : Int) : Diagnostics where
  name := if name.isEmpty then rootName else name
  least := .ofLevel level
  file := file.filter (!·.isEmpty)

def sinkCount (d : Diagnostics) : Nat := if d.file.isSome then 2 else 1

/-- The layout of a line. -/
def format : String := "%(asctime)s - %(name)s - %(levelname)s - %(message)s"

end Diagnostics
end GnssMonitor
