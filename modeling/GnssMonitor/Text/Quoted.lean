import GnssMonitor.Text.Ascii
import GnssMonitor.Text.Printable

/-! Text between quotes, as error messages show it. -/

namespace GnssMonitor.Text

def apostrophe : Char := Char.ofNat 0x27

/-- Single quotes, unless the text holds one of those and no double quote. -/
def quoteFor (cs : List Char) : Char :=
  if cs.contains apostrophe && !cs.contains '"' then '"' else apostrophe

def quotedChar (quote c : Char) : List Char :=
  if c == quote || c == '\\' then ['\\', c]
  else if c == '\n' then ['\\', 'n']
  else if c == '\r' then ['\\', 'r']
  else if c == '\t' then ['\\', 't']
  else if isPrintable c then [c]
  else escapeCode c.toNat

def quoted (s : String) : String :=
  let cs := s.toList
  let quote := quoteFor cs
  String.ofList (quote :: cs.flatMap (quotedChar quote) ++ [quote])

end GnssMonitor.Text
