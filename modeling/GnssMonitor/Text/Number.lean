import GnssMonitor.Binary64
import GnssMonitor.Text.Blank
import GnssMonitor.Text.Digit
import GnssMonitor.Text.Quoted

/-! Numbers typed by people and sent by receivers: decimal digits of any script, single
underscores between digits, white space around, one sign. -/

namespace GnssMonitor.Text

inductive IntegerFault
  | malformed (text : String)
  | tooManyDigits (count : Nat)
  deriving DecidableEq, Repr

/-- Longer integers are not read. -/
def digitLimit : Nat := 4300

def IntegerFault.message : IntegerFault → String
  | malformed text =>
    "invalid literal for int() with base 10: " ++ ((quoted text).take 200).toString
  | tooManyDigits n =>
    s!"Exceeds the limit ({digitLimit} digits) for integer string conversion: " ++
      s!"value has {n} digits; use sys.set_int_max_str_digits() to increase the limit"

/-- Whether each underscore stands between two digits. -/
def groupedFrom (afterDigit : Bool) : List Char → Bool
  | [] => true
  | [c] => c != '_'
  | c :: d :: rest =>
    (c != '_' || (afterDigit && isDigit d)) && groupedFrom (isDigit c) (d :: rest)

/-- The text without its underscores, if they are well placed. -/
def ungroup (cs : List Char) : Option (List Char) :=
  if groupedFrom false cs then some (cs.filter (· != '_')) else none

/-- Whether there was a minus, and the text after the sign. -/
def splitSign : List Char → Bool × List Char
  | '-' :: cs => (true, cs)
  | '+' :: cs => (false, cs)
  | cs => (false, cs)

def signedDigits (negative : Bool) (digits : List Char) : Int :=
  if negative then -(digitsValue digits : Int) else digitsValue digits

def isDigitOrMark (c : Char) : Bool := isDigit c || c == '_'

/-- The digits are counted before what follows them is looked at. -/
def readInteger (cs : List Char) : Except IntegerFault Int :=
  let malformed := IntegerFault.malformed (String.ofList cs)
  let (negative, body) := splitSign (cs.dropWhile isNumberBlank)
  match ungroup (body.takeWhile isDigitOrMark) with
  | none | some [] => .error malformed
  | some digits =>
    if digitLimit < digits.length then .error (.tooManyDigits digits.length)
    else if (body.dropWhile isDigitOrMark).all isNumberBlank then
      .ok (signedDigits negative digits)
    else .error malformed

/-- The digits of an exponent after its letter, with a sign of its own. -/
def readExponent : List Char → Option Int
  | [] => some 0
  | e :: cs =>
    let (negative, digits) := splitSign cs
    if (e == 'e' || e == 'E') && !digits.isEmpty && digits.all isDigit
    then some (signedDigits negative digits) else none

/-- Digits with or without a point, then an optional exponent. -/
def readDecimal (negative : Bool) (cs : List Char) : Option Binary64 :=
  let whole := cs.takeWhile isDigit
  let rest := cs.dropWhile isDigit
  let (fraction, rest) := match rest with
    | '.' :: more => (more.takeWhile isDigit, more.dropWhile isDigit)
    | _ => ([], rest)
  if whole.isEmpty && fraction.isEmpty then none
  else (readExponent rest).map fun e =>
    Binary64.ofDecimal negative (digitsValue (whole ++ fraction)) (e - fraction.length)

def readNumber (cs : List Char) : Option Binary64 := do
  let cs ← ungroup (trim isNumberBlank cs)
  let (negative, body) := splitSign cs
  let word := String.ofList (body.map Char.toLower)
  if word == "inf" || word == "infinity" then some (.infinite negative)
  else if word == "nan" then some .nan
  else readDecimal negative body

end GnssMonitor.Text
