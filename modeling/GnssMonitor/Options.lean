import GnssMonitor.Text.Number

/-! The command line: options, which may be shortened, run together and mixed with the one
operand, the source. -/

namespace GnssMonitor

/-- What an option was given. One that needs a value and has none is bare. -/
inductive Setting (α : Type)
  | absent
  | bare
  | value (a : α)
  deriving DecidableEq, Repr

structure Options where
  source : Option String := none
  /-- No screen, lines only. -/
  headless : Bool := false
  debug : Setting Int := .value 0
  /-- Only list the receivers. -/
  list : Bool := false
  logFile : Setting String := .absent
  /-- Ask a relay for sentences only. -/
  sentencesOnly : Bool := false
  receiver : Setting String := .absent
  deriving DecidableEq, Repr

inductive Flag
  | help
  | headless
  | debug
  | list
  | logFile
  | sentencesOnly
  | receiver
  | version
  deriving DecidableEq, Repr

namespace Flag

def all : List Flag :=
  [help, headless, debug, list, logFile, sentencesOnly, receiver, version]

def letter : Flag → Char
  | help => 'h'
  | headless => 'a'
  | debug => 'D'
  | list => 'L'
  | logFile => 'l'
  | sentencesOnly => 'n'
  | receiver => 't'
  | version => 'V'

def word : Flag → String
  | help => "help"
  | headless => "nocurses"
  | debug => "debug"
  | list => "list"
  | logFile => "logfile"
  | sentencesOnly => "nmea"
  | receiver => "type"
  | version => "version"

def short (f : Flag) : String := s!"-{f.letter}"

def long (f : Flag) : String := s!"--{f.word}"

def takesValue : Flag → Bool
  | debug | logFile | receiver => true
  | help | headless | list | sentencesOnly | version => false

def ofLetter? (c : Char) : Option Flag := all.find? (·.letter == c)

def ofWord? (cs : List Char) : Option Flag := all.find? (·.word.toList == cs)

end Flag

inductive OptionFault
  | ambiguous (argument : String) (matching : List Flag)
  | missingValue (f : Flag)
  | notInteger (f : Flag) (text : String)
  /-- A value for an option that takes none. -/
  | strayValue (f : Flag) (text : String)
  | unrecognized (arguments : List String)
  deriving DecidableEq, Repr

def OptionFault.message : OptionFault → String
  | ambiguous argument matching =>
    s!"ambiguous option: {argument} could match " ++ ", ".intercalate (matching.map Flag.long)
  | missingValue f => s!"argument {f.short}/{f.long}: expected one argument"
  | notInteger f text =>
    s!"argument {f.short}/{f.long}: invalid int value: " ++ Text.quoted text
  | strayValue f text =>
    s!"argument {f.short}/{f.long}: ignored explicit argument " ++ Text.quoted text
  | unrecognized arguments => "unrecognized arguments: " ++ " ".intercalate arguments

namespace Options

/-- A short option may have others or its value attached, a long one only a value. -/
inductive Form
  | short
  | long
  deriving DecidableEq, Repr

/-- An argument by what it looks like. -/
inductive Item
  | operand (text : String)
  | option (form : Form) (f : Flag) (attached : Option (List Char))
  /-- What looks like an option and is none. -/
  | stranger (text : String)
  /-- The two dashes and what follows them, which is operands only. -/
  | terminator (operands : List String)
  deriving DecidableEq, Repr

def isEqualSign (c : Char) : Bool := c == '='

/-- The text before the first equal sign, and what is attached by it. -/
def splitAttached (cs : List Char) : List Char × Option (List Char) :=
  match cs.dropWhile (!isEqualSign ·) with
  | [] => (cs, none)
  | _ :: value => (cs.takeWhile (!isEqualSign ·), some value)

/-- A minus sign and digits with at most one point, which has digits behind it; a line ending
does no harm. -/
def isNegativeNumber (cs : List Char) : Bool :=
  let body := if cs.getLast? = some '\n' then cs.dropLast else cs
  match body with
  | '-' :: digits =>
    match digits.dropWhile Text.isDigit with
    | [] => !digits.isEmpty
    | '.' :: fraction => !fraction.isEmpty && fraction.all Text.isDigit
    | _ => false
  | _ => false

/-- What is no known option: an operand if it looks like a negative number or has a blank. -/
def unknownItem (arg : String) : Item :=
  if isNegativeNumber arg.toList || arg.toList.contains ' ' then .operand arg else .stranger arg

/-- An argument with two dashes. A whole word goes before the beginnings of words. -/
def longItem (arg : String) (cs : List Char) : Except OptionFault Item :=
  let (word, value) := splitAttached cs
  match Flag.ofWord? word with
  | some f => .ok (.option .long f value)
  | none =>
    match Flag.all.filter fun f => word.isPrefixOf f.word.toList with
    | [] => .ok (unknownItem arg)
    | [f] => .ok (.option .long f value)
    | matching => .error (.ambiguous arg matching)

/-- An argument with one dash and the letter behind it. -/
def shortItem (arg : String) (letter : Char) (cs : List Char) : Item :=
  match Flag.ofLetter? letter, cs with
  | none, _ => unknownItem arg
  | some f, [] => .option .short f none
  | some f, '=' :: value => .option .short f (some value)
  | some f, attached => .option .short f (some attached)

def itemOf (arg : String) : Except OptionFault Item :=
  match arg.toList with
  | '-' :: '-' :: cs => longItem arg cs
  | '-' :: letter :: cs => .ok (shortItem arg letter cs)
  | _ => .ok (.operand arg)

def itemsOf : List String → Except OptionFault (List Item)
  | [] => .ok []
  | arg :: rest =>
    if arg = "--" then .ok [.terminator rest]
    else return (← itemOf arg) :: (← itemsOf rest)

/-- The options that a short one with text attached stands for, and the value of the last. -/
def unbundle (f : Flag) (attached : List Char) :
    Except OptionFault (List Flag × Flag × Option String) :=
  if f.takesValue then .ok ([], f, some (String.ofList attached))
  else
    match attached with
    | [] => .error (.strayValue f "")
    | c :: more =>
      match Flag.ofLetter? c with
      | none => .error (.strayValue f (String.ofList attached))
      | some next =>
        if more.isEmpty then .ok ([f], next, none)
        else (unbundle next more).map fun (fs, last, value) => (f :: fs, last, value)

/-- What a parse can end with instead of options. -/
inductive Stop
  | help
  | version
  | fault (e : OptionFault)
  deriving DecidableEq, Repr

def asStop {α : Type} (x : Except OptionFault α) : Except Stop α := x.mapError .fault

/-- Two dashes count as no value. -/
def given (value : String) : Setting String := if value = "--" then .bare else .value value

def givenNumber (value : String) : Except Text.IntegerFault (Setting Int) :=
  if value = "--" then .ok .bare else (Text.readInteger value.toList).map .value

def apply (f : Flag) (value : String) (o : Options) : Except Stop Options :=
  match f with
  | .help => .error .help
  | .version => .error .version
  | .headless => .ok { o with headless := true }
  | .list => .ok { o with list := true }
  | .sentencesOnly => .ok { o with sentencesOnly := true }
  | .logFile => .ok { o with logFile := given value }
  | .receiver => .ok { o with receiver := given value }
  | .debug =>
    match givenNumber value with
    | .ok debug => .ok { o with debug }
    | .error _ => .error (.fault (.notInteger f value))

def applyAll (fs : List Flag) (o : Options) : Except Stop Options :=
  fs.foldlM (fun o f => apply f "" o) o

/-- The options so far; whether an operand, or its absence, has been settled; and the arguments
that nobody wants. -/
structure State where
  options : Options := {}
  settled : Bool := false
  extras : List String := []

def State.refuse (s : State) (args : List String) : State := { s with extras := s.extras ++ args }

def State.setSource (s : State) (source : String) : State :=
  { s with options.source := some source, settled := true }

/-- The options that one argument stands for, the last with its value or still without. -/
def flagsOf (form : Form) (f : Flag) (attached : Option (List Char)) :
    Except OptionFault (List Flag × Flag × Option String) :=
  match form, attached with
  | _, none => .ok ([], f, none)
  | .short, some attached => unbundle f attached
  | .long, some value =>
    if f.takesValue then .ok ([], f, some (String.ofList value))
    else .error (.strayValue f (String.ofList value))

def State.apply (fs : List Flag) (last : Flag) (value : String) (s : State) : Except Stop State :=
  return { s with options := ← Options.apply last value (← applyAll fs s.options) }

/-- Two dashes count as an argument that nobody wants unless they come with the source; without
a source behind them they settle that there is none. -/
def State.terminate (operands : List String) (s : State) : State :=
  if s.settled then s.refuse ("--" :: operands)
  else
    match operands with
    | [] => s
    | source :: more => (s.setSource source).refuse more

/-- Goes through the items in order. The first operand is the source, and two dashes right
behind it go with it. -/
def walk (s : State) : List Item → Except Stop State
  | [] => .ok s
  | .stranger text :: rest => walk (s.refuse [text]) rest
  | .terminator operands :: _ => .ok (s.terminate operands)
  | .operand text :: rest =>
    if s.settled then walk (s.refuse [text]) rest
    else
      match rest with
      | .terminator operands :: _ => .ok ((s.setSource text).refuse operands)
      | rest => walk (s.setSource text) rest
  | .option form f attached :: rest => do
    let (fs, last, value) ← asStop (flagsOf form f attached)
    match value with
    | some value => walk (← s.apply fs last value) rest
    | none =>
      if last.takesValue then
        match rest with
        | .operand value :: rest => walk (← s.apply fs last value) rest
        | _ => .error (.fault (.missingValue last))
      else walk (← s.apply fs last "") rest

/-- The file to log to, if one is named. -/
def logPath? (o : Options) : Option String :=
  match o.logFile with
  | .value path => if path.isEmpty then none else some path
  | .absent | .bare => none

/-- Reads the arguments. What each looks like is settled before any takes effect. -/
def read (args : List String) : Except Stop Options := do
  let s ← walk {} (← asStop (itemsOf args))
  if s.extras.isEmpty then return s.options
  else throw (.fault (.unrecognized s.extras))

end Options
end GnssMonitor
