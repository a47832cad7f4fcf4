import GnssMonitor.Json
import GnssMonitor.Text.Number

/-! Reading JSON text. Faults name the place where the text stops making sense, counted in
characters. `NaN`, `Infinity` and `-Infinity` are numbers; integers have no bound but on their
digits; a number beyond the range is infinite. -/

namespace GnssMonitor.Json

open Text (CodePoints)

inductive Complaint
  | value
  | key
  | colon
  | comma
  | extra
  | unterminated
  | control
  | escape
  | unicodeEscape
  deriving DecidableEq, Repr

def Complaint.text : Complaint → String
  | value => "Expecting value"
  | key => "Expecting property name enclosed in double quotes"
  | colon => "Expecting ':' delimiter"
  | comma => "Expecting ',' delimiter"
  | extra => "Extra data"
  | unterminated => "Unterminated string starting at"
  | control => "Invalid control character at"
  | escape => "Invalid \\escape"
  | unicodeEscape => "Invalid \\uXXXX escape"

inductive Container
  | array
  | object
  deriving DecidableEq, Repr

/-- Why reading stopped; `left` is the number of characters from the place to the end. -/
inductive Stop
  | malformed (what : Complaint) (left : Nat)
  | tooManyDigits (count : Nat)
  | tooDeep (container : Container)
  deriving DecidableEq, Repr

def stop {α : Type} (what : Complaint) (rest : CodePoints) : Except Stop α :=
  .error (.malformed what rest.length)

def isSpace (c : Nat) : Bool := c == 0x20 || c == 0x09 || c == 0x0a || c == 0x0d

def skipSpace (cs : CodePoints) : CodePoints := cs.dropWhile isSpace

def isDigit (c : Nat) : Bool := 0x30 ≤ c && c ≤ 0x39

def quote : Nat := 0x22

def backslash : Nat := 0x5c

/-- What follows a backslash, apart from `u`. -/
def escaped? (c : Nat) : Option Nat :=
  if c = quote ∨ c = backslash ∨ c = 0x2f then some c
  else if c = 0x62 then some 0x08
  else if c = 0x66 then some 0x0c
  else if c = 0x6e then some 0x0a
  else if c = 0x72 then some 0x0d
  else if c = 0x74 then some 0x09
  else none

def hexUnit? (cs : CodePoints) : Option Nat :=
  cs.foldl (fun n c => do return (← n) * 16 + (← Bytes.hexValue? (Char.ofNat c))) (some 0)

/-- The code of a `\u` escape, given the text after the letter. Unless a character follows the
four digits the escape is refused. -/
def unicodeUnit (rest : CodePoints) : Except Stop (Nat × CodePoints) :=
  match hexUnit? (rest.take 4), rest.drop 4 with
  | some n, c :: after => .ok (n, c :: after)
  | _, _ => .error (.malformed .unicodeEscape (rest.length + 1))

/-- A second escape completes a high surrogate when it holds the low one. -/
def completeSurrogate (high : Nat) (rest : CodePoints) : Except Stop (Nat × CodePoints) :=
  match rest with
  | 0x5c :: 0x75 :: more =>
    if Text.isHighSurrogate high && !(more.drop 4).isEmpty then do
      let (low, after) ← unicodeUnit more
      if Text.isLowSurrogate low then return (Text.joinSurrogates high low, after)
      else return (high, rest)
    else .ok (high, rest)
  | _ => .ok (high, rest)

/-- The characters up to the closing quote. `opened` is the text from the opening quote on. -/
def readChars (opened : CodePoints) : Nat → CodePoints → Except Stop (CodePoints × CodePoints)
  | 0, _ => stop .unterminated opened
  | fuel + 1, cs =>
    match cs with
    | [] => stop .unterminated opened
    | c :: rest =>
      if c = quote then .ok ([], rest)
      else if c = backslash then
        match rest with
        | [] => stop .unterminated opened
        | e :: rest =>
          if e = 0x75 then do
            let (unit, rest) ← unicodeUnit rest
            let (code, rest) ← completeSurrogate unit rest
            let (more, rest) ← readChars opened fuel rest
            return (code :: more, rest)
          else match escaped? e with
            | none => .error (.malformed .escape (rest.length + 2))
            | some code => do
              let (more, rest) ← readChars opened fuel rest
              return (code :: more, rest)
      else if c ≤ 0x1f then stop .control cs
      else do
        let (more, rest) ← readChars opened fuel rest
        return (c :: more, rest)

/-- A string, given the text after its opening quote; the fuel exceeds the length of that. -/
def readText (fuel : Nat) (rest : CodePoints) : Except Stop (CodePoints × CodePoints) :=
  readChars (quote :: rest) fuel rest

def toChars (cs : CodePoints) : List Char := cs.map Char.ofNat

/-- A point counts when a digit follows it. -/
def splitFraction (cs : CodePoints) : CodePoints × CodePoints :=
  match cs with
  | 0x2e :: d :: rest =>
    if isDigit d then (0x2e :: d :: rest.takeWhile isDigit, rest.dropWhile isDigit) else ([], cs)
  | _ => ([], cs)

/-- The letter of an exponent counts when digits follow it and its sign. -/
def splitExponent (cs : CodePoints) : CodePoints × CodePoints :=
  match cs with
  | e :: rest =>
    if e = 0x65 ∨ e = 0x45 then
      let sign := rest.takeWhile (fun c => c == 0x2b || c == 0x2d) |>.take 1
      let digits := (rest.drop sign.length).takeWhile isDigit
      if digits.isEmpty then ([], cs)
      else (e :: sign ++ digits, (rest.drop sign.length).dropWhile isDigit)
    else ([], cs)
  | [] => ([], cs)

/-- No zero stands before another digit of the whole part. -/
def splitWhole (cs : CodePoints) : CodePoints × CodePoints :=
  match cs with
  | 0x30 :: rest => ([0x30], rest)
  | _ => (cs.takeWhile isDigit, cs.dropWhile isDigit)

/-- A number without its sign; `all` is the text from the sign on. -/
def readUnsigned (negative : Bool) (all cs : CodePoints) : Except Stop (Json × CodePoints) :=
  let (whole, rest) := splitWhole cs
  if whole.isEmpty then stop .value all
  else
    let (fraction, rest) := splitFraction rest
    let (exponent, rest) := splitExponent rest
    if fraction.isEmpty && exponent.isEmpty then
      if Text.digitLimit < whole.length then .error (.tooManyDigits whole.length)
      else .ok (.int (Text.signedDigits negative (toChars whole)), rest)
    else
      let decimal := Text.readDecimal negative (toChars (whole ++ fraction ++ exponent))
      .ok (.number (decimal.getD .nan), rest)

def word (w : String) (cs : CodePoints) : Option CodePoints :=
  if (CodePoints.ofString w).isPrefixOf cs then some (cs.drop w.length) else none

/-- The values written as one word, and the numbers. -/
def readScalar (cs : CodePoints) : Except Stop (Json × CodePoints) :=
  match word "null" cs, word "true" cs, word "false" cs, word "NaN" cs, word "Infinity" cs,
    word "-Infinity" cs with
  | some rest, _, _, _, _, _ => .ok (.null, rest)
  | _, some rest, _, _, _, _ => .ok (.bool true, rest)
  | _, _, some rest, _, _, _ => .ok (.bool false, rest)
  | _, _, _, some rest, _, _ => .ok (.number .nan, rest)
  | _, _, _, _, some rest, _ => .ok (.number (.infinite false), rest)
  | _, _, _, _, _, some rest => .ok (.number (.infinite true), rest)
  | _, _, _, _, _, _ =>
    match cs with
    | 0x2d :: rest => readUnsigned true cs rest
    | _ => readUnsigned false cs cs

/-- Values inside values, at most this many deep. -/
def nestingLimit : Nat := 990

mutual

/-- One value. Of any two calls in a row at least one takes a character, so twice the length
of the text, and one more, is fuel enough. -/
def readValue : Nat → Nat → CodePoints → Except Stop (Json × CodePoints)
  | 0, _, cs => stop .value cs
  | fuel + 1, depth, cs =>
    match cs with
    | [] => stop .value cs
    | c :: rest =>
      if c = quote then do
        let (s, rest) ← readText fuel rest
        return (.text s, rest)
      else if c = 0x7b then
        match depth with
        | 0 => .error (.tooDeep .object)
        | depth + 1 =>
          match skipSpace rest with
          | 0x7d :: rest => .ok (.object [], rest)
          | rest => readFields fuel depth [] rest
      else if c = 0x5b then
        match depth with
        | 0 => .error (.tooDeep .array)
        | depth + 1 =>
          match skipSpace rest with
          | 0x5d :: rest => .ok (.array [], rest)
          | rest => readItems fuel depth [] rest
      else readScalar cs

/-- The members of an object, from the first key on. -/
def readFields : Nat → Nat → List (CodePoints × Json) → CodePoints →
    Except Stop (Json × CodePoints)
  | 0, _, _, cs => stop .key cs
  | fuel + 1, depth, fields, cs =>
    match cs with
    | 0x22 :: rest => do
      let (key, rest) ← readText fuel rest
      match skipSpace rest with
      | 0x3a :: rest => do
        let (value, rest) ← readValue fuel depth (skipSpace rest)
        let fields := insert key value fields
        match skipSpace rest with
        | 0x7d :: rest => return (.object fields, rest)
        | 0x2c :: rest => readFields fuel depth fields (skipSpace rest)
        | rest => stop .comma rest
      | rest => stop .colon rest
    | _ => stop .key cs

/-- The items of an array, from the first on; those read so far come last first. -/
def readItems : Nat → Nat → List Json → CodePoints → Except Stop (Json × CodePoints)
  | 0, _, _, cs => stop .value cs
  | fuel + 1, depth, items, cs => do
    let (value, rest) ← readValue fuel depth cs
    match skipSpace rest with
    | 0x5d :: rest => return (.array (value :: items).reverse, rest)
    | 0x2c :: rest => readItems fuel depth (value :: items) (skipSpace rest)
    | rest => stop .comma rest

end

/-- A whole text: one value with white space around. -/
def readAll (cs : CodePoints) : Except Stop Json := do
  let (value, rest) ← readValue (2 * cs.length + 1) nestingLimit (skipSpace cs)
  match skipSpace rest with
  | [] => return value
  | rest => stop .extra rest

/-- A place in a text: characters before it, its line, its column, the latter two from one. -/
structure Place where
  offset : Nat
  line : Nat
  column : Nat
  deriving DecidableEq, Repr

def placeAt (text : CodePoints) (offset : Nat) : Place :=
  let before := text.take offset
  ⟨offset, before.count 0x0a + 1, (before.reverse.takeWhile (· != 0x0a)).length + 1⟩

inductive ReadFault
  | undecodable (e : Text.Undecodable)
  | malformed (what : Complaint) (place : Place)
  | tooManyDigits (count : Nat)
  | tooDeep (container : Container)
  deriving DecidableEq, Repr

def ReadFault.message : ReadFault → String
  | undecodable e => e.message
  | malformed what p => s!"{what.text}: line {p.line} column {p.column} (char {p.offset})"
  | tooManyDigits n => (Text.IntegerFault.tooManyDigits n).message
  | tooDeep .array =>
    "maximum recursion depth exceeded while decoding a JSON array from a unicode string"
  | tooDeep .object =>
    "maximum recursion depth exceeded while decoding a JSON object from a unicode string"

def locate (text : CodePoints) : Stop → ReadFault
  | .malformed what left => .malformed what (placeAt text (text.length - left))
  | .tooManyDigits n => .tooManyDigits n
  | .tooDeep c => .tooDeep c

def readCodePoints (cs : CodePoints) : Except ReadFault Json := (readAll cs).mapError (locate cs)

/-- The value that a text in any of the encoding forms holds. -/
def read (bs : Bytes) : Except ReadFault Json :=
  match Text.decode bs with
  | .error e => .error (.undecodable e)
  | .ok cs => readCodePoints cs

end GnssMonitor.Json
