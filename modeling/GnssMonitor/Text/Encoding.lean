import GnssMonitor.Bytes

/-! Text in the Unicode encoding forms, told apart by a mark or by their zero bytes. The result
is a list of code points, since unpaired surrogates are let through. -/

namespace GnssMonitor.Text

/-- Text as code points. Unlike a string it can hold an unpaired surrogate. -/
abbrev CodePoints := List Nat

inductive EncodingForm
  | utf8
  | utf16le
  | utf16be
  | utf32le
  | utf32be
  deriving DecidableEq, Repr

def EncodingForm.name : EncodingForm → String
  | utf8 => "utf-8"
  | utf16le => "utf-16-le"
  | utf16be => "utf-16-be"
  | utf32le => "utf-32-le"
  | utf32be => "utf-32-be"

inductive EncodingDefect
  | invalidStart
  | invalidContinuation
  | unexpectedEnd
  | truncated
  | beyondUnicode
  deriving DecidableEq, Repr

def EncodingDefect.reason : EncodingDefect → String
  | invalidStart => "invalid start byte"
  | invalidContinuation => "invalid continuation byte"
  | unexpectedEnd => "unexpected end of data"
  | truncated => "truncated data"
  | beyondUnicode => "code point not in range(0x110000)"

/-- The bytes that rule a text out: where they start, the first of them and how many. -/
structure Undecodable where
  form : EncodingForm
  position : Nat
  byte : UInt8
  count : Nat
  defect : EncodingDefect
  deriving DecidableEq, Repr

def Undecodable.message (e : Undecodable) : String :=
  let subject := if e.count = 1
    then s!"byte 0x{String.ofList (Bytes.hexPair e.byte)} in position {e.position}"
    else s!"bytes in position {e.position}-{e.position + e.count - 1}"
  s!"'{e.form.name}' codec can't decode {subject}: {e.defect.reason}"

def isContinuation (b : UInt8) : Bool := 0x80 ≤ b && b < 0xc0

/-- Whether the second byte fits a lead byte of three or four: overlong forms and codes beyond
Unicode are shut out here, surrogates are let through. -/
def secondFits (lead b : UInt8) : Bool :=
  isContinuation b &&
    if lead = 0xe0 then 0xa0 ≤ b
    else if lead = 0xf0 then 0x90 ≤ b
    else if lead = 0xf4 then b < 0x90
    else true

def bits (b : UInt8) (mask : UInt8) : Nat := (b &&& mask).toNat

/-- A surrogate needs all three of its bytes; cut short it is an invalid continuation. -/
def startsSurrogate (lead b : UInt8) : Bool := lead = 0xed && 0xa0 ≤ b

def decodeUtf8From (position : Nat) : Bytes → Except Undecodable CodePoints
  | [] => .ok []
  | a :: rest =>
    let fail (count : Nat) (d : EncodingDefect) : Except Undecodable CodePoints :=
      .error ⟨.utf8, position, a, count, d⟩
    if a < 0x80 then (decodeUtf8From (position + 1) rest).map (a.toNat :: ·)
    else if a < 0xc2 ∨ 0xf5 ≤ a then fail 1 .invalidStart
    else match rest with
    | [] => fail 1 .unexpectedEnd
    | b :: rest =>
      if a < 0xe0 then
        if isContinuation b then
          (decodeUtf8From (position + 2) rest).map ((bits a 0x1f * 64 + bits b 0x3f) :: ·)
        else fail 1 .invalidContinuation
      else if !secondFits a b then fail 1 .invalidContinuation
      else match rest with
      | [] => if startsSurrogate a b then fail 1 .invalidContinuation else fail 2 .unexpectedEnd
      | c :: rest =>
        if !isContinuation c then
          fail (if startsSurrogate a b then 1 else 2) .invalidContinuation
        else if a < 0xf0 then
          (decodeUtf8From (position + 3) rest).map
            (((bits a 0x0f * 64 + bits b 0x3f) * 64 + bits c 0x3f) :: ·)
        else match rest with
        | [] => fail 3 .unexpectedEnd
        | d :: rest =>
          if isContinuation d then
            (decodeUtf8From (position + 4) rest).map
              ((((bits a 0x07 * 64 + bits b 0x3f) * 64 + bits c 0x3f) * 64 + bits d 0x3f) :: ·)
          else fail 3 .invalidContinuation

def word16 (big : Bool) (a b : UInt8) : Nat :=
  if big then a.toNat * 256 + b.toNat else b.toNat * 256 + a.toNat

def units16 (big : Bool) (position : Nat) : Bytes → Except Undecodable (List Nat)
  | [] => .ok []
  | [a] => .error ⟨if big then .utf16be else .utf16le, position, a, 1, .truncated⟩
  | a :: b :: rest => (units16 big (position + 2) rest).map (word16 big a b :: ·)

def isHighSurrogate (n : Nat) : Bool := 0xd800 ≤ n && n < 0xdc00

def isLowSurrogate (n : Nat) : Bool := 0xdc00 ≤ n && n < 0xe000

def isSurrogate (n : Nat) : Bool := isHighSurrogate n || isLowSurrogate n

def joinSurrogates (high low : Nat) : Nat := 0x10000 + (high - 0xd800) * 0x400 + (low - 0xdc00)

/-- A high surrogate and the low one right after it make one code point. -/
def pairSurrogates : List Nat → CodePoints
  | [] => []
  | [n] => [n]
  | h :: l :: rest =>
    if isHighSurrogate h && isLowSurrogate l then joinSurrogates h l :: pairSurrogates rest
    else h :: pairSurrogates (l :: rest)

def units32 (big : Bool) (position : Nat) : Bytes → Except Undecodable CodePoints
  | [] => .ok []
  | a :: b :: c :: d :: rest =>
    let n := if big then word16 true a b * 65536 + word16 true c d
      else word16 false c d * 65536 + word16 false a b
    if n < 0x110000 then (units32 big (position + 4) rest).map (n :: ·)
    else .error ⟨if big then .utf32be else .utf32le, position, a, 4, .beyondUnicode⟩
  | a :: rest =>
    .error ⟨if big then .utf32be else .utf32le, position, a, rest.length + 1, .truncated⟩

def decodeAs (form : EncodingForm) (position : Nat) (bs : Bytes) :
    Except Undecodable CodePoints :=
  match form with
  | .utf8 => decodeUtf8From position bs
  | .utf16le => (units16 false position bs).map pairSurrogates
  | .utf16be => (units16 true position bs).map pairSurrogates
  | .utf32le => units32 false position bs
  | .utf32be => units32 true position bs

/-- The form of a text without a mark, from which of its first bytes are zero. -/
def unmarkedForm : Bytes → EncodingForm
  | a :: b :: c :: d :: _ =>
    if a = 0 then if b = 0 then .utf32be else .utf16be
    else if b = 0 then if c = 0 ∧ d = 0 then .utf32le else .utf16le
    else .utf8
  | [a, b] => if a = 0 then .utf16be else if b = 0 then .utf16le else .utf8
  | _ => .utf8

/-- Decodes a text of any form. A mark is dropped; positions count it, but for that of UTF-8. -/
def decode (bs : Bytes) : Except Undecodable CodePoints :=
  match bs with
  | 0x00 :: 0x00 :: 0xfe :: 0xff :: rest => decodeAs .utf32be 4 rest
  | 0xff :: 0xfe :: 0x00 :: 0x00 :: rest => decodeAs .utf32le 4 rest
  | 0xfe :: 0xff :: rest => decodeAs .utf16be 2 rest
  | 0xff :: 0xfe :: rest => decodeAs .utf16le 2 rest
  | 0xef :: 0xbb :: 0xbf :: rest => decodeAs .utf8 0 rest
  | _ => decodeAs (unmarkedForm bs) 0 bs

/-- The text as characters, an unpaired surrogate replaced. -/
def CodePoints.toChars (cs : CodePoints) : List Char :=
  cs.map fun n => if h : n.isValidChar then Char.ofNatAux n h else Char.ofNat 0xfffd

def CodePoints.ofString (s : String) : CodePoints := s.toList.map Char.toNat

end GnssMonitor.Text
