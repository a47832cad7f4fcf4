import GnssMonitor.Packet
import GnssMonitor.Text.Number
import GnssMonitor.Text.Word

/-! NMEA sentences taken apart: an optional leader, a type, data fields between commas and an
optional checksum. Talker types are known by their last three characters. -/

namespace GnssMonitor

/-- The sentences whose fields are looked into, and all others. -/
inductive SentenceKind
  | rmc
  | gga
  | gsa
  | gsv
  | other
  deriving DecidableEq, Repr

structure Sentence where
  kind : SentenceKind
  fields : List String
  deriving DecidableEq, Repr

inductive SentenceFault
  /-- Not a sentence, or none of a known type, or its checksum is wrong. -/
  | unreadable
  /-- A vendor's sentence that lacks the fields its type is told by. -/
  | tooFewFields
  deriving DecidableEq, Repr

namespace Sentence

/-- The codes of the sentences a talker may send. -/
def talkerCodes : List String :=
  ["AAM", "ALK", "ALM", "APA", "APB", "BEC", "BOD", "BWC", "BWR", "BWW", "DBS", "DBT", "DPT",
    "DTM", "GBS", "GGA", "GLL", "GNS", "GRS", "GSA", "GST", "GSV", "HDG", "HDM", "HDT", "HSC",
    "MDA", "MTW", "MWD", "MWV", "OSD", "R00", "RMA", "RMB", "RMC", "ROT", "RPM", "RSA", "RTE",
    "STN", "TLL", "TRF", "TTM", "TXT", "VBW", "VDR", "VHW", "VLW", "VPW", "VTG", "VWR", "VWT",
    "WCV", "WNC", "WPL", "XDR", "XTE", "ZDA"]

def kindOf (code : String) : SentenceKind :=
  if code = "RMC" then .rmc
  else if code = "GGA" then .gga
  else if code = "GSA" then .gsa
  else if code = "GSV" then .gsv
  else .other

/-- The type at the front: a vendor's, a query to a listener, or a talker's. -/
inductive Tag
  | vendor (code : List Char)
  | query (code : List Char)
  | talker (code : List Char)
  deriving DecidableEq, Repr

def areWords (cs : List Char) (count : Nat) : Bool := cs.length == count && cs.all Text.isWord

/-- The first form that fits, and the data after it. Any type that starts with P is a
vendor's. -/
def splitTag (cs : List Char) : Option (Tag × List Char) :=
  let isP := cs.head? == some 'P' || cs.head? == some 'p'
  let isQuery := cs[4]? == some 'Q' || cs[4]? == some 'q'
  if isP && areWords ((cs.take 4).drop 1) 3 then some (.vendor (cs.take 4), cs.drop 4)
  else if areWords (cs.take 4) 4 && isQuery && cs[5]? == some ',' &&
      areWords ((cs.take 9).drop 6) 3 then some (.query (cs.take 9), cs.drop 9)
  else if areWords (cs.take 5) 5 && cs[5]? == some ',' then some (.talker (cs.take 5), cs.drop 6)
  else none

/-- The letters beyond ASCII with an ASCII capital: the dotless i and the long s. -/
def capital (c : Char) : Char :=
  if c.toNat = 0x131 then 'I' else if c.toNat = 0x17f then 'S' else c.toUpper

/-- Letters whose capital is several letters. -/
def spreadingRanges : List Text.CodeRange :=
  [(0xdf, 0xdf), (0x149, 0x149), (0x1f0, 0x1f0), (0x390, 0x390), (0x3b0, 0x3b0),
    (0x587, 0x587), (0x1e96, 0x1e9a), (0x1f50, 0x1f50), (0x1f52, 0x1f52), (0x1f54, 0x1f54),
    (0x1f56, 0x1f56), (0x1f80, 0x1faf), (0x1fb2, 0x1fb4), (0x1fb6, 0x1fb7), (0x1fbc, 0x1fbc),
    (0x1fc2, 0x1fc4), (0x1fc6, 0x1fc7), (0x1fcc, 0x1fcc), (0x1fd2, 0x1fd3), (0x1fd6, 0x1fd7),
    (0x1fe2, 0x1fe4), (0x1fe6, 0x1fe7), (0x1ff2, 0x1ff4), (0x1ff6, 0x1ff7), (0x1ffc, 0x1ffc),
    (0xfb00, 0xfb06), (0xfb13, 0xfb17)]

/-- A type in capitals; a letter that would take more room makes it no type at all. -/
def capitals (cs : List Char) : Option String :=
  if cs.any (Text.inRanges spreadingRanges) then none else some (String.ofList (cs.map capital))

/-- The data up to the star, and the checksum after it. Only white space may follow. -/
def splitChecksum (cs : List Char) : Option (List Char × Option Nat) :=
  let data := cs.takeWhile (· != '*')
  match cs.dropWhile (· != '*') with
  | [] => some (data, none)
  | _ :: a :: b :: rest =>
    match Bytes.hexValue? a, Bytes.hexValue? b with
    | some high, some low =>
      if rest.all Text.isBlank then some (data, some (high * 16 + low)) else none
    | _, _ => none
  | _ => none

def xorCodes (cs : List Char) : Nat := cs.foldl (fun n c => n ^^^ c.toNat) 0

/-- The pieces between commas; there is always one. -/
def splitCommas (cs : List Char) : List String :=
  cs.foldr (fun c pieces =>
    if c == ',' then [] :: pieces
    else match pieces with
      | p :: rest => (c :: p) :: rest
      | [] => [[c]]) [[]] |>.map String.ofList

/-- Some vendors' sentences are told apart by a field, which then has to be there. -/
def vendorHasFields (code : String) (fields : List String) : Bool :=
  if code ∈ ["PASH", "PSXN", "PUBX", "PVTX"] then 2 ≤ fields.length
  else if code = "PTNL" then fields.head? != some "" || 2 ≤ fields.length
  else true

def ofTag (tag : Tag) (data : List Char) : Except SentenceFault Sentence :=
  let fields := splitCommas data
  match tag with
  | .talker code =>
    match capitals code with
    | some code =>
      let code := String.ofList (code.toList.drop 2)
      if code ∈ talkerCodes then .ok ⟨kindOf code, fields⟩ else .error .unreadable
    | none => .error .unreadable
  | .query code =>
    if data.isEmpty && (capitals code).isSome then .ok ⟨.other, fields⟩ else .error .unreadable
  | .vendor code =>
    match capitals code with
    | some code =>
      if vendorHasFields code fields then .ok ⟨.other, fields⟩ else .error .tooFewFields
    | none => .error .unreadable

def dropLeader : List Char → List Char
  | '$' :: cs => cs
  | cs => cs

/-- Reads a sentence. A checksum counts from the type to the star, by code points. -/
def read (cs : List Char) : Except SentenceFault Sentence :=
  let body := dropLeader (cs.dropWhile Text.isBlank)
  match splitTag body with
  | none => .error .unreadable
  | some (tag, rest) =>
    match splitChecksum rest with
    | none => .error .unreadable
    | some (data, expected) =>
      let summed := body.take (body.length - rest.length + data.length)
      if expected.all (· == xorCodes summed) then ofTag tag data else .error .unreadable

/-- A field by its place, empty where the sentence is too short. -/
def field (s : Sentence) (i : Nat) : String := s.fields.getD i ""

/-- What a field that should hold a converted value reads as. -/
inductive Converted (α : Type)
  | blank
  | value (a : α)
  | raw (text : String)
  deriving DecidableEq, Repr

def convert {α : Type} (read : List Char → Option α) (text : String) : Converted α :=
  if text.isEmpty then .blank
  else match read text.toList with
    | some a => .value a
    | none => .raw text

end Sentence
end GnssMonitor
