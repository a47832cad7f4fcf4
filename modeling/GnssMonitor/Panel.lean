import GnssMonitor.Packet
import GnssMonitor.Sentence.Fix
import GnssMonitor.Window

/-! The panel of a receiver that speaks sentences: the sentences seen, time and position,
quality of the fix and the satellites in view. -/

namespace GnssMonitor

/-- A field as the panel shows it. -/
inductive Reading
  | blank
  | text (s : String)
  | count (n : Int)
  | number (x : Binary64)
  deriving DecidableEq, Repr

namespace Reading

def notAvailable : String := "n/a"

/-- Zero and the empty text are not shown. -/
def shown : Reading → String
  | blank => notAvailable
  | text s => if s.isEmpty then notAvailable else s
  | count n => if n = 0 then notAvailable else toString n
  | number x => if x.isZero then notAvailable else x.shortest

def ofConverted {α : Type} (f : α → Reading) : Sentence.Converted α → Reading
  | .blank => blank
  | .value a => f a
  | .raw s => text s

def ofNumber (s : String) : Reading := ofConverted number (Sentence.convert Text.readNumber s)

def ofCount (s : String) : Reading :=
  ofConverted count (Sentence.convert (fun cs => (Text.readInteger cs).toOption) s)

end Reading

/-- What is known of the fix; a field is absent until a sentence has given it. -/
structure FixReport where
  time : Option Reading := none
  latitude : Option Binary64 := none
  longitude : Option Binary64 := none
  speed : Option Reading := none
  course : Option Reading := none
  quality : Option Reading := none
  satellites : Option Reading := none
  altitude : Option Reading := none
  mode : Option Reading := none
  pdop : Option Reading := none
  hdop : Option Reading := none
  vdop : Option Reading := none
  deriving DecidableEq, Repr

/-- A satellite in view: its number, and elevation, azimuth and signal strength as sent. -/
structure Satellite where
  prn : Nat
  elevation : String
  azimuth : String
  snr : String
  deriving DecidableEq, Repr

structure Panel where
  /-- The sentence tags seen, in order of first appearance. -/
  tags : List String := []
  /-- A tag did not fit; from then on none is added. -/
  truncated : Bool := false
  lastTick : Binary64 := .zero
  longestInterval : Binary64 := .zero
  longest : Option String := none
  fix : FixReport := {}
  used : List Nat := []
  skyView : List Satellite := []
  group : List Satellite := []
  deriving DecidableEq, Repr

namespace Panel

def width : Nat := 80

def height : Nat := 21

def satelliteRows : Nat := 12

/-- Tags joined by blanks stay shorter than this. -/
def tagRoom : Nat := 78

/-- The row on which the tags stand. -/
def tagRow : Nat := 1

def fresh (now : Binary64) : Panel := { lastTick := now }

def joined (tags : List String) : String := " ".intercalate tags

def noteTag (tag : String) (p : Panel) : Panel :=
  if tag ∈ p.tags ∨ p.truncated then p
  else if (joined (p.tags ++ [tag])).length < tagRoom then { p with tags := p.tags ++ [tag] }
  else { p with truncated := true }

/-- The tag with the longest interval before it is kept; on a tie the earlier one. -/
def noteTime (tag : String) (now : Binary64) (p : Panel) : Panel :=
  let interval := now - p.lastTick
  let p := if Binary64.zero.lt interval ∧ p.longestInterval.lt interval then
    { p with longestInterval := interval, longest := some tag } else p
  { p with lastTick := now }

/-- A position counts when the fix is valid and neither coordinate is zero. It is nothing when
a coordinate cannot be read; the rest of the sentence is then not looked at. -/
def position (s : Sentence) : Option (Option (Binary64 × Binary64)) :=
  if s.field 1 = "A" then do
    let latitude ← s.latitude
    if latitude.isZero then return none
    let longitude ← s.longitude
    if longitude.isZero then return none
    return some (latitude, longitude)
  else some none

def noteRmc (s : Sentence) (f : FixReport) : FixReport :=
  let f := { f with time := some (match s.fixText with
    | some t => .text t
    | none => .blank) }
  match position s with
  | none => f
  | some place =>
    let f := match place with
      | some (latitude, longitude) =>
        { f with latitude := some latitude, longitude := some longitude }
      | none => f
    { f with
      speed := some (.ofNumber (s.field 6)), course := some (.ofNumber (s.field 7)) }

def noteGga (s : Sentence) (f : FixReport) : FixReport :=
  { f with
    quality := some (.ofCount (s.field 5)), satellites := some (.text (s.field 6)),
    hdop := some (.text (s.field 7)), altitude := some (.ofNumber (s.field 8)) }

def isAllDigits (s : String) : Bool := !s.isEmpty && s.toList.all Text.isDigit

def prn? (s : String) : Option Nat :=
  if isAllDigits s then some (Text.digitsValue s.toList) else none

/-- The satellites that the fix uses, each once. -/
def usedBy (s : Sentence) : List Nat :=
  ((List.range 12).filterMap fun i => prn? (s.field (2 + i))).eraseDups

def noteGsa (s : Sentence) (p : Panel) : Panel :=
  { p with
    used := usedBy s,
    fix := { p.fix with
      mode := some (.text (s.field 1)), pdop := some (.text (s.field 14)),
      vdop := some (.text (s.field 16)) } }

/-- The satellites of one sentence, at most four; those without a number are left out. -/
def satellitesOf (s : Sentence) : List Satellite :=
  (List.range 4).filterMap fun i =>
    let entry (j : Nat) := s.field (3 + 4 * i + j)
    (prn? (entry 0)).map fun prn => ⟨prn, entry 1, entry 2, entry 3⟩

/-- Used satellites come first, then those with smaller numbers. -/
def before (used : List Nat) (a b : Satellite) : Bool :=
  match decide (a.prn ∈ used), decide (b.prn ∈ used) with
  | true, false => true
  | false, true => false
  | _, _ => a.prn ≤ b.prn

def sortSatellites (used : List Nat) (sats : List Satellite) : List Satellite :=
  sats.mergeSort (before used)

/-- A first message starts a group; the last one, whose number is that of the messages, makes
it the view of the sky. -/
def noteGsv (s : Sentence) (p : Panel) : Panel :=
  let group := (if s.field 1 = "1" then [] else p.group) ++ satellitesOf s
  if s.field 1 = s.field 0 then
    let group := sortSatellites p.used group
    { p with group, skyView := group.take satelliteRows }
  else { p with group }

def noteSentence (s : Sentence) (p : Panel) : Panel :=
  match s.kind with
  | .rmc => { p with fix := noteRmc s p.fix }
  | .gga => { p with fix := noteGga s p.fix }
  | .gsa => noteGsa s p
  | .gsv => noteGsv s p
  | .other => p

/-- The tag of a packet: the type of a sentence or the number of a message. -/
def tagOf (packet : Packet) (fields : Option (List String)) : Option String :=
  let tag := match packet.kind with
    | .sirf => packet.bytes[4]?.map fun (b : UInt8) => s!"MID{b.toNat}"
    | _ => match packet.bytes with
      | b :: _ => if isLeader b then fields.bind List.head? else none
      | [] => none
  tag.filter (!·.isEmpty)

def coordinate : Option Binary64 → String
  | none => Reading.notAvailable
  | some x => x.fixed 6

def shown : Option Reading → String
  | none => Reading.notAvailable
  | some r => r.shown

def padLeft (width : Nat) (s : String) : String :=
  String.ofList (List.replicate (width - s.length) ' ') ++ s

def satelliteLine (used : List Nat) (s : Satellite) : String :=
  let mark := if s.prn ∈ used then "Y" else "N"
  s!" {padLeft 3 (toString s.prn)}  {padLeft 4 s.elevation}  {padLeft 4 s.azimuth}  " ++
    s!"{padLeft 3 s.snr}  {mark}"

def tagLine (p : Panel) : String := joined p.tags ++ if p.truncated then " ..." else ""

def lines (p : Panel) : List String :=
  let f := p.fix
  ["Sentences:",
    p.tagLine,
    "Longest cycle tag: " ++ p.longest.getD "",
    s!"Time: {shown f.time}",
    s!"Lat: {coordinate f.latitude}  Lon: {coordinate f.longitude}",
    s!"Speed: {shown f.speed} kn  Course: {shown f.course}",
    s!"Quality: {shown f.quality}  Sats: {shown f.satellites}  Alt: {shown f.altitude}",
    s!"Mode: {shown f.mode}  PDOP: {shown f.pdop}  HDOP: {shown f.hdop}  VDOP: {shown f.vdop}",
    " PRN  Elev  Azim  SNR  Used"] ++ p.skyView.map (satelliteLine p.used)

/-- The tags one after the other from a column on, the longest in bold. -/
def putTags (longest : Option String) (truncated : Bool) (col : Nat) : List String → List WindowOp
  | [] => if truncated then [.put tagRow col "..." false] else []
  | tag :: rest =>
    .put tagRow col tag (some tag == longest) ::
      putTags longest truncated (col + tag.length + 1) rest

def putLine (p : Panel) (row : Nat) (text : String) : List WindowOp :=
  if row = tagRow ∧ p.longest.isSome then putTags p.longest p.truncated 0 p.tags
  else [.put row 0 (String.ofList (text.toList.take width)) false]

/-- The window from scratch. -/
def draw (p : Panel) : List WindowOp :=
  .clear :: ((p.lines.take height).zipIdx.flatMap fun (text, row) => putLine p row text) ++
    [.refresh]

/-- The panel after a packet, if the packet has a tag. -/
def update (packet : Packet) (fields : Option (List String)) (sentence : Option Sentence)
    (now : Binary64) (p : Panel) : Option Panel :=
  (tagOf packet fields).map fun tag =>
    let p := (p.noteTag tag).noteTime tag now
    match packet.kind, sentence with
    | .nmea, some s => p.noteSentence s
    | _, _ => p

end Panel
end GnssMonitor
