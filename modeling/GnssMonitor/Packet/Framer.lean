import GnssMonitor.Packet.Checksum

/-! Cutting a byte stream into packets. What stands at the front of the pending bytes decides:
wait for more, drop some, or take a packet. Garbage is dropped a byte at a time. -/

namespace GnssMonitor

namespace Framing

/-- What to do with the front of the pending bytes. -/
inductive Verdict
  | wait
  | drop (count : Nat)
  | take (kind : PacketKind) (count : Nat)
  deriving DecidableEq, Repr

/-- The length of the line at the front, its newline counted, if it ends within the limit. -/
def lineLength? (limit : Nat) (bs : Bytes) : Option Nat :=
  let front := bs.take limit
  let text := front.takeWhile (· != lineFeed)
  if text.length < front.length then some (text.length + 1) else none

/-- A line within the limit is judged by `accept`. A leader with more bytes behind it than a
line may have, and none of them a newline, is garbage. -/
def lineVerdict (limit : Nat) (kind : PacketKind) (accept : Bytes → Bool) (bs : Bytes) :
    Verdict :=
  match lineLength? limit bs with
  | some n => if accept (bs.take n) then .take kind n else .drop n
  | none => if limit < bs.length then .drop 1 else .wait

def sirfLead : UInt8 := 0xa0

def sirfLeader : Bytes := [0xa0, 0xa2]

def sirfTrailer : Bytes := [0xb0, 0xb3]

/-- Two bytes as a number, the more significant first. -/
def word (high low : UInt8) : Nat := high.toNat * 256 + low.toNat

/-- The verdict on a frame whose leader is complete: a header of four bytes announces the
payload, checksum and trailer take another four. -/
def sirfVerdict (bs : Bytes) : Verdict :=
  match bs with
  | _ :: _ :: high :: low :: rest =>
    let length := word (high &&& 0x7f) low
    let total := length + 8
    if packetLimit < total then .drop 1
    else if bs.length < total then .wait
    else
      let payload := rest.take length
      match rest.drop length with
      | a :: b :: c :: d :: _ =>
        if [c, d] = sirfTrailer ∧ word a b = Checksum.sum payload then .take .sirf total
        else .drop 1
      | _ => .drop 1
  | _ => .wait

def verdict (bs : Bytes) : Verdict :=
  match bs with
  | [] => .wait
  | lead :: rest =>
    if isLeader lead then lineVerdict sentenceLimit .nmea Checksum.isGenuine bs
    else if lead = openBrace then lineVerdict packetLimit .json (fun _ => true) bs
    else if lead = sirfLead then
      match rest with
      | [] => .wait
      | second :: _ => if second = 0xa2 then sirfVerdict bs else .drop 1
    else .drop 1

/-- The first packet and the bytes after it, or nothing and the bytes left waiting. -/
def next (bs : Bytes) : Option Packet × Bytes :=
  match verdict bs with
  | .wait => (none, bs)
  | .drop n => if _h : 0 < n ∧ bs ≠ [] then next (bs.drop n) else (none, bs)
  | .take kind n => (some ⟨kind, bs.take n⟩, bs.drop n)
termination_by bs.length
decreasing_by
  have := List.length_pos_iff.mpr _h.2
  simp only [List.length_drop]
  omega

end Framing

/-- The pending bytes and the last packet taken, with the number of packets since the last
reset. A zero count tells the session to ask the receiver who it is. -/
structure Framer where
  pending : Bytes := []
  kind : PacketKind := .bad
  packet : Bytes := []
  count : Int := 0
  deriving DecidableEq, Repr, Inhabited

namespace Framer

/-- Adds received bytes. Beyond twice the packet limit nothing could be framed, and only the
newest bytes are kept. -/
def feed (f : Framer) (data : Bytes) : Framer :=
  let pending := f.pending ++ data
  { f with pending :=
      if packetLimit * 2 < pending.length then pending.drop (pending.length - packetLimit)
      else pending }

/-- Takes the next packet; without one the framer has only dropped garbage. -/
def next (f : Framer) : Bool × Framer :=
  match Framing.next f.pending with
  | (some p, rest) => (true, ⟨rest, p.kind, p.bytes, f.count + 1⟩)
  | (none, rest) => (false, { f with pending := rest })

def last (f : Framer) : Packet := ⟨f.kind, f.packet⟩

/-- The framer after each of at most `fuel` packets, and at the end. -/
def run : Nat → Framer → List Framer × Framer
  | 0, f => ([], f)
  | fuel + 1, f =>
    match f.next with
    | (true, f) =>
      let (more, final) := run fuel f
      (f :: more, final)
    | (false, f) => ([], f)

/-- The framer after each packet, and at the end. A packet takes at least a byte, so their
number is within the number of pending bytes. -/
def drain (f : Framer) : List Framer × Framer := run (f.pending.length + 1) f

def packets (f : Framer) : List Packet := (drain f).1.map last

end Framer
end GnssMonitor
