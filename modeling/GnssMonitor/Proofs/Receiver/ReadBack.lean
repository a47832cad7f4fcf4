import GnssMonitor.Proofs.Binary64
import GnssMonitor.Proofs.Sentence.Fields
import GnssMonitor.Proofs.Session.Delivering
import GnssMonitor.Proofs.Session.Operating

/-! What a receiver is told is what was asked of it: the message that goes out is framed as one
packet, and its fields say the speed, the line settings or the interval that were asked for. -/

namespace GnssMonitor

namespace Bytes

/-- The number that bytes stand for, the most significant first. -/
def number (bs : Bytes) : Nat := bs.foldl (fun n b => n * 256 + b.toNat) 0

theorem number_append_word (bs : Bytes) (n : Nat) :
    number (bs ++ ofWord16 n) = number bs * 0x10000 + n % 0x10000 := by
  have high : (UInt8.ofNat (n / 256)).toNat = n / 256 % 256 := UInt8.toNat_ofNat'
  have low : (UInt8.ofNat n).toNat = n % 256 := UInt8.toNat_ofNat'
  rw [number, List.foldl_append, ← number, ofWord16, List.foldl_cons, List.foldl_cons,
    List.foldl_nil, high, low]
  omega

theorem number_ofWord16 {n : Nat} (small : n < 0x10000) : number (ofWord16 n) = n := by
  have read := number_append_word [] n
  rw [List.nil_append] at read
  rw [read, number, List.foldl_nil]
  omega

theorem number_ofWord32 {n : Nat} (small : n < 0x100000000) : number (ofWord32 n) = n := by
  rw [ofWord32, number_append_word, number_ofWord16 (by omega)]
  omega

end Bytes

/-! What a receiver reads. -/

/-- What a receiver is told. -/
inductive Instruction
  /-- To speak sentences from now on, at this speed. -/
  | sentences (baud : Int)
  /-- To speak in packets of this kind, with these line settings. -/
  | port (kind : PacketKind) (line : LineSettings)
  | speed (baud : Int)
  | interval (milliseconds : Int)
  deriving DecidableEq, Repr

namespace Instruction

/-- The speed that an Ashtech receiver has a code for. -/
def ashtechSpeed? : Int → Option Int
  | 4 => some 4800
  | 5 => some 9600
  | 6 => some 19200
  | 7 => some 38400
  | 8 => some 57600
  | 9 => some 115200
  | _ => none

def parityOf? : Int → Option String
  | 0 => some "N"
  | 1 => some "O"
  | 2 => some "E"
  | _ => none

def protocolOf? : Int → Option PacketKind
  | 0 => some .sirf
  | 1 => some .nmea
  | _ => none

open Sentence in
/-- What the fields of a sentence say. -/
def ofFields? : List String → Option Instruction
  | ["PASHS", "SPD", "A", code] => do
    return speed (← ashtechSpeed? (← decimal? code))
  | ["PMTK251", baud] => do
    return speed (← decimal? baud)
  | ["PMTK220", milliseconds] => do
    return interval (← decimal? milliseconds)
  | ["PSRF100", protocol, baud, wordLength, stopBits, parity] => do
    return port (← protocolOf? (← decimal? protocol))
      ⟨← decimal? baud, ← decimal? wordLength, ← parityOf? (← decimal? parity),
        ← decimal? stopBits⟩
  | _ => none

/-- What the body of a frame says. Behind the second byte of a change to sentences stand twenty
about the sentences that are to come. -/
def ofBody? : Bytes → Option Instruction
  | 0x81 :: 0x02 :: rest =>
    if rest.length = 22 then some (sentences (Bytes.number (rest.drop 20))) else none
  | [0x86, a, b, c, d, wordLength, stopBits, parity, 0] => do
    return port .sirf
      ⟨Bytes.number [a, b, c, d], wordLength.toNat, ← parityOf? parity.toNat, stopBits.toNat⟩
  | _ => none

/-- The body of a frame, as long as its header says. -/
def bodyOf (frame : Bytes) : Bytes :=
  (frame.drop 4).take (Bytes.number ((frame.drop 2).take 2))

end Instruction

/-- What a packet tells the receiver that it is sent to. -/
def Packet.instruction? (p : Packet) : Option Instruction :=
  match p.kind with
  | .nmea => Instruction.ofFields? (Sentence.fieldsOf p.bytes)
  | .sirf => Instruction.ofBody? (Instruction.bodyOf p.bytes)
  | .json | .bad => none

/-- The bytes are a packet of this kind, and it tells this. -/
structure Instructs (bs : Bytes) (kind : PacketKind) (told : Instruction) : Prop where
  genuine : Packet.Genuine ⟨kind, bs⟩
  small : bs.length ≤ packetLimit
  read : Packet.instruction? ⟨kind, bs⟩ = some told

namespace Instructs

variable {told : Instruction}

open Sentence in
/-- A sentence of such fields tells what they say. -/
theorem sentence {text : String} {fields : List String} (composed : text = compose fields)
    (short : fields.Forall IsShort) (few : fields.length ≤ 8)
    (read : Instruction.ofFields? fields = some told) :
    Instructs (Encoding.nmeaText text) .nmea told := by
  subst composed
  have short := List.forall_iff_forall_mem.mp short
  have some : fields ≠ [] := by
    rintro rfl
    contradiction
  have clean : ∀ f ∈ fields, IsField f := fun f there => (short f there).1
  refine ⟨compose_genuine short few, (length_compose_le short few).trans (by decide), ?_⟩
  change Instruction.ofFields? (fieldsOf (Encoding.nmeaText (compose fields))) = _
  rw [fieldsOf_compose clean some, read]

/-- A frame tells what its body says. -/
theorem frame {body bs : Bytes} (fits : body.length + 8 ≤ packetLimit)
    (sent : asOverflow (some <$> Encoding.sirf body) = .ok (some bs))
    (read : Instruction.ofBody? body = some told) : Instructs bs .sirf told := by
  obtain ⟨frame, encoded, is⟩ := Encoding.sirf_isFrame fits
  rw [encoded] at sent
  obtain rfl : frame = bs := Option.some.inj (Except.ok.inj sent)
  have short : body.length < 0x10000 := by
    simp only [packetLimit] at fits
    omega
  -- The header announces the length, so the body ends where the checksum begins.
  have same : Instruction.bodyOf frame = body := by
    rw [Encoding.sirf_eq fits] at encoded
    obtain rfl := Except.ok.inj encoded
    have announced := Bytes.number_ofWord16 short
    unfold Instruction.bodyOf
    simp only [List.drop_succ_cons, List.drop_zero, List.take_succ_cons, List.take_zero]
    rw [← Bytes.ofWord16, announced, List.take_left]
  have small : frame.length ≤ packetLimit := by
    obtain ⟨_, _, _, _, _, _, _, _, small⟩ := is
    exact small
  refine ⟨is, small, ?_⟩
  change Instruction.ofBody? (Instruction.bodyOf frame) = _
  rw [same, read]

open Framing Framer in
/-- A framer that has read nothing yet takes the packet from the bytes. -/
theorem received {bs : Bytes} {kind : PacketKind} (h : Instructs bs kind told) :
    receive {} [bs] = ([⟨kind, bs⟩], { kind := kind, packet := bs, count := 1 }) := by
  have front : verdict bs = .take kind bs.length := by
    simpa using verdict_of_genuine h.genuine []
  have nothing : Scans (bs.drop bs.length) [] [] := by
    rw [List.drop_length]
    exact .wait rfl
  have scans := Scans.take front nothing
  rw [List.take_length] at scans
  rw [receive_scans rfl (by simpa using h.small) (by simpa using scans)]
  rfl

end Instructs

/-! What it is sent. -/

/-- A speed of 32 bits. The change to sentences has room for 16 of them. -/
def IsSpeed (baud : Int) : Prop := 0 ≤ baud ∧ baud < 0x100000000

instance (baud : Int) : Decidable (IsSpeed baud) :=
  inferInstanceAs (Decidable (0 ≤ baud ∧ baud < 0x100000000))

section Messages

open Sentence

variable {baud mode : Int} {line : LineSettings} {bs : Bytes}

theorem IsSpeed.shows (speed : IsSpeed baud) : Shows baud.repr baud :=
  shows_repr speed.1 speed.2

theorem parityOf?_parityCode {parity : String} {code : Nat}
    (known : parityCode? parity = some code) :
    code < 3 ∧ Instruction.parityOf? code = some parity := by
  unfold parityCode? at known
  split_ifs at known with neither odd even <;> obtain rfl := Option.some.inj known
  · exact ⟨by decide, congrArg some neither.symm⟩
  · exact ⟨by decide, congrArg some odd.symm⟩
  · exact ⟨by decide, congrArg some even.symm⟩

theorem ashtechSpeed?_ashtechSpeedCode {code : Nat} (known : ashtechSpeedCode? baud = some code) :
    code < 10 ∧ Instruction.ashtechSpeed? code = some baud := by
  have each : ∀ i, (h : i < 6) → Instruction.ashtechSpeed? (i + 4 : Nat) =
      some ([4800, 9600, 19200, 38400, 57600, 115200][i]) := by decide
  obtain ⟨i, found, rfl⟩ := Option.map_eq_some_iff.mp known
  obtain ⟨within, is, -⟩ := List.idxOf?_eq_some_iff.mp found
  exact ⟨Nat.add_lt_add_right within 4, (each i within).trans (congrArg some is)⟩

/-- The change to sentences is a frame with the speed at its end. -/
theorem ModeSwitch.message_sentences {m : ModeSwitch} (speed : IsSpeed baud)
    (sent : m.message baud sentenceMode = .ok (some bs)) :
    Instructs bs .sirf (.sentences baud) := by
  cases m
  unfold message at sent
  dsimp only at sent
  rw [if_pos rfl] at sent
  split at sent
  · cases Except.ok.inj sent
  · rename_i small
    have within : 0 ≤ baud ∧ baud < 0x10000 := by
      simp only [sirfSentenceSpeedLimit] at small
      exact ⟨speed.1, by omega⟩
    have field : Encoding.wordField baud = .ok (Bytes.ofWord16 baud.toNat) := if_pos within
    have read : Instruction.ofBody?
        ([0x81, 0x02] ++ sirfSentenceRates ++ Bytes.ofWord16 baud.toNat) =
          some (.sentences baud) := by
      have number := Bytes.number_ofWord16 (n := baud.toNat) (by omega)
      change some (Instruction.sentences (Bytes.number (Bytes.ofWord16 baud.toNat))) = _
      rw [number, Int.toNat_of_nonneg speed.1]
    rw [field] at sent
    have sent : asOverflow (some <$> Encoding.sirf
        ([0x81, 0x02] ++ sirfSentenceRates ++ Bytes.ofWord16 baud.toNat)) = .ok (some bs) := sent
    refine .frame ?_ sent read
    change 24 + 8 ≤ packetLimit
    decide

/-- The change to frames is a sentence with the speed and the settings that the frames have. -/
theorem ModeSwitch.message_frames {m : ModeSwitch} (speed : IsSpeed baud)
    (other : mode ≠ sentenceMode) (sent : m.message baud mode = .ok (some bs)) :
    Instructs bs .nmea (.port .sirf ⟨baud, 8, "N", 1⟩) := by
  cases m
  have text : s!"$PSRF100,0,{baud},8,1,0" =
      compose ["PSRF100", "0", baud.repr, "8", "1", "0"] := by
    apply String.toList_inj.mp
    simp [toList_compose, body_cons, body_singleton, toString]
  have read : Instruction.ofFields? ["PSRF100", "0", baud.repr, "8", "1", "0"] =
      some (.port .sirf ⟨baud, 8, "N", 1⟩) := by
    have words : decimal? "0" = some 0 ∧ decimal? "1" = some 1 ∧ decimal? "8" = some 8 := by
      decide
    simp [Instruction.ofFields?, Instruction.protocolOf?, Instruction.parityOf?, words,
      speed.shows.read]
  have short : List.Forall IsShort ["PSRF100", "0", baud.repr, "8", "1", "0"] :=
    ⟨by decide, by decide, speed.shows.short, by decide, by decide, by decide⟩
  unfold message at sent
  dsimp only at sent
  rw [if_neg other] at sent
  obtain rfl := Option.some.inj (Except.ok.inj sent)
  exact .sentence text short (by simp) read

theorem SpeedSwitch.message_ashtech {speaking : PacketKind}
    (sent : SpeedSwitch.ashtech.message speaking line = .ok (some bs)) :
    Instructs bs .nmea (.speed line.baud) := by
  unfold message at sent
  dsimp only at sent
  split at sent
  · rename_i code known plain
    obtain ⟨small, speed⟩ := ashtechSpeed?_ashtechSpeedCode known
    have text : s!"$PASHS,SPD,A,{code}" = compose ["PASHS", "SPD", "A", code.repr] := by
      apply String.toList_inj.mp
      simp [toList_compose, body_cons, body_singleton, toString]
    have shown : Shows code.repr code := shows_repr (Int.natCast_nonneg code) (by omega)
    have read : Instruction.ofFields? ["PASHS", "SPD", "A", code.repr] =
        some (.speed line.baud) := by
      simp [Instruction.ofFields?, shown.read, speed]
    have short : List.Forall IsShort ["PASHS", "SPD", "A", code.repr] :=
      ⟨by decide, by decide, by decide, shown.short⟩
    obtain rfl := Option.some.inj (Except.ok.inj sent)
    exact .sentence text short (by simp) read
  · cases Except.ok.inj sent

theorem SpeedSwitch.message_mediatek {speaking : PacketKind} (speed : IsSpeed line.baud)
    (sent : SpeedSwitch.mediatek.message speaking line = .ok (some bs)) :
    Instructs bs .nmea (.speed line.baud) := by
  have text : s!"$PMTK251,{line.baud}" = compose ["PMTK251", line.baud.repr] := by
    apply String.toList_inj.mp
    simp [toList_compose, body_cons, body_singleton, toString]
  have read : Instruction.ofFields? ["PMTK251", line.baud.repr] = some (.speed line.baud) := by
    simp [Instruction.ofFields?, speed.shows.read]
  have short : List.Forall IsShort ["PMTK251", line.baud.repr] := ⟨by decide, speed.shows.short⟩
  unfold message at sent
  dsimp only at sent
  split at sent
  · obtain rfl := Option.some.inj (Except.ok.inj sent)
    exact .sentence text short (by simp) read
  · cases Except.ok.inj sent

/-- The settings that a port knows fit a byte each. -/
theorem LineSettings.Known.small (known : line.Known) :
    (0 ≤ line.wordLength ∧ line.wordLength < 256) ∧ 0 ≤ line.stopBits ∧ line.stopBits < 256 := by
  have bits := known.wordLength
  have stop := known.stopBits
  simp only [List.mem_cons, List.not_mem_nil, or_false] at bits stop
  omega

/-- A SiRF receiver is told in a sentence while it speaks sentences. -/
theorem SpeedSwitch.message_sentence (speed : IsSpeed line.baud) (known : line.Known)
    (sent : SpeedSwitch.sirf.message .nmea line = .ok (some bs)) :
    Instructs bs .nmea (.port .nmea line) := by
  unfold message at sent
  dsimp only at sent
  split at sent
  · cases Except.ok.inj sent
  · rename_i code coded
    obtain ⟨few, parity⟩ := parityOf?_parityCode coded
    obtain ⟨bits, stop⟩ := known.small
    have bits_shown := shows_repr bits.1 (by omega)
    have stop_shown := shows_repr stop.1 (by omega)
    have shown : Shows code.repr code := shows_repr (Int.natCast_nonneg code) (by omega)
    have text : s!"$PSRF100,1,{line.baud},{line.wordLength},{line.stopBits},{code}" =
        compose ["PSRF100", "1", line.baud.repr, line.wordLength.repr, line.stopBits.repr,
          code.repr] := by
      apply String.toList_inj.mp
      simp [toList_compose, body_cons, body_singleton, toString]
    have read : Instruction.ofFields? ["PSRF100", "1", line.baud.repr, line.wordLength.repr,
        line.stopBits.repr, code.repr] = some (.port .nmea line) := by
      have one : decimal? "1" = some 1 := by decide
      simp [Instruction.ofFields?, Instruction.protocolOf?, one, speed.shows.read, bits_shown.read,
        stop_shown.read, shown.read, parity]
    have short : List.Forall IsShort ["PSRF100", "1", line.baud.repr, line.wordLength.repr,
        line.stopBits.repr, code.repr] :=
      ⟨by decide, by decide, speed.shows.short, bits_shown.short, stop_shown.short, shown.short⟩
    rw [if_pos rfl] at sent
    obtain rfl := Option.some.inj (Except.ok.inj sent)
    exact .sentence text short (by simp) read

/-- Otherwise it is told in a frame, where the speed comes first and has four bytes. -/
theorem SpeedSwitch.message_frame {speaking : PacketKind} (other : speaking ≠ .nmea)
    (speed : IsSpeed line.baud) (known : line.Known)
    (sent : SpeedSwitch.sirf.message speaking line = .ok (some bs)) :
    Instructs bs .sirf (.port .sirf line) := by
  unfold message at sent
  dsimp only at sent
  split at sent
  · cases Except.ok.inj sent
  · rename_i code coded
    obtain ⟨few, parity⟩ := parityOf?_parityCode coded
    obtain ⟨bits, stop⟩ := known.small
    have most := speed.2
    have baud : Encoding.longField line.baud = .ok (Bytes.ofWord32 line.baud.toNat) := if_pos speed
    have wordLength : Encoding.byteField line.wordLength =
        .ok [UInt8.ofNat line.wordLength.toNat] := if_pos bits
    have stopBits : Encoding.byteField line.stopBits = .ok [UInt8.ofNat line.stopBits.toNat] :=
      if_pos stop
    rw [if_neg other, baud, wordLength, stopBits] at sent
    have sent : asOverflow (some <$> Encoding.sirf ([0x86] ++ Bytes.ofWord32 line.baud.toNat ++
        [UInt8.ofNat line.wordLength.toNat] ++ [UInt8.ofNat line.stopBits.toNat] ++
        [UInt8.ofNat code, 0])) = .ok (some bs) := sent
    refine .frame ?_ sent ?_
    · change 9 + 8 ≤ packetLimit
      decide
    · -- In the frame the stop bits come before the parity.
      have byte : ∀ n < 256, (UInt8.ofNat n).toNat = n := fun n small =>
        UInt8.toNat_ofNat'.trans (Nat.mod_eq_of_lt small)
      change (Instruction.parityOf? (UInt8.ofNat code).toNat).bind (fun parity =>
        some (Instruction.port .sirf ⟨Bytes.number (Bytes.ofWord32 line.baud.toNat),
          (UInt8.ofNat line.wordLength.toNat).toNat, parity,
          (UInt8.ofNat line.stopBits.toNat).toNat⟩)) = _
      rw [byte code (by omega), parity, Option.bind_some, byte _ (by omega), byte _ (by omega),
        Bytes.number_ofWord32 (by omega), Int.toNat_of_nonneg speed.1, Int.toNat_of_nonneg bits.1,
        Int.toNat_of_nonneg stop.1]

/-- The rate is sent in whole milliseconds, the nearest to it. -/
theorem RateSwitch.message_interval {m : RateSwitch} {rate : Binary64}
    (sent : m.message rate = .ok (some bs)) :
    ∃ ms, 100 ≤ ms ∧ ms ≤ 10000 ∧ Binary64.IsNearest (rate * Binary64.ofInt 1000).value ms ∧
      Instructs bs .nmea (.interval ms) := by
  cases m
  unfold message at sent
  cases rounded : (rate * Binary64.ofInt 1000).round with
  | error e =>
    rw [rounded] at sent
    contradiction
  | ok ms =>
    rw [rounded] at sent
    have sent : (if 100 ≤ ms ∧ ms ≤ 10000 then
        (.ok (some (Encoding.nmeaText s!"$PMTK220,{ms}")) : Except Fault (Option Bytes))
      else .ok none) = .ok (some bs) := sent
    split at sent
    · rename_i within
      have text : s!"$PMTK220,{ms}" = compose ["PMTK220", ms.repr] := by
        apply String.toList_inj.mp
        simp [toList_compose, body_cons, body_singleton, toString]
      have shown : Shows ms.repr ms := shows_repr (by omega) (by omega)
      have read : Instruction.ofFields? ["PMTK220", ms.repr] = some (.interval ms) := by
        simp [Instruction.ofFields?, shown.read]
      have short : List.Forall IsShort ["PMTK220", ms.repr] := ⟨by decide, shown.short⟩
      obtain rfl := Option.some.inj (Except.ok.inj sent)
      exact ⟨ms, within.1, within.2, Binary64.round_isNearest rounded,
        .sentence text short (by simp) read⟩
    · cases Except.ok.inj sent

end Messages

/-! What it is asked for. -/

/-- A reconfiguration that is asked for. -/
inductive Change
  | mode (mode : Int)
  | speed (line : LineSettings)
  | rate (rate : Binary64)
  deriving DecidableEq, Repr

namespace Change

/-- Asks a receiver for it. -/
def call (r : Receiver) : Change → Session.Do Bool
  | mode n => Session.switchMode (some r) n
  | speed line => Session.switchSpeed (some r) line
  | rate x => Session.switchRate (some r) x

/-- The speed, also one that is kept, is of 32 bits, and the line settings are such as a port
knows. -/
def Modest (s : Session) : Change → Prop
  | mode _ => IsSpeed s.line.baud
  | speed line => IsSpeed line.baud ∧ line.Known
  | rate _ => True

/-- What is asked for in a packet of which kind, and what that tells the receiver. -/
inductive Means (r : Receiver) (s : Session) : Change → PacketKind → Instruction → Prop
  | sentences : Means r s (mode sentenceMode) .sirf (.sentences s.line.baud)
  | frames {n : Int} (other : n ≠ sentenceMode) :
      Means r s (mode n) .nmea (.port .sirf ⟨s.line.baud, 8, "N", 1⟩)
  | speed {line : LineSettings} (alone : r.speedSwitch ≠ some .sirf) :
      Means r s (speed line) .nmea (.speed line.baud)
  | sentence {line : LineSettings} (whole : r.speedSwitch = some .sirf)
      (speaking : s.framer.kind = .nmea) : Means r s (speed line) .nmea (.port .nmea line)
  | frame {line : LineSettings} (whole : r.speedSwitch = some .sirf)
      (speaking : s.framer.kind ≠ .nmea) : Means r s (speed line) .sirf (.port .sirf line)
  | interval {x : Binary64} {ms : Int} (least : 100 ≤ ms) (most : ms ≤ 10000)
      (nearest : Binary64.IsNearest (x * Binary64.ofInt 1000).value ms) :
      Means r s (rate x) .nmea (.interval ms)

section Sent

variable {c : Change} {r : Receiver} {s : Session} {bs : Bytes}

/-- The message that is sent for it. -/
def message (r : Receiver) (s : Session) : Change → Except Fault (Option Bytes)
  | mode n => match r.modeSwitch with
    | none => .error (.incapable r.name .mode)
    | some m => m.message s.line.baud n
  | speed line => match r.speedSwitch with
    | none => .error (.incapable r.name .speed)
    | some m => m.message s.framer.kind line
  | rate x => match r.rateSwitch with
    | none => .error (.incapable r.name .rate)
    | some m => m.message x

theorem call_sends (c : Change) (r : Receiver) (s : Session) :
    c.call r s = Session.send (c.message r s) s := by
  cases c with
  | mode n =>
    unfold call message Session.switchMode
    rw [Option.bind_some]
    cases r.modeSwitch <;> rfl
  | speed line =>
    unfold call message Session.switchSpeed
    rw [Option.bind_some]
    cases r.speedSwitch <;> rfl
  | rate x =>
    unfold call message Session.switchRate
    rw [Option.bind_some]
    cases r.rateSwitch <;> rfl

/-- The message means what is asked for. -/
theorem message_means (modest : c.Modest s) (sent : c.message r s = .ok (some bs)) :
    ∃ kind told, Instructs bs kind told ∧ c.Means r s kind told := by
  unfold message at sent
  cases c with
  | mode n =>
    cases has : r.modeSwitch with
    | none =>
      rw [has] at sent
      contradiction
    | some m =>
      rw [has] at sent
      by_cases sentences : n = sentenceMode
      · subst sentences
        exact ⟨_, _, m.message_sentences modest sent, .sentences⟩
      · exact ⟨_, _, m.message_frames modest sentences sent, .frames sentences⟩
  | speed line =>
    obtain ⟨speed, known⟩ := modest
    cases has : r.speedSwitch with
    | none =>
      rw [has] at sent
      contradiction
    | some m =>
      rw [has] at sent
      cases m with
      | ashtech => exact ⟨_, _, SpeedSwitch.message_ashtech sent, .speed (by simp [has])⟩
      | mediatek => exact ⟨_, _, SpeedSwitch.message_mediatek speed sent, .speed (by simp [has])⟩
      | sirf =>
        by_cases speaking : s.framer.kind = .nmea
        · rw [speaking] at sent
          exact ⟨_, _, SpeedSwitch.message_sentence speed known sent, .sentence has speaking⟩
        · exact ⟨_, _, SpeedSwitch.message_frame speaking speed known sent, .frame has speaking⟩
  | rate x =>
    cases has : r.rateSwitch with
    | none =>
      rw [has] at sent
      contradiction
    | some m =>
      rw [has] at sent
      obtain ⟨ms, least, most, nearest, instructs⟩ := RateSwitch.message_interval sent
      exact ⟨_, _, instructs, .interval least most nearest⟩

end Sent

/-- **A change is read back from what was sent.** Exactly one message is written. A framer that has
read nothing yet takes it as one packet with nothing left over, and what the fields of that say is
what was asked for. -/
theorem change_read_back (c : Change) (r : Receiver) {s : Session} (modest : c.Modest s)
    (done : (c.call r s).value = .ok true) :
    ∃ p told, Session.writes (c.call r s).effects = [p.bytes] ∧
      Framer.receive {} [p.bytes] = ([p], { kind := p.kind, packet := p.bytes, count := 1 }) ∧
      p.instruction? = some told ∧ c.Means r s p.kind told := by
  rw [call_sends] at done ⊢
  obtain ⟨bs, message, written⟩ := Session.send_taken done
  obtain ⟨kind, told, instructs, means⟩ := message_means modest message
  exact ⟨⟨kind, bs⟩, told, written, instructs.received, instructs.read, means⟩

/-- A speed that takes all four bytes, told to a receiver that has not said anything yet, and a rate
that is told in a sentence. -/
theorem change_read_back_of_frame :
    let s := Session.opened (.serial "/dev/ttyS0")
    let line : LineSettings := ⟨4000000000, 7, "E", 2⟩
    let quarter := Binary64.ofDecimal false 25 (-2)
    ((speed line).Modest s ∧ ((speed line).call Receiver.sirf s).value = .ok true ∧
      ∃ p, Session.writes ((speed line).call Receiver.sirf s).effects = [p.bytes] ∧
        (Framer.receive {} [p.bytes]).1 = [p] ∧ p.kind = .sirf ∧
        p.instruction? = some (.port .sirf line)) ∧
      (rate quarter).Modest s ∧ ((rate quarter).call Receiver.mtk3301 s).value = .ok true ∧
      ∃ p, Session.writes ((rate quarter).call Receiver.mtk3301 s).effects = [p.bytes] ∧
        (Framer.receive {} [p.bytes]).1 = [p] ∧
        p = ⟨.nmea, Bytes.ofString "$PMTK220,250*29\r\n"⟩ ∧
        p.instruction? = some (.interval 250) := by
  intro s line quarter
  have known : line.Known := ⟨by decide, by decide, by decide⟩
  have modest : (speed line).Modest s := ⟨by decide, known⟩
  have done : ((speed line).call Receiver.sirf s).value = .ok true := rfl
  have taken : ((rate quarter).call Receiver.mtk3301 s).value = .ok true := by decide +kernel
  refine ⟨⟨modest, done, ?_⟩, trivial, taken, ?_⟩
  · obtain ⟨⟨kind, bytes⟩, told, written, received, read, means⟩ :=
      change_read_back (speed line) Receiver.sirf modest done
    cases means with
    | speed alone => exact absurd rfl alone
    | sentence _ speaking => contradiction
    | frame => exact ⟨_, written, congrArg Prod.fst received, rfl, read⟩
  · obtain ⟨⟨kind, bytes⟩, told, written, received, _, means⟩ :=
      change_read_back (rate quarter) Receiver.mtk3301 trivial taken
    have sent : Session.writes ((rate quarter).call Receiver.mtk3301 s).effects =
        [Bytes.ofString "$PMTK220,250*29\r\n"] := by decide +kernel
    obtain rfl : bytes = _ := List.singleton_inj.mp (written.symm.trans sent)
    cases means
    exact ⟨_, written, congrArg Prod.fst received, rfl, by decide +kernel⟩

end Change

end GnssMonitor
