import GnssMonitor.Proofs.Framing.Scan
import GnssMonitor.Proofs.Packet.Encoding

/-! What is encoded is framed again: sentences, frames and objects come out of a stream as they
went in, whatever noise lies between them. -/

namespace GnssMonitor

namespace Encoding

open Framing

section Sealed

variable {lead : UInt8} {text : Bytes}

theorem sealed_isLine {sum : UInt8} (led : isLeader lead = true) (unbroken : lineFeed ∉ text)
    (fits : (sealed lead text sum).length ≤ sentenceLimit) :
    IsLine isLeader sentenceLimit (sealed lead text sum) := by
  obtain ⟨x, y, shape, -, plain⟩ := upperHexPair_eq sum
  have solid : lineFeed ≠ lead := (leader_ne led rfl).symm
  have pair : lineFeed ∉ upperHexPair sum := by
    rw [shape]
    exact fun there => absurd (plain lineFeed there).2 (by decide)
  have other : lineFeed ≠ star ∧ lineFeed ≠ carriageReturn := by decide
  exact ⟨lead, text ++ star :: upperHexPair sum ++ [carriageReturn], by simp [sealed], led,
    by simp [solid, unbroken, pair, other], fits⟩

/-- Such a sentence passes when the checksum is that of its text, whatever bytes that has. -/
theorem sealed_isVouched_iff (sum : UInt8) :
    IsVouched (sealed lead text sum) ↔ Checksum.xor text = sum := by
  obtain ⟨x, y, marks, shown⟩ := sealed_marks lead text sum
  have starred : ¬ star ∉ sealed lead text sum := by simp [sealed]
  rw [IsVouched, or_iff_right starred, Checksum.shows_iff marks, or_iff_left shown.not_lone]
  constructor
  · intro read
    exact UInt8.toNat_inj.mp (read.unique shown)
  · rintro rfl
    exact shown

end Sealed

theorem nmea_genuine {body : Bytes} (unstarred : star ∉ body) (unbroken : lineFeed ∉ body)
    (fits : (nmea body).length ≤ sentenceLimit) : Packet.Genuine ⟨.nmea, nmea body⟩ := by
  obtain ⟨lead, text, led, -, within, shape⟩ := nmea_eq unstarred
  rw [shape] at fits ⊢
  exact ⟨sealed_isLine led (fun there => unbroken (within there)) fits,
    (sealed_isVouched_iff _).mpr rfl⟩

theorem word_ofWord16 {n : Nat} (small : n < 0x10000) :
    word (UInt8.ofNat (n / 256)) (UInt8.ofNat n) = n := by
  have high : (UInt8.ofNat (n / 256)).toNat = n / 256 := by
    rw [UInt8.toNat_ofNat']
    omega
  have low : (UInt8.ofNat n).toNat = n % 256 := UInt8.toNat_ofNat'
  simp only [word, high, low]
  omega

theorem sirf_eq {payload : Bytes} (fits : payload.length + 8 ≤ packetLimit) :
    sirf payload = .ok (sirfLead :: 0xa2 :: UInt8.ofNat (payload.length / 256) ::
      UInt8.ofNat payload.length :: (payload ++ [UInt8.ofNat (Checksum.sum payload / 256),
        UInt8.ofNat (Checksum.sum payload), 0xb0, 0xb3])) := by
  have small : payload.length < 0x10000 := by
    simp only [packetLimit] at fits
    omega
  simp [sirf, small, Bytes.ofWord16, sirfLeader, sirfLead, sirfTrailer]

theorem sirf_isFrame {payload : Bytes} (fits : payload.length + 8 ≤ packetLimit) :
    ∃ frame, sirf payload = .ok frame ∧ IsFrame frame := by
  have short : payload.length < 0x8000 := by
    simp only [packetLimit] at fits
    omega
  have sum_fits : Checksum.sum payload < 0x8000 := Nat.mod_lt _ (by decide)
  have announced := word_ofWord16 (n := payload.length) (by omega)
  have sum := word_ofWord16 (n := Checksum.sum payload) (by omega)
  refine ⟨_, sirf_eq fits, _, _, payload, _, _, rfl, ?_, sum, ?_⟩
  · rw [announced, Nat.mod_eq_of_lt short]
  · simp only [List.length_cons, List.length_append, List.length_nil]
    omega

end Encoding

/-- What is to be sent: the body of a sentence, the payload of a frame, or the whole line of an
object. -/
inductive Message
  | sentence (body : Bytes)
  | frame (payload : Bytes)
  | object (line : Bytes)

namespace Message

open Framing

/-- The packet that carries the message. -/
def packet : Message → Except FieldOverflow Packet
  | sentence body => .ok ⟨.nmea, Encoding.nmea body⟩
  | frame payload => (Encoding.sirf payload).map (⟨.sirf, ·⟩)
  | object line => .ok ⟨.json, line⟩

/-- A body holds neither star nor newline, and a line ends with its only newline. No packet is
longer than its kind may be. -/
def Fits : Message → Prop
  | sentence body =>
    star ∉ body ∧ lineFeed ∉ body ∧ (Encoding.nmea body).length ≤ sentenceLimit
  | frame payload => payload.length + 8 ≤ packetLimit
  | object line =>
    line.head? = some openBrace ∧ line.getLast? = some lineFeed ∧ lineFeed ∉ line.dropLast ∧
      line.length ≤ packetLimit

instance (m : Message) : Decidable m.Fits :=
  match m with
  | sentence body => inferInstanceAs (Decidable (star ∉ body ∧ lineFeed ∉ body ∧
      (Encoding.nmea body).length ≤ sentenceLimit))
  | frame payload => inferInstanceAs (Decidable (payload.length + 8 ≤ packetLimit))
  | object line => inferInstanceAs (Decidable (line.head? = some openBrace ∧
      line.getLast? = some lineFeed ∧ lineFeed ∉ line.dropLast ∧ line.length ≤ packetLimit))

theorem object_isLine {line : Bytes} (fits : Fits (object line)) :
    IsLine (· == openBrace) packetLimit line := by
  obtain ⟨opened, ended, only, short⟩ := fits
  obtain ⟨front, split⟩ := List.getLast?_eq_some_iff.mp ended
  rw [split, List.dropLast_concat] at only
  subst split
  cases front with
  | nil => exact absurd opened (by decide)
  | cons lead text =>
    obtain rfl : lead = openBrace := Option.some.inj opened
    exact ⟨openBrace, text, rfl, beq_self_eq_true _, only, short⟩

/-- Whatever comes behind it, a packet that was sent is taken. -/
theorem verdict_packet {m : Message} (fits : m.Fits) :
    ∃ p, m.packet = .ok p ∧ ∀ more, verdict (p.bytes ++ more) = .take p.kind p.bytes.length := by
  cases m with
  | sentence body =>
    obtain ⟨unstarred, unbroken, short⟩ := fits
    exact ⟨_, rfl, verdict_of_genuine (Encoding.nmea_genuine unstarred unbroken short)⟩
  | frame payload =>
    obtain ⟨frame, encoded, is⟩ := Encoding.sirf_isFrame fits
    exact ⟨⟨.sirf, frame⟩, by rw [packet, encoded]; rfl, verdict_of_genuine is⟩
  | object line => exact ⟨_, rfl, verdict_of_genuine (object_isLine fits)⟩

end Message

namespace Framing

/-- A stream of packets, with noise before, between and behind them. -/
inductive Carries : List Packet → Bytes → Prop
  | nil : Carries [] []
  | noise {b : UInt8} {packets : List Packet} {rest : Bytes} (h : isNoise b = true)
      (more : Carries packets rest) : Carries packets (b :: rest)
  | packet {p : Packet} {packets : List Packet} {rest : Bytes}
      (more : Carries packets rest) : Carries (p :: packets) (p.bytes ++ rest)

theorem Carries.scans {packets : List Packet} {stream : Bytes} (h : Carries packets stream)
    (taken : ∀ p ∈ packets, ∀ more, verdict (p.bytes ++ more) = .take p.kind p.bytes.length) :
    Scans stream packets [] := by
  induction h with
  | nil => exact .wait rfl
  | noise h _ ih => exact .drop (verdict_noise h _) (ih taken)
  | @packet p packets rest _ ih =>
    have front := taken p List.mem_cons_self rest
    have others := ih fun q hq => taken q (List.mem_cons_of_mem _ hq)
    have scans := Scans.take front (by rw [List.drop_left]; exact others)
    rwa [List.take_left] at scans

end Framing

namespace Framer

open Framing

/-- **What was sent is received.** The messages of a mixed stream come out as its packets, all of
them and in order, and nothing is left pending. -/
theorem receive_sent {messages : List Message} (fits : ∀ m ∈ messages, m.Fits) :
    ∃ packets, messages.mapM Message.packet = .ok packets ∧
      ∀ stream chunks, Carries packets stream → chunks.flatten = stream →
        (∀ chunk ∈ chunks, chunk.length ≤ packetLimit) →
        (receive {} chunks).1 = packets ∧ (receive {} chunks).2.pending = [] := by
  obtain ⟨packets, sent, taken⟩ : ∃ packets, messages.mapM Message.packet = .ok packets ∧
      ∀ p ∈ packets, ∀ more, verdict (p.bytes ++ more) = .take p.kind p.bytes.length := by
    induction messages with
    | nil => exact ⟨[], rfl, by simp⟩
    | cons m messages ih =>
      obtain ⟨p, encoded, first⟩ := Message.verdict_packet (fits m List.mem_cons_self)
      obtain ⟨packets, sent, others⟩ := ih fun m' hm => fits m' (List.mem_cons_of_mem _ hm)
      refine ⟨p :: packets, ?_, List.forall_mem_cons.mpr ⟨first, others⟩⟩
      rw [List.mapM_cons, encoded, sent]
      rfl
  refine ⟨packets, sent, fun stream chunks carries cut small => ?_⟩
  have received := receive_scans (f := {}) rfl small (by rw [cut]; exact carries.scans taken)
  rw [received]
  exact ⟨rfl, after_pending _ _ _⟩

/-- One of each, with noise around them and a cut in the middle of the frame. -/
theorem receive_sent_of_each_kind :
    let messages : List Message := [.object [0x7b, 0x7d, 0x0a], .frame [0x2a], .sentence [0x50]]
    let chunks : List Bytes := [[0x41, 0x7b, 0x7d, 0x0a, 0xa0, 0xa2, 0, 1],
      [0x2a, 0, 0x2a, 0xb0, 0xb3, 0x0d, 0x24, 0x50, 0x2a, 0x35, 0x30, 0x0d, 0x0a]]
    (∀ m ∈ messages, m.Fits) ∧ messages.mapM Message.packet = .ok (receive {} chunks).1 ∧
      (receive {} chunks).2.pending = [] := by
  intro messages chunks
  have fits : ∀ m ∈ messages, m.Fits := by decide
  obtain ⟨packets, sent, received⟩ := receive_sent fits
  have carries : Carries _ _ :=
    .noise (b := 0x41) rfl <| .packet (p := ⟨.json, [0x7b, 0x7d, 0x0a]⟩) <|
    .packet (p := ⟨.sirf, [0xa0, 0xa2, 0, 1, 0x2a, 0, 0x2a, 0xb0, 0xb3]⟩) <|
    .noise (b := 0x0d) rfl <|
    .packet (p := ⟨.nmea, [0x24, 0x50, 0x2a, 0x35, 0x30, 0x0d, 0x0a]⟩) .nil
  obtain rfl := Except.ok.inj sent
  obtain ⟨yielded, emptied⟩ := received _ chunks carries rfl (by decide)
  exact ⟨fits, sent.trans (congrArg _ yielded.symm), emptied⟩

end Framer
end GnssMonitor
