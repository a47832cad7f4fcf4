import GnssMonitor.Proofs.Framing.Verdict
import GnssMonitor.Proofs.Packet.Checksum

/-! What a packet is. The framer takes what is at the front of its bytes exactly when it is one,
and what it drops is a byte or a line with a wrong checksum. -/

namespace GnssMonitor

namespace Framing

/-- A line with a leader. Its only newline ends it, and it is no longer than its kind may be. -/
def IsLine (leads : UInt8 → Bool) (limit : Nat) (line : Bytes) : Prop :=
  ∃ lead text, line = lead :: text ++ [lineFeed] ∧ leads lead = true ∧
    lineFeed ∉ lead :: text ∧ line.length ≤ limit

/-- Without a star, or with the right checksum behind the last one. -/
def IsVouched (sentence : Bytes) : Prop :=
  star ∉ sentence ∨ Checksum.ShowsSum sentence ∨ Checksum.ShowsDigit sentence

/-- The line of a sentence whose checksum is wrong. -/
def IsSpoiled (line : Bytes) : Prop := IsLine isLeader sentenceLimit line ∧ ¬ IsVouched line

/-- A leader, the length of the payload in the low 15 bits of a word, the payload, its sum and a
trailer. -/
def IsFrame (frame : Bytes) : Prop :=
  ∃ high low payload a b,
    frame = sirfLead :: 0xa2 :: high :: low :: (payload ++ [a, b, 0xb0, 0xb3]) ∧
      payload.length = word high low % 0x8000 ∧ word a b = Checksum.sum payload ∧
      frame.length ≤ packetLimit

end Framing

open Framing

/-- What a packet of each kind is made of. -/
def Packet.Genuine (p : Packet) : Prop :=
  match p.kind with
  | .nmea => IsLine isLeader sentenceLimit p.bytes ∧ IsVouched p.bytes
  | .json => IsLine (· == openBrace) packetLimit p.bytes
  | .sirf => IsFrame p.bytes
  | .bad => False

theorem Packet.Genuine.kind_ne_bad {p : Packet} (genuine : p.Genuine) : p.kind ≠ .bad := by
  intro bad
  rw [Genuine, bad] at genuine
  exact genuine

theorem Packet.Genuine.bytes_ne_nil {p : Packet} (genuine : p.Genuine) : p.bytes ≠ [] := by
  obtain ⟨kind, bytes⟩ := p
  cases kind with
  | nmea =>
    obtain ⟨⟨lead, text, rfl, -⟩, -⟩ := genuine
    simp
  | json =>
    obtain ⟨lead, text, rfl, -⟩ := genuine
    simp
  | sirf =>
    obtain ⟨high, low, payload, a, b, rfl, -⟩ := genuine
    simp
  | bad => exact genuine.elim

namespace Framing

section Line

variable {leads : UInt8 → Bool} {limit : Nat} {line : Bytes}

theorem leader_ne {lead b : UInt8} (led : isLeader lead = true) (other : isLeader b = false) :
    lead ≠ b := by
  rintro rfl
  simp [led] at other

theorem isGenuine_iff_vouched (led : IsLine isLeader limit line) :
    Checksum.isGenuine line = true ↔ IsVouched line := by
  obtain ⟨lead, text, rfl, first, -, -⟩ := led
  have other : lead ≠ star := leader_ne first rfl
  have ended : (lead :: (text ++ [lineFeed])).getLast? = some lineFeed := by
    rw [← List.cons_append, List.getLast?_concat]
  exact Checksum.isGenuine_iff other ended

/-- A line in front is judged by its own bytes. -/
theorem IsLine.judged {kind : PacketKind} {accept : Bytes → Bool} (is : IsLine leads limit line)
    (more : Bytes) :
    lineVerdict limit kind accept (line ++ more) =
      if accept line then .take kind line.length else .drop line.length := by
  obtain ⟨lead, text, rfl, -, plain, fits⟩ := is
  have short : (lead :: text).length + 1 ≤ limit := by simpa using fits
  have whole : lead :: text ++ [lineFeed] ++ more = lead :: text ++ lineFeed :: more := by simp
  have size : (lead :: text ++ [lineFeed]).length = (lead :: text).length + 1 := by simp
  rw [whole, size, lineVerdict_line plain short]

/-- Bytes that begin like a line begin with one, or they are waited for, or their leader is
garbage. -/
theorem line_in_front (leads : UInt8 → Bool) (limit : Nat) {lead : UInt8} (rest : Bytes)
    (led : leads lead = true) (solid : lead ≠ lineFeed) :
    (∃ line more, lead :: rest = line ++ more ∧ IsLine leads limit line) ∨
      ∀ kind accept, lineVerdict limit kind accept (lead :: rest) =
        if limit < (lead :: rest).length then .drop 1 else .wait := by
  obtain ⟨text, more, split, plain, fits⟩ | endless := line_cases limit (lead :: rest)
  · cases text with
    | nil => exact absurd (List.cons.inj split).1 solid
    | cons first text =>
      obtain ⟨rfl, rfl⟩ := List.cons.inj split
      exact .inl ⟨lead :: text ++ [lineFeed], more, by simp,
        lead, text, rfl, led, plain, by simpa using fits⟩
  · exact .inr fun kind accept => lineVerdict_endless endless

end Line

theorem word_low_bits (high low : UInt8) :
    word (high &&& 0x7f) low = word high low % 0x8000 := by
  have small := low.toNat_lt
  have masked : (high &&& 0x7f).toNat = high.toNat % 128 := by
    rw [UInt8.toNat_and]
    exact Nat.and_two_pow_sub_one_eq_mod _ 7
  simp only [word, masked]
  omega

/-- **What becomes of the bytes in front.** They are waited for, or one byte of garbage is dropped,
or a line with a wrong checksum, or a genuine packet is taken. -/
theorem verdict_cases (bs : Bytes) :
    (verdict bs = .wait ∧ bs.length ≤ packetLimit) ∨
    (verdict bs = .drop 1 ∧ bs ≠ []) ∨
    (∃ line more, bs = line ++ more ∧ IsSpoiled line ∧ verdict bs = .drop line.length) ∨
    ∃ (p : Packet) (more : Bytes),
      bs = p.bytes ++ more ∧ p.Genuine ∧ verdict bs = .take p.kind p.bytes.length := by
  cases front bs with
  | nothing => exact .inl ⟨rfl, Nat.zero_le _⟩
  | lone => exact .inl ⟨rfl, by decide⟩
  | @sentence lead led rest =>
    have solid : lead ≠ lineFeed := leader_ne led rfl
    rw [verdict_sentence led]
    obtain ⟨line, more, split, is⟩ | endless := line_in_front isLeader sentenceLimit rest led solid
    · rw [split, is.judged]
      by_cases vouched : IsVouched line
      · rw [if_pos ((isGenuine_iff_vouched is).mpr vouched)]
        exact .inr (.inr (.inr ⟨⟨.nmea, line⟩, more, rfl, ⟨is, vouched⟩, rfl⟩))
      · rw [if_neg fun genuine => vouched ((isGenuine_iff_vouched is).mp genuine)]
        exact .inr (.inr (.inl ⟨line, more, rfl, ⟨is, vouched⟩, rfl⟩))
    · rw [endless]
      split
      · exact .inr (.inl ⟨rfl, by simp⟩)
      · refine .inl ⟨rfl, ?_⟩
        simp only [sentenceLimit, packetLimit] at *
        omega
  | object rest =>
    rw [verdict_object]
    obtain ⟨line, more, split, is⟩ | endless :=
      line_in_front (· == openBrace) packetLimit rest (beq_self_eq_true openBrace) (by decide)
    · rw [split, is.judged, if_pos rfl]
      exact .inr (.inr (.inr ⟨⟨.json, line⟩, more, rfl, is, rfl⟩))
    · rw [endless]
      split
      · exact .inr (.inl ⟨rfl, by simp⟩)
      · exact .inl ⟨rfl, by omega⟩
  | frame rest =>
    rw [verdict_frame]
    obtain ⟨judged, short⟩ | judged |
      ⟨x, y, high, low, payload, a, b, more, split, announced, fits, sum, judged⟩ :=
        sirfVerdict_cases (sirfLead :: 0xa2 :: rest)
    · exact .inl ⟨judged, short⟩
    · exact .inr (.inl judged)
    · simp only [List.cons.injEq] at split
      obtain ⟨rfl, rfl, rfl⟩ := split
      rw [word_low_bits] at announced
      let frame := sirfLead :: 0xa2 :: high :: low :: (payload ++ [a, b, 0xb0, 0xb3])
      have size : frame.length = payload.length + 8 := by simp [frame]
      refine .inr (.inr (.inr ⟨⟨.sirf, frame⟩, more, by simp [frame], ?_, size ▸ judged⟩))
      exact ⟨high, low, payload, a, b, rfl, announced, sum, size ▸ fits⟩
  | broken other rest => exact .inr (.inl ⟨verdict_broken other rest, by simp⟩)
  | noise noise rest => exact .inr (.inl ⟨verdict_noise noise rest, by simp⟩)

theorem verdict_of_line {line : Bytes} (is : IsLine isLeader sentenceLimit line) (more : Bytes) :
    verdict (line ++ more) =
      if Checksum.isGenuine line then .take .nmea line.length else .drop line.length := by
  have ⟨lead, text, shape, led, _⟩ := is
  have judged : verdict (line ++ more) =
      lineVerdict sentenceLimit .nmea Checksum.isGenuine (line ++ more) := by
    rw [shape]
    exact verdict_sentence led _
  rw [judged, is.judged]

theorem verdict_of_spoiled {line : Bytes} (spoiled : IsSpoiled line) (more : Bytes) :
    verdict (line ++ more) = .drop line.length := by
  rw [verdict_of_line spoiled.1, if_neg]
  exact fun genuine => spoiled.2 ((isGenuine_iff_vouched spoiled.1).mp genuine)

/-- Whatever comes behind it, a genuine packet in front is taken. -/
theorem verdict_of_genuine {p : Packet} (genuine : p.Genuine) (more : Bytes) :
    verdict (p.bytes ++ more) = .take p.kind p.bytes.length := by
  obtain ⟨kind, bytes⟩ := p
  cases kind with
  | nmea =>
    obtain ⟨is, vouched⟩ := genuine
    rw [verdict_of_line is, if_pos ((isGenuine_iff_vouched is).mpr vouched)]
  | json =>
    have is : IsLine (· == openBrace) packetLimit bytes := genuine
    have ⟨lead, text, shape, led, _⟩ := is
    obtain rfl : lead = openBrace := beq_iff_eq.mp led
    have judged : verdict (bytes ++ more) =
        lineVerdict packetLimit .json (fun _ => true) (bytes ++ more) := by
      rw [shape]
      exact verdict_object _
    rw [judged, is.judged, if_pos rfl]
  | sirf =>
    obtain ⟨high, low, payload, a, b, shape, announced, sum, fits⟩ := genuine
    have size : bytes.length = payload.length + 8 := by simp [show bytes = _ from shape]
    have whole : bytes ++ more =
        sirfLead :: 0xa2 :: high :: low :: (payload ++ a :: b :: 0xb0 :: 0xb3 :: more) := by
      simp [show bytes = _ from shape]
    rw [← word_low_bits] at announced
    rw [whole, verdict_frame, sirfVerdict_complete announced (size ▸ fits), if_pos ⟨rfl, sum⟩,
      size]
  | bad => exact genuine.elim

/-- The framer takes what is a packet, and nothing else. -/
theorem verdict_take_iff {bs : Bytes} {kind : PacketKind} {n : Nat} :
    verdict bs = .take kind n ↔
      n ≤ bs.length ∧ Packet.Genuine ⟨kind, bs.take n⟩ := by
  constructor
  · intro taken
    obtain ⟨judged, -⟩ | ⟨judged, -⟩ | ⟨line, more, rfl, -, judged⟩ |
      ⟨p, more, rfl, genuine, judged⟩ := verdict_cases bs
    · simp [judged] at taken
    · simp [judged] at taken
    · simp [judged] at taken
    · obtain ⟨rfl, rfl⟩ := Verdict.take.inj (judged.symm.trans taken)
      rw [List.take_left]
      exact ⟨by simp, genuine⟩
  · rintro ⟨within, genuine⟩
    have taken := verdict_of_genuine genuine (bs.drop n)
    rwa [List.take_append_drop, List.length_take, Nat.min_eq_left within] at taken

end Framing
end GnssMonitor
