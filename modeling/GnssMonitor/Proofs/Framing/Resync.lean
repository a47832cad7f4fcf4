import GnssMonitor.Proofs.Framing.Scan

/-! Coming back into step. What garbage has begun, a line or a frame, can swallow the first good
sentence behind it, but no more: from the second on all of them come through. -/

namespace GnssMonitor

namespace Framing

/-- A good sentence: a line of plain ASCII with a leader, its only newline at its end, no longer
than a sentence may be, and with the right checksum if it has one. -/
structure IsSentence (line : Bytes) : Prop where
  led : ∃ lead ∈ line.head?, isLeader lead = true
  ended : line.getLast? = some lineFeed
  only : lineFeed ∉ line.dropLast
  fits : line.length ≤ sentenceLimit
  plain : ∀ b ∈ line, b < 0x80
  genuine : Checksum.isGenuine line = true

theorem IsSentence.split {line : Bytes} (good : IsSentence line) :
    ∃ text, line = text ++ [lineFeed] ∧ lineFeed ∉ text := by
  obtain ⟨text, split⟩ := List.getLast?_eq_some_iff.mp good.ended
  have only := good.only
  rw [split, List.dropLast_concat] at only
  exact ⟨text, split, only⟩

theorem IsSentence.isLine {line : Bytes} (good : IsSentence line) :
    IsLine isLeader sentenceLimit line := by
  obtain ⟨front, rfl, only⟩ := good.split
  obtain ⟨lead, first, led⟩ := good.led
  cases front with
  | nil =>
    obtain rfl : lineFeed = lead := Option.some.inj first
    exact absurd led (by decide)
  | cons other text =>
    obtain rfl : other = lead := Option.some.inj first
    exact ⟨other, text, rfl, led, only, good.fits⟩

theorem IsSentence.taken {line : Bytes} (good : IsSentence line) (more : Bytes) :
    verdict (line ++ more) = .take .nmea line.length := by
  rw [verdict_of_line good.isLine, if_pos good.genuine]

theorem scans_sentences {lines : List Bytes} (good : ∀ line ∈ lines, IsSentence line) :
    Scans lines.flatten (lines.map (Packet.mk .nmea)) [] := by
  induction lines with
  | nil => exact .wait rfl
  | cons line lines ih =>
    have others := ih fun l hl => good l (List.mem_cons_of_mem _ hl)
    have front := (good line List.mem_cons_self).taken lines.flatten
    have scans := Scans.take front (by rw [List.drop_left]; exact others)
    rwa [List.take_left] at scans

/-- The verdict moves on, and stops within the garbage or right behind the first line. -/
def Verdict.Lands (garbage line : Nat) : Verdict → Prop
  | .wait => False
  | .drop n | .take _ n => 0 < n ∧ (n ≤ garbage ∨ n = garbage + line)

section Garbage

variable {garbage text rest : Bytes}

/-- A line that the garbage has begun ends there or with the first newline behind it. -/
theorem lineVerdict_lands {limit : Nat} {kind : PacketKind} {accept : Bytes → Bool}
    (present : garbage ≠ []) (plain : lineFeed ∉ text)
    (long : limit < (garbage ++ (text ++ lineFeed :: rest)).length) :
    (lineVerdict limit kind accept (garbage ++ (text ++ lineFeed :: rest))).Lands garbage.length
      (text.length + 1) := by
  have some_garbage : 0 < garbage.length := List.length_pos_iff.mpr present
  obtain ⟨begun, tail, split, only, fits⟩ | endless :=
    line_cases limit (garbage ++ (text ++ lineFeed :: rest))
  · have landed : 0 < begun.length + 1 ∧
        (begun.length + 1 ≤ garbage.length ∨
          begun.length + 1 = garbage.length + (text.length + 1)) := by
      by_cases within : lineFeed ∈ garbage
      · obtain ⟨first, others, rfl, free⟩ := List.eq_append_cons_of_mem within
        rw [List.append_assoc, List.cons_append] at split
        obtain ⟨rfl, -⟩ := newline_unique free only split
        simp
      · rw [← List.append_assoc] at split
        obtain ⟨rfl, -⟩ := newline_unique (by simp [within, plain]) only split
        simp
        omega
    rw [split, lineVerdict_line only fits]
    split <;> exact landed
  · rw [lineVerdict_endless endless, if_pos long]
    exact ⟨Nat.one_pos, .inl some_garbage⟩

/-- A frame that the garbage has begun is no frame unless it ends there: no byte behind it can be
the last of a trailer. -/
theorem sirfVerdict_lands {stream : Bytes} (line : Nat) (present : garbage ≠ [])
    (plain : ∀ b ∈ stream, b < 0x80) (long : packetLimit < (garbage ++ stream).length) :
    (sirfVerdict (garbage ++ stream)).Lands garbage.length line := by
  have some_garbage : 0 < garbage.length := List.length_pos_iff.mpr present
  obtain ⟨-, short⟩ | ⟨judged, -⟩ |
    ⟨x, y, high, low, payload, a, b, more, shape, -, -, -, judged⟩ :=
      sirfVerdict_cases (garbage ++ stream)
  · omega
  · rw [judged]
    exact ⟨Nat.one_pos, .inl some_garbage⟩
  · rw [judged]
    refine ⟨by omega, .inl ?_⟩
    apply Nat.le_of_not_lt
    intro beyond
    have last : (garbage ++ stream)[payload.length + 7]? = some 0xb3 := by
      rw [shape]
      simp
    rw [List.getElem?_append_right (by omega)] at last
    exact absurd (plain 0xb3 (List.mem_of_getElem? last)) (by decide)

theorem verdict_lands {stream : Bytes} (present : garbage ≠ [])
    (split : stream = text ++ lineFeed :: rest) (only : lineFeed ∉ text)
    (plain : ∀ b ∈ stream, b < 0x80) (long : packetLimit ≤ stream.length) :
    (verdict (garbage ++ stream)).Lands garbage.length (text.length + 1) := by
  have some_garbage : 0 < garbage.length := List.length_pos_iff.mpr present
  have longer : packetLimit < (garbage ++ stream).length := by
    rw [List.length_append]
    omega
  obtain rfl | rfl | ⟨limit, small, kind, accept, line⟩ | frame | ⟨_, noise⟩ :=
    verdict_judge garbage
  · contradiction
  · cases stream with
    | nil => simp at split
    | cons second others =>
      have other : second ≠ 0xa2 := by
        rintro rfl
        exact absurd (plain 0xa2 List.mem_cons_self) (by decide)
      rw [List.singleton_append, verdict_broken other]
      exact ⟨Nat.one_pos, .inl some_garbage⟩
  · rw [line]
    rw [split] at longer ⊢
    exact lineVerdict_lands present only (by omega)
  · rw [frame]
    exact sirfVerdict_lands _ present plain longer
  · rw [noise]
    exact ⟨Nat.one_pos, .inl some_garbage⟩

end Garbage

/-- A scan goes on from wherever the verdict lands. -/
theorem Verdict.Lands.scans {stream : Bytes} {garbage line : Nat} {packets : List Packet}
    (lands : (verdict stream).Lands garbage line)
    (onward : ∀ n, 0 < n ∧ (n ≤ garbage ∨ n = garbage + line) →
      ∃ before, Scans (stream.drop n) (before ++ packets) []) :
    ∃ before, Scans stream (before ++ packets) [] := by
  cases judged : verdict stream with
  | wait =>
    rw [judged] at lands
    exact lands.elim
  | drop n =>
    rw [judged] at lands
    obtain ⟨before, scans⟩ := onward n lands
    exact ⟨before, .drop judged scans⟩
  | take kind n =>
    rw [judged] at lands
    obtain ⟨before, scans⟩ := onward n lands
    exact ⟨_ :: before, .take judged scans⟩

theorem scans_behind_garbage {first : Bytes} {others : List Bytes}
    (good : ∀ line ∈ first :: others, IsSentence line)
    (long : packetLimit ≤ (first :: others).flatten.length) (garbage : Bytes) :
    ∃ before, Scans (garbage ++ (first :: others).flatten)
      (before ++ others.map (Packet.mk .nmea)) [] := by
  obtain ⟨text, split, only⟩ := (good first List.mem_cons_self).split
  have stream : (first :: others).flatten = text ++ lineFeed :: others.flatten := by
    simp [split]
  have ends : text.length + 1 = first.length := by simp [split]
  have plain : ∀ b ∈ (first :: others).flatten, b < 0x80 := by
    intro b hb
    obtain ⟨line, among, inside⟩ := List.mem_flatten.mp hb
    exact (good line among).plain b inside
  -- what is left of the garbage shrinks until the verdict lands behind it
  induction size : garbage.length using Nat.strongRecOn generalizing garbage with
  | ind left ih =>
    by_cases clean : garbage = []
    · subst clean
      exact ⟨[⟨.nmea, first⟩], scans_sentences good⟩
    · have lands := verdict_lands clean stream only plain long
      rw [ends] at lands
      apply lands.scans
      rintro n ⟨moved, within | behind⟩
      · have shorter : (garbage.drop n).length < left := by
          rw [List.length_drop]
          omega
        rw [List.drop_append_of_le_length within]
        exact ih _ shorter _ rfl
      · refine ⟨[], ?_⟩
        rw [behind, List.drop_length_add_append, List.flatten_cons, List.drop_left, List.nil_append]
        exact scans_sentences fun line hl => good line (List.mem_cons_of_mem _ hl)

end Framing

namespace Framer

open Framing

/-- **Garbage costs at most one good sentence.** When good sentences follow that are together as
long as the longest packet, the packets end with all of them but the first, whatever came before
and however the stream is cut, and nothing is left pending. -/
theorem receive_resynchronises {garbage : Bytes} {lines chunks : List Bytes}
    (good : ∀ line ∈ lines, IsSentence line) (long : packetLimit ≤ lines.flatten.length)
    (cut : chunks.flatten = garbage ++ lines.flatten)
    (small : ∀ chunk ∈ chunks, chunk.length ≤ packetLimit) :
    (∃ before, (receive {} chunks).1 = before ++ lines.tail.map (Packet.mk .nmea)) ∧
      (receive {} chunks).2.pending = [] := by
  cases lines with
  | nil => simp [packetLimit] at long
  | cons first others =>
    obtain ⟨before, scans⟩ := scans_behind_garbage good long garbage
    have received := receive_scans (f := {}) rfl small (by rw [cut]; exact scans)
    rw [received]
    exact ⟨⟨before, rfl⟩, after_pending _ _ _⟩

/-- The header of a frame of the greatest length, and sentences that run beyond its end. -/
theorem receive_resynchronises_of_false_header :
    let header : Bytes := [0xa0, 0xa2, 0x23, 0xf8]
    let lines : List Bytes := List.replicate 1317 [0x24, 0x50, 0x2a, 0x35, 0x30, 0x0d, 0x0a]
    (∀ line ∈ lines, IsSentence line) ∧ packetLimit ≤ lines.flatten.length ∧
      (∃ before, (receive {} (header :: lines)).1 =
        before ++ lines.tail.map (Packet.mk .nmea)) ∧
      (receive {} (header :: lines)).2.pending = [] := by
  intro header lines
  have each : ∀ line ∈ lines, line = [0x24, 0x50, 0x2a, 0x35, 0x30, 0x0d, 0x0a] :=
    fun line hl => List.eq_of_mem_replicate hl
  have good : ∀ line ∈ lines, IsSentence line := by
    intro line hl
    rw [each line hl]
    exact ⟨⟨_, rfl, by decide⟩, by decide, by decide, by decide, by simp, by decide⟩
  have long : packetLimit ≤ lines.flatten.length := by
    rw [List.length_flatten, List.map_replicate, List.sum_replicate_nat]
    decide
  have small : ∀ chunk ∈ header :: lines, chunk.length ≤ packetLimit := by
    intro chunk hc
    obtain rfl | hl := List.mem_cons.mp hc
    · decide
    · rw [each chunk hl]
      decide
  exact ⟨good, long, receive_resynchronises good long rfl small⟩

end Framer
end GnssMonitor
