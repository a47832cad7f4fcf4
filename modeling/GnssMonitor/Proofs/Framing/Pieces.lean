import GnssMonitor.Proofs.Framing.Scan

/-! Where the bytes of a stream go. Each is in a packet or lost, or still waits at the end, and no
packet holds a byte that did not come in. -/

namespace GnssMonitor

namespace Framing

/-- What one verdict cuts off the front of a stream. -/
inductive Piece
  | lost (bytes : Bytes)
  | packet (p : Packet)
  deriving DecidableEq, Repr

namespace Piece

@[simp] def bytes : Piece → Bytes
  | lost bs => bs
  | packet p => p.bytes

@[simp] def packet? : Piece → Option Packet
  | lost _ => none
  | packet p => some p

/-- The verdict that cuts the piece off. -/
def verdict : Piece → Verdict
  | lost bs => .drop bs.length
  | packet p => .take p.kind p.bytes.length

/-- A piece is a byte, a line with a wrong checksum, or a genuine packet. -/
def Sound : Piece → Prop
  | lost bs => bs.length = 1 ∨ IsSpoiled bs
  | packet p => p.Genuine

theorem Sound.bytes_ne_nil {piece : Piece} (sound : piece.Sound) : piece.bytes ≠ [] := by
  cases piece with
  | packet p => exact Packet.Genuine.bytes_ne_nil sound
  | lost bs =>
    obtain one | ⟨⟨lead, text, rfl, -⟩, -⟩ := sound
    · rintro rfl
      contradiction
    · simp

end Piece

/-- Bytes wait, or there is a sound piece in front of them. -/
theorem exists_piece (bs : Bytes) :
    verdict bs = .wait ∨ ∃ (piece : Piece) (rest : Bytes),
      bs = piece.bytes ++ rest ∧ piece.Sound ∧ verdict bs = piece.verdict := by
  obtain ⟨waits, -⟩ | ⟨judged, present⟩ | ⟨line, more, split, spoiled, judged⟩ |
    ⟨p, more, split, genuine, judged⟩ := verdict_cases bs
  · exact .inl waits
  · obtain ⟨b, rest, rfl⟩ := List.exists_cons_of_ne_nil present
    exact .inr ⟨.lost [b], rest, rfl, .inl rfl, judged⟩
  · exact .inr ⟨.lost line, more, split, .inr spoiled, judged⟩
  · exact .inr ⟨.packet p, more, split, genuine, judged⟩

/-- Induction over the pieces of a stream. -/
theorem piecewise {motive : Bytes → Prop} (wait : ∀ bs, verdict bs = .wait → motive bs)
    (front : ∀ (piece : Piece) (rest : Bytes), piece.Sound →
      verdict (piece.bytes ++ rest) = piece.verdict → motive rest → motive (piece.bytes ++ rest))
    (bs : Bytes) : motive bs := by
  induction size : bs.length using Nat.strongRecOn generalizing bs with
  | ind size ih =>
    obtain waits | ⟨piece, rest, rfl, sound, judged⟩ := exists_piece bs
    · exact wait bs waits
    · have moved := List.length_pos_iff.mpr sound.bytes_ne_nil
      rw [List.length_append] at size
      exact front piece rest sound judged (ih rest.length (by omega) rest rfl)

/-- The bytes that some pieces have together. -/
def joined (pieces : List Piece) : Bytes := (pieces.map Piece.bytes).flatten

@[simp] theorem joined_nil : joined [] = [] := rfl

@[simp] theorem joined_cons (piece : Piece) (pieces : List Piece) :
    joined (piece :: pieces) = piece.bytes ++ joined pieces := rfl

/-- The pieces of a stream, and the bytes left waiting behind them. -/
def pieces (bs : Bytes) : List Piece × Bytes :=
  match _judged : verdict bs with
  | .wait => ([], bs)
  | .drop n => (.lost (bs.take n) :: (pieces (bs.drop n)).1, (pieces (bs.drop n)).2)
  | .take kind n =>
    (.packet ⟨kind, bs.take n⟩ :: (pieces (bs.drop n)).1, (pieces (bs.drop n)).2)
termination_by bs.length
decreasing_by
  all_goals
    have within := verdict_within bs
    simp only [_judged, Verdict.Within] at within
    simp only [List.length_drop]
    omega

theorem pieces_wait {bs : Bytes} (h : verdict bs = .wait) : pieces bs = ([], bs) := by
  rw [pieces]
  split <;> simp_all

theorem pieces_front (piece : Piece) (rest : Bytes)
    (h : verdict (piece.bytes ++ rest) = piece.verdict) :
    pieces (piece.bytes ++ rest) = (piece :: (pieces rest).1, (pieces rest).2) := by
  rw [pieces]
  split
  · rename_i waits
    rw [h] at waits
    cases piece <;> simp [Piece.verdict] at waits
  · rename_i n dropped
    rw [h] at dropped
    cases piece with
    | packet p => simp [Piece.verdict] at dropped
    | lost front =>
      obtain rfl : front.length = n := Verdict.drop.inj dropped
      rw [Piece.bytes, List.take_left, List.drop_left]
  · rename_i kind n taken
    rw [h] at taken
    cases piece with
    | lost front => simp [Piece.verdict] at taken
    | packet p =>
      obtain ⟨rfl, rfl⟩ : p.kind = kind ∧ p.bytes.length = n := Verdict.take.inj taken
      rw [Piece.bytes, List.take_left, List.drop_left]

section Pieces

variable {bs : Bytes}

/-- The packets among the pieces are those of the stream. -/
theorem pieces_scans (bs : Bytes) :
    Scans bs ((pieces bs).1.filterMap Piece.packet?) (pieces bs).2 := by
  induction bs using piecewise with
  | wait bs waits =>
    rw [pieces_wait waits]
    exact .wait waits
  | front piece rest sound judged ih =>
    rw [pieces_front piece rest judged]
    cases piece with
    | lost front => exact .drop judged (by rwa [Piece.bytes, List.drop_left])
    | packet p =>
      have scans := Scans.take judged (by rwa [Piece.bytes, List.drop_left])
      rwa [Piece.bytes, List.take_left] at scans

/-- No byte is added and none goes missing. -/
theorem pieces_joined (bs : Bytes) : joined (pieces bs).1 ++ (pieces bs).2 = bs := by
  induction bs using piecewise with
  | wait bs waits => rw [pieces_wait waits, joined_nil, List.nil_append]
  | front piece rest sound judged ih =>
    rw [pieces_front piece rest judged, joined_cons, List.append_assoc, ih]

/-- What is left of a part goes before the rest of the stream. -/
theorem pieces_append (a b : Bytes) :
    pieces (a ++ b) = ((pieces a).1 ++ (pieces ((pieces a).2 ++ b)).1,
      (pieces ((pieces a).2 ++ b)).2) := by
  induction a using piecewise with
  | wait a waits => rw [pieces_wait waits, List.nil_append]
  | front piece rest sound judged ih =>
    have acts : verdict (piece.bytes ++ rest) ≠ .wait := by
      rw [judged]
      cases piece <;> simp [Piece.verdict]
    have still : verdict (piece.bytes ++ (rest ++ b)) = piece.verdict := by
      rw [← List.append_assoc, verdict_append b acts, judged]
    rw [List.append_assoc, pieces_front piece _ still, pieces_front piece _ judged, ih,
      List.cons_append]

/-- The first piece is sound and at the front, and the others are those of the bytes behind. -/
theorem pieces_cons {piece : Piece} {others : List Piece}
    (split : (pieces bs).1 = piece :: others) :
    ∃ rest, bs = piece.bytes ++ rest ∧ piece.Sound ∧ verdict bs = piece.verdict ∧
      (pieces rest).1 = others := by
  obtain waits | ⟨first, rest, rfl, sound, judged⟩ := exists_piece bs
  · simp [pieces_wait waits] at split
  · rw [pieces_front first rest judged] at split
    obtain ⟨rfl, rfl⟩ := List.cons.inj split
    exact ⟨rest, rfl, sound, judged, rfl⟩

/-- Behind some of the pieces the cutting goes on with the bytes behind them. -/
theorem pieces_behind {before after : List Piece} (split : (pieces bs).1 = before ++ after) :
    ∃ rest, bs = joined before ++ rest ∧ (pieces rest).1 = after := by
  induction before generalizing bs with
  | nil => exact ⟨bs, rfl, split⟩
  | cons piece before ih =>
    obtain ⟨rest, rfl, -, -, others⟩ := pieces_cons split
    obtain ⟨rest, rfl, cut⟩ := ih others
    exact ⟨rest, by rw [joined_cons, List.append_assoc], cut⟩

end Pieces

/-- The end of a line ends with its only newline. -/
theorem IsLine.ending {leads : UInt8 → Bool} {limit : Nat} {front back : Bytes}
    (is : IsLine leads limit (front ++ back)) (present : back ≠ []) :
    ∃ text, back = text ++ [lineFeed] ∧ lineFeed ∉ text := by
  obtain ⟨lead, text, shape, -, plain, -⟩ := is
  obtain ⟨text', split, rfl⟩ | ⟨front', -, last⟩ := List.append_eq_append_iff.mp shape
  · rw [split] at plain
    exact ⟨text', rfl, fun among => plain (List.mem_append_right front among)⟩
  · obtain ⟨rfl, alone⟩ | ⟨-, rfl⟩ := List.singleton_eq_append_iff.mp last
    · exact ⟨[], alone, by simp⟩
    · contradiction

/-- A genuine sentence that begins within lost bytes ends with them, and they are a line whose
checksum is wrong. -/
theorem spoiled_around {line before back more tail : Bytes}
    (genuine : Packet.Genuine ⟨.nmea, line⟩) (sound : (Piece.lost (before ++ back)).Sound)
    (judged : verdict (before ++ back ++ tail) = .drop (before ++ back).length)
    (present : back ≠ []) (reach : line ++ more = back ++ tail) :
    IsSpoiled (before ++ back) ∧ line = back := by
  cases before with
  | nil =>
    -- at the front of the bytes that are left it would have been taken
    have taken := verdict_of_genuine genuine more
    rw [reach] at taken
    rw [List.nil_append] at judged
    simp [judged] at taken
  | cons b before =>
    obtain one | spoiled := sound
    · have some_byte := List.length_pos_iff.mpr present
      simp only [List.cons_append, List.length_cons, List.length_append] at one
      omega
    · obtain ⟨text, rfl, plain⟩ := spoiled.1.ending present
      obtain ⟨lead, text', rfl, -, plain', -⟩ := genuine.1
      simp only [List.append_assoc, List.singleton_append] at reach
      obtain ⟨rfl, -⟩ := newline_unique plain' plain reach
      exact ⟨spoiled, rfl⟩

/-- So with a genuine sentence anywhere among bytes that are lost at a stretch. -/
theorem spoiled_of_lost {line : Bytes} (genuine : Packet.Genuine ⟨.nmea, line⟩)
    {gap after : List Piece} {bs : Bytes} (cut : (pieces bs).1 = gap ++ after)
    (lost : ∀ piece ∈ gap, piece.packet? = none) (inside : line <:+: joined gap) :
    ∃ spoiled, .lost spoiled ∈ gap ∧ IsSpoiled spoiled ∧ line <:+ spoiled := by
  induction gap generalizing bs with
  | nil => exact absurd (List.infix_nil.mp inside) genuine.bytes_ne_nil
  | cons piece gap ih =>
    obtain ⟨tail, rfl, sound, judged, rest⟩ := pieces_cons cut
    obtain ⟨first, others⟩ := List.forall_mem_cons.mp lost
    cases piece with
    | packet p => contradiction
    | lost garbage =>
      have later (inside : line <:+: joined gap) :
          ∃ spoiled, .lost spoiled ∈ .lost garbage :: gap ∧ IsSpoiled spoiled ∧
            line <:+ spoiled := by
        obtain ⟨spoiled, among, found⟩ := ih rest others inside
        exact ⟨spoiled, List.mem_cons_of_mem _ among, found⟩
      obtain ⟨before, behind, whole⟩ := inside
      rw [joined_cons, Piece.bytes, List.append_assoc] at whole
      obtain ⟨back, rfl, reach⟩ | ⟨between, -, reach⟩ := List.append_eq_append_iff.mp whole
      · by_cases started : back = []
        · exact later ⟨[], behind, by simpa [started] using reach⟩
        · obtain ⟨left, rfl, -⟩ := pieces_behind rest
          have onward : line ++ (behind ++ left) = back ++ (joined gap ++ left) := by
            rw [← List.append_assoc, reach, List.append_assoc]
          obtain ⟨spoiled, rfl⟩ := spoiled_around genuine sound judged started onward
          exact ⟨before ++ line, List.mem_cons_self, spoiled, List.suffix_append before line⟩
      · exact later ⟨between, behind, by rw [List.append_assoc, reach]⟩

/-- Pieces are what is lost before the first packet, and each packet with what is lost behind
it. -/
theorem joined_gaps (pieces : List Piece) :
    ∃ first gaps, gaps.length = (pieces.filterMap Piece.packet?).length ∧
      joined pieces = first ++ (List.zipWith (fun p gap => p.bytes ++ gap)
        (pieces.filterMap Piece.packet?) gaps).flatten := by
  induction pieces with
  | nil => exact ⟨[], [], rfl, rfl⟩
  | cons piece pieces ih =>
    obtain ⟨first, gaps, paired, split⟩ := ih
    cases piece with
    | lost bs =>
      have same : (Piece.lost bs :: pieces).filterMap Piece.packet? =
          pieces.filterMap Piece.packet? := rfl
      rw [same]
      exact ⟨bs ++ first, gaps, paired, by simp [split]⟩
    | packet p => exact ⟨[], first :: gaps, by simp [paired], by simp [split]⟩

end Framing

namespace Framer

open Framing

variable {f : Framer} {chunks : List Bytes}

/-- The pieces that a framer cuts off what it is fed, drained after each chunk. -/
def cut (f : Framer) : List Bytes → List Piece
  | [] => []
  | chunk :: chunks => (pieces (f.feed chunk).pending).1 ++ (f.feed chunk).drain.2.cut chunks

theorem cut_eq (waits : verdict f.pending = .wait)
    (small : ∀ chunk ∈ chunks, chunk.length ≤ packetLimit) :
    f.cut chunks = (pieces (f.pending ++ chunks.flatten)).1 := by
  induction chunks generalizing f with
  | nil => rw [cut, List.flatten_nil, List.append_nil, pieces_wait waits]
  | cons chunk chunks ih =>
    have fed := feed_small waits (small chunk List.mem_cons_self)
    have left : (f.feed chunk).drain.2.pending = (pieces (f.feed chunk).pending).2 := by
      rw [(drain_scans (pieces_scans _)).2, after_pending]
    have onward := ih (drained_iff.mp (drain_drained (f.feed chunk)))
      fun c hc => small c (List.mem_cons_of_mem _ hc)
    rw [cut, onward, left, fed, List.flatten_cons, ← List.append_assoc,
      pieces_append (f.pending ++ chunk)]

/-- The packets received are among the pieces, which make up the stream with what is left. -/
theorem receive_cut (waits : verdict f.pending = .wait)
    (small : ∀ chunk ∈ chunks, chunk.length ≤ packetLimit) :
    (f.receive chunks).1 = (f.cut chunks).filterMap Piece.packet? ∧
      joined (f.cut chunks) ++ (f.receive chunks).2.pending = f.pending ++ chunks.flatten := by
  rw [cut_eq waits small, receive_scans waits small (pieces_scans _), after_pending]
  exact ⟨rfl, pieces_joined _⟩

/-- **Every packet is genuine, and nothing is invented.** The packets stand in the stream in their
order and apart, and what is left pending is its end. -/
theorem receive_partitions (small : ∀ chunk ∈ chunks, chunk.length ≤ packetLimit) :
    let (packets, final) := receive {} chunks
    (∃ first gaps, gaps.length = packets.length ∧
      chunks.flatten =
        first ++ (List.zipWith (fun p gap => p.bytes ++ gap) packets gaps).flatten ++
          final.pending) ∧
      ∀ p ∈ packets, p.Genuine := by
  have waits : verdict (Framer.pending {}) = .wait := rfl
  obtain ⟨yielded, whole⟩ := receive_cut waits small
  obtain ⟨first, gaps, paired, split⟩ := joined_gaps (cut {} chunks)
  rw [← yielded] at paired split
  refine ⟨⟨first, gaps, paired, ?_⟩, receive_genuine {} chunks⟩
  rw [← split]
  exact whole.symm

/-- A sentence with noise before and behind it, cut in the middle, and the leader of another. -/
theorem receive_partitions_of_cut_sentence :
    let chunks : List Bytes := [[0x41, 0x24], [0x50, 0x0a, 0x0d, 0x24]]
    (∀ chunk ∈ chunks, chunk.length ≤ packetLimit) ∧
      receive {} chunks = ([⟨.nmea, [0x24, 0x50, 0x0a]⟩], ⟨[0x24], .nmea, [0x24, 0x50, 0x0a], 1⟩) ∧
      let (packets, final) := receive {} chunks
      (∃ first gaps, gaps.length = packets.length ∧
        chunks.flatten =
          first ++ (List.zipWith (fun p gap => p.bytes ++ gap) packets gaps).flatten ++
            final.pending) ∧
        ∀ p ∈ packets, p.Genuine := by
  intro chunks
  have small : ∀ chunk ∈ chunks, chunk.length ≤ packetLimit := by decide
  have scans : Scans chunks.flatten _ _ :=
    .drop (n := 1) rfl <| .take (n := 3) rfl <| .drop (n := 1) rfl <| .wait rfl
  exact ⟨small, receive_scans rfl small scans, receive_partitions small⟩

/-- A complete sentence with a checksum: a framer that is fed it alone yields it. -/
def IsChecked (s : Bytes) : Prop := ⟨.nmea, s⟩ ∈ (receive {} [s]).1 ∧ star ∈ s

theorem isChecked_iff {s : Bytes} : IsChecked s ↔ Packet.Genuine ⟨.nmea, s⟩ ∧ star ∈ s := by
  apply and_congr_left'
  constructor
  · exact fun yielded => receive_genuine {} [s] _ yielded
  · intro genuine
    have small : ∀ chunk ∈ [s], chunk.length ≤ packetLimit := by
      obtain ⟨lead, text, -, -, -, fits⟩ := genuine.1
      have within : s.length ≤ packetLimit := Nat.le_trans fits (by decide)
      simpa using within
    have taken := verdict_of_genuine genuine []
    have scans : Scans [s].flatten _ _ := .take taken (.wait (by simp [verdict]))
    rw [receive_scans (f := {}) rfl small scans]
    simp

/-- The bytes lie among those that are lost at a stretch, with no packet between them. -/
def Discards (chunks : List Bytes) (s : Bytes) : Prop :=
  ∃ before gap after, cut {} chunks = before ++ gap ++ after ∧
    (∀ piece ∈ gap, piece.packet? = none) ∧ s <:+: joined gap

/-- **When a good sentence is thrown away.** It is the end of a line that is dropped for its own
wrong checksum. No other garbage takes a sentence with it. -/
theorem discards_iff (small : ∀ chunk ∈ chunks, chunk.length ≤ packetLimit) {s : Bytes}
    (checked : IsChecked s) :
    Discards chunks s ↔ ∃ line, .lost line ∈ cut {} chunks ∧ IsSpoiled line ∧ s <:+ line := by
  constructor
  · rintro ⟨before, gap, after, split, lost, inside⟩
    have genuine := receive_genuine {} [s] _ checked.1
    have whole : (pieces chunks.flatten).1 = before ++ (gap ++ after) := by
      rw [← List.append_assoc, ← split]
      exact (cut_eq (f := {}) rfl small).symm
    obtain ⟨tail, -, rest⟩ := pieces_behind whole
    obtain ⟨line, among, spoiled, ends⟩ := spoiled_of_lost genuine rest lost inside
    exact ⟨line, by simp [split, among], spoiled, ends⟩
  · rintro ⟨line, among, -, ends⟩
    obtain ⟨before, after, split⟩ := List.append_of_mem among
    exact ⟨before, [.lost line], after, by simp [split], by simp, by simpa using ends.isInfix⟩

/-- Noise takes nothing with it. -/
theorem discards_iff_of_noise :
    let s : Bytes := [0x24, 0x47, 0x50, 0x47, 0x47, 0x41, 0x2c, 0x31, 0x2a, 0x34, 0x42, 0x0d, 0x0a]
    let chunks : List Bytes := [[0x41], s, [0x0a]]
    (∀ chunk ∈ chunks, chunk.length ≤ packetLimit) ∧ IsChecked s ∧ ¬ Discards chunks s := by
  intro s chunks
  have small : ∀ chunk ∈ chunks, chunk.length ≤ packetLimit := by decide
  have front : verdict s = .take .nmea 13 := rfl
  have checked : IsChecked s := isChecked_iff.mpr ⟨(verdict_take_iff.mp front).2, by decide⟩
  have cut_off : cut {} chunks = [.lost [0x41], .packet ⟨.nmea, s⟩, .lost [0x0a]] := by
    have before : pieces ([0x41] ++ (s ++ [0x0a])) = _ := pieces_front (.lost [0x41]) _ rfl
    have sentence : pieces (s ++ [0x0a]) = _ := pieces_front (.packet ⟨.nmea, s⟩) _ rfl
    have behind : pieces [0x0a] = _ := pieces_front (.lost [0x0a]) [] rfl
    rw [cut_eq rfl small]
    change (pieces ([0x41] ++ (s ++ [0x0a]))).1 = _
    rw [before, sentence, behind, pieces_wait rfl]
  refine ⟨small, checked, fun discards => ?_⟩
  obtain ⟨line, among, -, ends⟩ := (discards_iff small checked).mp discards
  have shorter : line.length = 1 := by
    rw [cut_off] at among
    simp only [List.mem_cons, Piece.lost.injEq, reduceCtorEq, List.not_mem_nil, or_false,
      false_or] at among
    obtain rfl | rfl := among <;> rfl
  exact absurd (shorter ▸ ends.length_le) (by decide)

/-- The rest of a sentence that was cut off takes the next one with it, up to the line end. -/
theorem discards_behind_cut_sentence :
    let s : Bytes := [0x24, 0x47, 0x50, 0x47, 0x47, 0x41, 0x2c, 0x31, 0x2a, 0x34, 0x42, 0x0d, 0x0a]
    let chunks : List Bytes := [[0x24, 0x47, 0x50] ++ s]
    (∀ chunk ∈ chunks, chunk.length ≤ packetLimit) ∧ IsChecked s ∧ Discards chunks s := by
  intro s chunks
  have small : ∀ chunk ∈ chunks, chunk.length ≤ packetLimit := by decide
  have front : verdict s = .take .nmea 13 := rfl
  have checked : IsChecked s := isChecked_iff.mpr ⟨(verdict_take_iff.mp front).2, by decide⟩
  have cut_off : cut {} chunks = [.lost ([0x24, 0x47, 0x50] ++ s)] := by
    have whole : pieces ([0x24, 0x47, 0x50] ++ s ++ []) = _ :=
      pieces_front (.lost ([0x24, 0x47, 0x50] ++ s)) [] rfl
    rw [cut_eq rfl small]
    change (pieces ([0x24, 0x47, 0x50] ++ s ++ [])).1 = _
    rw [whole, pieces_wait rfl]
  exact ⟨small, checked, [], _, [], by rw [cut_off, List.append_nil, List.nil_append], by simp,
    [0x24, 0x47, 0x50], [], rfl⟩

end Framer
end GnssMonitor
