import GnssMonitor.Proofs.Framing.RoundTrip

/-! What the checksums keep out: lines whose field does not show the checksum, and packets in
which one byte was changed on the way. -/

namespace GnssMonitor

namespace Framing

/-- A packet leaves fewer bytes than there were. -/
theorem next_shorter {bs rest : Bytes} {p : Packet} (h : next bs = (some p, rest)) :
    rest.length < bs.length := by
  have within := verdict_within bs
  fun_induction next bs with
  | case1 bs judged => simp at h
  | case2 bs n judged moves ih =>
    have shorter := ih h (verdict_within _)
    rw [List.length_drop] at shorter
    omega
  | case3 bs n judged stays => simp at h
  | case4 bs kind n judged =>
    obtain ⟨-, rfl⟩ := Prod.mk.inj h
    simp only [judged, Verdict.Within] at within
    rw [List.length_drop]
    omega

theorem word_inj {a b a' b' : UInt8} (same : word a b = word a' b') : a = a' ∧ b = b' := by
  have low := b.toNat_lt
  have low' := b'.toNat_lt
  simp only [word] at same
  simp only [← UInt8.toNat_inj]
  omega

/-- With one byte of its payload or its checksum changed a frame is no frame. -/
theorem IsFrame.set_not {frame : Bytes} (is : IsFrame frame) {i : Nat} {c : UInt8} (behind : 4 ≤ i)
    (before : i + 2 < frame.length) (other : frame[i]? ≠ some c) : ¬ IsFrame (frame.set i c) := by
  obtain ⟨high, low, payload, a, b, rfl, announced, sum, -⟩ := is
  rintro ⟨high', low', payload', a', b', shape, announced', sum', -⟩
  obtain ⟨i, rfl⟩ := Nat.exists_eq_add_of_le' behind
  simp only [List.set_cons_succ, List.cons.injEq, true_and] at shape
  obtain ⟨rfl, rfl, body⟩ := shape
  simp only [List.getElem?_cons_succ] at other
  simp only [List.length_cons, List.length_append, List.length_nil] at before
  have size : payload.length = payload'.length := announced.trans announced'.symm
  by_cases inside : i < payload.length
  · rw [List.set_append_left i c inside] at body
    obtain ⟨rfl, fields⟩ := List.append_inj body (by rw [List.length_set, size])
    simp only [List.cons.injEq] at fields
    obtain ⟨rfl, rfl, -⟩ := fields
    have there := List.getElem?_eq_getElem inside
    rw [List.getElem?_append_left inside, there] at other
    exact Checksum.sum_set_ne there (fun same => other (congrArg _ same)) (sum'.symm.trans sum)
  · rw [List.set_append_right i c (by omega)] at body
    obtain ⟨rfl, fields⟩ := List.append_inj body size
    obtain ⟨rfl, rfl⟩ := word_inj (sum'.trans sum.symm)
    -- the byte that was written is the one that was there
    apply other
    rw [List.getElem?_append_right (by omega), ← fields,
      List.getElem?_set_self (by simp only [List.length_cons, List.length_nil]; omega)]

theorem IsFrame.set_not_genuine {frame : Bytes} (is : IsFrame frame) {i : Nat} {c : UInt8}
    (behind : 4 ≤ i) (before : i + 2 < frame.length) (other : frame[i]? ≠ some c)
    (kind : PacketKind) : ¬ Packet.Genuine ⟨kind, frame.set i c⟩ := by
  have untouched : ∃ tail, frame.set i c = sirfLead :: tail := by
    obtain ⟨high, low, payload, a, b, rfl, -⟩ := is
    obtain ⟨i, rfl⟩ := Nat.exists_eq_add_of_le' behind
    exact ⟨_, List.set_cons_succ⟩
  obtain ⟨tail, begins⟩ := untouched
  cases kind with
  | nmea =>
    rintro ⟨⟨lead, text, shape, led, -⟩, -⟩
    obtain rfl : sirfLead = lead := (List.cons.inj (begins.symm.trans shape)).1
    exact absurd led (by decide)
  | json =>
    rintro ⟨lead, text, shape, led, -⟩
    obtain rfl : sirfLead = lead := (List.cons.inj (begins.symm.trans shape)).1
    exact absurd led (by decide)
  | sirf => exact is.set_not behind before other
  | bad => exact id

end Framing

namespace Encoding

open Framing

section Sealed

variable {lead : UInt8} {text : Bytes}

theorem sealed_set {i : Nat} (within : i < text.length) (sum c : UInt8) :
    (sealed lead text sum).set (i + 1) c = sealed lead (text.set i c) sum := by
  simp [sealed, List.set_append_left, within]

theorem sealed_getElem? {i : Nat} (within : i < text.length) (sum : UInt8) :
    (sealed lead text sum)[i + 1]? = text[i]? := by
  simp [sealed, List.getElem?_append_left, within]

theorem sealed_idxOf_star (led : isLeader lead = true) (unstarred : star ∉ text) (sum : UInt8) :
    (sealed lead text sum).idxOf star = text.length + 1 := by
  have other : (lead == star) = false := beq_false_of_ne (leader_ne led rfl)
  simp [sealed, List.idxOf_cons, List.idxOf_append, unstarred, other]

end Sealed

/-- With one byte of its text changed a sentence is a line whose checksum is wrong. -/
theorem nmea_set_spoiled {body : Bytes} (unstarred : star ∉ body) (unbroken : lineFeed ∉ body)
    (fits : (nmea body).length ≤ sentenceLimit) {i : Nat} {c : UInt8} (behind : 0 < i)
    (before : i < (nmea body).idxOf star) (other : (nmea body)[i]? ≠ some c)
    (solid : c ≠ lineFeed) : IsSpoiled ((nmea body).set i c) := by
  obtain ⟨lead, text, led, starless, within, shape⟩ := nmea_eq unstarred
  obtain ⟨i, rfl⟩ := Nat.exists_eq_add_of_le' behind
  rw [shape, sealed_idxOf_star led starless] at before
  have inside : i < text.length := by omega
  have there := List.getElem?_eq_getElem inside
  rw [shape, sealed_getElem? inside, there] at other
  rw [← List.length_set (i := i + 1) (a := c), shape, sealed_set inside] at fits
  rw [shape, sealed_set inside]
  constructor
  · refine sealed_isLine led ?_ fits
    intro among
    obtain old | new := List.mem_or_eq_of_mem_set among
    · exact unbroken (within old)
    · exact solid new.symm
  · rw [sealed_isVouched_iff]
    exact Checksum.xor_set_ne there fun same => other (congrArg _ same)

end Encoding

namespace Framer

open Framing

variable {f : Framer} {line more : Bytes}

/-- A line at the front is the next packet when it is vouched for. -/
theorem next_line_iff (is : IsLine isLeader sentenceLimit line) (front : f.pending = line ++ more) :
    f.next = (true, ⟨more, .nmea, line, f.count + 1⟩) ↔ IsVouched line := by
  constructor
  · intro yielded
    apply Classical.byContradiction
    intro unvouched
    have dropped : verdict f.pending = .drop line.length := by
      rw [front]
      exact verdict_of_spoiled ⟨is, unvouched⟩ more
    rw [next_drop dropped, front, List.drop_left] at yielded
    simp only [next] at yielded
    split at yielded
    · rename_i p rest found
      obtain rfl : rest = more := congrArg (fun r => r.2.pending) yielded
      exact absurd (next_shorter found) (Nat.lt_irrefl _)
    · exact absurd (congrArg Prod.fst yielded) Bool.false_ne_true
  · intro vouched
    have taken : verdict f.pending = .take .nmea line.length := by
      rw [front]
      exact verdict_of_genuine (p := ⟨.nmea, line⟩) ⟨is, vouched⟩ more
    rw [next_take taken, front, List.take_left, List.drop_left]

/-- **Which lines pass.** Those without a star, those whose last star two digits with the checksum
follow, and those where a single digit has it, with a blank, a line ending or a sign beside it.
The last are no proper sentences, and they are all that passes without right. -/
theorem next_line_passes_iff (is : IsLine isLeader sentenceLimit line)
    (front : f.pending = line ++ more) :
    let yielded := f.next = (true, ⟨more, .nmea, line, f.count + 1⟩)
    (yielded ↔ star ∉ line ∨ Checksum.ShowsSum line ∨ Checksum.ShowsDigit line) ∧
      ((yielded ↔ star ∉ line ∨ Checksum.ShowsSum line) ↔ ¬ Checksum.ShowsDigit line) := by
  intro yielded
  have vouched : yielded ↔ IsVouched line := next_line_iff is front
  refine ⟨vouched, ?_⟩
  rw [vouched]
  constructor
  · intro proper digit
    obtain unstarred | shown := proper.mp (.inr (.inr digit))
    · exact unstarred digit.starred
    · exact shown.not_digit digit
  · intro none
    rw [IsVouched, or_iff_left none]

/-- A checksum in small digits. -/
theorem next_line_passes_of_two_digits :
    let line : Bytes := [0x24, 0x4a, 0x2a, 0x34, 0x61, 0x0a]
    let f : Framer := { pending := line }
    IsLine isLeader sentenceLimit line ∧ f.pending = line ++ [] ∧
      f.next = (true, ⟨[], .nmea, line, 1⟩) := by
  intro line f
  have is : IsLine isLeader sentenceLimit line :=
    ⟨0x24, [0x4a, 0x2a, 0x34, 0x61], rfl, rfl, by decide, by decide⟩
  have shown : Checksum.ShowsSum line :=
    ⟨[0x4a], 0x34, 0x61, [0x0a], ⟨⟨0x24, rfl⟩, by decide⟩, 4, 10, rfl, rfl, rfl⟩
  have front : f.pending = line ++ [] := rfl
  exact ⟨is, front, (next_line_passes_iff is front).1.mpr (.inr (.inl shown))⟩

/-- A single digit before the line ending. -/
theorem next_line_passes_of_lone_digit :
    let line : Bytes := [0x24, 0x41, 0x42, 0x2a, 0x33, 0x0d, 0x0a]
    let f : Framer := { pending := line }
    IsLine isLeader sentenceLimit line ∧ f.next = (true, ⟨[], .nmea, line, 1⟩) ∧
      star ∈ line ∧ ¬ Checksum.ShowsSum line := by
  intro line f
  have digit : Checksum.ShowsDigit line :=
    ⟨[0x41, 0x42], 0x33, 0x0d, [0x0a], ⟨⟨0x24, rfl⟩, by decide⟩, .beforeBlank rfl rfl⟩
  have is : IsLine isLeader sentenceLimit line :=
    ⟨0x24, [0x41, 0x42, 0x2a, 0x33, 0x0d], rfl, rfl, by decide, by decide⟩
  have passes : f.next = (true, ⟨[], .nmea, line, 1⟩) :=
    (next_line_iff is (by simp [f])).mpr (.inr (.inr digit))
  exact ⟨is, passes, by decide, fun shown => shown.not_digit digit⟩

theorem receive_spoiled {chunks : List Bytes} (spoiled : IsSpoiled line)
    (cut : chunks.flatten = line) : receive {} chunks = ([], {}) := by
  have small : ∀ chunk ∈ chunks, chunk.length ≤ packetLimit := by
    intro chunk among
    obtain ⟨lead, text, -, -, -, fits⟩ := spoiled.1
    have within := (List.sublist_flatten_of_mem among).length_le
    rw [cut] at within
    exact Nat.le_trans within (Nat.le_trans fits (by decide))
  have dropped := verdict_of_spoiled spoiled []
  rw [List.append_nil] at dropped
  have scans : Scans chunks.flatten [] [] := by
    rw [cut]
    exact .drop dropped (by rw [List.drop_length]; exact .wait rfl)
  exact receive_scans (f := {}) rfl small scans

/-- **A single wrong byte is noticed.** A sentence is dropped whole if a byte of its text was
replaced, by whatever but a newline, and a frame whose payload or checksum was hit is in no stream
taken for a packet. -/
theorem receive_damaged :
    (∀ body, star ∉ body → lineFeed ∉ body → (Encoding.nmea body).length ≤ sentenceLimit →
      ∀ i c, 0 < i → i < (Encoding.nmea body).idxOf star → (Encoding.nmea body)[i]? ≠ some c →
        c ≠ lineFeed → ∀ chunks, chunks.flatten = (Encoding.nmea body).set i c →
          receive {} chunks = ([], {})) ∧
      ∀ payload : Bytes, payload.length + 8 ≤ packetLimit →
        ∃ frame, Encoding.sirf payload = .ok frame ∧
          ∀ i c, 4 ≤ i → i < payload.length + 6 → frame[i]? ≠ some c →
            ∀ kind chunks, ⟨kind, frame.set i c⟩ ∉ (receive {} chunks).1 := by
  constructor
  · intro body unstarred unbroken fits i c behind before other solid chunks cut
    exact receive_spoiled
      (Encoding.nmea_set_spoiled unstarred unbroken fits behind before other solid) cut
  · intro payload fits
    obtain ⟨frame, encoded, is⟩ := Encoding.sirf_isFrame fits
    have size : frame.length = payload.length + 8 := by
      obtain rfl := Except.ok.inj (encoded.symm.trans (Encoding.sirf_eq fits))
      simp
    refine ⟨frame, encoded, fun i c behind before other kind chunks yielded => ?_⟩
    exact is.set_not_genuine behind (by omega) other kind (receive_genuine {} chunks _ yielded)

/-- A star in the text of a sentence, and another payload in a frame. -/
theorem receive_damaged_of_each_kind :
    let body : Bytes := [0x4a]
    let frame : Bytes := [0xa0, 0xa2, 0, 1, 0x2a, 0, 0x2a, 0xb0, 0xb3]
    Encoding.nmea body = [0x24, 0x4a, 0x2a, 0x34, 0x41, 0x0d, 0x0a] ∧
      receive {} [[0x24, 0x2a, 0x2a], [0x34, 0x41, 0x0d, 0x0a]] = ([], {}) ∧
      Encoding.sirf [0x2a] = .ok frame ∧
      ∀ kind, ⟨kind, frame.set 4 0x2b⟩ ∉ (receive {} [frame.set 4 0x2b]).1 := by
  intro body frame
  obtain ⟨sentences, frames⟩ := receive_damaged
  have silent := sentences body (by decide) (by decide) (by decide) 1 star (by decide) (by decide)
    (by decide) (by decide) [[0x24, 0x2a, 0x2a], [0x34, 0x41, 0x0d, 0x0a]] (by decide)
  obtain ⟨frame', encoded, kept⟩ := frames [0x2a] (by decide)
  obtain rfl : frame = frame' := Except.ok.inj encoded
  exact ⟨by decide, silent, encoded,
    fun kind => kept 4 0x2b (by decide) (by decide) (by decide) kind _⟩

end Framer
end GnssMonitor
