import GnssMonitor.Proofs.Framing.Packets

/-! What the framer waits for. Whatever bytes have come, it leaves nothing or the start of one
packet that may still be finished, and it waits for nothing else. -/

namespace GnssMonitor.Framing

/-- The start of a packet that has not come to its end: a line with no newline yet that is no
longer than one may be, or a frame of which there is not yet what its header announces. -/
inductive Unfinished : Bytes → Prop
  | sentence {lead : UInt8} {text : Bytes} (led : isLeader lead = true)
      (unbroken : lineFeed ∉ lead :: text) (fits : (lead :: text).length ≤ sentenceLimit) :
      Unfinished (lead :: text)
  | object {text : Bytes} (unbroken : lineFeed ∉ openBrace :: text)
      (fits : (openBrace :: text).length ≤ packetLimit) : Unfinished (openBrace :: text)
  | lead : Unfinished [sirfLead]
  | leader : Unfinished [sirfLead, 0xa2]
  | header (high : UInt8) : Unfinished [sirfLead, 0xa2, high]
  | frame {high low : UInt8} {rest : Bytes}
      (admissible : word high low % 0x8000 + 8 ≤ packetLimit)
      (short : rest.length < word high low % 0x8000 + 4) :
      Unfinished (sirfLead :: 0xa2 :: high :: low :: rest)

theorem lineVerdict_wait_iff {limit : Nat} {kind : PacketKind} {accept : Bytes → Bool}
    {bs : Bytes} :
    lineVerdict limit kind accept bs = .wait ↔ lineFeed ∉ bs ∧ bs.length ≤ limit := by
  obtain ⟨text, rest, rfl, plain, fits⟩ | endless := line_cases limit bs
  · rw [lineVerdict_line plain fits]
    split <;> simp
  · rw [lineVerdict_endless endless]
    by_cases long : limit < bs.length
    · rw [if_pos long]
      simp [long]
    · have whole : bs.take limit = bs := List.take_of_length_le (Nat.not_lt.mp long)
      rw [whole] at endless
      rw [if_neg long]
      exact iff_of_true rfl ⟨endless, Nat.not_lt.mp long⟩

/-- A frame with a complete header is waited for as long as its length is admissible and has not
been reached. -/
theorem sirfVerdict_wait_iff {x y high low : UInt8} {rest : Bytes} :
    sirfVerdict (x :: y :: high :: low :: rest) = .wait ↔
      word high low % 0x8000 + 8 ≤ packetLimit ∧ rest.length < word high low % 0x8000 + 4 := by
  rw [sirfVerdict_header, word_low_bits]
  by_cases long : packetLimit < word high low % 0x8000 + 8
  · rw [if_pos long]
    simp only [reduceCtorEq, false_iff]
    omega
  rw [if_neg long]
  by_cases short : rest.length + 4 < word high low % 0x8000 + 8
  · rw [if_pos short]
    simp only [true_iff]
    omega
  · have there : ¬ rest.length < word high low % 0x8000 + 4 := by omega
    rw [if_neg short]
    simp only [there, and_false, iff_false]
    split
    · split <;> simp
    · simp

theorem Unfinished.verdict {bs : Bytes} (unfinished : Unfinished bs) : verdict bs = .wait := by
  cases unfinished with
  | sentence led unbroken fits =>
    rw [verdict_sentence led]
    exact lineVerdict_wait_iff.mpr ⟨unbroken, fits⟩
  | object unbroken fits =>
    rw [verdict_object]
    exact lineVerdict_wait_iff.mpr ⟨unbroken, fits⟩
  | lead | leader | header => rfl
  | frame admissible short =>
    rw [verdict_frame]
    exact sirfVerdict_wait_iff.mpr ⟨admissible, short⟩

/-- **When the framer waits.** -/
theorem verdict_wait_iff {bs : Bytes} : verdict bs = .wait ↔ bs = [] ∨ Unfinished bs := by
  constructor
  · intro waits
    cases front bs with
    | nothing => exact .inl rfl
    | lone => exact .inr .lead
    | sentence led rest =>
      rw [verdict_sentence led, lineVerdict_wait_iff] at waits
      exact .inr (.sentence led waits.1 waits.2)
    | object rest =>
      rw [verdict_object, lineVerdict_wait_iff] at waits
      exact .inr (.object waits.1 waits.2)
    | frame rest =>
      match rest with
      | [] => exact .inr .leader
      | [high] => exact .inr (.header high)
      | high :: low :: rest =>
        rw [verdict_frame, sirfVerdict_wait_iff] at waits
        exact .inr (.frame waits.1 waits.2)
    | broken other rest => simp [verdict_broken other] at waits
    | noise noise rest => simp [verdict_noise noise] at waits
  · rintro (rfl | unfinished)
    · rfl
    · exact unfinished.verdict

end GnssMonitor.Framing
