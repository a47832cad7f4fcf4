import GnssMonitor.Packet.Framer

/-! The verdict on the front of the pending bytes: it speaks of bytes that are there, it waits
only for what may still become a packet, and no later byte changes it. -/

namespace GnssMonitor.Framing

theorem lineLength?_zero (bs : Bytes) : lineLength? 0 bs = none := by
  simp [lineLength?]

theorem lineLength?_nil (limit : Nat) : lineLength? limit [] = none := by
  simp [lineLength?]

theorem lineLength?_cons (limit : Nat) (b : UInt8) (bs : Bytes) :
    lineLength? (limit + 1) (b :: bs) =
      if b = lineFeed then some 1 else (lineLength? limit bs).map (· + 1) := by
  by_cases ends : b = lineFeed
  · simp [lineLength?, ends]
  · by_cases short : ((bs.take limit).takeWhile (· != lineFeed)).length < (bs.take limit).length <;>
      simp [lineLength?, ends]

/-- A line is its text and one newline, and no longer than the limit. -/
theorem lineLength?_eq_some_iff {limit n : Nat} {bs : Bytes} :
    lineLength? limit bs = some n ↔
      ∃ text rest, bs = text ++ lineFeed :: rest ∧ lineFeed ∉ text ∧
        n = text.length + 1 ∧ n ≤ limit := by
  induction bs generalizing limit n with
  | nil => simp [lineLength?_nil]
  | cons b bs ih =>
    cases limit with
    | zero => simp only [lineLength?_zero]; grind
    | succ limit =>
      rw [lineLength?_cons]
      constructor
      · intro found
        split at found
        · rename_i ends
          obtain rfl := Option.some.inj found
          exact ⟨[], bs, by simp [ends], by simp, rfl, by omega⟩
        · rename_i goes
          obtain ⟨k, hk, rfl⟩ := Option.map_eq_some_iff.mp found
          obtain ⟨text, rest, rfl, plain, rfl, fits⟩ := ih.mp hk
          exact ⟨b :: text, rest, rfl, by simp [plain, Ne.symm goes], rfl, by omega⟩
      · rintro ⟨text, rest, split, plain, rfl, fits⟩
        cases text with
        | nil => simp [(List.cons.inj split).1]
        | cons c text =>
          simp only [List.cons_append, List.cons.injEq] at split
          obtain ⟨rfl, rfl⟩ := split
          simp only [List.mem_cons, not_or] at plain
          have line := ih.mpr ⟨text, rest, rfl, plain.2, rfl, Nat.le_of_succ_le_succ fits⟩
          simp [Ne.symm plain.1, line]

theorem lineLength?_eq_none_iff {limit : Nat} {bs : Bytes} :
    lineLength? limit bs = none ↔ lineFeed ∉ bs.take limit := by
  induction bs generalizing limit with
  | nil => simp [lineLength?_nil]
  | cons b bs ih =>
    cases limit with
    | zero => simp [lineLength?_zero]
    | succ limit =>
      rw [lineLength?_cons]
      by_cases ends : b = lineFeed
      · simp [ends]
      · simp [ends, ih, Ne.symm ends]

/-- Bytes fall into the text before their first newline and the rest in one way. -/
theorem newline_unique {text text' rest rest' : Bytes} (plain : lineFeed ∉ text)
    (plain' : lineFeed ∉ text') (same : text ++ lineFeed :: rest = text' ++ lineFeed :: rest') :
    text = text' ∧ rest = rest' := by
  induction text generalizing text' with
  | nil =>
    cases text' with
    | nil => simpa using same
    | cons b text' =>
      obtain rfl := (List.cons.inj same).1
      simp at plain'
  | cons b text ih =>
    cases text' with
    | nil =>
      obtain rfl := (List.cons.inj same).1
      simp at plain
    | cons b' text' =>
      simp only [List.cons_append, List.cons.injEq] at same
      simp only [List.mem_cons, not_or] at plain plain'
      obtain ⟨rfl, rfl⟩ := ih plain.2 plain'.2 same.2
      exact ⟨by rw [same.1], rfl⟩

/-- What a verdict drops or takes is there, and is not nothing. -/
def Verdict.Within (size : Nat) : Verdict → Prop
  | .wait => True
  | .drop n | .take _ n => 0 < n ∧ n ≤ size

section Line

variable {limit : Nat} {kind : PacketKind} {accept : Bytes → Bool} {bs text : Bytes}

/-- Either a line ends within the limit, or no newline comes within it. -/
theorem line_cases (limit : Nat) (bs : Bytes) :
    (∃ text rest, bs = text ++ lineFeed :: rest ∧ lineFeed ∉ text ∧ text.length + 1 ≤ limit) ∨
      lineFeed ∉ bs.take limit := by
  cases found : lineLength? limit bs with
  | some n =>
    obtain ⟨text, rest, split, plain, rfl, fits⟩ := lineLength?_eq_some_iff.mp found
    exact .inl ⟨text, rest, split, plain, fits⟩
  | none => exact .inr (lineLength?_eq_none_iff.mp found)

/-- A line that is all there is judged by its own bytes. -/
theorem lineVerdict_line (plain : lineFeed ∉ text) (fits : text.length + 1 ≤ limit)
    (rest : Bytes) :
    lineVerdict limit kind accept (text ++ lineFeed :: rest) =
      if accept (text ++ [lineFeed]) then .take kind (text.length + 1)
      else .drop (text.length + 1) := by
  have found : lineLength? limit (text ++ lineFeed :: rest) = some (text.length + 1) :=
    lineLength?_eq_some_iff.mpr ⟨text, rest, rfl, plain, rfl, fits⟩
  have front : (text ++ lineFeed :: rest).take (text.length + 1) = text ++ [lineFeed] := by
    rw [List.append_cons]
    exact List.take_left' (by simp)
  simp only [lineVerdict, found, front]

theorem lineVerdict_endless (endless : lineFeed ∉ bs.take limit) :
    lineVerdict limit kind accept bs = if limit < bs.length then .drop 1 else .wait := by
  simp only [lineVerdict, lineLength?_eq_none_iff.mpr endless]

theorem lineVerdict_within : (lineVerdict limit kind accept bs).Within bs.length := by
  obtain ⟨text, rest, rfl, plain, fits⟩ | endless := line_cases limit bs
  · rw [lineVerdict_line plain fits]
    split <;> simp [Verdict.Within]
  · rw [lineVerdict_endless endless]
    split
    · simp only [Verdict.Within]
      omega
    · trivial

theorem lineVerdict_wait (h : lineVerdict limit kind accept bs = .wait) : bs.length ≤ limit := by
  obtain ⟨text, rest, rfl, plain, fits⟩ | endless := line_cases limit bs
  · rw [lineVerdict_line plain fits] at h
    split at h <;> contradiction
  · rw [lineVerdict_endless endless] at h
    split at h
    · contradiction
    · omega

theorem lineVerdict_append (more : Bytes) (h : lineVerdict limit kind accept bs ≠ .wait) :
    lineVerdict limit kind accept (bs ++ more) = lineVerdict limit kind accept bs := by
  obtain ⟨text, rest, rfl, plain, fits⟩ | endless := line_cases limit bs
  · rw [List.append_assoc, List.cons_append, lineVerdict_line plain fits,
      lineVerdict_line plain fits]
  · have long : limit < bs.length := by
      apply Decidable.byContradiction
      intro short
      rw [lineVerdict_endless endless, if_neg short] at h
      contradiction
    have still : lineFeed ∉ (bs ++ more).take limit := by
      rwa [List.take_append_of_le_length (by omega)]
    have longer : limit < (bs ++ more).length := by
      rw [List.length_append]
      omega
    rw [lineVerdict_endless endless, lineVerdict_endless still, if_pos long, if_pos longer]

end Line

theorem sirfVerdict_header {x y high low : UInt8} {rest : Bytes} :
    sirfVerdict (x :: y :: high :: low :: rest) =
      if packetLimit < word (high &&& 0x7f) low + 8 then .drop 1
      else if rest.length + 4 < word (high &&& 0x7f) low + 8 then .wait
      else
        match rest.drop (word (high &&& 0x7f) low) with
        | a :: b :: c :: d :: _ =>
          if [c, d] = sirfTrailer ∧
              word a b = Checksum.sum (rest.take (word (high &&& 0x7f) low)) then
            .take .sirf (word (high &&& 0x7f) low + 8)
          else .drop 1
        | _ => .drop 1 := rfl

/-- A frame that is all there is judged by its checksum and its trailer. -/
theorem sirfVerdict_complete {x y high low a b c d : UInt8} {payload more : Bytes}
    (announced : payload.length = word (high &&& 0x7f) low)
    (fits : payload.length + 8 ≤ packetLimit) :
    sirfVerdict (x :: y :: high :: low :: (payload ++ a :: b :: c :: d :: more)) =
      if [c, d] = sirfTrailer ∧ word a b = Checksum.sum payload then
        .take .sirf (payload.length + 8)
      else .drop 1 := by
  rw [sirfVerdict_header, ← announced, if_neg (by omega), if_neg (by simp),
    List.drop_left, List.take_left]

/-- What there can be of a frame: an incomplete header, an announcement of too much or of more
than has come, or all of it. -/
theorem sirf_cases (bs : Bytes) :
    bs.length < 4 ∨
    (∃ x y high low rest, bs = x :: y :: high :: low :: rest ∧
      packetLimit < word (high &&& 0x7f) low + 8) ∨
    (∃ x y high low rest, bs = x :: y :: high :: low :: rest ∧
      word (high &&& 0x7f) low + 8 ≤ packetLimit ∧ bs.length < word (high &&& 0x7f) low + 8) ∨
    ∃ x y high low payload a b c d more,
      bs = x :: y :: high :: low :: (payload ++ a :: b :: c :: d :: more) ∧
      payload.length = word (high &&& 0x7f) low ∧ payload.length + 8 ≤ packetLimit := by
  match bs with
  | [] | [_] | [_, _] | [_, _, _] => exact .inl (by simp)
  | x :: y :: high :: low :: rest =>
    by_cases long : packetLimit < word (high &&& 0x7f) low + 8
    · exact .inr (.inl ⟨x, y, high, low, rest, rfl, long⟩)
    · by_cases short : rest.length + 4 < word (high &&& 0x7f) low + 8
      · exact .inr (.inr (.inl ⟨x, y, high, low, rest, rfl, Nat.not_lt.mp long, short⟩))
      · have there : 4 ≤ (rest.drop (word (high &&& 0x7f) low)).length := by
          rw [List.length_drop]
          omega
        match tail : rest.drop (word (high &&& 0x7f) low) with
        | [] | [_] | [_, _] | [_, _, _] => simp [tail] at there
        | a :: b :: c :: d :: more =>
          refine .inr (.inr (.inr ⟨x, y, high, low, rest.take (word (high &&& 0x7f) low),
            a, b, c, d, more, ?_, ?_, ?_⟩))
          · rw [← tail, List.take_append_drop]
          · rw [List.length_take]
            omega
          · rw [List.length_take]
            omega

/-- What comes of a frame: it is waited for, or its leader was garbage, or it is taken and all of
it is right. -/
theorem sirfVerdict_cases (bs : Bytes) :
    (sirfVerdict bs = .wait ∧ bs.length ≤ packetLimit) ∨
    (sirfVerdict bs = .drop 1 ∧ bs ≠ []) ∨
    ∃ x y high low payload a b more,
      bs = x :: y :: high :: low :: (payload ++ a :: b :: 0xb0 :: 0xb3 :: more) ∧
      payload.length = word (high &&& 0x7f) low ∧ payload.length + 8 ≤ packetLimit ∧
      word a b = Checksum.sum payload ∧ sirfVerdict bs = .take .sirf (payload.length + 8) := by
  obtain short | ⟨x, y, high, low, rest, rfl, long⟩ | ⟨x, y, high, low, rest, rfl, fits, part⟩ |
    ⟨x, y, high, low, payload, a, b, c, d, more, rfl, announced, fits⟩ := sirf_cases bs
  · match bs with
    | [] | [_] | [_, _] | [_, _, _] => exact .inl ⟨rfl, by simp [packetLimit]⟩
  · exact .inr (.inl ⟨by rw [sirfVerdict_header, if_pos long], by simp⟩)
  · refine .inl ⟨?_, by omega⟩
    simp only [List.length_cons] at part
    rw [sirfVerdict_header, if_neg (by omega), if_pos (by omega)]
  · rw [sirfVerdict_complete announced fits]
    by_cases closed : [c, d] = sirfTrailer ∧ word a b = Checksum.sum payload
    · have trailer : c = 0xb0 ∧ d = 0xb3 := by simpa [sirfTrailer] using closed.1
      obtain ⟨rfl, rfl⟩ := trailer
      exact .inr (.inr ⟨x, y, high, low, payload, a, b, more, rfl, announced, fits, closed.2,
        if_pos closed⟩)
    · exact .inr (.inl ⟨if_neg closed, by simp⟩)

theorem sirfVerdict_within (bs : Bytes) : (sirfVerdict bs).Within bs.length := by
  obtain ⟨judged, -⟩ | ⟨judged, present⟩ |
    ⟨x, y, high, low, payload, a, b, more, rfl, -, -, -, judged⟩ := sirfVerdict_cases bs
  · rw [judged]
    trivial
  · rw [judged]
    exact ⟨Nat.one_pos, List.length_pos_iff.mpr present⟩
  · rw [judged]
    simp [Verdict.Within]

theorem sirfVerdict_wait {bs : Bytes} (h : sirfVerdict bs = .wait) : bs.length ≤ packetLimit := by
  obtain ⟨-, short⟩ | ⟨judged, -⟩ | ⟨_, _, _, _, _, _, _, _, _, _, _, _, judged⟩ :=
    sirfVerdict_cases bs
  · exact short
  · simp [judged] at h
  · simp [judged] at h

theorem sirfVerdict_append {bs : Bytes} (more : Bytes) (h : sirfVerdict bs ≠ .wait) :
    sirfVerdict (bs ++ more) = sirfVerdict bs := by
  obtain short | ⟨x, y, high, low, rest, rfl, long⟩ | ⟨x, y, high, low, rest, rfl, fits, part⟩ |
    ⟨x, y, high, low, payload, a, b, c, d, tail, rfl, announced, fits⟩ := sirf_cases bs
  · match bs with
    | [] | [_] | [_, _] | [_, _, _] => exact absurd rfl h
  · simp [sirfVerdict_header, long]
  · simp only [List.length_cons] at part
    rw [sirfVerdict_header, if_neg (by omega), if_pos (by omega)] at h
    exact absurd rfl h
  · simp only [List.cons_append, List.append_assoc, sirfVerdict_complete announced fits]

/-- No packet starts with such a byte. -/
def isNoise (b : UInt8) : Bool := !isLeader b && b != openBrace && b != sirfLead

theorem verdict_sentence {lead : UInt8} (h : isLeader lead = true) (rest : Bytes) :
    verdict (lead :: rest) =
      lineVerdict sentenceLimit .nmea Checksum.isGenuine (lead :: rest) := by
  simp [verdict, h]

theorem verdict_object (rest : Bytes) :
    verdict (openBrace :: rest) =
      lineVerdict packetLimit .json (fun _ => true) (openBrace :: rest) := rfl

theorem verdict_frame (rest : Bytes) :
    verdict (sirfLead :: 0xa2 :: rest) = sirfVerdict (sirfLead :: 0xa2 :: rest) := rfl

theorem verdict_broken {second : UInt8} (h : second ≠ 0xa2) (rest : Bytes) :
    verdict (sirfLead :: second :: rest) = .drop 1 := by
  change (if second = 0xa2 then _ else Verdict.drop 1) = _
  rw [if_neg h]

theorem verdict_noise {b : UInt8} (h : isNoise b = true) (rest : Bytes) :
    verdict (b :: rest) = .drop 1 := by
  simp only [isNoise, Bool.and_eq_true, Bool.not_eq_true', bne_iff_ne] at h
  simp [verdict, h]

/-- How pending bytes can begin. -/
inductive Front : Bytes → Prop
  | nothing : Front []
  | lone : Front [sirfLead]
  | sentence {lead : UInt8} (led : isLeader lead = true) (rest : Bytes) : Front (lead :: rest)
  | object (rest : Bytes) : Front (openBrace :: rest)
  | frame (rest : Bytes) : Front (sirfLead :: 0xa2 :: rest)
  | broken {second : UInt8} (other : second ≠ 0xa2) (rest : Bytes) :
      Front (sirfLead :: second :: rest)
  | noise {b : UInt8} (noise : isNoise b = true) (rest : Bytes) : Front (b :: rest)

theorem front (bs : Bytes) : Front bs := by
  cases bs with
  | nil => exact .nothing
  | cons lead rest =>
    by_cases sentence : isLeader lead = true
    · exact .sentence sentence rest
    by_cases object : lead = openBrace
    · exact object ▸ .object rest
    by_cases frame : lead = sirfLead
    · subst frame
      cases rest with
      | nil => exact .lone
      | cons second rest =>
        by_cases complete : second = 0xa2
        · exact complete ▸ .frame rest
        · exact .broken complete rest
    · exact .noise (by simp [isNoise, sentence, object, frame]) rest

/-- The bytes in front choose what judges them, and later bytes leave the choice as it is. -/
theorem verdict_judge (bs : Bytes) :
    bs = [] ∨ bs = [sirfLead] ∨
    (∃ limit ≤ packetLimit, ∃ kind accept,
      ∀ more, verdict (bs ++ more) = lineVerdict limit kind accept (bs ++ more)) ∨
    (∀ more, verdict (bs ++ more) = sirfVerdict (bs ++ more)) ∨
    bs ≠ [] ∧ ∀ more, verdict (bs ++ more) = .drop 1 := by
  cases front bs with
  | nothing => exact .inl rfl
  | lone => exact .inr (.inl rfl)
  | sentence led rest =>
    exact .inr (.inr (.inl ⟨sentenceLimit, by decide, .nmea, Checksum.isGenuine,
      fun more => verdict_sentence led _⟩))
  | object rest =>
    exact .inr (.inr (.inl ⟨packetLimit, Nat.le_refl _, .json, fun _ => true,
      fun more => verdict_object _⟩))
  | frame rest => exact .inr (.inr (.inr (.inl fun more => verdict_frame _)))
  | broken other rest =>
    exact .inr (.inr (.inr (.inr ⟨by simp, fun more => verdict_broken other _⟩)))
  | noise noise rest =>
    exact .inr (.inr (.inr (.inr ⟨by simp, fun more => verdict_noise noise _⟩)))

theorem verdict_within (bs : Bytes) : (verdict bs).Within bs.length := by
  obtain rfl | rfl | ⟨limit, _, kind, accept, line⟩ | frame | ⟨present, noise⟩ := verdict_judge bs
  · trivial
  · trivial
  · have judged : verdict bs = lineVerdict limit kind accept bs := by simpa using line []
    exact judged ▸ lineVerdict_within
  · have judged : verdict bs = sirfVerdict bs := by simpa using frame []
    exact judged ▸ sirfVerdict_within bs
  · have judged : verdict bs = .drop 1 := by simpa using noise []
    exact judged ▸ ⟨Nat.one_pos, List.length_pos_iff.mpr present⟩

/-- Nothing that is waited for is longer than a packet can be. -/
theorem verdict_wait {bs : Bytes} (h : verdict bs = .wait) : bs.length ≤ packetLimit := by
  obtain rfl | rfl | ⟨limit, small, kind, accept, line⟩ | frame | ⟨_, noise⟩ := verdict_judge bs
  · exact Nat.zero_le _
  · decide
  · have judged : verdict bs = lineVerdict limit kind accept bs := by simpa using line []
    rw [h] at judged
    exact Nat.le_trans (lineVerdict_wait judged.symm) small
  · have judged : verdict bs = sirfVerdict bs := by simpa using frame []
    rw [h] at judged
    exact sirfVerdict_wait judged.symm
  · have judged : verdict bs = .drop 1 := by simpa using noise []
    rw [h] at judged
    contradiction

/-- A verdict stands, whatever comes in later. -/
theorem verdict_append {bs : Bytes} (more : Bytes) (h : verdict bs ≠ .wait) :
    verdict (bs ++ more) = verdict bs := by
  obtain rfl | rfl | ⟨limit, _, kind, accept, line⟩ | frame | ⟨_, noise⟩ := verdict_judge bs
  · exact absurd rfl h
  · exact absurd rfl h
  · have judged : verdict bs = lineVerdict limit kind accept bs := by simpa using line []
    rw [line more, judged, lineVerdict_append more (judged ▸ h)]
  · have judged : verdict bs = sirfVerdict bs := by simpa using frame []
    rw [frame more, judged, sirfVerdict_append more (judged ▸ h)]
  · have judged : verdict bs = .drop 1 := by simpa using noise []
    rw [noise more, judged]

end GnssMonitor.Framing
