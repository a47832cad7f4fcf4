import GnssMonitor.Proofs.Packet.Rendering

/-! Showing once more what was shown already. The text of a packet stays as it is. That of a
message does, too, unless a carriage return stands before its last byte. -/

namespace GnssMonitor.Rendering

open Text (Visible IsVisible)

/-- Rendering the bytes of a text gives it back. -/
def Stable (render : Bytes → List Char) (text : List Char) : Prop :=
  ∃ bytes, Text.encodeAscii (String.ofList text) = .ok bytes ∧ render bytes = text

theorem stable_iff {text : List Char} (plain : Text.Plain text) (render : Bytes → List Char) :
    Stable render text ↔ render (text.map Text.byteOf) = text := by
  have encoded : Text.encodeAscii (String.ofList text) = .ok (text.map Text.byteOf) := by
    have plain : Text.Plain (String.ofList text).toList := by rwa [String.toList_ofList]
    rw [Text.encodeAscii_of_plain plain, Text.encodeAsciiLossy_of_plain plain, String.toList_ofList]
  constructor
  · rintro ⟨bytes, written, same⟩
    obtain rfl := Except.ok.inj (encoded.symm.trans written)
    exact same
  · exact fun same => ⟨_, encoded, same⟩

theorem plain_byteOf {c : Char} (ascii : Text.isAscii c = true) : plain (Text.byteOf c) = [c] := by
  rw [plain, Text.toNat_byteOf ascii, Char.ofNat_toNat]

theorem isPrintable_byteOf {c : Char} (visible : IsVisible c) :
    isPrintable (Text.byteOf c) = true := by
  rw [isPrintable_iff, Text.toNat_byteOf visible.isAscii]
  exact ⟨visible.1, Nat.lt_succ_of_le visible.2⟩

/-- Each character by itself. -/
def singly (cs : List Char) : List (List Char) := cs.map fun c => [c]

theorem singly_append (cs cs' : List Char) : singly (cs ++ cs') = singly cs ++ singly cs' :=
  List.map_append

theorem flatten_singly (cs : List Char) : (singly cs).flatten = cs := by
  rw [singly, ← List.flatMap_def]
  exact List.flatMap_singleton' cs

theorem length_of_mem_singly {cs : List Char} : ∀ p ∈ singly cs, p.length = 1 := by
  intro p there
  obtain ⟨c, -, rfl⟩ := List.mem_map.mp there
  rfl

section Packets

variable {bs : Bytes} {bound : Int} {text : List Char}

theorem isText_visible (visible : Visible text) : IsText (text.map Text.byteOf) := by
  rw [IsText, List.all_eq_true]
  intro b there
  obtain ⟨c, among, rfl⟩ := List.mem_map.mp there
  rw [isPrintable_byteOf (visible c among), Bool.true_or]

theorem conditionalPieces_visible (visible : Visible text) (textual : Bool) :
    conditionalPieces textual (text.map Text.byteOf) = singly text := by
  induction text with
  | nil => rfl
  | cons c cs ih =>
    obtain ⟨first, others⟩ := Text.visible_cons.mp visible
    rw [List.map_cons, conditionalPieces, if_pos (isPrintable_byteOf first), ih others,
      plain_byteOf first.isAscii]
    rfl

/-- Visible text below the bound is shown as it is, whatever kind it is taken for. -/
theorem conditional_visible (visible : Visible text) (fits : text.length < bound)
    (textual : Bool) : conditional (text.map Text.byteOf) textual bound = text := by
  have narrow : ∀ p ∈ singly text, max 1 p.length ≤ p.length + 0 := by
    intro p there
    rw [length_of_mem_singly p there]
    decide
  rw [conditional_of_text (isText_visible visible), conditionalPieces_visible visible,
    cut_whole narrow (by rw [flatten_singly]; omega), flatten_singly]

/-- **A packet is shown in visible characters, and once more as it was.** Its line ends with its
only newline, and no other control character is in it. -/
theorem conditional_settles (bs : Bytes) (textual textual' : Bool) {bound : Int}
    (positive : 1 ≤ bound) :
    Visible (conditional bs textual bound) ∧
      Stable (conditional · textual' bound) (conditional bs textual bound) ∧
      ∃ line, (packetLine bs textual bound).toList = line ++ ['\n'] ∧ Visible line := by
  have visible := visible_conditional bs textual bound
  obtain ⟨outputs, -, -, cut⟩ := rendersBelow_conditional bs textual positive
  refine ⟨visible, ?_, toList_packetLine bs textual bound⟩
  rw [stable_iff visible.plain]
  exact conditional_visible visible cut.below textual'

/-- A line ending that is dropped behind a tab that is not. -/
theorem conditional_settles_of_tab :
    let bs : Bytes := [0x61, 0x09, 0x0d, 0x0a]
    let text := "a\\x09".toList
    (1 : Int) ≤ 6 ∧ conditional bs true 6 = text ∧ Visible text ∧
      Stable (conditional · false 6) text ∧
      ∃ line, (packetLine bs true 6).toList = line ++ ['\n'] ∧ Visible line := by
  intro bs text
  have shown : conditional bs true 6 = text := by decide
  have positive : (1 : Int) ≤ 6 := by decide
  have settled := conditional_settles bs true false positive
  rw [shown] at settled
  exact ⟨positive, shown, settled⟩

end Packets

section Messages

variable {bs : Bytes} {bound : Int} {text front : List Char}

/-- What a byte gives that is not one of the last two. -/
def within (b : UInt8) : List Char := if isPrintable b then plain b else escape b

/-- What the last byte gives. -/
def atEnd (b : UInt8) : List Char :=
  if isPrintable b || b == lineFeed || b == carriageReturn then plain b else escape b

theorem printablePieces_append (front : Bytes) {tail : Bytes} (long : 2 ≤ tail.length) :
    printablePieces (front ++ tail) = front.map within ++ printablePieces tail := by
  induction front with
  | nil => rfl
  | cons b rest ih =>
    have unended : (rest ++ tail).isEmpty = false := by
      cases tail <;> simp_all
    have behind : ¬ rest.length + tail.length ≤ 1 := by omega
    simp [printablePieces, ih, unended, behind, within]

theorem printablePieces_single (last : UInt8) : printablePieces [last] = [atEnd last] := by
  simp [printablePieces, atEnd]

theorem printablePieces_pair (prev last : UInt8) :
    printablePieces [prev, last] =
      [if isPrintable prev || prev == carriageReturn then plain prev else escape prev,
        atEnd last] := by
  simp [printablePieces, atEnd]

theorem visible_within (b : UInt8) : Visible (within b) := by
  unfold within
  split
  · exact visible_plain ‹_›
  · exact visible_escape b

theorem visible_map_within (bs : Bytes) : Visible (bs.map within).flatten := by
  intro c there
  rw [← List.flatMap_def] at there
  obtain ⟨b, -, shown⟩ := List.mem_flatMap.mp there
  exact visible_within b c shown

theorem printablePieces_visible (visible : Visible front) (rest : Bytes) :
    printablePieces (front.map Text.byteOf ++ rest) = singly front ++ printablePieces rest := by
  induction front with
  | nil => rfl
  | cons c cs ih =>
    obtain ⟨first, others⟩ := Text.visible_cons.mp visible
    simp [printablePieces, isPrintable_byteOf first, plain_byteOf first.isAscii, ih others, singly]

def lineEndings : List (List Char) := [[], ['\r'], ['\n'], ['\r', '\n']]

/-- Visible characters, and at most one line ending behind them. -/
def EndsOnce (text : List Char) : Prop :=
  ∃ front ending, text = front ++ ending ∧ Visible front ∧ ending ∈ lineEndings

/-- The last byte but one is a carriage return, and the last is no newline. -/
def StrayReturn (bs : Bytes) (last : UInt8) : Prop :=
  (∃ front, bs = front ++ [carriageReturn, last]) ∧ last ≠ lineFeed

theorem StrayReturn.ends {front : Bytes} {prev last last' : UInt8}
    (stray : StrayReturn (front ++ [prev, last]) last') : prev = carriageReturn ∧ last = last' := by
  obtain ⟨⟨front', shape⟩, -⟩ := stray
  obtain ⟨-, same⟩ := List.append_inj' shape rfl
  simpa using same

theorem StrayReturn.unique {last last' : UInt8} (stray : StrayReturn bs last)
    (stray' : StrayReturn bs last') : last = last' := by
  obtain ⟨⟨front, rfl⟩, -⟩ := stray
  exact stray'.ends.2

theorem not_strayReturn_of_short {last : UInt8} (short : bs.length < 2) :
    ¬ StrayReturn bs last := by
  rintro ⟨⟨front, rfl⟩, -⟩
  simp only [List.length_append, List.length_cons, List.length_nil] at short
  omega

theorem atEnd_cases (b : UInt8) : Visible (atEnd b) ∨ b = lineFeed ∨ b = carriageReturn := by
  by_cases ends : b = lineFeed ∨ b = carriageReturn
  · exact .inr ends
  · left
    obtain ⟨feed, ret⟩ := not_or.mp ends
    have same : atEnd b = within b := by simp [atEnd, within, feed, ret]
    rw [same]
    exact visible_within b

theorem endsOnce_atEnd (visible : Visible front) (b : UInt8) : EndsOnce (front ++ atEnd b) := by
  obtain shown | rfl | rfl := atEnd_cases b
  · exact ⟨front ++ atEnd b, [], (List.append_nil _).symm,
      Text.visible_append.mpr ⟨visible, shown⟩, by decide⟩
  · exact ⟨front, ['\n'], rfl, visible, by decide⟩
  · exact ⟨front, ['\r'], rfl, visible, by decide⟩

/-- The text ends once, or a stray carriage return is in it. -/
theorem printablePieces_cases (bs : Bytes) :
    ((∀ last, ¬ StrayReturn bs last) ∧ EndsOnce (printablePieces bs).flatten) ∨
      ∃ last, StrayReturn bs last ∧ ∃ front, Visible front ∧
        (printablePieces bs).flatten = front ++ '\r' :: atEnd last := by
  obtain rfl | ⟨most, last, rfl⟩ := List.eq_nil_or_concat' bs
  · exact .inl ⟨fun _ => not_strayReturn_of_short (by decide), [], [], rfl, Text.visible_nil,
      by decide⟩
  · obtain rfl | ⟨front, prev, rfl⟩ := List.eq_nil_or_concat' most
    · refine .inl ⟨fun _ => not_strayReturn_of_short (by simp), ?_⟩
      rw [List.nil_append, printablePieces_single, List.flatten_singleton]
      exact endsOnce_atEnd Text.visible_nil last
    · have visible := visible_map_within front
      rw [List.append_assoc, List.singleton_append, printablePieces_append front (by simp),
        printablePieces_pair, List.flatten_append, List.flatten_cons, List.flatten_singleton]
      by_cases ret : prev = carriageReturn
      · subst ret
        by_cases feed : last = lineFeed
        · subst feed
          refine .inl ⟨fun _ stray => stray.2 stray.ends.2.symm, ?_⟩
          exact ⟨_, ['\r', '\n'], rfl, visible, by decide⟩
        · exact .inr ⟨last, ⟨⟨front, rfl⟩, feed⟩, _, visible, rfl⟩
      · refine .inl ⟨fun _ stray => ret stray.ends.1, ?_⟩
        have other : (prev == carriageReturn) = false := beq_false_of_ne ret
        rw [other, Bool.or_false, ← List.append_assoc]
        exact endsOnce_atEnd (Text.visible_append.mpr ⟨visible, visible_within prev⟩) last

theorem printable_singly (pieces : printablePieces (text.map Text.byteOf) = singly text)
    (fits : (text.length + 4 : Nat) < bound) : printable (text.map Text.byteOf) bound = text := by
  have narrow : ∀ p ∈ singly text, escapeWidth ≤ p.length + 4 := fun p _ =>
    Nat.le_add_left _ p.length
  rw [printable, pieces, cut_whole narrow (by rwa [flatten_singly, Nat.zero_add]), flatten_singly]

theorem EndsOnce.plain (once : EndsOnce text) : Text.Plain text := by
  obtain ⟨front, ending, rfl, visible, known⟩ := once
  have plain : ∀ e ∈ lineEndings, Text.Plain e := by decide
  exact Text.plain_append.mpr ⟨visible.plain, plain ending known⟩

theorem EndsOnce.again (once : EndsOnce text) (fits : (text.length + 4 : Nat) < bound) :
    printable (text.map Text.byteOf) bound = text := by
  obtain ⟨front, ending, rfl, visible, known⟩ := once
  have pieces : ∀ e ∈ lineEndings, printablePieces (e.map Text.byteOf) = singly e := by decide
  apply printable_singly _ fits
  rw [List.map_append, printablePieces_visible visible, pieces ending known, singly_append]

theorem EndsOnce.tail {c : Char} (once : EndsOnce (c :: text)) : EndsOnce text := by
  obtain ⟨front, ending, shape, visible, known⟩ := once
  cases front with
  | nil =>
    rw [List.nil_append] at shape
    have closed : ∀ e ∈ lineEndings, e.tail ∈ lineEndings := by decide
    have rest := closed ending known
    rw [← shape] at rest
    exact ⟨[], text, rfl, Text.visible_nil, rest⟩
  | cons first front =>
    obtain ⟨-, rfl⟩ := List.cons.inj shape
    exact ⟨front, ending, rfl, (Text.visible_cons.mp visible).2, known⟩

/-- Behind a carriage return comes a newline at most. -/
theorem EndsOnce.behind_return {rest : List Char} (once : EndsOnce (front ++ '\r' :: rest)) :
    rest = [] ∨ rest = ['\n'] := by
  induction front with
  | nil =>
    obtain ⟨text, ending, shape, visible, known⟩ := once
    cases text with
    | nil =>
      rw [List.nil_append, List.nil_append] at shape
      rw [← shape] at known
      simpa [lineEndings] using known
    | cons c cs =>
      obtain ⟨rfl, -⟩ := List.cons.inj shape
      exact absurd (Text.visible_cons.mp visible).1 (by decide)
  | cons c cs ih => exact ih once.tail

theorem map_byteOf_plain (b : UInt8) : (plain b).map Text.byteOf = [b] := by
  rw [plain, List.map_singleton, Text.byteOf, Bytes.toNat_char, UInt8.ofNat_toNat]

section Stray

variable {last : UInt8}

theorem atEnd_plain (passes : isPrintable last = true ∨ last = carriageReturn) :
    atEnd last = plain last := by
  obtain printable | rfl := passes
  · simp [atEnd, printable]
  · rfl

theorem atEnd_escape (other : last ≠ lineFeed)
    (stopped : ¬ (isPrintable last = true ∨ last = carriageReturn)) : atEnd last = escape last := by
  obtain ⟨unprintable, ret⟩ := not_or.mp stopped
  simp [atEnd, unprintable, other, ret]

theorem atEnd_ne (other : last ≠ lineFeed) : ¬ (atEnd last = [] ∨ atEnd last = ['\n']) := by
  by_cases passes : isPrintable last = true ∨ last = carriageReturn
  · rw [atEnd_plain passes]
    rintro (none | feed)
    · exact absurd none (List.cons_ne_nil _ _)
    · have same := congrArg (List.map Text.byteOf) feed
      rw [map_byteOf_plain] at same
      exact other (List.singleton_inj.mp same)
  · rw [atEnd_escape other passes]
    simp [escape]

theorem plain_atEnd (last : UInt8) : Text.Plain (atEnd last) := by
  obtain visible | rfl | rfl := atEnd_cases last
  · exact visible.plain
  · decide
  · decide

/-- Behind visible text a carriage return is escaped when more than one byte follows it. -/
theorem printablePieces_return (visible : Visible front) (last : UInt8) :
    printablePieces ((front ++ '\r' :: escape last).map Text.byteOf) =
      singly front ++ escape carriageReturn :: singly (escape last) := by
  have long : 2 ≤ ((escape last).map Text.byteOf).length := by simp [escape]
  have behind : printablePieces ((escape last).map Text.byteOf) = singly (escape last) := by
    have pieces := printablePieces_visible (visible_escape last) []
    rwa [List.append_nil, printablePieces, List.append_nil] at pieces
  rw [List.map_append, printablePieces_visible visible]
  apply congrArg (singly front ++ ·)
  exact (printablePieces_append [carriageReturn] long).trans (congrArg _ behind)

/-- The return is shown as it is once more only where the byte behind it is, too. -/
theorem stray_again (visible : Visible front) (other : last ≠ lineFeed)
    (fits : ((front ++ '\r' :: atEnd last).length + 4 : Nat) < bound) :
    printable ((front ++ '\r' :: atEnd last).map Text.byteOf) bound = front ++ '\r' :: atEnd last ↔
      isPrintable last = true ∨ last = carriageReturn := by
  by_cases passes : isPrintable last = true ∨ last = carriageReturn
  · rw [atEnd_plain passes] at fits ⊢
    refine iff_of_true (printable_singly ?_ fits) passes
    have bytes : ('\r' :: plain last).map Text.byteOf = [carriageReturn, last] := by
      rw [List.map_cons, map_byteOf_plain]
      rfl
    rw [List.map_append, printablePieces_visible visible, bytes, printablePieces_pair,
      atEnd_plain passes, singly_append]
    rfl
  · rw [atEnd_escape other passes]
    refine iff_of_false (fun same => ?_) passes
    have escaped : Visible (printable ((front ++ '\r' :: escape last).map Text.byteOf) bound) := by
      intro c there
      have among := cut_subset _ bound 0 _ there
      rw [printablePieces_return visible, List.flatten_append, List.flatten_cons, flatten_singly,
        flatten_singly] at among
      have all := Text.visible_append.mpr ⟨visible,
        Text.visible_append.mpr ⟨visible_escape carriageReturn, visible_escape last⟩⟩
      exact all c among
    rw [same, Text.visible_append, Text.visible_cons] at escaped
    exact absurd escaped.2.1 (by decide)

end Stray

/-- **A message is shown once more as it was**, in visible characters and with one line ending at
most, unless a carriage return stands before its last byte and no newline is there. That return is
shown as it is, and escaped the next time if the last byte was escaped. -/
theorem printable_settles_iff (bs : Bytes) {bound : Int}
    (whole : (4 * bs.length + 4 : Nat) < bound) :
    let again := Stable (printable · bound) (printable bs bound)
    (again ∧ EndsOnce (printable bs bound) ↔ ∀ last, ¬ StrayReturn bs last) ∧
      (again ↔ ∀ last, StrayReturn bs last → isPrintable last = true ∨ last = carriageReturn) := by
  intro again
  have width := length_flatten_le (printable_outputs bs)
  have fits : ((printablePieces bs).flatten.length + 4 : Nat) < bound := by
    simp only [escapeWidth] at width
    omega
  have shown := printable_whole whole
  obtain ⟨calm, once⟩ | ⟨last, stray, front, visible, text⟩ := printablePieces_cases bs
  · have settled : again := by
      simp only [again, shown]
      exact (stable_iff once.plain _).mpr (once.again fits)
    rw [shown]
    exact ⟨iff_of_true ⟨settled, once⟩ calm,
      iff_of_true settled fun last stray => absurd stray (calm last)⟩
  · rw [text] at fits shown
    have unended : ¬ EndsOnce (printable bs bound) := by
      rw [shown]
      exact fun once => atEnd_ne stray.2 once.behind_return
    have settled : again ↔ isPrintable last = true ∨ last = carriageReturn := by
      simp only [again, shown]
      have plain : Text.Plain (front ++ '\r' :: atEnd last) :=
        Text.plain_append.mpr ⟨visible.plain, Text.plain_cons.mpr ⟨rfl, plain_atEnd last⟩⟩
      rw [stable_iff plain]
      exact stray_again visible stray.2 fits
    refine ⟨iff_of_false (fun both => unended both.2) (fun calm => calm last stray), ?_⟩
    rw [settled]
    exact ⟨fun passes _ stray' => stray.unique stray' ▸ passes, fun passes => passes last stray⟩

/-- A line ending behind an escape, and a bound that is just large enough. -/
theorem printable_settles_of_line :
    let bs : Bytes := [0x01, 0x0d, 0x0a]
    let text := "\\x01\r\n".toList
    (4 * bs.length + 4 : Nat) < (17 : Int) ∧ printable bs 17 = text ∧
      Stable (printable · 17) text ∧ EndsOnce text := by
  intro bs text
  have whole : (4 * bs.length + 4 : Nat) < (17 : Int) := by decide
  have shown : printable bs 17 = text := by decide
  have calm : ∀ last, ¬ StrayReturn bs last := by
    intro last stray
    have stray : StrayReturn ([0x01] ++ [carriageReturn, lineFeed]) last := stray
    exact stray.2 stray.ends.2.symm
  have settled := (printable_settles_iff bs whole).1.mpr calm
  rw [shown] at settled
  exact ⟨whole, shown, settled⟩

/-- A carriage return that no newline follows is shown as it is, and is escaped the next time. -/
theorem printable_unsettled_of_return :
    let bs : Bytes := [0x0d, 0x01]
    let text := "\r\\x01".toList
    (4 * bs.length + 4 : Nat) < defaultBound ∧ printable bs defaultBound = text ∧
      printable (text.map Text.byteOf) defaultBound = "\\x0d\\x01".toList ∧
      ¬ Stable (printable · defaultBound) text ∧ ¬ EndsOnce text := by
  intro bs text
  have again : printable (text.map Text.byteOf) defaultBound = "\\x0d\\x01".toList := by decide
  refine ⟨by decide, by decide, again, ?_, ?_⟩
  · rw [stable_iff (by decide), again]
    decide
  · intro once
    have once : EndsOnce ([] ++ '\r' :: "\\x01".toList) := once
    exact absurd once.behind_return (by decide)

end Messages

end GnssMonitor.Rendering
