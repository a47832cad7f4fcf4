import GnssMonitor.Packet.Hex

/-! What typed hexadecimal text is taken for. White space in it does not count, wherever it is, and
what is left has to be digits in pairs. -/

namespace GnssMonitor.Hex

def smallDigits : List Char :=
  ['0', '1', '2', '3', '4', '5', '6', '7', '8', '9', 'a', 'b', 'c', 'd', 'e', 'f']

def capitalDigits : List Char :=
  ['0', '1', '2', '3', '4', '5', '6', '7', '8', '9', 'A', 'B', 'C', 'D', 'E', 'F']

/-- The character is the digit of this value, small or capital. -/
def Shows (c : Char) (n : Nat) : Prop := smallDigits[n]? = some c ∨ capitalDigits[n]? = some c

def IsDigit (c : Char) : Prop := c ∈ smallDigits ∨ c ∈ capitalDigits

/-- Two digits for each byte, the more significant first. -/
inductive Spells : List Char → Bytes → Prop
  | nil : Spells [] []
  | pair {a b : Char} {high low : Nat} {cs : List Char} {bs : Bytes} (first : Shows a high)
      (second : Shows b low) (rest : Spells cs bs) :
      Spells (a :: b :: cs) (UInt8.ofNat (high * 16 + low) :: bs)

/-- Digits in pairs, and at least one pair. -/
def IsHex (cs : List Char) : Prop := cs ≠ [] ∧ cs.length % 2 = 0 ∧ ∀ c ∈ cs, IsDigit c

/-- A fault that the characters have. -/
inductive Refused (cs : List Char) : HexFault → Prop
  | empty (none : cs = []) : Refused cs .empty
  | odd (unpaired : cs.length % 2 = 1) : Refused cs .odd
  | notHex {position : Nat} {c : Char} (there : cs[position]? = some c) (other : ¬ IsDigit c) :
      Refused cs (.notHex position)

/-- The characters with white space among them. -/
inductive Spaced : List Char → List Char → Prop
  | nil : Spaced [] []
  | blank {c : Char} {cs text : List Char} (blank : Text.isBlank c = true) (rest : Spaced cs text) :
      Spaced cs (c :: text)
  | shown {c : Char} {cs text : List Char} (rest : Spaced cs text) : Spaced (c :: cs) (c :: text)

/-- The text without its white space. -/
def unspaced (text : String) : List Char := text.toList.filter (!Text.isBlank ·)

section Digits

variable {c : Char} {m n : Nat}

theorem isDigit_iff : IsDigit c ↔ ∃ n, Shows c n := by
  simp only [IsDigit, Shows, List.mem_iff_getElem?, exists_or]

theorem Shows.small (shown : Shows c n) : n < 16 := by
  obtain there | there := shown <;> exact (List.getElem?_eq_some_iff.mp there).1

/-- A digit is read as what it shows, and nothing else is read. -/
theorem hexValue?_eq_some_iff : Bytes.hexValue? c = some n ↔ Shows c n := by
  constructor
  · intro read
    have low : c.toNat < 0x67 := by grind [Bytes.hexValue?]
    have shows : ∀ k < 0x67, ∀ n ∈ Bytes.hexValue? (Char.ofNat k), Shows (Char.ofNat k) n := by
      unfold Shows
      decide
    rw [← Char.ofNat_toNat c] at read ⊢
    exact shows c.toNat low n read
  · intro shown
    have read : ∀ n < 16, smallDigits[n]?.bind Bytes.hexValue? = some n ∧
        capitalDigits[n]?.bind Bytes.hexValue? = some n := by decide
    obtain ⟨small, capital⟩ := read n shown.small
    obtain there | there := shown
    · rwa [there] at small
    · rwa [there] at capital

theorem Shows.unique (shown : Shows c m) (shown' : Shows c n) : m = n := by
  rw [← hexValue?_eq_some_iff] at shown shown'
  exact Option.some.inj (shown.symm.trans shown')

theorem hexValue?_eq_none_iff : Bytes.hexValue? c = none ↔ ¬ IsDigit c := by
  rw [isDigit_iff, Option.eq_none_iff_forall_ne_some]
  simp only [ne_eq, hexValue?_eq_some_iff, not_exists]

end Digits

section Pairs

variable {cs : List Char} {bs bs' : Bytes}

theorem Spells.length (spelt : Spells cs bs) : cs.length = 2 * bs.length := by
  induction spelt with
  | nil => rfl
  | pair _ _ _ ih =>
    simp only [List.length_cons]
    omega

theorem Spells.isDigit (spelt : Spells cs bs) : ∀ c ∈ cs, IsDigit c := by
  induction spelt with
  | nil => simp
  | pair first second _ ih =>
    exact List.forall_mem_cons.mpr ⟨isDigit_iff.mpr ⟨_, first⟩,
      List.forall_mem_cons.mpr ⟨isDigit_iff.mpr ⟨_, second⟩, ih⟩⟩

theorem Spells.isHex (spelt : Spells cs bs) (some : bs ≠ []) : IsHex cs := by
  have size := spelt.length
  have positive := List.length_pos_iff.mpr some
  refine ⟨List.length_pos_iff.mp (by omega), by omega, spelt.isDigit⟩

theorem Spells.unique (spelt : Spells cs bs) (spelt' : Spells cs bs') : bs = bs' := by
  induction spelt generalizing bs' with
  | nil =>
    cases spelt'
    rfl
  | pair first second _ ih =>
    cases spelt' with
    | pair first' second' rest' =>
      rw [first.unique first', second.unique second', ih rest']

theorem shows_hexDigit {n : Nat} (small : n < 16) : Shows (Bytes.hexDigit n) n := by
  have shown : ∀ n < 16, smallDigits[n]? = some (Bytes.hexDigit n) := by decide
  exact .inl (shown n small)

/-- The hexadecimal text of bytes spells them. -/
theorem spells_toHex (bs : Bytes) : Spells (Bytes.toHex bs) bs := by
  induction bs with
  | nil => exact .nil
  | cons b bs ih =>
    have size := b.toNat_lt
    have whole : UInt8.ofNat (b.toNat / 16 * 16 + b.toNat % 16) = b := by
      rw [Nat.div_add_mod' b.toNat 16, UInt8.ofNat_toNat]
    rw [Bytes.toHex, List.flatMap_cons]
    have spelt := Spells.pair (shows_hexDigit (n := b.toNat / 16) (by omega))
      (shows_hexDigit (n := b.toNat % 16) (by omega)) ih
    rwa [whole] at spelt

theorem Refused.not_isHex {fault : HexFault} (refused : Refused cs fault) : ¬ IsHex cs := by
  rintro ⟨some, even, digits⟩
  cases refused with
  | empty none => exact some none
  | odd unpaired => omega
  | notHex there other => exact other (digits _ (List.mem_of_getElem? there))

/-- Pairs are read as what they spell, or the fault names a character that is no digit. -/
theorem pairs_cases (position : Nat) (even : cs.length % 2 = 0) :
    (∃ bs, pairs position cs = .ok bs ∧ Spells cs bs) ∨
      ∃ i c, pairs position cs = .error (.notHex (position + i)) ∧ cs[i]? = some c ∧
        ¬ IsDigit c := by
  fun_induction pairs position cs with
  | case1 => exact .inl ⟨[], rfl, .nil⟩
  | case2 => simp at even
  | case3 position a b rest high low second first ih =>
    rw [hexValue?_eq_some_iff] at first second
    simp only [List.length_cons] at even
    obtain ⟨bs, read, spelt⟩ | ⟨i, c, faulty, there, other⟩ := ih (by omega)
    · exact .inl ⟨_, by rw [read]; rfl, .pair first second spelt⟩
    · refine .inr ⟨i + 2, c, ?_, there, other⟩
      rw [faulty, Nat.add_assoc, Nat.add_comm 2]
      rfl
  | case4 position a b rest first =>
    exact .inr ⟨0, a, rfl, rfl, hexValue?_eq_none_iff.mp first⟩
  | case5 position a b rest high second first =>
    exact .inr ⟨1, b, rfl, rfl, hexValue?_eq_none_iff.mp second⟩

theorem isAscii_of_isDigit {c : Char} (digit : IsDigit c) : Text.isAscii c = true := by
  have ascii : smallDigits.all Text.isAscii = true ∧ capitalDigits.all Text.isAscii = true := by
    decide
  exact digit.elim (List.all_eq_true.mp ascii.1 c) (List.all_eq_true.mp ascii.2 c)

theorem isBlank_of_isDigit {c : Char} (digit : IsDigit c) : Text.isBlank c = false := by
  have solid : smallDigits.all (!Text.isBlank ·) = true ∧
      capitalDigits.all (!Text.isBlank ·) = true := by decide
  have shown := digit.elim (List.all_eq_true.mp solid.1 c) (List.all_eq_true.mp solid.2 c)
  simpa using shown

/-- The first character beyond ASCII is the one behind those before it. -/
theorem beyond_ascii (short : (cs.takeWhile Text.isAscii).length < cs.length) :
    ∃ c, cs[(cs.takeWhile Text.isAscii).length]? = some c ∧ ¬ Text.isAscii c = true := by
  induction cs with
  | nil => simp at short
  | cons c cs ih =>
    by_cases ascii : Text.isAscii c = true
    · rw [List.takeWhile_cons_of_pos ascii] at short ⊢
      simpa using ih (Nat.lt_of_succ_lt_succ short)
    · rw [List.takeWhile_cons_of_neg ascii]
      exact ⟨c, rfl, ascii⟩

/-- What is not empty and spells bytes is read as them, and else a fault is found that is there. -/
theorem digits_cases (cs : List Char) :
    (∃ bs, digits cs = .ok bs ∧ bs ≠ [] ∧ Spells cs bs) ∨
      ∃ fault, digits cs = .error fault ∧ Refused cs fault := by
  by_cases none : cs = []
  · subst none
    exact .inr ⟨.empty, rfl, .empty rfl⟩
  have filled : cs.isEmpty = false := by simpa using none
  by_cases unpaired : cs.length % 2 = 1
  · exact .inr ⟨.odd, by simp [digits, filled, unpaired], .odd unpaired⟩
  by_cases short : (cs.takeWhile Text.isAscii).length < cs.length
  · obtain ⟨c, there, beyond⟩ := beyond_ascii short
    exact .inr ⟨.notHex _, by simp [digits, filled, unpaired, short],
      .notHex there fun digit => beyond (isAscii_of_isDigit digit)⟩
  have taken : digits cs = pairs 0 cs := by simp [digits, filled, unpaired, short]
  rw [taken]
  have even : cs.length % 2 = 0 := by omega
  obtain ⟨bs, read, spelt⟩ | ⟨i, c, faulty, there, other⟩ := pairs_cases 0 even
  · refine .inl ⟨bs, read, ?_, spelt⟩
    rintro rfl
    exact none (List.length_eq_zero_iff.mp spelt.length)
  · exact .inr ⟨_, faulty, .notHex (by rwa [Nat.zero_add]) other⟩

end Pairs

section Text

variable {text : String} {cs : List Char} {bs : Bytes}

theorem read_ok_iff : read text = .ok bs ↔ IsHex (unspaced text) ∧ Spells (unspaced text) bs := by
  have same : read text = digits (unspaced text) := rfl
  rw [same]
  obtain ⟨bs', taken, some, spelt⟩ | ⟨fault, faulty, refused⟩ := digits_cases (unspaced text)
  · rw [taken, Except.ok.injEq]
    constructor
    · rintro rfl
      exact ⟨spelt.isHex some, spelt⟩
    · rintro ⟨-, spelt'⟩
      exact spelt.unique spelt'
  · rw [faulty]
    constructor
    · intro taken
      contradiction
    · rintro ⟨hex, -⟩
      exact absurd hex refused.not_isHex

theorem read_error_iff :
    (∃ fault, read text = .error fault ∧ Refused (unspaced text) fault) ↔
      ¬ IsHex (unspaced text) := by
  have same : read text = digits (unspaced text) := rfl
  rw [same]
  constructor
  · rintro ⟨fault, -, refused⟩
    exact refused.not_isHex
  · intro other
    obtain ⟨bs, -, some, spelt⟩ | faulty := digits_cases (unspaced text)
    · exact absurd (spelt.isHex some) other
    · exact faulty

/-- To take the white space out gives the characters back, none of which is white space. -/
theorem Spaced.filter {text : List Char} (spaced : Spaced cs text)
    (solid : ∀ c ∈ cs, Text.isBlank c = false) : text.filter (!Text.isBlank ·) = cs := by
  induction spaced with
  | nil => rfl
  | blank blank _ ih => rw [List.filter_cons_of_neg (by simp [blank]), ih solid]
  | shown _ ih =>
    obtain ⟨first, others⟩ := List.forall_mem_cons.mp solid
    rw [List.filter_cons_of_pos (by simp [first]), ih others]

theorem spaced_refl (cs : List Char) : Spaced cs cs := by
  induction cs with
  | nil => exact .nil
  | cons c cs ih => exact .shown ih

theorem read_of_spaced (spelt : Spells cs bs) (some : bs ≠ []) (spaced : Spaced cs text.toList) :
    read text = .ok bs := by
  have solid : ∀ c ∈ cs, Text.isBlank c = false := fun c there =>
    isBlank_of_isDigit (spelt.isDigit c there)
  rw [read_ok_iff, unspaced, spaced.filter solid]
  exact ⟨spelt.isHex some, spelt⟩

end Text

/-- **Just the text that is hexadecimal but for white space is read.** Without its white space it is
digits of either case in pairs, at least one, and they spell the bytes; of any other text a fault
is told that it has. So white space may be put anywhere among the digits of some bytes, between the
two digits of a pair too. -/
theorem read_accepts_spaced_hex :
    (∀ text, (∀ bs, read text = .ok bs ↔ IsHex (unspaced text) ∧ Spells (unspaced text) bs) ∧
      ((∃ fault, read text = .error fault ∧ Refused (unspaced text) fault) ↔
        ¬ IsHex (unspaced text))) ∧
      ∀ bs cs text, bs ≠ [] → Spells cs bs → Spaced cs text.toList → read text = .ok bs :=
  ⟨fun _ => ⟨fun _ => read_ok_iff, read_error_iff⟩,
    fun _ _ _ some spelt spaced => read_of_spaced spelt some spaced⟩

/-- An em space between two digits, and capitals. -/
theorem read_accepts_spaced_hex_of_em_space :
    let bs : Bytes := [0x4a, 0x0f]
    let cs := ['4', 'a', '0', 'F']
    let text := String.ofList ['4', '\u2003', 'a', '\t', ' ', '0', 'F', ' ']
    bs ≠ [] ∧ Spells cs bs ∧ Spaced cs text.toList ∧ read text = .ok bs := by
  intro bs cs text
  have spelt : Spells cs bs := by
    have four : Shows '4' 4 := .inl rfl
    have ten : Shows 'a' 10 := .inl rfl
    have nought : Shows '0' 0 := .inl rfl
    have fifteen : Shows 'F' 15 := .inr rfl
    exact .pair four ten (.pair nought fifteen .nil)
  have spaced : Spaced cs text.toList := by
    rw [String.toList_ofList]
    exact .shown (.blank rfl (.shown (.blank rfl (.blank rfl (.shown (.shown (.blank rfl .nil)))))))
  exact ⟨by decide, spelt, spaced, read_accepts_spaced_hex.2 bs cs text (by decide) spelt spaced⟩

end GnssMonitor.Hex
