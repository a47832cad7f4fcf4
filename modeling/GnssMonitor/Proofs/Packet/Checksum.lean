import GnssMonitor.Packet.Checksum

/-! What a sentence says of its own checksum, and what becomes of a checksum when one byte
changes. -/

namespace GnssMonitor.Checksum

/-- The value of a byte that is a hexadecimal digit of either case. -/
def digit? (b : UInt8) : Option Nat := Bytes.hexValue? (Char.ofNat b.toNat)

theorem digit?_eq_some_iff {b : UInt8} {n : Nat} :
    digit? b = some n ↔
      (0x30 ≤ b.toNat ∧ b.toNat ≤ 0x39 ∧ n = b.toNat - 0x30) ∨
      (0x41 ≤ b.toNat ∧ b.toNat ≤ 0x46 ∧ n = b.toNat - 0x37) ∨
      (0x61 ≤ b.toNat ∧ b.toNat ≤ 0x66 ∧ n = b.toNat - 0x57) := by
  simp only [digit?, Bytes.hexValue?, Bytes.toNat_char]
  grind

theorem digit?_of_isBlank {b : UInt8} (blank : isBlank b = true) : digit? b = none := by
  rw [Option.eq_none_iff_forall_ne_some]
  intro n digit
  rw [digit?_eq_some_iff] at digit
  simp only [isBlank, Bool.or_eq_true, Bool.and_eq_true, beq_iff_eq, decide_eq_true_eq,
    UInt8.le_iff_toNat_le, ← UInt8.toNat_inj] at blank
  simp only [UInt8.reduceToNat] at blank
  omega

theorem digit?_plus : digit? 0x2b = none := rfl

theorem digit?_minus : digit? 0x2d = none := rfl

/-- Two digits, the more significant first. -/
def DigitPair (x y : UInt8) (n : Nat) : Prop :=
  ∃ high low, digit? x = some high ∧ digit? y = some low ∧ n = high * 16 + low

/-- A single digit with a blank or a sign beside it. -/
inductive LoneDigit : UInt8 → UInt8 → Nat → Prop
  | behindBlank {x y : UInt8} {n : Nat} (blank : isBlank x = true) (digit : digit? y = some n) :
      LoneDigit x y n
  | beforeBlank {x y : UInt8} {n : Nat} (digit : digit? x = some n) (blank : isBlank y = true) :
      LoneDigit x y n
  | positive {y : UInt8} {n : Nat} (digit : digit? y = some n) : LoneDigit 0x2b y n
  | negative {y : UInt8} (digit : digit? y = some 0) : LoneDigit 0x2d y 0

theorem DigitPair.not_lone {x y : UInt8} {m n : Nat} (pair : DigitPair x y m) :
    ¬ LoneDigit x y n := by
  obtain ⟨high, low, first, second, rfl⟩ := pair
  intro lone
  cases lone with
  | behindBlank blank => simp [digit?_of_isBlank blank] at first
  | beforeBlank _ blank => simp [digit?_of_isBlank blank] at second
  | positive => simp [digit?_plus] at first
  | negative => simp [digit?_minus] at first

theorem DigitPair.unique {x y : UInt8} {m n : Nat} (pair : DigitPair x y m)
    (pair' : DigitPair x y n) : m = n := by
  obtain ⟨high, low, first, second, rfl⟩ := pair
  obtain ⟨high', low', first', second', rfl⟩ := pair'
  obtain rfl := Option.some.inj (first.symm.trans first')
  obtain rfl := Option.some.inj (second.symm.trans second')
  rfl

section Field

variable {field : Bytes} {x y : UInt8} {n : Nat}

theorem hexDigits?_single (x : UInt8) : hexDigits? [x] = digit? x := by
  simp [hexDigits?, digit?]

theorem hexDigits?_pair (x y : UInt8) : hexDigits? [x, y] = some n ↔ DigitPair x y n := by
  simp [hexDigits?, DigitPair, digit?, Option.bind_eq_some_iff, eq_comm (a := n)]

theorem unsigned_value {digits : Option Nat} :
    digits.map Int.ofNat = some (n : Int) ↔ digits = some n := by
  cases digits with
  | none => simp
  | some value =>
    rw [Option.map_some, Option.some_inj, Option.some_inj]
    exact Int.ofNat_inj

theorem readField_of_trimmed_nil (trimmed : trimBlanks field = []) : readField field = none := by
  rw [readField, trimmed]
  rfl

theorem readField_of_trimmed_single (trimmed : trimBlanks field = [x]) :
    readField field = some (n : Int) ↔ digit? x = some n := by
  unfold readField
  rw [trimmed]
  split
  · rename_i plus
    obtain ⟨rfl, rfl⟩ := List.cons.inj plus
    simp [hexDigits?, digit?_plus]
  · rename_i minus
    obtain ⟨rfl, rfl⟩ := List.cons.inj minus
    simp [hexDigits?, digit?_minus]
  · rw [hexDigits?_single, unsigned_value]

theorem readField_of_trimmed_pair (trimmed : trimBlanks field = [x, y]) :
    readField field = some (n : Int) ↔ DigitPair x y n ∨
      x = 0x2b ∧ digit? y = some n ∨ x = 0x2d ∧ digit? y = some 0 ∧ n = 0 := by
  unfold readField
  rw [trimmed]
  split
  · rename_i plus
    obtain ⟨rfl, rfl⟩ := List.cons.inj plus
    rw [hexDigits?_single, unsigned_value]
    simp [DigitPair, digit?_plus]
  · rename_i minus
    obtain ⟨rfl, rfl⟩ := List.cons.inj minus
    rw [hexDigits?_single]
    have unpaired : ¬ DigitPair 0x2d y n := by simp [DigitPair, digit?_minus]
    have other : (0x2d : UInt8) ≠ 0x2b := by decide
    rw [or_iff_right unpaired, or_iff_right (fun plus => other plus.1)]
    cases digit? y with
    | none => simp
    | some low =>
      change some (-(low : Int)) = some (n : Int) ↔ _
      simp only [Option.some_inj, true_and]
      omega
  · rename_i plus minus
    have unsigned : x ≠ 0x2b ∧ x ≠ 0x2d :=
      ⟨fun h => plus [y] (h ▸ rfl), fun h => minus [y] (h ▸ rfl)⟩
    simp only [unsigned, false_and, or_false, ← hexDigits?_pair, unsigned_value]

/-- Which fields of two bytes have which value: a proper pair of digits, or a lone one. -/
theorem readField_eq_some_iff :
    readField [x, y] = some (n : Int) ↔ DigitPair x y n ∨ LoneDigit x y n := by
  cases blank : isBlank x <;> cases blank' : isBlank y
  · have trimmed : trimBlanks [x, y] = [x, y] := by simp [trimBlanks, blank, blank']
    rw [readField_of_trimmed_pair trimmed]
    apply or_congr_right
    constructor
    · rintro (⟨rfl, digit⟩ | ⟨rfl, digit, rfl⟩)
      · exact .positive digit
      · exact .negative digit
    · intro lone
      cases lone with
      | behindBlank solid => simp [blank] at solid
      | beforeBlank _ solid => simp [blank'] at solid
      | positive digit => exact .inl ⟨rfl, digit⟩
      | negative digit => exact .inr ⟨rfl, digit, rfl⟩
  · have trimmed : trimBlanks [x, y] = [x] := by simp [trimBlanks, blank, blank']
    rw [readField_of_trimmed_single trimmed]
    have second := digit?_of_isBlank blank'
    constructor
    · exact fun digit => .inr (.beforeBlank digit blank')
    · rintro (⟨_, _, _, digit, _⟩ | lone)
      · simp [second] at digit
      · cases lone <;> simp_all
  · have trimmed : trimBlanks [x, y] = [y] := by simp [trimBlanks, blank, blank']
    rw [readField_of_trimmed_single trimmed]
    have first := digit?_of_isBlank blank
    constructor
    · exact fun digit => .inr (.behindBlank blank digit)
    · rintro (⟨_, _, digit, _⟩ | lone)
      · simp [first] at digit
      · cases lone <;> simp_all
  · have trimmed : trimBlanks [x, y] = [] := by simp [trimBlanks, blank, blank']
    rw [readField_of_trimmed_nil trimmed]
    have first := digit?_of_isBlank blank
    have second := digit?_of_isBlank blank'
    constructor
    · simp
    · rintro (⟨_, _, digit, _⟩ | lone)
      · simp [first] at digit
      · cases lone <;> simp_all

end Field

/-- The last star of a sentence stands between the text behind the leader and the field. -/
def Marks (sentence text field : Bytes) : Prop :=
  (∃ lead, sentence = lead :: (text ++ star :: field)) ∧ star ∉ field

/-- Two hexadecimal digits right behind the last star show the checksum of the text before it. -/
def ShowsSum (sentence : Bytes) : Prop :=
  ∃ text x y rest, Marks sentence text (x :: y :: rest) ∧ DigitPair x y (xor text).toNat

/-- A single digit there, with a blank or a sign beside it, shows it. -/
def ShowsDigit (sentence : Bytes) : Prop :=
  ∃ text x y rest, Marks sentence text (x :: y :: rest) ∧ LoneDigit x y (xor text).toNat

theorem splitLastStar_append (before : Bytes) {after : Bytes} (last : star ∉ after) :
    splitLastStar (before ++ star :: after) = some (before, after) := by
  have plain : ∀ b ∈ after.reverse, (b != star) = true := by
    intro b hb
    rw [bne_iff_ne]
    rintro rfl
    exact last (List.mem_reverse.mp hb)
  have back : (before ++ star :: after).reverse = after.reverse ++ star :: before.reverse := by
    simp
  simp only [splitLastStar, back, List.dropWhile_append_of_pos plain,
    List.takeWhile_append_of_pos plain]
  simp

theorem splitLastStar_eq_none {sentence : Bytes} (unstarred : star ∉ sentence) :
    splitLastStar sentence = none := by
  have plain : ∀ b ∈ sentence.reverse, (b != star) = true := by
    intro b hb
    rw [bne_iff_ne]
    rintro rfl
    exact unstarred (List.mem_reverse.mp hb)
  have none : sentence.reverse.dropWhile (· != star) = [] := by
    rw [← List.append_nil sentence.reverse, List.dropWhile_append_of_pos plain, List.dropWhile_nil]
  simp only [splitLastStar, none]

section Sentence

variable {sentence text text' field field' : Bytes}

theorem exists_marks (lead : UInt8) {rest : Bytes} (starred : star ∈ rest) :
    ∃ text field, Marks (lead :: rest) text field := by
  obtain ⟨field, text, split, last⟩ :=
    List.eq_append_cons_of_mem (List.mem_reverse.mpr starred)
  have forward : rest = text.reverse ++ star :: field.reverse := by
    rw [← List.reverse_reverse rest, split]
    simp
  exact ⟨text.reverse, field.reverse, ⟨lead, by rw [forward]⟩, by simpa using last⟩

theorem Marks.splits (marks : Marks sentence text field) :
    ∃ lead, splitLastStar sentence = some (lead :: text, field) := by
  obtain ⟨⟨lead, rfl⟩, last⟩ := marks
  exact ⟨lead, splitLastStar_append (lead :: text) last⟩

theorem Marks.unique (marks : Marks sentence text field) (marks' : Marks sentence text' field') :
    text = text' ∧ field = field' := by
  obtain ⟨lead, split⟩ := marks.splits
  obtain ⟨lead', split'⟩ := marks'.splits
  have same := Option.some.inj (split.symm.trans split')
  simp only [Prod.mk.injEq, List.cons.injEq] at same
  exact ⟨same.1.2, same.2⟩

theorem ShowsDigit.starred (shown : ShowsDigit sentence) : star ∈ sentence := by
  obtain ⟨text, x, y, rest, ⟨⟨lead, rfl⟩, -⟩, -⟩ := shown
  simp

theorem Marks.isGenuine (marks : Marks sentence text field) :
    isGenuine sentence = true ↔ readField (field.take 2) = some ((xor text).toNat : Int) := by
  obtain ⟨lead, split⟩ := marks.splits
  simp [Checksum.isGenuine, split]

theorem ShowsSum.not_digit (shown : ShowsSum sentence) : ¬ ShowsDigit sentence := by
  obtain ⟨text, x, y, rest, marks, pair⟩ := shown
  rintro ⟨text', x', y', rest', marks', lone⟩
  obtain ⟨rfl, same⟩ := marks.unique marks'
  simp only [List.cons.injEq] at same
  obtain ⟨rfl, rfl, rfl⟩ := same
  exact pair.not_lone lone

theorem shows_iff {x y : UInt8} {rest : Bytes} (marks : Marks sentence text (x :: y :: rest)) :
    ShowsSum sentence ∨ ShowsDigit sentence ↔
      DigitPair x y (xor text).toNat ∨ LoneDigit x y (xor text).toNat := by
  constructor
  · rintro (⟨text', x', y', rest', marks', shown⟩ | ⟨text', x', y', rest', marks', shown⟩) <;>
      obtain ⟨rfl, same⟩ := marks.unique marks' <;>
      simp only [List.cons.injEq] at same <;>
      obtain ⟨rfl, rfl, rfl⟩ := same
    · exact .inl shown
    · exact .inr shown
  · rintro (shown | shown)
    · exact .inl ⟨text, x, y, rest, marks, shown⟩
    · exact .inr ⟨text, x, y, rest, marks, shown⟩

theorem not_shows_of_short (marks : Marks sentence text field) (short : field.length < 2) :
    ¬ (ShowsSum sentence ∨ ShowsDigit sentence) := by
  rintro (⟨text', x, y, rest, marks', _⟩ | ⟨text', x, y, rest, marks', _⟩) <;>
    obtain ⟨_, rfl⟩ := marks.unique marks' <;>
    simp only [List.length_cons] at short <;>
    omega

/-- A line is genuine when it has no star, or when the field behind the last one shows the
checksum, be it with a lone digit. -/
theorem isGenuine_iff {lead : UInt8} {rest : Bytes} (other : lead ≠ star)
    (ended : (lead :: rest).getLast? = some lineFeed) :
    Checksum.isGenuine (lead :: rest) = true ↔
      star ∉ lead :: rest ∨ ShowsSum (lead :: rest) ∨ ShowsDigit (lead :: rest) := by
  by_cases starred : star ∈ rest
  · obtain ⟨text, field, marks⟩ := exists_marks lead starred
    have present : ¬ star ∉ lead :: rest := fun none => none (List.mem_cons_of_mem _ starred)
    rw [marks.isGenuine, or_iff_right present]
    match field with
    | [] =>
      obtain ⟨⟨lead', split⟩, _⟩ := marks
      rw [split, ← List.cons_append, List.getLast?_concat] at ended
      contradiction
    | [x] =>
      obtain rfl : x = lineFeed := by
        obtain ⟨⟨lead', split⟩, _⟩ := marks
        have last : lead' :: (text ++ [star, x]) = (lead' :: text ++ [star]) ++ [x] := by simp
        rw [split, last, List.getLast?_concat] at ended
        exact Option.some.inj ended
      have unread : readField [lineFeed] = none := rfl
      simp [unread, not_shows_of_short marks]
    | x :: y :: more =>
      rw [shows_iff marks, ← readField_eq_some_iff]
      rfl
  · have unstarred : star ∉ lead :: rest := by simp [starred, other.symm]
    simp [Checksum.isGenuine, splitLastStar_eq_none unstarred, unstarred]

end Sentence

/-- The sum of all bytes, before it is cut to 15 bits. -/
def total : Bytes → Nat
  | [] => 0
  | b :: bs => b.toNat + total bs

theorem sum_eq (bs : Bytes) : sum bs = total bs % 0x8000 := by
  have onto : ∀ n, bs.foldl (fun n b => n + b.toNat) n = n + total bs := by
    induction bs with
    | nil => intro n; rfl
    | cons b bs ih =>
      intro n
      rw [List.foldl_cons, ih, total, Nat.add_assoc]
  rw [sum, onto, Nat.zero_add]

theorem total_set {bs : Bytes} {i : Nat} {old : UInt8} (there : bs[i]? = some old) (new : UInt8) :
    total (bs.set i new) + old.toNat = total bs + new.toNat := by
  induction bs generalizing i with
  | nil => simp at there
  | cons b bs ih =>
    cases i with
    | zero =>
      obtain rfl : b = old := by simpa using there
      simp only [List.set_cons_zero, total]
      omega
    | succ i =>
      have tail := ih (by simpa using there)
      simp only [List.set_cons_succ, total]
      omega

/-- One changed byte changes the sum of a frame. -/
theorem sum_set_ne {bs : Bytes} {i : Nat} {old new : UInt8} (there : bs[i]? = some old)
    (other : old ≠ new) : sum (bs.set i new) ≠ sum bs := by
  have moved := total_set there new
  have different : old.toNat ≠ new.toNat := fun same => other (UInt8.toNat_inj.mp same)
  have small := old.toNat_lt
  have small' := new.toNat_lt
  rw [sum_eq, sum_eq]
  omega

theorem xor_cons (b : UInt8) (bs : Bytes) : xor (b :: bs) = b ^^^ xor bs := by
  have onto : ∀ n, bs.foldl (· ^^^ ·) n = n ^^^ bs.foldl (· ^^^ ·) 0 := by
    induction bs with
    | nil => simp
    | cons b bs ih =>
      intro n
      rw [List.foldl_cons, List.foldl_cons, ih, ih (0 ^^^ b), UInt8.zero_xor, UInt8.xor_assoc]
  rw [xor, List.foldl_cons, onto, UInt8.zero_xor]
  rfl

/-- One changed byte changes the exclusive or of a sentence. -/
theorem xor_set_ne {bs : Bytes} {i : Nat} {old new : UInt8} (there : bs[i]? = some old)
    (other : old ≠ new) : xor (bs.set i new) ≠ xor bs := by
  induction bs generalizing i with
  | nil => simp at there
  | cons b bs ih =>
    cases i with
    | zero =>
      obtain rfl : b = old := by simpa using there
      rw [List.set_cons_zero, xor_cons, xor_cons, Ne, UInt8.xor_left_inj]
      exact other.symm
    | succ i =>
      have tail := ih (by simpa using there)
      rw [List.set_cons_succ, xor_cons, xor_cons, Ne, UInt8.xor_right_inj]
      exact tail

end GnssMonitor.Checksum
