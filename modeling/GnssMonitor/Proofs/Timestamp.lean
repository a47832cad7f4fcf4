import GnssMonitor.Proofs.Calendar
import GnssMonitor.Proofs.Sentence.Fields
import GnssMonitor.Timestamp

/-! Instants that are written out are read back, with the offset of universal time, a Z in its
place or nothing. -/

namespace GnssMonitor

open Timestamp

namespace Timestamp

/-- So many digits, and the number that they are. -/
structure IsNumeral (count n : Nat) (bs : Bytes) : Prop where
  length : bs.length = count
  digits : ∀ b ∈ bs, isDigit b = true
  value : bs.foldl (fun n b => n * 10 + (b.toNat - 0x30)) 0 = n

variable {count n : Nat} {bs rest : Bytes}

theorem IsNumeral.taken (numeral : IsNumeral count n bs) (rest : Bytes) :
    takeDigits count (bs ++ rest) = some (n, rest) := by
  have front : (bs ++ rest).take count = bs := List.take_left' numeral.length
  have behind : (bs ++ rest).drop count = rest := List.drop_left' numeral.length
  have all : bs.all isDigit = true := List.all_eq_true.mpr numeral.digits
  simp only [takeDigits, front, behind]
  rw [if_pos ⟨numeral.length, all⟩, numeral.value]

theorem isDigit_byteOf {c : Char} (digit : c.isDigit = true) : Text.isAscii c = true ∧
    isDigit (Text.byteOf c) = true ∧ (Text.byteOf c).toNat - 0x30 = c.toNat - '0'.toNat := by
  have range : 48 ≤ c.toNat ∧ c.toNat ≤ 57 := by
    simp only [Char.isDigit, Bool.and_eq_true, decide_eq_true_eq, ge_iff_le,
      UInt32.le_iff_toNat_le] at digit
    exact digit
  have ascii : Text.isAscii c = true := decide_eq_true (by omega)
  have number := Text.toNat_byteOf ascii
  refine ⟨ascii, ?_, by rw [number]; rfl⟩
  rw [isDigit, Bool.and_eq_true, decide_eq_true_eq, decide_eq_true_eq, UInt8.le_iff_toNat_le,
    UInt8.le_iff_toNat_le, number]
  exact range

theorem isDigit_of_mem_padded {c : Char} (there : c ∈ (Instant.padded count n).toList) :
    c.isDigit = true := by
  unfold Instant.padded Binary64.digitsOf at there
  rw [String.toList_ofList, List.mem_append] at there
  rcases there with zero | digit
  · rw [List.eq_of_mem_replicate zero]
    rfl
  · exact Nat.isDigit_of_mem_toDigits (by decide) (by decide) digit

theorem length_padded (short : n < 10 ^ count) (pos : 0 < count) :
    (Instant.padded count n).toList.length = count := by
  have length : (Nat.toDigits 10 n).length ≤ count :=
    (Nat.length_toDigits_le_iff (by decide) pos).mpr short
  unfold Instant.padded Binary64.digitsOf
  rw [String.toList_ofList, List.length_append, List.length_replicate, Nat.sub_add_cancel length]

theorem ofDigitChars_padded (count n : Nat) :
    Nat.ofDigitChars 10 (Instant.padded count n).toList 0 = n := by
  unfold Instant.padded Binary64.digitsOf
  rw [String.toList_ofList, Nat.ofDigitChars_append, Nat.ofDigitChars_replicate_zero, Nat.mul_zero,
    Nat.ofDigitChars_ten_toDigits]

/-- A padded number as bytes. -/
def numeral (count n : Nat) : Bytes := (Instant.padded count n).toList.map Text.byteOf

theorem isNumeral (short : n < 10 ^ count) (pos : 0 < count) :
    IsNumeral count n (numeral count n) := by
  refine ⟨by rw [numeral, List.length_map, length_padded short pos], ?_, ?_⟩
  · intro b there
    obtain ⟨c, within, rfl⟩ := List.mem_map.mp there
    exact (isDigit_byteOf (isDigit_of_mem_padded within)).2.1
  · have value := ofDigitChars_padded count n
    rw [Nat.ofDigitChars_eq_foldl] at value
    rw [numeral, List.foldl_map]
    refine (List.foldl_ext _ _ 0 fun sum c within => ?_).trans value
    rw [(isDigit_byteOf (isDigit_of_mem_padded within)).2.2, Nat.mul_comm]

section Date

variable {d : Date} {year month day : Bytes}

/-- A date in numerals with dashes between them. -/
def dashed (year month day rest : Bytes) : Bytes :=
  year ++ dash :: (month ++ dash :: (day ++ rest))

theorem isDigit_ne_week {b : UInt8} (digit : isDigit b = true) : b ≠ 0x57 := by
  rintro rfl
  contradiction

theorem dashed_length (hy : IsNumeral 4 d.year year) (hm : IsNumeral 2 d.month month)
    (hd : IsNumeral 2 d.day day) (rest : Bytes) :
    dateLength (dashed year month day rest) = some 10 ∧
      (dashed year month day rest).drop 10 = rest := by
  obtain ⟨m, m', rfl⟩ := List.length_eq_two.mp hm.length
  obtain ⟨c, c', rfl⟩ := List.length_eq_two.mp hd.length
  obtain ⟨a, b, e, f, rfl⟩ : ∃ a b e f, year = [a, b, e, f] := by
    match year, hy.length with
    | [a, b, e, f], _ => exact ⟨a, b, e, f, rfl⟩
  have first := isDigit_ne_week (hm.digits m (by simp))
  refine ⟨?_, rfl⟩
  simp [dateLength, dashed, byteAt, first]

theorem readDate_dashed (hy : IsNumeral 4 d.year year) (hm : IsNumeral 2 d.month month)
    (hd : IsNumeral 2 d.day day) (valid : d.isValid = true) (rest : Bytes) :
    readDate 10 (dashed year month day rest) = some d := by
  unfold readDate dashed
  rw [hy.taken]
  simp only [Option.bind_eq_bind, Option.bind_some, List.head?_cons, if_true, List.drop_succ_cons,
    List.drop_zero]
  split
  · rename_i week same
    obtain ⟨m, m', rfl⟩ := List.length_eq_two.mp hm.length
    exact absurd (List.cons.inj same).1 (isDigit_ne_week (hm.digits m (by simp)))
  · rw [hm.taken]
    simp only [Option.bind_some, List.head?_cons, if_true, List.drop_succ_cons, List.drop_zero]
    rw [hd.taken]
    simp [valid]

end Date

section Clock

variable {t : TimeOfDay} {hour minute second fraction : Bytes}

/-- A time of day in numerals with colons between them. -/
def clocked (hour minute second fraction : Bytes) : Bytes :=
  hour ++ colon :: (minute ++ colon :: (second ++ fraction))

/-- Six digits behind a point, or nothing for none. -/
def IsFraction (micro : Nat) (fraction : Bytes) : Prop :=
  fraction = [] ∧ micro = 0 ∨ ∃ digits, fraction = 0x2e :: digits ∧ IsNumeral 6 micro digits

theorem readOn_colon {more : Bytes} (some : more ≠ []) (next : Bytes → Option Clock) :
    readOn t true (colon :: more) next = next more := by
  obtain ⟨b, rest, rfl⟩ := List.exists_cons_of_ne_nil some
  rfl

theorem readOn_fraction {micro : Nat} (is : IsFraction micro fraction) (none : t.micro = 0)
    (next : Bytes → Option Clock) :
    readOn t true fraction next = some ⟨{ t with micro }, false⟩ := by
  obtain ⟨rfl, rfl⟩ | ⟨digits, rfl, numeral⟩ := is
  · cases t
    subst none
    rfl
  · obtain ⟨b, more, rfl⟩ : ∃ b more, digits = b :: more :=
      List.exists_cons_of_ne_nil (List.length_pos_iff.mp (by rw [numeral.length]; decide))
    have taken := numeral.taken []
    rw [List.append_nil] at taken
    change readFraction t (b :: more) = _
    unfold readFraction
    rw [numeral.length]
    simp [taken, breaksOff]

theorem IsNumeral.append_ne_nil {n : Nat} {digits : Bytes} (numeral : IsNumeral 2 n digits)
    (rest : Bytes) : digits ++ rest ≠ [] := by
  obtain ⟨a, b, rfl⟩ := List.length_eq_two.mp numeral.length
  exact List.cons_ne_nil _ _

theorem readClock_clocked (hh : IsNumeral 2 t.hour hour) (hm : IsNumeral 2 t.minute minute)
    (hs : IsNumeral 2 t.second second) (hf : IsFraction t.micro fraction) :
    readClock (clocked hour minute second fraction) = some ⟨t, false⟩ := by
  unfold readClock clocked
  rw [hh.taken]
  simp only [Option.bind_eq_bind, Option.bind_some, List.head?_cons, beq_self_eq_true]
  rw [readOn_colon (hm.append_ne_nil _), hm.taken]
  simp only [Option.bind_some]
  rw [readOn_colon (hs.append_ne_nil _), hs.taken]
  simp only [Option.bind_some]
  rw [readOn_fraction hf rfl]

/-- How universal time is told: by nothing, or by an offset of zero. -/
def IsUniversal (offset : Bytes) : Prop :=
  offset = [] ∨ offset = 0x2b :: Bytes.ofString "00:00"

theorem isSign_of_isDigit {b : UInt8} (digit : isDigit b = true) : isSign b = false := by
  rw [← Bool.not_eq_true]
  intro sign
  simp only [isSign, Bool.or_eq_true, beq_iff_eq] at sign
  obtain rfl | rfl := sign <;> contradiction

theorem clocked_unsigned (hh : IsNumeral 2 t.hour hour) (hm : IsNumeral 2 t.minute minute)
    (hs : IsNumeral 2 t.second second) (hf : IsFraction t.micro fraction) :
    ∀ b ∈ clocked hour minute second fraction, (!isSign b) = true := by
  have colon : isSign colon = false := by decide
  have point : isSign 0x2e = false := by decide
  have fractional : ∀ b ∈ fraction, isSign b = false := by
    obtain ⟨rfl, -⟩ | ⟨digits, rfl, numeral⟩ := hf
    · simp
    · exact List.forall_mem_cons.mpr
        ⟨point, fun b there => isSign_of_isDigit (numeral.digits b there)⟩
  intro b there
  rw [Bool.not_eq_true']
  simp only [clocked, List.mem_append, List.mem_cons] at there
  obtain digit | rfl | digit | rfl | digit | digit := there
  · exact isSign_of_isDigit (hh.digits b digit)
  · exact colon
  · exact isSign_of_isDigit (hm.digits b digit)
  · exact colon
  · exact isSign_of_isDigit (hs.digits b digit)
  · exact fractional b digit

theorem readTime_clocked (hh : IsNumeral 2 t.hour hour) (hm : IsNumeral 2 t.minute minute)
    (hs : IsNumeral 2 t.second second) (hf : IsFraction t.micro fraction)
    (valid : t.isValid = true) {offset : Bytes} (zero : IsUniversal offset) :
    readTime (clocked hour minute second fraction ++ offset) = some (t, 0) := by
  have unsigned := clocked_unsigned hh hm hs hf
  have plus : isSign 0x2b = true ∧ (0x2b == dash) = false := by decide
  have ends : offset.takeWhile (!isSign ·) = [] ∧ offset.dropWhile (!isSign ·) = offset := by
    obtain rfl | rfl := zero <;> simp [plus]
  unfold readTime
  rw [List.takeWhile_append_of_pos unsigned, List.dropWhile_append_of_pos unsigned, ends.1, ends.2,
    List.append_nil, readClock_clocked hh hm hs hf]
  obtain rfl | rfl := zero
  · simp [valid]
  · have none : readOffset false (Bytes.ofString "00:00") = some 0 := by decide +kernel
    simp [valid, plus, none]

end Clock

theorem readBytes_written {d : Date} {t : TimeOfDay} (date : d.isValid = true)
    (time : t.isValid = true) {year month day hour minute second fraction offset : Bytes}
    (hy : IsNumeral 4 d.year year) (hm : IsNumeral 2 d.month month) (hd : IsNumeral 2 d.day day)
    (hh : IsNumeral 2 t.hour hour) (hm' : IsNumeral 2 t.minute minute)
    (hs : IsNumeral 2 t.second second) (hf : IsFraction t.micro fraction)
    (zero : IsUniversal offset) :
    readBytes (dashed year month day
      (0x54 :: (clocked hour minute second fraction ++ offset))) = some (Instant.ofCivil d t) := by
  obtain ⟨length, behind⟩ := dashed_length hy hm hd
    (0x54 :: (clocked hour minute second fraction ++ offset))
  have long : ¬ (dashed year month day
      (0x54 :: (clocked hour minute second fraction ++ offset))).length < 7 := by
    simp only [dashed, List.length_append, List.length_cons, hy.length, hm.length]
    omega
  have plain : characterLength 0x54 = 1 := by decide
  unfold readBytes
  rw [if_neg long, length]
  simp only [Option.bind_eq_bind, Option.bind_some, behind]
  rw [readDate_dashed hy hm hd date]
  simp only [Option.bind_some, plain, List.drop_succ_cons, List.drop_zero]
  rw [readTime_clocked hh hm' hs hf time zero]
  simp

section Text

open Text (CodePoints)

variable {d : Date} {t : TimeOfDay} {s : String} {cs : List Char}

theorem toChars_map (cs : List Char) : CodePoints.toChars (cs.map Char.toNat) = cs := by
  unfold CodePoints.toChars
  rw [List.map_map]
  refine (List.map_congr_left fun c _ => ?_).trans (List.map_id cs)
  have valid : c.toNat.isValidChar := c.valid
  exact (dif_pos valid).trans (by cases c; rfl)

/-- Plain text has no surrogate in it. -/
theorem separated_of_plain (plain : Text.Plain cs) :
    separated (cs.map Char.toNat) = some cs := by
  have single : ∀ n ∈ cs.map Char.toNat, Text.isSurrogate n = false := by
    intro n there
    obtain ⟨c, within, rfl⟩ := List.mem_map.mp there
    have small : c.toNat < 128 := of_decide_eq_true (plain c within)
    simp only [Text.isSurrogate, Text.isHighSurrogate, Text.isLowSurrogate, Bool.or_eq_false_iff,
      Bool.and_eq_false_iff, decide_eq_false_iff_not]
    omega
  have nowhere : (separatorPlaces.find? fun i => (cs.map Char.toNat)[i]?.any Text.isSurrogate) =
      none := by
    rw [List.find?_eq_none]
    intro i _
    cases here : (cs.map Char.toNat)[i]? with
    | none => simp
    | some n => simp [single n (List.mem_of_getElem? here)]
  have none : (cs.map Char.toNat).any Text.isSurrogate = false := by
    rw [List.any_eq_false]
    intro n there
    simp [single n there]
  unfold separated
  simp only [nowhere]
  rw [none, if_neg Bool.false_ne_true, toChars_map]

theorem expandZulu_append (cs cs' : CodePoints) :
    expandZulu (cs ++ cs') = expandZulu cs ++ expandZulu cs' := List.flatMap_append

/-- A Z says the same as an offset of zero. -/
theorem read_zulu (s : String) : read (CodePoints.ofString (s ++ "Z")) =
    read (CodePoints.ofString (s ++ "+00:00")) := by
  have same : expandZulu (CodePoints.ofString "Z") = expandZulu (CodePoints.ofString "+00:00") := by
    decide +kernel
  unfold read
  simp only [CodePoints.ofString, String.toList_append, List.map_append, expandZulu_append]
  rw [← CodePoints.ofString, ← CodePoints.ofString, ← CodePoints.ofString, same]

theorem expandZulu_of_free (free : 'Z' ∉ s.toList) :
    expandZulu (CodePoints.ofString s) = s.toList.map Char.toNat := by
  have single : ∀ n ∈ s.toList.map Char.toNat,
      (if n = 0x5a then CodePoints.ofString "+00:00" else [n]) = [n] := by
    intro n there
    obtain ⟨c, within, rfl⟩ := List.mem_map.mp there
    refine if_neg fun zulu => free ?_
    rw [← Char.ofNat_toNat c, zulu] at within
    exact within
  change (s.toList.map Char.toNat).flatMap _ = _
  rw [List.flatMap_def, List.map_congr_left single, ← List.flatMap_def, List.flatMap_singleton']

theorem read_of_plain (plain : Text.Plain s.toList) (free : 'Z' ∉ s.toList) :
    read (CodePoints.ofString s) = readBytes (s.toList.map Text.byteOf) := by
  unfold read
  rw [expandZulu_of_free free, separated_of_plain plain]
  simp only [Option.bind_eq_bind, Option.bind_some]
  rw [String.ofList_toList, Text.ofString_of_plain plain]

/-- The numbers of a date and a time of day have room in their places. -/
structure HasRoom (d : Date) (t : TimeOfDay) : Prop where
  year : d.year < 10 ^ 4
  month : d.month < 10 ^ 2
  day : d.day < 10 ^ 2
  hour : t.hour < 10 ^ 2
  minute : t.minute < 10 ^ 2
  second : t.second < 10 ^ 2
  micro : t.micro < 10 ^ 6

theorem hasRoom (date : d.isValid = true) (time : t.isValid = true) : HasRoom d t := by
  obtain ⟨-, year, -, -, n, there, day⟩ := Date.isValid_iff.mp date
  simp only [TimeOfDay.isValid, Bool.and_eq_true, decide_eq_true_eq] at time
  have months : d.month - 1 < 12 := by
    obtain ⟨within, -⟩ := List.getElem?_eq_some_iff.mp there
    exact within
  have days : n ≤ 31 := by
    have most (leap : Bool) : ∀ m ∈ Date.monthLengths leap, m ≤ 31 := by cases leap <;> decide
    exact most _ n (List.mem_of_getElem? there)
  rw [Date.lastYear] at year
  constructor <;> omega

/-- The fraction as bytes. -/
def fractionOf (micro : Nat) : Bytes := if micro = 0 then [] else 0x2e :: numeral 6 micro

theorem isFraction {micro : Nat} (short : micro < 10 ^ 6) :
    IsFraction micro (fractionOf micro) := by
  unfold fractionOf
  split
  · rename_i none
    exact .inl ⟨rfl, none⟩
  · exact .inr ⟨_, rfl, isNumeral short (by decide)⟩

theorem map_civilText (d : Date) (t : TimeOfDay) (offset : String) :
    (Instant.civilText d t ++ offset).toList.map Text.byteOf =
      dashed (numeral 4 d.year) (numeral 2 d.month) (numeral 2 d.day)
        (0x54 :: (clocked (numeral 2 t.hour) (numeral 2 t.minute) (numeral 2 t.second)
          (fractionOf t.micro) ++ offset.toList.map Text.byteOf)) := by
  have marks : Text.byteOf '-' = dash ∧ Text.byteOf 'T' = 0x54 ∧ Text.byteOf ':' = colon ∧
      Text.byteOf '.' = 0x2e := by decide
  unfold Instant.civilText fractionOf
  split <;> simp [dashed, clocked, numeral, toString, marks]

/-- What stands in the text of a date and a time of day. -/
def IsCivil (c : Char) : Prop := c.isDigit = true ∨ c ∈ ['-', 'T', ':', '.']

def AreCivil (cs : List Char) : Prop := ∀ c ∈ cs, IsCivil c

@[simp] theorem areCivil_nil : AreCivil [] := nofun

@[simp] theorem areCivil_cons {c : Char} : AreCivil (c :: cs) ↔ IsCivil c ∧ AreCivil cs :=
  List.forall_mem_cons

@[simp] theorem areCivil_append {cs' : List Char} :
    AreCivil (cs ++ cs') ↔ AreCivil cs ∧ AreCivil cs' := List.forall_mem_append

@[simp] theorem areCivil_padded (count n : Nat) : AreCivil (Instant.padded count n).toList :=
  fun _ there => .inl (isDigit_of_mem_padded there)

theorem areCivil_civilText (d : Date) (t : TimeOfDay) :
    AreCivil (Instant.civilText d t).toList := by
  have marks : IsCivil '-' ∧ IsCivil 'T' ∧ IsCivil ':' ∧ IsCivil '.' := by simp [IsCivil]
  unfold Instant.civilText
  split <;> simp [toString, marks]

theorem IsCivil.plain {c : Char} (is : IsCivil c) : Text.isAscii c = true ∧ c ≠ 'Z' := by
  rcases is with digit | mark
  · refine ⟨(isDigit_byteOf digit).1, ?_⟩
    rintro rfl
    contradiction
  · simp only [List.mem_cons, List.not_mem_nil, or_false] at mark
    obtain rfl | rfl | rfl | rfl := mark <;> decide

theorem read_civilText (date : d.isValid = true) (time : t.isValid = true) {offset : String}
    (zero : offset = "" ∨ offset = "+00:00") :
    read (CodePoints.ofString (Instant.civilText d t ++ offset)) = some (Instant.ofCivil d t) := by
  have room := hasRoom date time
  have known : ∀ c ∈ (Instant.civilText d t ++ offset).toList,
      Text.isAscii c = true ∧ c ≠ 'Z' := by
    have unmarked : offset.toList.all (fun c => Text.isAscii c && c != 'Z') = true := by
      obtain rfl | rfl := zero <;> decide
    intro c there
    rw [String.toList_append, List.mem_append] at there
    rcases there with civil | behind
    · exact (areCivil_civilText d t c civil).plain
    · simpa using List.all_eq_true.mp unmarked c behind
  have plain : Text.Plain (Instant.civilText d t ++ offset).toList := fun c there =>
    (known c there).1
  have free : 'Z' ∉ (Instant.civilText d t ++ offset).toList := fun there => (known _ there).2 rfl
  have universal : IsUniversal (offset.toList.map Text.byteOf) := by
    obtain rfl | rfl := zero
    · exact .inl rfl
    · exact .inr (by decide +kernel)
  rw [read_of_plain plain free, map_civilText]
  exact readBytes_written date time (isNumeral room.year (by decide))
    (isNumeral room.month (by decide)) (isNumeral room.day (by decide))
    (isNumeral room.hour (by decide)) (isNumeral room.minute (by decide))
    (isNumeral room.second (by decide)) (isFraction room.micro) universal

end Text

end Timestamp
end GnssMonitor
