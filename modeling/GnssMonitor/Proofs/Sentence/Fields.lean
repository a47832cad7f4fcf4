import Mathlib.Data.List.TakeWhile
import GnssMonitor.Proofs.Framing.RoundTrip
import GnssMonitor.Proofs.Packet.Rendering
import GnssMonitor.Proofs.Session.Decoding

/-! Sentences put together from fields, and those fields read back as a session reads them. -/

namespace GnssMonitor

namespace Bytes

theorem toList_loop (bs : ByteArray) (i : Nat) (read : Bytes) :
    ByteArray.toList.loop bs i read = read.reverse ++ bs.data.toList.drop i := by
  fun_induction ByteArray.toList.loop bs i read with
  | case1 i read here ih =>
    have within : i < bs.data.toList.length := here
    have next : bs.get! i = bs.data.toList[i] := getElem!_pos bs.data i here
    rw [ih, next, List.drop_eq_getElem_cons within, List.reverse_cons, List.append_assoc,
      List.singleton_append]
  | case2 i read past =>
    have past : bs.data.toList.length ≤ i := Nat.le_of_not_lt past
    rw [List.drop_eq_nil_of_le past, List.append_nil]

theorem ofString_eq (s : String) : ofString s = s.toList.flatMap String.utf8EncodeChar := by
  have encoded : s.toUTF8 = s.toList.utf8Encode := by
    rw [String.toUTF8_eq_toByteArray, ← String.toByteArray_ofList, String.ofList_toList]
  rw [ofString, encoded, ByteArray.toList, toList_loop, List.utf8Encode,
    List.toList_data_toByteArray]
  rfl

end Bytes

namespace Text

theorem byteOf_mem_map {cs : List Char} (plain : Plain cs) {c : Char} (ascii : isAscii c = true) :
    byteOf c ∈ cs.map byteOf ↔ c ∈ cs := by
  constructor
  · intro there
    obtain ⟨d, there, same⟩ := List.mem_map.mp there
    have number := congrArg UInt8.toNat same
    rw [toNat_byteOf (plain d there), toNat_byteOf ascii] at number
    rwa [← Char.ofNat_toNat c, ← number, Char.ofNat_toNat]
  · exact List.mem_map_of_mem

/-- Plain text has a byte for each character. -/
theorem ofString_of_plain {s : String} (plain : Plain s.toList) :
    Bytes.ofString s = s.toList.map byteOf := by
  have single : ∀ c ∈ s.toList, String.utf8EncodeChar c = [byteOf c] := by
    intro c there
    have small : c.val.toNat ≤ 127 := Nat.le_of_lt_succ (of_decide_eq_true (plain c there))
    unfold String.utf8EncodeChar
    rw [if_pos small]
    rfl
  rw [Bytes.ofString_eq, List.flatMap_def, List.map_congr_left single, ← List.flatMap_def]
  exact (List.map_eq_flatMap).symm

/-- Plain text is read back from its bytes. -/
theorem decodeAsciiLossy_of_plain {cs : List Char} (plain : Plain cs) :
    decodeAsciiLossy (cs.map byteOf) = cs := by
  have same : ∀ c ∈ cs, (if byteOf c < 0x80 then Char.ofNat (byteOf c).toNat else replacement) =
      c := by
    intro c there
    have number := toNat_byteOf (plain c there)
    have small : byteOf c < 0x80 := by
      rw [UInt8.lt_iff_toNat_lt, number]
      exact of_decide_eq_true (plain c there)
    rw [if_pos small, number, Char.ofNat_toNat]
  unfold decodeAsciiLossy
  rw [List.map_map]
  exact (List.map_congr_left same).trans (List.map_id cs)

/-- What is blank behind the last character that is not is trimmed. -/
theorem trim_of_ends {p : Char → Bool} {first last : Char} {middle blank : List Char}
    (opens : p first = false) (closes : p last = false) (rest : blank.all p = true) :
    trim p (first :: middle ++ [last] ++ blank) = first :: middle ++ [last] := by
  have kept : (first :: middle ++ [last] ++ blank).dropWhile p =
      first :: middle ++ [last] ++ blank := by
    simp [opens]
  have dropped : (blank.reverse ++ (last :: (first :: middle).reverse)).dropWhile p =
      last :: (first :: middle).reverse := by
    rw [List.dropWhile_append_of_pos (by simpa using rest), List.dropWhile_cons, closes]
    rfl
  unfold trim dropRight
  rw [kept, List.reverse_append, List.reverse_append, List.reverse_singleton, List.singleton_append,
    dropped, List.reverse_cons, List.reverse_reverse]

end Text

namespace Sentence

/-- The pieces between commas are those of the standard library. -/
theorem splitCommas_eq (cs : List Char) : splitCommas cs = (cs.splitOn ',').map String.ofList := by
  unfold splitCommas
  apply congrArg (List.map String.ofList)
  induction cs with
  | nil => rfl
  | cons c cs ih =>
    obtain ⟨p, rest, pieces⟩ := List.exists_cons_of_ne_nil (List.splitOn_ne_nil ',' cs)
    rw [List.foldr_cons, ih, List.splitOn_cons_eq_if_modifyHead, pieces]
    rfl

/-- The fields of a sentence, as a session reads them. -/
def fieldsOf (bs : Bytes) : List String :=
  splitCommas (((Text.trim Text.isBlank (Text.decodeAsciiLossy bs)).takeWhile (· != '*')).drop 1)

/-- The text that a sentence has these fields in. -/
def compose (fields : List String) : String := "$" ++ ",".intercalate fields

/-- What has a part of its own in a sentence. -/
def isMark (c : Char) : Bool := c ∈ [',', '*', '\r', '\n']

/-- Such text stands in a sentence as it is. -/
def IsField (text : String) : Prop :=
  ∀ c ∈ text.toList, Text.isAscii c = true ∧ isMark c = false

instance (text : String) : Decidable (IsField text) := List.decidableBAll _ text.toList

/-- The text behind the leader. -/
def body (fields : List String) : List Char := [','].intercalate (fields.map String.toList)

theorem body_singleton (f : String) : body [f] = f.toList := by
  rw [body, List.map_singleton, List.intercalate_singleton]

theorem body_cons (f f' : String) (rest : List String) :
    body (f :: f' :: rest) = f.toList ++ ',' :: body (f' :: rest) := by
  rw [body, List.map_cons, List.map_cons, List.intercalate_cons_cons, List.append_assoc]
  rfl

theorem toList_compose (fields : List String) : (compose fields).toList = '$' :: body fields := by
  unfold compose
  rw [String.toList_append, String.toList_intercalate]
  rfl

variable {fields : List String}

theorem mem_body {c : Char} (there : c ∈ body fields) :
    c = ',' ∨ ∃ f ∈ fields, c ∈ f.toList := by
  induction fields with
  | nil => contradiction
  | cons f rest ih =>
    have first : c ∈ f.toList → c = ',' ∨ ∃ f' ∈ f :: rest, c ∈ f'.toList :=
      fun there => .inr ⟨f, List.mem_cons_self, there⟩
    cases rest with
    | nil =>
      rw [body_singleton] at there
      exact first there
    | cons f' rest =>
      rw [body_cons, List.mem_append, List.mem_cons] at there
      obtain there | comma | there := there
      · exact first there
      · exact .inl comma
      · obtain comma | ⟨g, later, there⟩ := ih there
        · exact .inl comma
        · exact .inr ⟨g, List.mem_cons_of_mem f later, there⟩

theorem upperDigit_plain : ∀ n < 16, Text.isAscii (Bytes.hexUpper n) = true ∧
    Text.isBlank (Bytes.hexUpper n) = false := by decide

section

variable (clean : ∀ f ∈ fields, IsField f)
include clean

theorem plain_body : Text.Plain (body fields) := by
  intro c there
  obtain rfl | ⟨f, known, there⟩ := mem_body there
  · decide
  · exact (clean f known c there).1

theorem mark_not_mem_body {c : Char} (mark : isMark c = true) (other : c ≠ ',') :
    c ∉ body fields := by
  intro there
  obtain comma | ⟨f, known, there⟩ := mem_body there
  · exact other comma
  · rw [(clean f known c there).2] at mark
    contradiction

theorem mark_not_mem_bytes {c : Char} (mark : isMark c = true) (other : c ≠ ',')
    (ascii : Text.isAscii c = true) : Text.byteOf c ∉ (body fields).map Text.byteOf := by
  rw [Text.byteOf_mem_map (plain_body clean) ascii]
  exact mark_not_mem_body clean mark other

/-- A sentence as it is sent. -/
theorem nmeaText_compose : Encoding.nmeaText (compose fields) =
    Encoding.sealed 0x24 ((body fields).map Text.byteOf)
      (Checksum.xor ((body fields).map Text.byteOf)) := by
  have plain : Text.Plain (compose fields).toList := by
    rw [toList_compose, Text.plain_cons]
    exact ⟨by decide, plain_body clean⟩
  have bytes : Bytes.ofString (compose fields) = 0x24 :: (body fields).map Text.byteOf := by
    rw [Text.ofString_of_plain plain, toList_compose, List.map_cons]
    rfl
  have unstarred : star ∉ (body fields).map Text.byteOf :=
    mark_not_mem_bytes clean (c := '*') (by decide) (by decide) (by decide)
  have unbroken : lineFeed ∉ (body fields).map Text.byteOf :=
    mark_not_mem_bytes clean (c := '\n') (by decide) (by decide) (by decide)
  have unreturned : carriageReturn ∉ (body fields).map Text.byteOf :=
    mark_not_mem_bytes clean (c := '\r') (by decide) (by decide) (by decide)
  unfold Encoding.nmeaText
  rw [bytes]
  apply Encoding.nmea_led rfl unstarred
  intro b there
  have feed : b ≠ lineFeed := fun same => unbroken (same ▸ there)
  have ret : b ≠ carriageReturn := fun same => unreturned (same ▸ there)
  simp [Encoding.isLineEnd, feed, ret]

/-- The text that the sentence is read as: the fields, and a checksum of two digits. -/
theorem trim_compose : ∃ high low,
    Text.trim Text.isBlank (Text.decodeAsciiLossy (Encoding.nmeaText (compose fields))) =
      '$' :: body fields ++ '*' :: [high, low] := by
  let sum := Checksum.xor ((body fields).map Text.byteOf)
  have small := sum.toNat_lt
  let high := Bytes.hexUpper (sum.toNat / 16)
  let low := Bytes.hexUpper (sum.toNat % 16)
  obtain ⟨plain_high, _⟩ := upperDigit_plain (sum.toNat / 16) (by omega)
  obtain ⟨plain_low, low_shown⟩ := upperDigit_plain (sum.toNat % 16) (by omega)
  have bytes : Encoding.nmeaText (compose fields) =
      ('$' :: (body fields ++ ['*', high]) ++ [low] ++ ['\r', '\n']).map Text.byteOf := by
    rw [nmeaText_compose clean]
    simp only [Encoding.sealed, Encoding.upperHexPair, List.map_append, List.map_cons, List.map_nil,
      List.cons_append, List.append_assoc, List.nil_append]
    rfl
  have plain : Text.Plain ('$' :: (body fields ++ ['*', high]) ++ [low] ++ ['\r', '\n']) := by
    have text := plain_body clean
    have marks : Text.Plain ['$', '*', '\r', '\n'] := by decide
    simp only [Text.plain_cons] at marks
    simp only [Text.plain_cons, Text.plain_append, text, marks, plain_high, plain_low, high, low,
      and_self]
  refine ⟨high, low, ?_⟩
  rw [bytes, Text.decodeAsciiLossy_of_plain plain,
    Text.trim_of_ends (by decide) low_shown (by decide)]
  simp only [List.cons_append, List.append_assoc, List.nil_append]
  rfl

theorem takeWhile_body (sum : List Char) :
    ('$' :: body fields ++ '*' :: sum).takeWhile (· != '*') = '$' :: body fields := by
  have unstarred : ∀ c ∈ '$' :: body fields, (c != '*') = true := by
    intro c there
    obtain rfl | there := List.mem_cons.mp there
    · decide
    · have other : c ≠ '*' := by
        rintro rfl
        exact mark_not_mem_body clean (by decide) (by decide) there
      simpa using other
  rw [List.takeWhile_append_of_pos unstarred]
  simp

theorem splitCommas_body (some : fields ≠ []) : splitCommas (body fields) = fields := by
  have solid : ∀ text ∈ fields.map String.toList, ',' ∉ text := by
    intro text there comma
    obtain ⟨f, known, rfl⟩ := List.mem_map.mp there
    exact absurd (clean f known ',' comma).2 (by decide)
  rw [splitCommas_eq, body, List.splitOn_intercalate ',' solid (by simpa using some), List.map_map]
  exact (List.map_congr_left fun f _ => String.ofList_toList).trans (List.map_id fields)

/-- What is read of a sentence are its fields. -/
theorem fieldsOf_compose (some : fields ≠ []) :
    fieldsOf (Encoding.nmeaText (compose fields)) = fields := by
  obtain ⟨high, low, text⟩ := trim_compose clean
  unfold fieldsOf
  rw [text, takeWhile_body clean, List.drop_one, List.tail_cons, splitCommas_body clean some]

end

/-- A sentence may have eight such fields. -/
def IsShort (text : String) : Prop := IsField text ∧ text.toList.length ≤ 10

instance (text : String) : Decidable (IsShort text) :=
  inferInstanceAs (Decidable (IsField text ∧ text.toList.length ≤ 10))

section

variable (short : ∀ f ∈ fields, IsShort f)
include short

theorem length_body_le : (body fields).length ≤ 11 * fields.length := by
  induction fields with
  | nil => simp [body]
  | cons f rest ih =>
    obtain ⟨⟨-, first⟩, others⟩ := List.forall_mem_cons.mp short
    have bound := ih others
    cases rest with
    | nil =>
      rw [body_singleton, List.length_singleton]
      omega
    | cons f' rest =>
      rw [body_cons, List.length_append, List.length_cons, List.length_cons]
      omega

theorem length_compose_le (few : fields.length ≤ 8) :
    (Encoding.nmeaText (compose fields)).length ≤ sentenceLimit := by
  have text := length_body_le short
  rw [nmeaText_compose fun f there => (short f there).1]
  simp only [Encoding.sealed, Encoding.upperHexPair, sentenceLimit, List.length_append,
    List.length_cons, List.length_map, List.length_nil]
  omega

theorem compose_genuine (few : fields.length ≤ 8) :
    Packet.Genuine ⟨.nmea, Encoding.nmeaText (compose fields)⟩ := by
  have clean : ∀ f ∈ fields, IsField f := fun f there => (short f there).1
  have fits := length_compose_le short few
  have unbroken := mark_not_mem_bytes clean (c := '\n') (by decide) (by decide) (by decide)
  rw [nmeaText_compose clean] at fits ⊢
  exact ⟨Encoding.sealed_isLine rfl unbroken fits, (Encoding.sealed_isVouched_iff _).mpr rfl⟩

end

/-- The number that a field has the decimal digits of. -/
def decimal? (field : String) : Option Int :=
  if field ≠ "" ∧ field.toList.all Char.isDigit then some (Nat.ofDigitChars 10 field.toList 0)
  else none

/-- A short field that is read as this number. -/
structure Shows (field : String) (i : Int) : Prop where
  short : IsShort field
  read : decimal? field = some i

section

variable {i : Int} (nonneg : 0 ≤ i)
include nonneg

theorem toList_repr : i.repr.toList = Nat.toDigits 10 i.toNat := by
  obtain ⟨n, rfl⟩ := Int.eq_ofNat_of_zero_le nonneg
  exact (congrArg String.toList Nat.repr_eq_ofList_toDigits).trans String.toList_ofList

theorem isDigit_repr : ∀ c ∈ i.repr.toList, c.isDigit = true := by
  intro c there
  rw [toList_repr nonneg] at there
  exact Nat.isDigit_of_mem_toDigits (by omega) (by omega) there

theorem isField_repr : IsField i.repr := by
  intro c there
  have digit := isDigit_repr nonneg c there
  refine ⟨Text.isAscii_of_isDigit digit, ?_⟩
  apply decide_eq_false
  intro mark
  have others : [',', '*', '\r', '\n'].all (! ·.isDigit) = true := by decide
  have other := List.all_eq_true.mp others c mark
  rw [digit] at other
  contradiction

theorem decimal?_repr : decimal? i.repr = some i := by
  have digits : i.repr.toList.all Char.isDigit = true :=
    List.all_eq_true.mpr (isDigit_repr nonneg)
  have some : i.repr ≠ "" := by
    intro none
    have least : 0 < (Nat.toDigits 10 i.toNat).length := Nat.length_toDigits_pos
    rw [← toList_repr nonneg, none] at least
    contradiction
  rw [decimal?, if_pos ⟨some, digits⟩, toList_repr nonneg, Nat.ofDigitChars_ten_toDigits,
    Int.toNat_of_nonneg nonneg]

/-- A number of 32 bits has at most ten digits. -/
theorem shows_repr (small : i < 0x100000000) : Shows i.repr i := by
  refine ⟨⟨isField_repr nonneg, ?_⟩, decimal?_repr nonneg⟩
  rw [toList_repr nonneg, Nat.length_toDigits_le_iff (by decide) (by decide)]
  omega

end

end Sentence

end GnssMonitor
