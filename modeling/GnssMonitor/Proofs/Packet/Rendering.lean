import Mathlib.Data.List.TakeWhile
import GnssMonitor.Binary64.Decimal
import GnssMonitor.Proofs.Packet.Truncation
import GnssMonitor.Text.Ascii

/-! What is shown of packets is visible ASCII, and of numbers too, so that nothing of it is lost
when it is written down as bytes. -/

namespace GnssMonitor

namespace Text

/-- No character is beyond ASCII. -/
def Plain (cs : List Char) : Prop := ∀ c ∈ cs, isAscii c = true

instance : DecidablePred Plain := fun cs =>
  decidable_of_iff (cs.all isAscii = true) List.all_eq_true

@[simp] theorem plain_nil : Plain [] := by simp [Plain]

@[simp] theorem plain_cons {c : Char} {cs : List Char} :
    Plain (c :: cs) ↔ isAscii c = true ∧ Plain cs := List.forall_mem_cons

@[simp] theorem plain_append {cs cs' : List Char} : Plain (cs ++ cs') ↔ Plain cs ∧ Plain cs' :=
  List.forall_mem_append

theorem encodeAsciiLossy_of_plain {s : String} (plain : Plain s.toList) :
    encodeAsciiLossy s = s.toList.map byteOf := by
  apply List.map_congr_left
  intro c hc
  rw [if_pos (plain c hc)]

theorem encodeAscii_of_plain {s : String} (plain : Plain s.toList) :
    encodeAscii s = .ok (encodeAsciiLossy s) := by
  have none : s.toList.dropWhile isAscii = [] := List.dropWhile_eq_nil_iff.mpr plain
  simp [encodeAscii, encodeAsciiLossy_of_plain plain, none]

theorem toNat_byteOf {c : Char} (ascii : isAscii c = true) : (byteOf c).toNat = c.toNat := by
  have small : c.toNat < 0x80 := of_decide_eq_true ascii
  rw [byteOf, UInt8.toNat_ofNat']
  omega

/-- The printable characters of ASCII. -/
def IsVisible (c : Char) : Prop := 0x20 ≤ c.toNat ∧ c.toNat ≤ 0x7e

instance : DecidablePred IsVisible := fun c =>
  inferInstanceAs (Decidable (0x20 ≤ c.toNat ∧ c.toNat ≤ 0x7e))

theorem IsVisible.isAscii {c : Char} (visible : IsVisible c) : isAscii c = true := by
  have small := visible.2
  simp only [Text.isAscii, decide_eq_true_eq]
  omega

theorem isVisible_of_isDigit {c : Char} (digit : c.isDigit = true) : IsVisible c := by
  obtain ⟨low, high⟩ := Char.isDigit_iff_toNat.mp digit
  have ends : '0'.toNat = 0x30 ∧ '9'.toNat = 0x39 := by decide
  constructor <;> omega

theorem isAscii_of_isDigit {c : Char} (digit : c.isDigit = true) : isAscii c = true :=
  (isVisible_of_isDigit digit).isAscii

/-- Nothing but printable characters of ASCII. -/
def Visible (cs : List Char) : Prop := ∀ c ∈ cs, IsVisible c

instance : DecidablePred Visible := fun cs => List.decidableBAll _ cs

@[simp] theorem visible_nil : Visible [] := by simp [Visible]

@[simp] theorem visible_cons {c : Char} {cs : List Char} :
    Visible (c :: cs) ↔ IsVisible c ∧ Visible cs := List.forall_mem_cons

@[simp] theorem visible_append {cs cs' : List Char} :
    Visible (cs ++ cs') ↔ Visible cs ∧ Visible cs' := List.forall_mem_append

theorem Visible.plain {cs : List Char} (visible : Visible cs) : Plain cs := fun c there =>
  (visible c there).isAscii

theorem visible_digits (n : Nat) : Visible (Nat.toDigits 10 n) := fun _ there =>
  isVisible_of_isDigit (Nat.isDigit_of_mem_toDigits (by omega) (by omega) there)

end Text

namespace Rendering

open Text (Visible)

theorem isPrintable_iff {b : UInt8} : isPrintable b = true ↔ 0x20 ≤ b.toNat ∧ b.toNat < 0x7f := by
  simp [isPrintable, UInt8.le_iff_toNat_le, UInt8.lt_iff_toNat_lt]

theorem visible_hexPair (b : UInt8) : Visible (Bytes.hexPair b) := by
  have digit : ∀ n < 16, Visible [Bytes.hexDigit n] := by decide
  have small := b.toNat_lt
  have high := digit (b.toNat / 16) (by omega)
  have low := digit (b.toNat % 16) (by omega)
  exact Text.visible_append.mpr ⟨high, low⟩

theorem visible_escape (b : UInt8) : Visible (escape b) := by
  have mark : Visible ['\\', 'x'] := by decide
  exact Text.visible_append.mpr ⟨mark, visible_hexPair b⟩

theorem visible_plain {b : UInt8} (printable : isPrintable b = true) : Visible (plain b) := by
  have range := isPrintable_iff.mp printable
  rw [plain, Text.visible_cons, Text.IsVisible, Bytes.toNat_char]
  exact ⟨by omega, Text.visible_nil⟩

theorem visible_conditionalPieces (textual : Bool) (bs : Bytes) :
    Visible (conditionalPieces textual bs).flatten := by
  induction bs with
  | nil => exact Text.visible_nil
  | cons b rest ih =>
    rw [conditionalPieces, List.flatten_cons, Text.visible_append]
    refine ⟨?_, ih⟩
    split
    · exact visible_plain ‹_›
    · split
      · exact Text.visible_nil
      · exact visible_escape b

theorem visible_conditional (bs : Bytes) (textual : Bool) (bound : Int) :
    Visible (conditional bs textual bound) := by
  by_cases text : IsText bs
  · rw [conditional_of_text text]
    intro c there
    exact visible_conditionalPieces textual bs c (cut_subset _ bound 0 _ there)
  · have dumped : conditional bs textual bound =
        Bytes.toHex (takeSigned (min (bs.length : Int) ((bound - 1).fdiv 2)) bs) := if_neg text
    rw [dumped]
    intro c there
    obtain ⟨b, -, shown⟩ := List.mem_flatMap.mp there
    exact visible_hexPair b c shown

theorem toList_packetLine (bs : Bytes) (textual : Bool) (bound : Int) :
    ∃ line, (packetLine bs textual bound).toList = line ++ ['\n'] ∧ Visible line := by
  have shown : (packetLine bs textual bound).toList = ['('] ++ Nat.toDigits 10 bs.length ++
      [')', ' '] ++ conditional bs textual bound ++ ['\n'] := by
    simp [packetLine, toString]
  refine ⟨_, shown, ?_⟩
  simp only [Text.visible_append]
  exact ⟨⟨⟨by decide, Text.visible_digits _⟩, by decide⟩, visible_conditional bs textual bound⟩

/-- The line that shows a packet can be written down as it is. -/
theorem plain_packetLine (bs : Bytes) (textual : Bool) (bound : Int) :
    Text.Plain (packetLine bs textual bound).toList := by
  obtain ⟨line, shown, visible⟩ := toList_packetLine bs textual bound
  rw [shown]
  exact Text.plain_append.mpr ⟨visible.plain, by decide⟩

end Rendering

namespace Binary64

/-- The characters that decimal text has beside digits. -/
def marks : List Char := ['-', '.', 'n', 'a', 'i', 'f']

theorem fixed_chars (places : Nat) (x : Binary64) :
    ∀ c ∈ (x.fixed places).toList, c.isDigit = true ∨ c ∈ marks := by
  have sign (n : Bool) : ∀ c ∈ (signText n).toList, c.isDigit = true ∨ c ∈ marks := by
    cases n <;> simp [signText, marks]
  cases x with
  | nan => simp [fixed, marks]
  | infinite n =>
    have inf : ∀ c ∈ "inf".toList, c.isDigit = true ∨ c ∈ marks := by simp [marks]
    simp only [fixed, String.toList_append, List.forall_mem_append]
    exact ⟨sign n, inf⟩
  | finite n m e =>
    let cs := digitsOf (roundHalfEven ((scale 2 m 1 e).1 * Nat.pow 10 places) (scale 2 m 1 e).2)
    let padded := List.replicate (places + 1 - cs.length) '0' ++ cs
    have digits : ∀ c ∈ padded, c.isDigit = true ∨ c ∈ marks := by
      intro c hc
      left
      rcases List.mem_append.mp hc with filling | digit
      · rw [List.eq_of_mem_replicate filling]
        decide
      · exact Nat.isDigit_of_mem_toDigits (by omega) (by omega) digit
    have whole : ∀ c ∈ padded.take (padded.length - places), c.isDigit = true ∨ c ∈ marks :=
      fun c hc => digits c (List.mem_of_mem_take hc)
    have point : ∀ c ∈ ".".toList, c.isDigit = true ∨ c ∈ marks := by simp [marks]
    simp only [fixed, String.toList_append, String.toList_ofList, List.forall_mem_append]
    exact ⟨⟨⟨sign n, whole⟩, point⟩, fun c hc => digits c (List.mem_of_mem_drop hc)⟩

/-- The decimal text of a number can be written down as it is. -/
theorem plain_fixed (places : Nat) (x : Binary64) : Text.Plain (x.fixed places).toList := by
  have plain : ∀ c ∈ marks, Text.isAscii c = true := by simp [marks, Text.isAscii]
  intro c hc
  exact (x.fixed_chars places c hc).elim Text.isAscii_of_isDigit (plain c)

/-- The decimal text of a number stays on its line. -/
theorem fixed_oneLine (places : Nat) (x : Binary64) : '\n' ∉ (x.fixed places).toList := by
  intro broken
  rcases x.fixed_chars places _ broken with digit | mark
  · exact absurd digit (by decide)
  · exact absurd mark (by decide)

end Binary64

end GnssMonitor
