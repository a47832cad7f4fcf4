import Mathlib.Data.List.Forall2
import GnssMonitor.Packet.Rendering

/-! Both renderers keep below their bound: they leave out what the last bytes give, and never a
part of what a single byte gives. -/

namespace GnssMonitor.Rendering

/-- What a byte may give: itself, nothing, an escape or two digits. -/
inductive Output (b : UInt8) : List Char → Prop
  | shown : Output b (plain b)
  | dropped : Output b []
  | escaped : Output b (escape b)
  | dumped : Output b (Bytes.hexPair b)

theorem Output.length_le {b : UInt8} {output : List Char} (is : Output b output) :
    output.length ≤ escapeWidth := by
  cases is <;> simp [plain, escape, Bytes.hexPair, escapeWidth]

section Outputs

variable {bs : Bytes} {outputs : List (List Char)}

theorem length_le_of_mem (given : List.Forall₂ Output bs outputs) :
    ∀ output ∈ outputs, output.length ≤ escapeWidth := by
  induction given with
  | nil => simp
  | cons first _ ih => exact List.forall_mem_cons.mpr ⟨first.length_le, ih⟩

theorem length_flatten_le (given : List.Forall₂ Output bs outputs) :
    outputs.flatten.length ≤ escapeWidth * bs.length := by
  induction given with
  | nil => simp
  | cons first _ ih =>
    have width := first.length_le
    simp only [List.flatten_cons, List.length_append, List.length_cons, escapeWidth] at *
    omega

end Outputs

/-- What is left of the outputs. They are cut between two of them, and only where an escape would
have no room. -/
structure CutBelow (bound : Int) (outputs : List (List Char)) (text : List Char) : Prop where
  below : text.length < bound
  between : ∃ kept ≤ outputs.length, text = (outputs.take kept).flatten ∧
    (kept < outputs.length → bound ≤ text.length + escapeWidth)

section Cut

variable {room : List Char → Nat} {bound : Int} {pieces : List (List Char)}

theorem cut_subset (room : List Char → Nat) (bound : Int) (used : Nat)
    (pieces : List (List Char)) : cut room bound used pieces ⊆ pieces.flatten := by
  induction pieces generalizing used with
  | nil => exact List.Subset.refl _
  | cons p rest ih =>
    rw [cut, List.flatten_cons]
    split
    · intro c there
      obtain first | behind := List.mem_append.mp there
      · exact List.mem_append_left _ first
      · exact List.mem_append_right _ (ih _ behind)
    · exact List.nil_subset _

theorem cut_below (covered : ∀ p ∈ pieces, p.length ≤ room p) {used : Nat} (fits : used < bound) :
    (used + (cut room bound used pieces).length : Nat) < bound := by
  induction pieces generalizing used with
  | nil => simpa [cut] using fits
  | cons p rest ih =>
    obtain ⟨first, others⟩ := List.forall_mem_cons.mp covered
    rw [cut]
    by_cases roomy : (used + room p : Nat) < bound
    · have shorter : ((used + p.length : Nat) : Int) < bound := by omega
      have behind := ih others shorter
      rw [if_pos roomy, List.length_append]
      omega
    · rw [if_neg roomy]
      simpa using fits

theorem cut_between (narrow : ∀ p ∈ pieces, room p ≤ escapeWidth) (bound : Int) (used : Nat) :
    ∃ kept ≤ pieces.length, cut room bound used pieces = (pieces.take kept).flatten ∧
      (kept < pieces.length →
        bound ≤ (used + (cut room bound used pieces).length : Nat) + escapeWidth) := by
  induction pieces generalizing used with
  | nil => exact ⟨0, Nat.le_refl _, rfl, fun more => absurd more (Nat.lt_irrefl _)⟩
  | cons p rest ih =>
    obtain ⟨first, others⟩ := List.forall_mem_cons.mp narrow
    rw [cut]
    by_cases roomy : (used + room p : Nat) < bound
    · obtain ⟨kept, within, same, full⟩ := ih others (used + p.length)
      rw [if_pos roomy]
      refine ⟨kept + 1, Nat.succ_le_succ within, ?_, fun more => ?_⟩
      · rw [same, List.take_succ_cons, List.flatten_cons]
      · have full := full (Nat.lt_of_succ_lt_succ more)
        rw [List.length_append]
        omega
    · rw [if_neg roomy]
      refine ⟨0, Nat.zero_le _, rfl, fun _ => ?_⟩
      simp only [List.length_nil]
      omega

/-- Nothing is left out where the room that a piece needs beyond its own length is there behind
all of them. -/
theorem cut_whole {slack : Nat} (narrow : ∀ p ∈ pieces, room p ≤ p.length + slack) {used : Nat}
    (fits : (used + pieces.flatten.length + slack : Nat) < bound) :
    cut room bound used pieces = pieces.flatten := by
  induction pieces generalizing used with
  | nil => rfl
  | cons p rest ih =>
    obtain ⟨first, others⟩ := List.forall_mem_cons.mp narrow
    rw [List.flatten_cons, List.length_append] at fits
    have roomy : (used + room p : Nat) < bound := by omega
    have fits' : (used + p.length + rest.flatten.length + slack : Nat) < bound := by omega
    rw [cut, if_pos roomy, ih others fits', List.flatten_cons]

theorem cut_cutBelow (covered : ∀ p ∈ pieces, p.length ≤ room p)
    (narrow : ∀ p ∈ pieces, room p ≤ escapeWidth) (positive : 1 ≤ bound) :
    CutBelow bound pieces (cut room bound 0 pieces) := by
  have empty : ((0 : Nat) : Int) < bound := by omega
  have below := cut_below covered empty
  obtain ⟨kept, within, same, full⟩ := cut_between narrow bound 0
  rw [Nat.zero_add] at below full
  exact ⟨below, kept, within, same, full⟩

end Cut

/-- All of the text is there when the bound is large enough. Below any bound it is cut between the
outputs of two bytes. -/
def RendersBelow (bs : Bytes) (bound : Int) (render : Int → List Char) : Prop :=
  ∃ outputs, List.Forall₂ Output bs outputs ∧
    (∀ large : Int, (4 * bs.length + 4 : Nat) < large → render large = outputs.flatten) ∧
    CutBelow bound outputs (render bound)

theorem printable_outputs (bs : Bytes) : List.Forall₂ Output bs (printablePieces bs) := by
  induction bs with
  | nil => exact .nil
  | cons b rest ih =>
    refine .cons ?_ ih
    split
    · exact .shown
    · exact .escaped

theorem conditional_outputs (textual : Bool) (bs : Bytes) :
    List.Forall₂ Output bs (conditionalPieces textual bs) := by
  induction bs with
  | nil => exact .nil
  | cons b rest ih =>
    refine .cons ?_ ih
    split
    · exact .shown
    · split
      · exact .dropped
      · exact .escaped

/-- No output of a packet of text needs more room than an escape. -/
theorem conditional_narrow (textual : Bool) (bs : Bytes) :
    ∀ p ∈ conditionalPieces textual bs, max 1 p.length ≤ escapeWidth := fun p there =>
  Nat.max_le.mpr ⟨by decide, length_le_of_mem (conditional_outputs textual bs) p there⟩

theorem dump_outputs (bs : Bytes) : List.Forall₂ Output bs (bs.map Bytes.hexPair) := by
  induction bs with
  | nil => exact .nil
  | cons b rest ih => exact .cons .dumped ih

/-- Printable bytes and white space only. -/
def IsText (bs : Bytes) : Prop := (bs.all fun b => isPrintable b || isSpace b) = true

section Renderers

variable {bs : Bytes} {bound : Int} {outputs : List (List Char)}

theorem conditional_of_text (text : IsText bs) (textual : Bool) (bound : Int) :
    conditional bs textual bound =
      cut (fun p => max 1 p.length) bound 0 (conditionalPieces textual bs) := if_pos text

theorem conditional_of_binary (binary : ¬ IsText bs) (textual : Bool) (positive : 1 ≤ bound) :
    conditional bs textual bound =
      ((bs.map Bytes.hexPair).take (min bs.length ((bound - 1) / 2).toNat)).flatten := by
  have dumped : conditional bs textual bound =
      Bytes.toHex (takeSigned (min (bs.length : Int) ((bound - 1).fdiv 2)) bs) := if_neg binary
  have half : (bound - 1).fdiv 2 = (bound - 1) / 2 := Int.fdiv_eq_ediv_of_nonneg _ (by decide)
  have counted : 0 ≤ min (bs.length : Int) ((bound - 1) / 2) := by omega
  have count : (min (bs.length : Int) ((bound - 1) / 2)).toNat =
      min bs.length ((bound - 1) / 2).toNat := by omega
  rw [dumped, half, takeSigned, if_pos counted, count, Bytes.toHex, List.flatMap_def, List.map_take]

theorem length_flatten_hexPairs (bs : Bytes) :
    (bs.map Bytes.hexPair).flatten.length = 2 * bs.length := by
  induction bs with
  | nil => rfl
  | cons b rest ih =>
    rw [List.map_cons, List.flatten_cons, List.length_append, ih, List.length_cons, Bytes.hexPair]
    simp only [List.length_cons, List.length_nil]
    omega

/-- Four characters for each byte are enough, with room for an escape behind them. -/
theorem cut_outputs {room : List Char → Nat} (given : List.Forall₂ Output bs outputs)
    (narrow : ∀ p ∈ outputs, room p ≤ escapeWidth) (wide : (4 * bs.length + 4 : Nat) < bound) :
    cut room bound 0 outputs = outputs.flatten := by
  have slack : ∀ p ∈ outputs, room p ≤ p.length + escapeWidth := fun p there =>
    Nat.le_trans (narrow p there) (Nat.le_add_left _ _)
  have width := length_flatten_le given
  apply cut_whole slack
  simp only [escapeWidth] at width ⊢
  omega

theorem rendersBelow_cut {room : List Char → Nat} (given : List.Forall₂ Output bs outputs)
    (covered : ∀ p ∈ outputs, p.length ≤ room p) (narrow : ∀ p ∈ outputs, room p ≤ escapeWidth)
    (positive : 1 ≤ bound) : RendersBelow bs bound (cut room · 0 outputs) :=
  ⟨outputs, given, fun _ wide => cut_outputs given narrow wide,
    cut_cutBelow covered narrow positive⟩

theorem printable_whole (wide : (4 * bs.length + 4 : Nat) < bound) :
    printable bs bound = (printablePieces bs).flatten :=
  cut_outputs (printable_outputs bs) (fun _ _ => Nat.le_refl _) wide

theorem rendersBelow_printable (bs : Bytes) (positive : 1 ≤ bound) :
    RendersBelow bs bound (printable bs) := by
  have given := printable_outputs bs
  exact rendersBelow_cut given (length_le_of_mem given) (fun _ _ => Nat.le_refl _) positive

theorem rendersBelow_dump (binary : ¬ IsText bs) (textual : Bool) (positive : 1 ≤ bound) :
    RendersBelow bs bound (conditional bs textual) := by
  have size : (bs.map Bytes.hexPair).length = bs.length := List.length_map _
  refine ⟨bs.map Bytes.hexPair, dump_outputs bs, fun large wide => ?_, ?_⟩
  · rw [conditional_of_binary binary textual (by omega), List.take_of_length_le (by omega)]
  · have text := conditional_of_binary binary textual positive
    have width : (conditional bs textual bound).length =
        2 * min bs.length ((bound - 1) / 2).toNat := by
      rw [text, ← List.map_take, length_flatten_hexPairs, List.length_take]
      omega
    refine ⟨by omega, min bs.length ((bound - 1) / 2).toNat, by omega, text, fun more => ?_⟩
    simp only [escapeWidth]
    omega

theorem rendersBelow_conditional (bs : Bytes) (textual : Bool) (positive : 1 ≤ bound) :
    RendersBelow bs bound (conditional bs textual) := by
  by_cases text : IsText bs
  · rw [funext (conditional_of_text text textual)]
    exact rendersBelow_cut (conditional_outputs textual bs) (fun _ _ => Nat.le_max_right _ _)
      (conditional_narrow textual bs) positive
  · exact rendersBelow_dump text textual positive

end Renderers

/-- **What does not fit is cut off between bytes.** The text stays below the bound, and it is the
whole text up to what some byte gives: no escape and no pair of digits is split. It ends early only
where there is no room for one more escape. -/
theorem cut_between_bytes (bs : Bytes) (textual : Bool) {bound : Int} (positive : 1 ≤ bound) :
    RendersBelow bs bound (printable bs) ∧ RendersBelow bs bound (conditional bs textual) :=
  ⟨rendersBelow_printable bs positive, rendersBelow_conditional bs textual positive⟩

/-- The escape of a tab has just the room it needs, and what is behind it has none. -/
theorem cut_between_bytes_of_tab :
    let bs : Bytes := [0x61, 0x09, 0x62]
    (1 : Int) ≤ 6 ∧ printable bs 6 = "a\\x09".toList ∧ conditional bs true 6 = "a\\x09".toList ∧
      RendersBelow bs 6 (printable bs) ∧ RendersBelow bs 6 (conditional bs true) := by
  intro bs
  exact ⟨by decide, by decide, by decide, cut_between_bytes bs true (by decide)⟩

end GnssMonitor.Rendering
