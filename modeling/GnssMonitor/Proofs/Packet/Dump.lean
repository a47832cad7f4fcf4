import GnssMonitor.Proofs.Framing.Scan
import GnssMonitor.Proofs.Packet.Hex
import GnssMonitor.Proofs.Packet.Truncation

/-! The hexadecimal dump of a packet. There is room for the longest packet, so that all of it is
shown, and the operator may type it back. -/

namespace GnssMonitor.Rendering

variable {bs : Bytes}

theorem not_isText_iff :
    ¬ IsText bs ↔ ∃ b ∈ bs, isPrintable b = false ∧ isSpace b = false := by
  simp [IsText]

/-- The bound has room for two digits of each byte. -/
theorem conditional_dump (binary : ¬ IsText bs) (fits : bs.length ≤ packetLimit) (textual : Bool) :
    conditional bs textual defaultBound = Bytes.toHex bs := by
  have room : ((defaultBound - 1) / 2).toNat = packetLimit := by decide
  rw [conditional_of_binary binary textual (by decide), room, Nat.min_eq_left fits,
    List.take_of_length_le (Nat.le_of_eq (List.length_map _)), Bytes.toHex, List.flatMap_def]

/-- All that is shown of the bytes is two characters for each, and to type them gives the bytes. -/
def TypesBack (bs : Bytes) : Prop :=
  ∀ textual, (conditional bs textual defaultBound).length = 2 * bs.length ∧
    Hex.read (String.ofList (conditional bs textual defaultBound)) = .ok bs

theorem typesBack_of_binary (binary : ¬ IsText bs) (fits : bs.length ≤ packetLimit) :
    TypesBack bs := by
  intro textual
  obtain ⟨b, there, -⟩ := not_isText_iff.mp binary
  have spelt := Hex.spells_toHex bs
  have spaced : Hex.Spaced (Bytes.toHex bs) (String.ofList (Bytes.toHex bs)).toList := by
    rw [String.toList_ofList]
    exact Hex.spaced_refl _
  rw [conditional_dump binary fits]
  exact ⟨spelt.length, Hex.read_of_spaced spelt (List.ne_nil_of_mem there) spaced⟩

/-- The leader of a frame is neither printable nor white space. -/
theorem not_isText_of_isFrame (is : Framing.IsFrame bs) : ¬ IsText bs := by
  obtain ⟨high, low, payload, a, b, rfl, -⟩ := is
  exact not_isText_iff.mpr ⟨Framing.sirfLead, by simp, by decide, by decide⟩

theorem typesBack_of_isFrame (is : Framing.IsFrame bs) : TypesBack bs := by
  have binary := not_isText_of_isFrame is
  obtain ⟨high, low, payload, a, b, -, -, -, fits⟩ := is
  exact typesBack_of_binary binary fits

/-- **A hexadecimal dump is complete and can be typed back.** Bytes that are not all text, and no
more than the longest packet has, are shown as two characters each, and these are read as the
bytes. All SiRF packets are such, whatever they are framed from. -/
theorem dump_types_back :
    (∀ bs : Bytes, bs.length ≤ packetLimit →
      (∃ b ∈ bs, isPrintable b = false ∧ isSpace b = false) → TypesBack bs) ∧
      ∀ (f : Framer) chunks bs, ⟨.sirf, bs⟩ ∈ (f.receive chunks).1 → TypesBack bs := by
  constructor
  · intro bs fits strange
    exact typesBack_of_binary (not_isText_iff.mpr strange) fits
  · intro f chunks bs yielded
    exact typesBack_of_isFrame (f.receive_genuine chunks _ yielded)

/-- A frame behind noise. -/
theorem dump_types_back_of_frame :
    let frame : Bytes := [0xa0, 0xa2, 0, 1, 0x2a, 0, 0x2a, 0xb0, 0xb3]
    ⟨.sirf, frame⟩ ∈ (Framer.receive {} [[0x01, 0xa0], frame]).1 ∧
      conditional frame false defaultBound = "a0a200012a002ab0b3".toList ∧ TypesBack frame := by
  intro frame
  have yielded : ⟨.sirf, frame⟩ ∈ (Framer.receive {} [[0x01, 0xa0], frame]).1 := by decide +kernel
  exact ⟨yielded, by decide +kernel, dump_types_back.2 _ _ frame yielded⟩

end GnssMonitor.Rendering
