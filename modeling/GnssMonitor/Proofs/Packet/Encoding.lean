import Mathlib.Data.List.DropRight
import GnssMonitor.Packet.Encoding
import GnssMonitor.Proofs.Packet.Checksum

/-! What a complete sentence is. Encoding makes one of any body, and leaves alone what is one
already. -/

namespace GnssMonitor.Encoding

/-- A leader, a star, and CR LF as the only line ending at the end. Carriage returns and newlines
inside are none of its concern. -/
structure IsComplete (sentence : Bytes) : Prop where
  led : startsWithLeader sentence = true
  starred : star ∈ sentence
  ended : ∃ front last, sentence = front ++ [last, carriageReturn, lineFeed] ∧
    isLineEnd last = false

/-- Such a digit is read back, and is nothing else to the framer. -/
theorem upperDigit : ∀ n < 16,
    let x := Text.byteOf (Bytes.hexUpper n)
    Checksum.digit? x = some n ∧ x ≠ star ∧ isLineEnd x = false := by
  decide

theorem upperHexPair_eq (b : UInt8) :
    ∃ x y, upperHexPair b = [x, y] ∧ Checksum.DigitPair x y b.toNat ∧
      (∀ c ∈ [x, y], c ≠ star ∧ isLineEnd c = false) := by
  have small := b.toNat_lt
  obtain ⟨high, plain⟩ := upperDigit (b.toNat / 16) (by omega)
  obtain ⟨low, plain'⟩ := upperDigit (b.toNat % 16) (by omega)
  exact ⟨_, _, rfl, ⟨_, _, high, low, (Nat.div_add_mod' b.toNat 16).symm⟩,
    List.forall_mem_cons.mpr ⟨plain, List.forall_mem_singleton.mpr plain'⟩⟩

section Closing

variable {body : Bytes}

/-- The last byte is no line ending. -/
def Closed (body : Bytes) : Prop := ∃ front last, body = front ++ [last] ∧ isLineEnd last = false

theorem Closed.cons (closed : Closed body) (b : UInt8) : Closed (b :: body) := by
  obtain ⟨front, last, rfl, solid⟩ := closed
  exact ⟨b :: front, last, rfl, solid⟩

theorem trimLineEnd_eq (body : Bytes) : trimLineEnd body = body.rdropWhile isLineEnd := rfl

theorem trimLineEnd_cases (body : Bytes) : trimLineEnd body = [] ∨ Closed (trimLineEnd body) := by
  by_cases empty : trimLineEnd body = []
  · exact .inl empty
  · have solid := List.rdropWhile_last_not isLineEnd body empty
    exact .inr ⟨_, _, (List.dropLast_append_getLast empty).symm, Bool.eq_false_iff.mpr solid⟩

theorem Closed.trim (closed : Closed body) : trimLineEnd body = body := by
  obtain ⟨front, last, rfl, solid⟩ := closed
  exact List.rdropWhile_concat_neg isLineEnd front last (Bool.eq_false_iff.mp solid)

/-- The line ending is trimmed, and nothing before it. -/
theorem Closed.trim_ended (closed : Closed body) :
    trimLineEnd (body ++ [carriageReturn, lineFeed]) = body := by
  have split : body ++ [carriageReturn, lineFeed] = body ++ [carriageReturn] ++ [lineFeed] := by
    simp
  rw [trimLineEnd_eq, split, List.rdropWhile_concat_pos _ _ _ rfl,
    List.rdropWhile_concat_pos _ _ _ rfl]
  exact closed.trim

end Closing

/-- A body with its leader. -/
def withLeader (body : Bytes) : Bytes := if startsWithLeader body then body else 0x24 :: body

/-- A body with a checksum, unless it has a star already. -/
def withChecksum (body : Bytes) : Bytes :=
  if star ∈ body then body else body ++ star :: upperHexPair (Checksum.xor (body.drop 1))

theorem nmea_steps (body : Bytes) :
    nmea body = withChecksum (withLeader (trimLineEnd body)) ++ [carriageReturn, lineFeed] := rfl

section Steps

variable {body : Bytes}

theorem withLeader_led (body : Bytes) : startsWithLeader (withLeader body) = true := by
  unfold withLeader
  split
  · assumption
  · rfl

theorem withLeader_closed (trimmed : body = [] ∨ Closed body) : Closed (withLeader body) := by
  unfold withLeader
  split
  · rename_i led
    obtain rfl | closed := trimmed
    · contradiction
    · exact closed
  · obtain rfl | closed := trimmed
    · exact ⟨[], 0x24, rfl, rfl⟩
    · exact closed.cons 0x24

theorem startsWithLeader_append (led : startsWithLeader body = true) (more : Bytes) :
    startsWithLeader (body ++ more) = true := by
  cases body with
  | nil => contradiction
  | cons b rest => exact led

theorem withChecksum_led (led : startsWithLeader body = true) :
    startsWithLeader (withChecksum body) = true := by
  unfold withChecksum
  split
  · exact led
  · exact startsWithLeader_append led _

theorem withChecksum_starred (body : Bytes) : star ∈ withChecksum body := by
  unfold withChecksum
  split
  · assumption
  · simp

theorem withChecksum_closed (closed : Closed body) : Closed (withChecksum body) := by
  unfold withChecksum
  split
  · exact closed
  · obtain ⟨x, y, shape, -, plain⟩ := upperHexPair_eq (Checksum.xor (body.drop 1))
    exact ⟨body ++ [star, x], y, by rw [shape, List.append_assoc]; rfl, (plain y (by simp)).2⟩

end Steps

theorem nmea_isComplete (body : Bytes) : IsComplete (nmea body) := by
  have closed := withChecksum_closed (withLeader_closed (trimLineEnd_cases body))
  obtain ⟨front, last, shape, solid⟩ := closed
  constructor
  · exact startsWithLeader_append (withChecksum_led (withLeader_led _)) _
  · exact List.mem_append_left _ (withChecksum_starred _)
  · exact ⟨front, last, by simp [nmea_steps, shape], solid⟩

/-- What encoding leaves alone is just what is complete. -/
theorem nmea_eq_self_iff {sentence : Bytes} : nmea sentence = sentence ↔ IsComplete sentence := by
  constructor
  · intro same
    rw [← same]
    exact nmea_isComplete sentence
  · rintro ⟨led, starred, front, last, rfl, solid⟩
    have ending : front ++ [last, carriageReturn, lineFeed] =
        front ++ [last] ++ [carriageReturn, lineFeed] := by simp
    rw [ending] at led starred ⊢
    have closed : Closed (front ++ [last]) := ⟨front, last, rfl, solid⟩
    have led : startsWithLeader (front ++ [last]) = true := by
      cases front with
      | nil => exact led
      | cons b rest => exact led
    have starred : star ∈ front ++ [last] := by
      have other : star ∉ [carriageReturn, lineFeed] := by decide
      exact (List.mem_append.mp starred).resolve_right other
    rw [nmea_steps, closed.trim_ended, withLeader, if_pos led, withChecksum, if_pos starred]

section Sealed

variable {lead : UInt8} {text body : Bytes}

/-- A leader and text, a checksum behind a star, and CR LF. -/
def sealed (lead : UInt8) (text : Bytes) (sum : UInt8) : Bytes :=
  lead :: text ++ star :: upperHexPair sum ++ [carriageReturn, lineFeed]

theorem sealed_marks (lead : UInt8) (text : Bytes) (sum : UInt8) :
    ∃ x y, Checksum.Marks (sealed lead text sum) text [x, y, carriageReturn, lineFeed] ∧
      Checksum.DigitPair x y sum.toNat := by
  obtain ⟨x, y, shape, shown, plain⟩ := upperHexPair_eq sum
  have last : star ∉ [x, y, carriageReturn, lineFeed] := by
    have first := (plain x (by simp)).1.symm
    have second := (plain y (by simp)).1.symm
    have other : star ≠ carriageReturn ∧ star ≠ lineFeed := by decide
    simp [first, second, other]
  exact ⟨x, y, ⟨⟨lead, by simp [sealed, shape]⟩, last⟩, shown⟩

theorem sealed_isGenuine (lead : UInt8) (text : Bytes) :
    Checksum.isGenuine (sealed lead text (Checksum.xor text)) = true := by
  obtain ⟨x, y, marks, shown⟩ := sealed_marks lead text (Checksum.xor text)
  rw [marks.isGenuine]
  exact Checksum.readField_eq_some_iff.mpr (.inl shown)

theorem isLineEnd_of_isLeader (led : isLeader lead = true) : isLineEnd lead = false := by
  rw [isLeader, Bool.or_eq_true, beq_iff_eq, beq_iff_eq] at led
  obtain rfl | rfl := led <;> rfl

theorem withChecksum_bare (led : isLeader lead = true) (unstarred : star ∉ text) :
    withChecksum (lead :: text) ++ [carriageReturn, lineFeed] =
      sealed lead text (Checksum.xor text) := by
  have bare : star ∉ lead :: text := by
    have other : star ≠ lead := by
      rintro rfl
      exact absurd led (by decide)
    simp [other, unstarred]
  rw [withChecksum, if_neg bare, List.drop_one, List.tail_cons, sealed]

theorem withLeader_cases (body : Bytes) :
    ∃ lead text, withLeader body = lead :: text ∧ isLeader lead = true ∧ text ⊆ body := by
  cases body with
  | nil => exact ⟨0x24, [], rfl, rfl, List.Subset.refl _⟩
  | cons b rest =>
    by_cases led : isLeader b = true
    · exact ⟨b, rest, if_pos led, led, List.subset_cons_self b rest⟩
    · exact ⟨0x24, b :: rest, if_neg led, rfl, List.Subset.refl _⟩

/-- A sentence is its leader, its text and the checksum of that, and CR LF. -/
theorem nmea_eq (unstarred : star ∉ body) :
    ∃ lead text, isLeader lead = true ∧ star ∉ text ∧ text ⊆ body ∧
      nmea body = sealed lead text (Checksum.xor text) := by
  obtain ⟨lead, text, shape, led, within⟩ := withLeader_cases (trimLineEnd body)
  have trimmed : trimLineEnd body <+: body := List.rdropWhile_prefix isLineEnd body
  have within : text ⊆ body := fun b there => trimmed.subset (within there)
  have bare : star ∉ text := fun there => unstarred (within there)
  exact ⟨lead, text, led, bare, within, by rw [nmea_steps, shape, withChecksum_bare led bare]⟩

/-- A body that has its leader, and neither star nor line ending, gets the rest. -/
theorem nmea_led (led : isLeader lead = true) (unstarred : star ∉ text)
    (unended : ∀ b ∈ text, isLineEnd b = false) :
    nmea (lead :: text) = sealed lead text (Checksum.xor text) := by
  have whole : trimLineEnd (lead :: text) = lead :: text := by
    rw [trimLineEnd_eq, List.rdropWhile_eq_self_iff]
    intro present
    rw [Bool.not_eq_true]
    obtain first | behind := List.mem_cons.mp (List.getLast_mem present)
    · rw [first]
      exact isLineEnd_of_isLeader led
    · exact unended _ behind
  rw [nmea_steps, whole, withLeader, startsWithLeader, if_pos led, withChecksum_bare led unstarred]

end Sealed

/-- **A sentence has a normal form.** Encoding makes any body complete, a second time changes
nothing, and the checksum it put behind a body without a star is the right one. -/
theorem nmea_normal_form (body : Bytes) :
    IsComplete (nmea body) ∧ nmea (nmea body) = nmea body ∧
      (star ∉ body → Checksum.isGenuine (nmea body) = true) := by
  refine ⟨nmea_isComplete body, nmea_eq_self_iff.mpr (nmea_isComplete body), fun unstarred => ?_⟩
  obtain ⟨lead, text, -, -, -, shape⟩ := nmea_eq unstarred
  rw [shape]
  exact sealed_isGenuine lead text

/-- A carriage return inside, and too many line endings behind. -/
theorem nmea_normal_form_of_broken_body :
    let body : Bytes := [0x50, 0x0d, 0x41, 0x0a, 0x0d, 0x0a]
    let sentence : Bytes := [0x24, 0x50, 0x0d, 0x41, 0x2a, 0x31, 0x43, 0x0d, 0x0a]
    star ∉ body ∧ nmea body = sentence ∧ IsComplete sentence ∧ nmea sentence = sentence ∧
      Checksum.isGenuine sentence = true := by
  intro body sentence
  have unstarred : star ∉ body := by decide
  have encoded : nmea body = sentence := by decide
  obtain ⟨complete, same, genuine⟩ := nmea_normal_form body
  rw [encoded] at complete same genuine
  exact ⟨unstarred, encoded, complete, same, genuine unstarred⟩

end GnssMonitor.Encoding
