import GnssMonitor.Proofs.Panel.History

/-! The position on the panel over a history of sentences: that of the latest one with a valid fix
and both coordinates, but for those on the equator or on the meridian of zero, which are passed
over. -/

namespace GnssMonitor

namespace Sentence

/-- Whole digits, two of them for the minutes, a point and digits behind it. -/
def IsCoordinate (text : String) : Prop :=
  ∃ whole fraction, text.toList = whole ++ '.' :: fraction ∧ 3 ≤ whole.length ∧ fraction ≠ [] ∧
    (∀ c ∈ whole, Text.isDigit c = true) ∧ ∀ c ∈ fraction, Text.isDigit c = true

variable {text direction positive negative : String} {x : Binary64} {s : Sentence}

theorem point_split {whole : List Char} (digits : ∀ c ∈ whole, Text.isDigit c = true)
    (fraction : List Char) :
    (whole ++ '.' :: fraction).takeWhile Text.isDigit = whole ∧
      (whole ++ '.' :: fraction).dropWhile Text.isDigit = '.' :: fraction := by
  have point : Text.isDigit '.' = false := by decide
  rw [List.takeWhile_append_of_pos digits, List.dropWhile_append_of_pos digits,
    List.takeWhile_cons, List.dropWhile_cons, point]
  exact ⟨List.append_nil whole, rfl⟩

theorem IsCoordinate.readDegrees (is : IsCoordinate text) : (readDegrees text).isSome = true := by
  obtain ⟨whole, fraction, split, long, some, digits, digits'⟩ := is
  obtain ⟨front, rest⟩ := point_split digits fraction
  unfold Sentence.readDegrees
  split
  · rfl
  · simp only [split, front, rest, long, true_and]
    rw [if_pos ⟨by simpa using some, List.all_eq_true.mpr digits'⟩]
    rfl

/-- What is read as degrees is a coordinate, no text at all or a lone zero. -/
theorem isCoordinate_iff :
    IsCoordinate text ↔ text ≠ "" ∧ text ≠ "0" ∧ (readDegrees text).isSome = true := by
  constructor
  · intro is
    have read := is.readDegrees
    obtain ⟨whole, fraction, split, long, -⟩ := is
    have least : 4 < text.toList.length + 1 := by
      rw [split, List.length_append, List.length_cons]
      omega
    refine ⟨?_, ?_, read⟩ <;> rintro rfl <;> simp at least
  · rintro ⟨some, other, read⟩
    have text? : ¬ (text.isEmpty = true ∨ text = "0") := by simp [some, other]
    unfold readDegrees at read
    simp only [if_neg text?] at read
    split at read
    · rename_i fraction behind
      split at read
      · rename_i form
        obtain ⟨long, behind?, digits⟩ := form
        refine ⟨text.toList.takeWhile Text.isDigit, fraction, ?_, long, by simpa using behind?,
          List.all_eq_true.mp List.all_takeWhile, List.all_eq_true.mp digits⟩
        rw [← behind, List.takeWhile_append_dropWhile]
      · contradiction
    · contradiction

instance : Decidable (IsCoordinate text) := decidable_of_iff _ isCoordinate_iff.symm

/-- Degrees that are not zero come from a coordinate in one of the two directions. -/
theorem signedDegrees_nonzero (read : signedDegrees text direction positive negative = some x)
    (some : x.isZero = false) :
    IsCoordinate text ∧ (direction = positive ∨ direction = negative) := by
  obtain ⟨y, degrees, rfl⟩ := Option.map_eq_some_iff.mp read
  have directed : direction = positive ∨ direction = negative := by
    by_cases positively : direction = positive
    · exact .inl positively
    · by_cases negatively : direction = negative
      · exact .inr negatively
      · rw [if_neg positively, if_neg negatively] at some
        contradiction
  have nonzero : y ≠ Binary64.zero := by
    rintro rfl
    split at some
    · contradiction
    · split at some <;> contradiction
  have absent {t : String} (zero : readDegrees t = Option.some Binary64.zero) : text ≠ t := by
    rintro rfl
    exact nonzero (Option.some.inj (degrees.symm.trans zero))
  exact ⟨isCoordinate_iff.mpr ⟨absent rfl, absent rfl, by rw [degrees]; rfl⟩, directed⟩

theorem signedDegrees_isSome (is : IsCoordinate text) :
    (signedDegrees text direction positive negative).isSome = true := by
  rw [signedDegrees, Option.isSome_map]
  exact is.readDegrees

/-- A valid fix with all that tells its place. -/
structure Locates (s : Sentence) : Prop where
  kind : s.kind = .rmc
  valid : s.field 1 = "A"
  latitude : IsCoordinate (s.field 2)
  northOrSouth : s.field 3 = "N" ∨ s.field 3 = "S"
  longitude : IsCoordinate (s.field 4)
  eastOrWest : s.field 5 = "E" ∨ s.field 5 = "W"

instance : Decidable s.Locates :=
  decidable_of_iff (s.kind = .rmc ∧ s.field 1 = "A" ∧ IsCoordinate (s.field 2) ∧
      (s.field 3 = "N" ∨ s.field 3 = "S") ∧ IsCoordinate (s.field 4) ∧
      (s.field 5 = "E" ∨ s.field 5 = "W"))
    ⟨fun ⟨a, b, c, d, e, f⟩ => ⟨a, b, c, d, e, f⟩, fun ⟨a, b, c, d, e, f⟩ => ⟨a, b, c, d, e, f⟩⟩

/-- On the equator or on the meridian of zero. -/
def AtZero (s : Sentence) : Prop :=
  s.latitude.any Binary64.isZero = true ∨ s.longitude.any Binary64.isZero = true

instance : Decidable s.AtZero := inferInstanceAs (Decidable (_ ∨ _))

theorem Locates.degrees (locates : s.Locates) :
    ∃ x y, s.latitude = some x ∧ s.longitude = some y := by
  obtain ⟨x, latitude⟩ := Option.isSome_iff_exists.mp (signedDegrees_isSome locates.latitude)
  obtain ⟨y, longitude⟩ := Option.isSome_iff_exists.mp (signedDegrees_isSome locates.longitude)
  exact ⟨x, y, latitude, longitude⟩

end Sentence

namespace Panel

/-- The position shown, each coordinate if there is one. -/
def place (p : Panel) : Option Binary64 × Option Binary64 := (p.fix.latitude, p.fix.longitude)

/-- The position that a sentence tells, or none without a sentence. -/
def toldBy : Option Sentence → Option Binary64 × Option Binary64
  | none => (none, none)
  | some s => (s.latitude, s.longitude)

variable {p : Panel} {s : Sentence} {x y : Binary64}

theorem position_eq (latitude : s.latitude = some x) (longitude : s.longitude = some y)
    (valid : s.field 1 = "A") : position s =
      if x.isZero ∨ y.isZero then some none else some (some (x, y)) := by
  unfold position
  rw [if_pos valid, latitude, longitude]
  cases north : x.isZero <;> cases east : y.isZero <;> simp [north, east]

/-- There is a position exactly where a sentence tells one off the two lines of zero. -/
theorem position_some (kind : s.kind = .rmc) (there : position s = some (some (x, y))) :
    (s.Locates ∧ ¬ s.AtZero) ∧ s.latitude = some x ∧ s.longitude = some y := by
  by_cases valid : s.field 1 = "A"
  · cases latitude : s.latitude with
    | none => simp [position, valid, latitude] at there
    | some x' =>
      cases longitude : s.longitude with
      | none =>
        cases zero : x'.isZero <;> simp [position, valid, latitude, longitude, zero] at there
      | some y' =>
        rw [position_eq latitude longitude valid] at there
        split at there
        · simp at there
        · rename_i nonzero
          simp only [Option.some.injEq, Prod.mk.injEq] at there
          obtain ⟨rfl, rfl⟩ := there
          simp only [not_or, Bool.not_eq_true] at nonzero
          obtain ⟨north, ns⟩ := Sentence.signedDegrees_nonzero latitude nonzero.1
          obtain ⟨east, ew⟩ := Sentence.signedDegrees_nonzero longitude nonzero.2
          have off : ¬ s.AtZero := by simp [Sentence.AtZero, latitude, longitude, nonzero]
          exact ⟨⟨⟨kind, valid, north, ns, east, ew⟩, off⟩, rfl, rfl⟩
  · simp [position, valid] at there

theorem noteRmc_place (f : FixReport) :
    ((noteRmc s f).latitude, (noteRmc s f).longitude) =
      match position s with
      | some (some (x, y)) => (some x, some y)
      | _ => (f.latitude, f.longitude) := by
  unfold noteRmc
  rcases position s with _ | _ | ⟨x, y⟩ <;> rfl

theorem noteRmc_located (locates : s.Locates) (off : ¬ s.AtZero) :
    (p.noteSentence s).place = (s.latitude, s.longitude) := by
  obtain ⟨x, y, latitude, longitude⟩ := locates.degrees
  have nonzero : ¬ (x.isZero = true ∨ y.isZero = true) := by
    simpa [Sentence.AtZero, latitude, longitude] using off
  have told : position s = some (some (x, y)) := by
    rw [position_eq latitude longitude locates.valid, if_neg nonzero]
  rw [noteSentence, locates.kind, latitude, longitude]
  change ((noteRmc s p.fix).latitude, (noteRmc s p.fix).longitude) = _
  rw [noteRmc_place, told]

/-- Any other sentence leaves the position. -/
theorem noteSentence_unlocated (other : ¬ (s.Locates ∧ ¬ s.AtZero)) :
    (p.noteSentence s).place = p.place := by
  unfold noteSentence
  cases kind : s.kind with
  | rmc =>
    change ((noteRmc s p.fix).latitude, (noteRmc s p.fix).longitude) = _
    rw [noteRmc_place]
    split
    · rename_i there
      exact absurd (position_some kind there).1 other
    · rfl
  | gga | gsa | other => rfl
  | gsv =>
    by_cases closing : s.field 1 = s.field 0
    · simp only [noteGsv_closing closing]
      rfl
    · simp only [noteGsv_open closing]
      rfl

theorem noted_place (tag : String) (now : Binary64) (p : Panel) :
    ((p.noteTag tag).noteTime tag now).place = p.place := by
  obtain ⟨_, _, timed⟩ := noteTime_frame tag now (p.noteTag tag)
  obtain ⟨_, _, noted⟩ := noteTag_frame tag p
  rw [timed, noted]
  rfl

/-- Of the position too a panel knows what the sentences among the packets said. -/
theorem meet_place (p : Panel) (x : Sighting) :
    (p.meet x).place = x.read?.elim p.place fun s =>
      if s.Locates ∧ ¬ s.AtZero then (s.latitude, s.longitude) else p.place := by
  cases tagged : x.tag with
  | none =>
    rw [meet_untagged tagged, Sighting.read?_untagged tagged]
    rfl
  | some tag =>
    rw [meet_tagged tagged]
    cases x.read? with
    | none => exact noted_place tag x.now p
    | some s =>
      simp only [Option.elim_some]
      split
      · rename_i located
        exact noteRmc_located located.1 located.2
      · rename_i other
        rw [noteSentence_unlocated other, noted_place]

theorem after_place (start : Binary64) (history : List Sighting) :
    ((fresh start).after history).place =
      toldBy ((sentences history).find? fun s => s.Locates ∧ ¬ s.AtZero) := by
  induction history with
  | nil => rfl
  | cons x earlier ih =>
    rw [after, meet_place, ih]
    unfold sentences
    rw [List.filterMap_cons]
    cases x.read? with
    | none => rfl
    | some s =>
      rw [Option.elim_some]
      by_cases located : s.Locates ∧ ¬ s.AtZero
      · rw [if_pos located, List.find?_cons_of_pos (by simpa using located)]
        rfl
      · rw [if_neg located, List.find?_cons_of_neg (by simpa using located)]

/-- The latest fix of all is the latest one off the two lines, unless it is on one of them. -/
theorem find?_off {told : List Sentence} (off : ∀ s ∈ told.find? (·.Locates), ¬ s.AtZero) :
    (told.find? fun s => s.Locates ∧ ¬ s.AtZero) = told.find? (·.Locates) := by
  induction told with
  | nil => rfl
  | cons s earlier ih =>
    by_cases locates : s.Locates
    · have first : (s :: earlier).find? (·.Locates) = some s := by simp [locates]
      have here := off s first
      simp [locates, here]
    · have skipped : (s :: earlier).find? (·.Locates) = earlier.find? (·.Locates) := by
        simp [locates]
      rw [skipped] at off ⊢
      rw [← ih off]
      simp [locates]

/-- **The position is that of the latest valid fix off the equator and the meridian of zero.** So it
is that of the latest valid fix exactly as long as this one is on neither of them. A fix on one of
them leaves the position of the one before. -/
theorem position_of_latest (start : Binary64) (history : List Sighting) :
    let p := (fresh start).after history
    let told := sentences history
    p.place = toldBy (told.find? fun s => s.Locates ∧ ¬ s.AtZero) ∧
      (p.place = toldBy (told.find? (·.Locates)) ↔
        ∀ s ∈ told.find? (·.Locates), ¬ s.AtZero) ∧
      ∀ s ∈ told, s.Locates → ∃ x y, s.latitude = some x ∧ s.longitude = some y := by
  intro p told
  have shown : p.place = toldBy (told.find? fun s => s.Locates ∧ ¬ s.AtZero) :=
    after_place start history
  refine ⟨shown, ?_, fun s _ => Sentence.Locates.degrees⟩
  rw [shown]
  refine ⟨fun same s latest zero => ?_, fun off => by rw [find?_off off]⟩
  have locates : s.Locates := by simpa using List.find?_some latest
  obtain ⟨x, y, latitude, longitude⟩ := locates.degrees
  rw [latest] at same
  cases found : told.find? fun s => s.Locates ∧ ¬ s.AtZero with
  | none =>
    rw [found, toldBy, toldBy, latitude] at same
    cases same
  | some t =>
    -- `AtZero` goes by the coordinates alone
    rw [found, toldBy, toldBy] at same
    obtain ⟨north, east⟩ := Prod.mk.inj same
    have located : t.Locates ∧ ¬ t.AtZero := by simpa using List.find?_some found
    rw [Sentence.AtZero, ← north, ← east] at zero
    exact located.2 zero

/-- Neither a void fix nor one without a direction takes the place of a valid one. -/
theorem position_of_latest_of_void :
    let told (fields : List String) : Sighting :=
      ⟨⟨.nmea, Bytes.ofString "$GPRMC"⟩, some ["GPRMC"], some ⟨.rmc, fields⟩, .zero⟩
    let fix : Sentence := ⟨.rmc, ["", "A", "4807.038", "S", "01131.000", "W"]⟩
    let history := [told ["", "A", "4807.038", "N", "01131.000", ""],
      told ["", "V", "4807.038", "N", "01131.000", "E"], told fix.fields]
    let p := (fresh .zero).after history
    (sentences history).find? (·.Locates) = some fix ∧ ¬ fix.AtZero ∧
      p.place = (fix.latitude, fix.longitude) := by
  intro told fix history p
  have latest : (sentences history).find? (·.Locates) = some fix := by decide +kernel
  have off : ¬ fix.AtZero := by decide +kernel
  refine ⟨latest, off, ?_⟩
  have same := (position_of_latest .zero history).2.1.mpr fun s there => by
    rw [latest] at there
    exact Option.some.inj there ▸ off
  rw [latest] at same
  exact same

/-- A fix on the equator is valid, and yet the position of the one before stays. -/
theorem position_stays_at_equator :
    let told (s : Sentence) : Sighting :=
      ⟨⟨.nmea, Bytes.ofString "$GPRMC"⟩, some ["GPRMC"], some s, .zero⟩
    let fix : Sentence := ⟨.rmc, ["123519", "A", "0000.500", "N", "01131.000", "E"]⟩
    let next : Sentence := ⟨.rmc, ["123520", "A", "0000.000", "N", "01131.000", "E"]⟩
    let history := [told next, told fix]
    let p := (fresh .zero).after history
    (sentences history).find? (·.Locates) = some next ∧
      next.latitude = some .zero ∧ (Panel.after (fresh .zero) [told next]).place = (none, none) ∧
      p.place = (fix.latitude, fix.longitude) ∧
      p.place ≠ toldBy ((sentences history).find? (·.Locates)) := by
  decide +kernel

end Panel
end GnssMonitor
