import Mathlib.Data.List.Forall2
import GnssMonitor.Proofs.Panel.Arrangement
import GnssMonitor.Proofs.Panel.History

/-! The view of the sky over a history of sentences. It is that of the messages since the latest
first one, whenever one of them bears its total as its number, whether or not all others came. Each
message has four slots, and gives the satellites of those that have a number. -/

namespace GnssMonitor

namespace Sentence

/-- The first message of a group of satellites. -/
def Starts (s : Sentence) : Prop := s.kind = .gsv ∧ s.field 1 = "1"

/-- A message whose number is that of the messages in its group. -/
def Closes (s : Sentence) : Prop := s.kind = .gsv ∧ s.field 1 = s.field 0

instance (s : Sentence) : Decidable s.Starts := inferInstanceAs (Decidable (_ ∧ _))

instance (s : Sentence) : Decidable s.Closes := inferInstanceAs (Decidable (_ ∧ _))

/-- The number of a message, and the number of messages that it announces. -/
def place (s : Sentence) : String × String := (s.field 1, s.field 0)

end Sentence

namespace Panel

/-- All messages on satellites, the oldest first. -/
def onSky (told : List Sentence) : List Sentence := (told.filter (·.kind = .gsv)).reverse

/-- The messages on satellites since the latest first one, the oldest first. -/
def messages : List Sentence → List Sentence
  | [] => []
  | s :: earlier =>
    if s.Starts then [s]
    else if s.kind = .gsv then messages earlier ++ [s]
    else messages earlier

def satellitesIn (sent : List Sentence) : List Satellite := sent.flatMap satellitesOf

/-- The fields with which the slots of a message begin. -/
def slots : List Nat := [3, 7, 11, 15]

/-- A slot has a number: nothing but digits, and at least one. -/
def Numbers (s : Sentence) (first : Nat) : Prop :=
  s.field first ≠ "" ∧ ∀ c ∈ (s.field first).toList, Text.isDigit c = true

instance (s : Sentence) (first : Nat) : Decidable (Numbers s first) :=
  inferInstanceAs (Decidable (_ ∧ ∀ c ∈ (s.field first).toList, _))

/-- A slot gives the satellite: its number, and elevation, azimuth and signal strength as they
stand. -/
structure Gives (s : Sentence) (first : Nat) (sat : Satellite) : Prop where
  number : Numbers s first
  prn : sat.prn = Text.digitsValue (s.field first).toList
  elevation : sat.elevation = s.field (first + 1)
  azimuth : sat.azimuth = s.field (first + 2)
  snr : sat.snr = s.field (first + 3)

/-- The satellites are those of the slots that have a number, message by message. -/
def Given (sent : List Sentence) (sats : List Satellite) : Prop :=
  List.Forall₂ (fun slot => Gives slot.1 slot.2)
    (sent.flatMap fun s => (slots.filter (Numbers s ·)).map (s, ·)) sats

/-- The satellites in use by the latest sentence that tells. -/
def usedAfter (used : List Nat) (told : List Sentence) : List Nat :=
  ((told.find? (·.kind = .gsa)).map usedBy).getD used

/-- What is left of the group that the panel began with. -/
def leftOver (p : Panel) (told : List Sentence) : List Satellite :=
  if ∃ s ∈ told, s.Starts then [] else p.group

/-- As many of the satellites as there are rows for. -/
def viewOf (used : List Nat) (sats : List Satellite) : List Satellite :=
  (sortSatellites used sats).take satelliteRows

/-- With a row for each, the view is the arrangement itself. -/
theorem viewOf_eq {used : List Nat} {sats shown : List Satellite}
    (arranged : Arranges used sats shown) (few : shown.length ≤ satelliteRows) :
    viewOf used sats = shown := by
  rw [viewOf, sortSatellites_eq arranged, List.take_of_length_le few]

/-- Messages 1, 2, 3 and so on of the same total. -/
def FirstOf (total : String) (sent : List Sentence) : Prop :=
  sent.map Sentence.place = (List.range sent.length).map fun i => (toString (i + 1), total)

/-- Nothing is missing up to the last of these messages. -/
def InSequence (sent : List Sentence) : Prop := ∃ total, FirstOf total sent

/-- The messages 1 to `n` of `n`. -/
def Complete (sent : List Sentence) : Prop := sent ≠ [] ∧ FirstOf (toString sent.length) sent

instance (total : String) (sent : List Sentence) : Decidable (FirstOf total sent) :=
  inferInstanceAs (Decidable (_ = _))

instance (sent : List Sentence) : Decidable (Complete sent) := inferInstanceAs (Decidable (_ ∧ _))

variable {p q : Panel} {s : Sentence} {told earlier sent : List Sentence} {total : String}

theorem toString_inj {m n : Nat} (same : toString m = toString n) : m = n := by
  have digits := congrArg (fun t => Nat.ofDigitChars 10 (String.toList t) 0) same
  simpa [toString, Nat.repr_eq_ofList_toDigits, Nat.ofDigitChars_ten_toDigits] using digits

theorem toString_eq_one {n : Nat} : toString (n + 1) = "1" ↔ n = 0 := by
  constructor
  · intro one
    have same : n + 1 = 1 := toString_inj one
    omega
  · rintro rfl
    rfl

theorem firstOf_concat : FirstOf total (sent ++ [s]) ↔
    FirstOf total sent ∧ s.place = (toString (sent.length + 1), total) := by
  rw [FirstOf, List.length_append, List.length_singleton, List.range_succ, List.map_append,
    List.map_append]
  constructor
  · intro whole
    obtain ⟨front, last⟩ := List.append_inj' whole rfl
    exact ⟨front, by simpa using last⟩
  · rintro ⟨front, last⟩
    rw [front, List.map_singleton, last]
    rfl

theorem prn?_of_numbers {first : Nat} (numbers : Numbers s first) :
    prn? (s.field first) = some (Text.digitsValue (s.field first).toList) :=
  if_pos (by simpa [isAllDigits, Numbers] using numbers)

theorem prn?_of_not_numbers {first : Nat} (other : ¬ Numbers s first) :
    prn? (s.field first) = none :=
  if_neg (by simpa [isAllDigits, Numbers] using other)

theorem satellitesOf_given (s : Sentence) :
    List.Forall₂ (Gives s) (slots.filter (Numbers s ·)) (satellitesOf s) := by
  have begin_at : slots = (List.range 4).map (3 + 4 * ·) := rfl
  unfold satellitesOf
  rw [begin_at, List.filter_map, List.forall₂_map_left_iff]
  generalize List.range 4 = places
  induction places with
  | nil => exact .nil
  | cons i rest ih =>
    by_cases numbers : Numbers s (3 + 4 * i)
    · have prn := prn?_of_numbers numbers
      rw [List.filter_cons_of_pos (by simpa using numbers)]
      simp only [List.filterMap_cons, Nat.add_zero, prn, Option.map_some]
      exact .cons ⟨numbers, rfl, rfl, rfl, rfl⟩ ih
    · have none := prn?_of_not_numbers numbers
      rw [List.filter_cons_of_neg (by simpa using numbers)]
      simp only [List.filterMap_cons, Nat.add_zero, none, Option.map_none]
      exact ih

/-- Nothing is passed over but slots without a number, and nothing is made up. -/
theorem satellitesIn_given (sent : List Sentence) : Given sent (satellitesIn sent) := by
  unfold Given satellitesIn
  induction sent with
  | nil => exact .nil
  | cons s rest ih =>
    have front : List.Forall₂ (fun slot => Gives slot.1 slot.2)
        ((slots.filter (Numbers s ·)).map (s, ·)) (satellitesOf s) :=
      List.forall₂_map_left_iff.mpr (satellitesOf_given s)
    rw [List.flatMap_cons, List.flatMap_cons]
    exact List.rel_append front ih

theorem messages_concat (told : List Sentence) (more : s.kind = .gsv) :
    ∃ sent, messages (s :: told) = sent ++ [s] := by
  by_cases starts : s.Starts
  · exact ⟨[], if_pos starts⟩
  · refine ⟨messages told, ?_⟩
    rw [messages, if_neg starts, if_pos more]

theorem onSky_cons : onSky (s :: earlier) =
    if s.kind = .gsv then onSky earlier ++ [s] else onSky earlier := by
  by_cases more : s.kind = .gsv <;> simp [onSky, more]

/-- In a sequence only the message at the front is a first one. -/
theorem starts_iff (more : s.kind = .gsv) (sequence : FirstOf total (sent ++ [s])) :
    s.Starts ↔ sent = [] := by
  have number : s.field 1 = toString (sent.length + 1) :=
    congrArg Prod.fst (firstOf_concat.mp sequence).2
  rw [Sentence.Starts, number, toString_eq_one, List.length_eq_zero_iff]
  exact and_iff_right more

/-- Where all messages are one sequence, all of them are since the first one. -/
theorem messages_of_sequence (sequence : FirstOf total (onSky told)) :
    messages told = onSky told := by
  induction told with
  | nil => rfl
  | cons s earlier ih =>
    rw [onSky_cons] at sequence ⊢
    by_cases more : s.kind = .gsv
    · rw [if_pos more] at sequence ⊢
      rw [messages, if_pos more, ih (firstOf_concat.mp sequence).1]
      split
      · rename_i starts
        rw [(starts_iff more sequence).mp starts, List.nil_append]
      · rfl
    · rw [if_neg more] at sequence ⊢
      have other : ¬ s.Starts := fun starts => more starts.1
      rw [messages, if_neg other, if_neg more, ih sequence]

/-- A sequence that is not empty has a first message. -/
theorem exists_starts (sequence : FirstOf total (onSky told)) (some : onSky told ≠ []) :
    ∃ s ∈ told, s.Starts := by
  induction told with
  | nil => contradiction
  | cons s earlier ih =>
    rw [onSky_cons] at sequence some
    by_cases more : s.kind = .gsv
    · rw [if_pos more] at sequence
      by_cases first : onSky earlier = []
      · exact ⟨s, List.mem_cons_self, (starts_iff more sequence).mpr first⟩
      · obtain ⟨t, there, starts⟩ := ih (firstOf_concat.mp sequence).1 first
        exact ⟨t, List.mem_cons_of_mem s there, starts⟩
    · rw [if_neg more] at sequence some
      obtain ⟨t, there, starts⟩ := ih sequence some
      exact ⟨t, List.mem_cons_of_mem s there, starts⟩

/-- A message that closes its group completes it unless an earlier one is missing. -/
theorem complete_iff_inSequence (closes : s.Closes) :
    Complete (messages (s :: told)) ↔ InSequence (messages (s :: told)) := by
  refine ⟨fun complete => ⟨_, complete.2⟩, fun ⟨total, sequence⟩ => ?_⟩
  obtain ⟨sent, listed⟩ := messages_concat told closes.1
  rw [listed] at sequence ⊢
  have last := (firstOf_concat.mp sequence).2
  have number : s.field 1 = toString (sent.length + 1) := congrArg Prod.fst last
  have announced : s.field 0 = total := congrArg Prod.snd last
  have bound : total = toString (sent ++ [s]).length := by
    rw [← announced, ← closes.2, number, List.length_append, List.length_singleton]
  exact ⟨by simp, bound ▸ sequence⟩

theorem noteSentence_gsv (more : s.kind = .gsv) : p.noteSentence s = noteGsv s p := by
  rw [noteSentence, more]

/-- The group that is gathered and the view are touched by messages on satellites only. -/
theorem noteSentence_other (other : s.kind ≠ .gsv) :
    (p.noteSentence s).group = p.group ∧ (p.noteSentence s).skyView = p.skyView := by
  unfold noteSentence
  cases kind : s.kind with
  | gsv => contradiction
  | rmc | gga | gsa | other => exact ⟨rfl, rfl⟩

theorem noteSentence_used : (p.noteSentence s).used =
    if s.kind = .gsa then usedBy s else p.used := by
  unfold noteSentence
  cases kind : s.kind with
  | gsv =>
    by_cases closing : s.field 1 = s.field 0
    · simp [noteGsv_closing closing]
    · simp [noteGsv_open closing]
  | gsa => simp [noteGsa]
  | rmc | gga | other => simp

theorem afterTold_used (p : Panel) (told : List Sentence) :
    (p.afterTold told).used = usedAfter p.used told := by
  induction told with
  | nil => rfl
  | cons s earlier ih =>
    rw [afterTold, noteSentence_used, ih]
    by_cases tells : s.kind = .gsa <;> simp [usedAfter, tells]

theorem leftOver_starts (starts : s.Starts) : p.leftOver (s :: earlier) = [] :=
  if_pos ⟨s, List.mem_cons_self, starts⟩

theorem leftOver_other (other : ¬ s.Starts) : p.leftOver (s :: earlier) = p.leftOver earlier := by
  have same : (∃ t ∈ s :: earlier, t.Starts) ↔ ∃ t ∈ earlier, t.Starts := by simp [other]
  simp only [leftOver, same]

/-- What is gathered of a message goes behind what has been gathered since the latest first one. -/
theorem gathered_matches (more : s.kind = .gsv)
    (since : Matches p.group (q.leftOver earlier ++ satellitesIn (messages earlier))) :
    Matches (p.gathered s)
      (q.leftOver (s :: earlier) ++ satellitesIn (messages (s :: earlier))) := by
  by_cases starts : s.Starts
  · rw [leftOver_starts starts, messages, if_pos starts, gathered, if_pos starts.2]
    simp [satellitesIn, Matches]
  · have number : s.field 1 ≠ "1" := fun first => starts ⟨more, first⟩
    rw [leftOver_other starts, messages, if_neg starts, if_pos more, gathered, if_neg number]
    have behind := since.append (Matches.refl (satellitesOf s))
    simpa [satellitesIn] using behind

/-- The group holds the satellites of the messages since the latest first one. Closing it puts
them into another order, but never those with one number. -/
theorem afterTold_group (p : Panel) (told : List Sentence) :
    Matches (p.afterTold told).group (p.leftOver told ++ satellitesIn (messages told)) := by
  induction told with
  | nil => simp [afterTold, leftOver, messages, satellitesIn, Matches]
  | cons s earlier ih =>
    rw [afterTold]
    by_cases more : s.kind = .gsv
    · have gathered := gathered_matches more ih
      rw [noteSentence_gsv more]
      by_cases closing : s.field 1 = s.field 0
      · rw [noteGsv_closing closing]
        exact (sortSatellites_matches _ _).trans gathered
      · rw [noteGsv_open closing]
        exact gathered
    · have other : ¬ s.Starts := fun starts => more starts.1
      rw [(noteSentence_other more).1, leftOver_other other, messages, if_neg other, if_neg more]
      exact ih

theorem afterTold_open (unfinished : ¬ s.Closes) :
    (p.afterTold (s :: earlier)).skyView = (p.afterTold earlier).skyView := by
  rw [afterTold]
  by_cases more : s.kind = .gsv
  · rw [noteSentence_gsv more, noteGsv_open fun closing => unfinished ⟨more, closing⟩]
  · exact (noteSentence_other more).2

theorem afterTold_closes (closes : s.Closes) :
    (p.afterTold (s :: earlier)).skyView = viewOf (usedAfter p.used earlier)
      (p.leftOver (s :: earlier) ++ satellitesIn (messages (s :: earlier))) := by
  have gathered := gathered_matches closes.1 (afterTold_group p earlier)
  rw [afterTold, noteSentence_gsv closes.1, noteGsv_closing closes.2, viewOf, ← afterTold_used]
  exact congrArg (List.take satelliteRows) (sortSatellites_congr _ gathered)

/-- No message of a sequence closes it before the announced total is reached. -/
theorem skyView_unfinished {n : Nat} (sequence : FirstOf (toString n) (onSky told))
    (short : (onSky told).length < n) : (p.afterTold told).skyView = p.skyView := by
  induction told with
  | nil => rfl
  | cons s earlier ih =>
    rw [onSky_cons] at sequence short
    by_cases more : s.kind = .gsv
    · rw [if_pos more] at sequence short
      obtain ⟨front, last⟩ := firstOf_concat.mp sequence
      rw [List.length_append, List.length_singleton] at short
      have unfinished : ¬ s.Closes := by
        rintro ⟨-, closing⟩
        have number : s.field 1 = toString ((onSky earlier).length + 1) := congrArg Prod.fst last
        have announced : s.field 0 = toString n := congrArg Prod.snd last
        have same := toString_inj (number.symm.trans (closing.trans announced))
        omega
      rw [afterTold_open unfinished, ih front (by omega)]
    · rw [if_neg more] at sequence short
      rw [afterTold_open fun closes => more closes.1, ih sequence short]

/-- The view of a group of which nothing is missing, and nothing else is said of the sky. -/
theorem skyView_complete (alone : ∀ s ∈ told, s.kind ≠ .gsa) (complete : Complete (onSky told)) :
    (p.afterTold told).skyView = viewOf p.used (satellitesIn (onSky told)) := by
  induction told with
  | nil => exact absurd rfl complete.1
  | cons s earlier ih =>
    have before : ∀ t ∈ earlier, t.kind ≠ .gsa := fun t there =>
      alone t (List.mem_cons_of_mem s there)
    by_cases more : s.kind = .gsv
    · have listed : onSky (s :: earlier) = onSky earlier ++ [s] := by rw [onSky_cons, if_pos more]
      have closes : s.Closes := by
        have sequence := complete.2
        rw [listed, List.length_append, List.length_singleton] at sequence
        have last := (firstOf_concat.mp sequence).2
        exact ⟨more, (congrArg Prod.fst last).trans (congrArg Prod.snd last).symm⟩
      have unused : usedAfter p.used earlier = p.used := by
        have none : earlier.find? (·.kind = .gsa) = none := by simpa using before
        rw [usedAfter, none]
        rfl
      have fresh : p.leftOver (s :: earlier) = [] :=
        if_pos (exists_starts complete.2 complete.1)
      rw [afterTold_closes closes, unused, fresh, messages_of_sequence complete.2]
      rfl
    · have listed : onSky (s :: earlier) = onSky earlier := by rw [onSky_cons, if_neg more]
      rw [listed] at complete ⊢
      rw [afterTold_open fun closes => more closes.1, ih before complete]

/-- The view is that of the messages up to one that closes its group, and these are the whole of
a group exactly if none of them is missing. -/
structure ShowsGroup (s : Sentence) (earlier : List Sentence) (view : List Satellite) : Prop where
  closes : s.Closes
  view : view = viewOf (usedAfter [] earlier) (satellitesIn (messages (s :: earlier)))
  whole : Complete (messages (s :: earlier)) ↔ InSequence (messages (s :: earlier))

/-- A panel that began empty has nothing left over. -/
theorem showsGroup_of_closes {now : Binary64} (closes : s.Closes) (earlier : List Sentence) :
    ShowsGroup s earlier ((fresh now).afterTold (s :: earlier)).skyView := by
  refine ⟨closes, ?_, complete_iff_inSequence closes⟩
  have empty : (fresh now).leftOver (s :: earlier) = [] := by simp [leftOver, fresh]
  rw [afterTold_closes closes, empty]
  rfl

/-- The group that was closed last is the one on view. -/
theorem skyView_of_last (now : Binary64) (told : List Sentence) :
    (∀ s ∈ told, ¬ s.Closes) ∧ ((fresh now).afterTold told).skyView = [] ∨
      ∃ later s earlier, told = later ++ s :: earlier ∧ (∀ t ∈ later, ¬ t.Closes) ∧
        ShowsGroup s earlier ((fresh now).afterTold told).skyView := by
  induction told with
  | nil => exact .inl ⟨nofun, rfl⟩
  | cons s earlier ih =>
    by_cases closes : s.Closes
    · exact .inr ⟨[], s, earlier, rfl, nofun, showsGroup_of_closes closes earlier⟩
    · rw [afterTold_open closes]
      obtain ⟨none, empty⟩ | ⟨later, t, before, rfl, none, shows⟩ := ih
      · exact .inl ⟨List.forall_mem_cons.mpr ⟨closes, none⟩, empty⟩
      · exact .inr ⟨s :: later, t, before, rfl, List.forall_mem_cons.mpr ⟨closes, none⟩, shows⟩

section History

variable {history : List Sighting} {x : Sighting}

theorem after_skyView (p : Panel) (history : List Sighting) :
    (p.after history).skyView = (p.afterTold (sentences history)).skyView :=
  (after_sameSky p history).skyView

theorem sentences_cons : sentences (x :: history) = x.read?.toList ++ sentences history := by
  rw [sentences, List.filterMap_cons]
  cases x.read? <;> rfl

theorem onSky_append (later earlier : List Sentence) :
    onSky (later ++ earlier) = onSky earlier ++ onSky later := by simp [onSky]

/-- What comes at the front of a sequence is one. -/
theorem FirstOf.front {more : List Sentence} (sequence : FirstOf total (sent ++ more)) :
    FirstOf total sent := by
  have front := congrArg (List.take sent.length) sequence
  rw [List.map_append, List.take_left' (List.length_map _), ← List.map_take, List.length_append,
    List.take_range, Nat.min_eq_left (Nat.le_add_right _ _)] at front
  exact front

/-- **The view of the sky shows what has come since the latest first message.** It changes at
messages only that bear their total as their number. Such a message shows a group that is complete
exactly if the messages since the latest first one are in sequence from 1 on; if one is missing, it
shows what there is. -/
theorem sky_view_changes_at_closing (now : Binary64) (history : List Sighting) :
    let p := (fresh now).after history
    ((∀ s ∈ sentences history, ¬ s.Closes) ∧ p.skyView = [] ∨
      ∃ later s earlier, sentences history = later ++ s :: earlier ∧
        (∀ t ∈ later, ¬ t.Closes) ∧ ShowsGroup s earlier p.skyView) ∧
      ∀ x, (p.meet x).skyView ≠ p.skyView →
        ∃ s ∈ x.read?, ShowsGroup s (sentences history) (p.meet x).skyView := by
  intro p
  refine ⟨?_, fun x changed => ?_⟩
  · have shown := skyView_of_last now (sentences history)
    rwa [← after_skyView] at shown
  · have met : (p.meet x).skyView = _ := after_skyView (fresh now) (x :: history)
    rw [sentences_cons] at met
    cases read : x.read? with
    | none =>
      rw [met, read, Option.toList_none, List.nil_append, ← after_skyView] at changed
      contradiction
    | some s =>
      rw [read, Option.toList_some, List.singleton_append] at met
      by_cases closes : s.Closes
      · exact ⟨s, rfl, met ▸ showsGroup_of_closes closes _⟩
      · rw [met, afterTold_open closes, ← after_skyView] at changed
        contradiction

/-- **A whole group is shown in order.** Whatever the panel showed and had gathered before, it goes
on showing until the last message of the group, and from then on the satellites of the group: those
in the slots of its messages that have a number. -/
theorem whole_group_shown (p : Panel) (alone : ∀ s ∈ sentences history, s.kind ≠ .gsa)
    (complete : Complete (onSky (sentences history))) :
    (∃ shown, Arranges p.used (satellitesIn (onSky (sentences history))) shown ∧
      (p.after history).skyView = shown.take satelliteRows) ∧
      Given (onSky (sentences history)) (satellitesIn (onSky (sentences history))) ∧
      ∀ earlier, earlier <:+ history →
        (onSky (sentences earlier)).length < (onSky (sentences history)).length →
          (p.after earlier).skyView = p.skyView := by
  refine ⟨⟨_, sortSatellites_arranges _ _, ?_⟩, satellitesIn_given _, ?_⟩
  · rw [after_skyView, skyView_complete alone complete, viewOf]
  · rintro earlier ⟨later, rfl⟩ short
    have sequence := complete.2
    rw [sentences, List.filterMap_append, onSky_append] at sequence
    rw [after_skyView]
    exact skyView_unfinished sequence.front (by simpa [sentences, onSky_append] using short)

end History

/-- The second message of two closes the group, and nothing is missing. -/
theorem sky_view_changes_at_closing_of_pair :
    let message (number prn : String) : Sighting :=
      ⟨⟨.nmea, Bytes.ofString "$GPGSV"⟩, some ["GPGSV"],
        some ⟨.gsv, ["2", number, "02", prn, "40", "083", "46"]⟩, .zero⟩
    let p := (fresh .zero).after [message "1" "04"]
    let x := message "2" "02"
    (p.meet x).skyView ≠ p.skyView ∧
      (p.meet x).skyView = [⟨2, "40", "083", "46"⟩, ⟨4, "40", "083", "46"⟩] ∧
      ∃ s ∈ x.read?, ShowsGroup s (sentences [message "1" "04"]) (p.meet x).skyView := by
  intro message p x
  have before : p.skyView = [] := by decide +kernel
  have shown : (p.meet x).skyView = [⟨2, "40", "083", "46"⟩, ⟨4, "40", "083", "46"⟩] := by
    have told : sentences [x, message "1" "04"] =
        [⟨.gsv, ["2", "2", "02", "02", "40", "083", "46"]⟩,
          ⟨.gsv, ["2", "1", "02", "04", "40", "083", "46"]⟩] := by decide +kernel
    have met : (p.meet x).skyView = _ := after_skyView (fresh .zero) [x, message "1" "04"]
    rw [met, told, afterTold_closes (by decide)]
    exact viewOf_eq (by decide +kernel) (by decide)
  have changed : (p.meet x).skyView ≠ p.skyView := by simp [shown, before]
  exact ⟨changed, shown, (sky_view_changes_at_closing .zero [message "1" "04"]).2 x changed⟩

/-- The first message of one group and the third of another, with four lost between them, are
shown as a group. -/
theorem sky_view_of_two_groups :
    let message (number prn : String) : Sighting :=
      ⟨⟨.nmea, Bytes.ofString "$GPGSV"⟩, some ["GPGSV"],
        some ⟨.gsv, ["3", number, "09", prn, "40", "083", "46"]⟩, .zero⟩
    let history := [message "3" "09", message "1" "04"]
    ((fresh .zero).after history).skyView = [⟨4, "40", "083", "46"⟩, ⟨9, "40", "083", "46"⟩] ∧
      ¬ Complete (messages (sentences history)) := by
  intro message history
  have told : sentences history =
      [⟨.gsv, ["3", "3", "09", "09", "40", "083", "46"]⟩,
        ⟨.gsv, ["3", "1", "09", "04", "40", "083", "46"]⟩] := by decide +kernel
  refine ⟨?_, by decide +kernel⟩
  rw [after_skyView, told, afterTold_closes (by decide)]
  exact viewOf_eq (by decide +kernel) (by decide)

/-- A panel with another group half gathered, one satellite of three used, a position between the
messages, one satellite sent twice and one in the last slot. -/
theorem whole_group_shown_of_stale_panel :
    let message (number : String) (entries : List String) : Sighting :=
      ⟨⟨.nmea, Bytes.ofString "$GPGSV"⟩, some ["GPGSV"],
        some ⟨.gsv, ["2", number, "03"] ++ entries⟩, .zero⟩
    let position : Sighting :=
      ⟨⟨.nmea, Bytes.ofString "$GPGGA"⟩, some ["GPGGA"],
        some ⟨.gga, ["", "", "", "", "", "1"]⟩, .zero⟩
    let stale : Satellite := ⟨7, "", "", ""⟩
    let p : Panel := { used := [9], skyView := [stale], group := [stale, stale] }
    let history :=
      [message "2" ["02", "17", "", "41", "", "", "", "", "9", "1", "", "", "30", "55", "270", "38"],
        position, message "1" ["02", "40", "083", "46"]]
    (∀ s ∈ sentences history, s.kind ≠ .gsa) ∧ Complete (onSky (sentences history)) ∧
      (p.after history).skyView =
        [⟨9, "1", "", ""⟩, ⟨2, "40", "083", "46"⟩, ⟨2, "17", "", "41"⟩, ⟨30, "55", "270", "38"⟩] ∧
      ∃ shown, Arranges p.used (satellitesIn (onSky (sentences history))) shown ∧
        (p.after history).skyView = shown.take satelliteRows := by
  intro message position stale p history
  have alone : ∀ s ∈ sentences history, s.kind ≠ .gsa := by decide +kernel
  have complete : Complete (onSky (sentences history)) := by decide +kernel
  have shown := (whole_group_shown p alone complete).1
  refine ⟨alone, complete, ?_, shown⟩
  rw [after_skyView, skyView_complete alone complete]
  exact viewOf_eq (by decide +kernel) (by decide)

end Panel
end GnssMonitor
