import GnssMonitor.Panel

/-! A panel that is shown one packet after another, and the sentences among them that it looks into:
only these say anything of the sky. Histories are told with the latest packet first. -/

namespace GnssMonitor

/-- A packet as the panel gets to see it: with what was read in it, and at what time. -/
structure Sighting where
  packet : Packet
  fields : Option (List String)
  sentence : Option Sentence
  now : Binary64

namespace Sighting

def tag (x : Sighting) : Option String := Panel.tagOf x.packet x.fields

/-- The sentence that the panel looks into, if there is one. -/
def read? (x : Sighting) : Option Sentence :=
  if x.tag.isSome ∧ x.packet.kind = .nmea then x.sentence else none

theorem read?_untagged {x : Sighting} (untagged : x.tag = none) : x.read? = none := by
  simp [read?, untagged]

end Sighting

namespace Panel

/-- The panel after a packet, which is the one before if the packet has no tag. -/
def meet (p : Panel) (x : Sighting) : Panel :=
  (p.update x.packet x.fields x.sentence x.now).getD p

/-- The panel after a history. -/
def after (p : Panel) : List Sighting → Panel
  | [] => p
  | x :: earlier => (p.after earlier).meet x

/-- The sentences of a history that the panel looks into. -/
def sentences (history : List Sighting) : List Sentence := history.filterMap Sighting.read?

/-- The panel after sentences that it looks into. -/
def afterTold (p : Panel) : List Sentence → Panel
  | [] => p
  | s :: earlier => (p.afterTold earlier).noteSentence s

variable {p q : Panel} {x : Sighting} {tag : String}

theorem after_append (p : Panel) (later earlier : List Sighting) :
    p.after (later ++ earlier) = (p.after earlier).after later := by
  induction later with
  | nil => rfl
  | cons x later ih => rw [List.cons_append, after, ih, after]

theorem update_untagged (untagged : x.tag = none) :
    p.update x.packet x.fields x.sentence x.now = none := by
  rw [Sighting.tag] at untagged
  rw [update, untagged, Option.map_none]

theorem update_tagged (tagged : x.tag = some tag) :
    p.update x.packet x.fields x.sentence x.now =
      some (x.read?.elim ((p.noteTag tag).noteTime tag x.now)
        ((p.noteTag tag).noteTime tag x.now).noteSentence) := by
  have seen : x.read? = if x.packet.kind = .nmea then x.sentence else none := by
    simp [Sighting.read?, tagged]
  rw [Sighting.tag] at tagged
  rw [update, tagged, Option.map_some, seen]
  cases kind : x.packet.kind <;> cases x.sentence <;> rfl

theorem meet_untagged (untagged : x.tag = none) : p.meet x = p := by
  rw [meet, update_untagged untagged, Option.getD_none]

theorem meet_tagged (tagged : x.tag = some tag) :
    p.meet x = x.read?.elim ((p.noteTag tag).noteTime tag x.now)
      ((p.noteTag tag).noteTime tag x.now).noteSentence := by
  rw [meet, update_tagged tagged, Option.getD_some]

/-- What is known of the sky is the same. -/
structure SameSky (p q : Panel) : Prop where
  used : p.used = q.used
  group : p.group = q.group
  skyView : p.skyView = q.skyView

theorem SameSky.trans {r : Panel} (h : SameSky p q) (h' : SameSky q r) : SameSky p r :=
  ⟨h.used.trans h'.used, h.group.trans h'.group, h.skyView.trans h'.skyView⟩

/-- A tag is noted apart from all else. -/
theorem noteTag_frame (tag : String) (p : Panel) :
    ∃ tags truncated, p.noteTag tag = { p with tags, truncated } := by
  unfold noteTag
  split
  · exact ⟨_, _, rfl⟩
  · split <;> exact ⟨_, _, rfl⟩

/-- So is the time of a packet. -/
theorem noteTime_frame (tag : String) (now : Binary64) (p : Panel) :
    ∃ longestInterval longest,
      p.noteTime tag now = { p with lastTick := now, longestInterval, longest } := by
  unfold noteTime
  extract_lets interval q
  have noted : ∃ longestInterval longest, q = { p with longestInterval, longest } := by
    unfold q
    split <;> exact ⟨_, _, rfl⟩
  obtain ⟨longestInterval, longest, same⟩ := noted
  exact ⟨longestInterval, longest, by rw [same]⟩

theorem noteTag_sameSky (tag : String) (p : Panel) : SameSky (p.noteTag tag) p := by
  obtain ⟨_, _, same⟩ := noteTag_frame tag p
  rw [same]
  exact ⟨rfl, rfl, rfl⟩

theorem noteTime_sameSky (tag : String) (now : Binary64) (p : Panel) :
    SameSky (p.noteTime tag now) p := by
  obtain ⟨_, _, same⟩ := noteTime_frame tag now p
  rw [same]
  exact ⟨rfl, rfl, rfl⟩

/-- The group with the satellites of one more message. -/
def gathered (p : Panel) (s : Sentence) : List Satellite :=
  (if s.field 1 = "1" then [] else p.group) ++ satellitesOf s

theorem noteGsv_closing {s : Sentence} (closing : s.field 1 = s.field 0) (p : Panel) :
    noteGsv s p = { p with
      group := sortSatellites p.used (p.gathered s)
      skyView := (sortSatellites p.used (p.gathered s)).take satelliteRows } := by
  rw [noteGsv, if_pos closing]
  rfl

theorem noteGsv_open {s : Sentence} (unfinished : s.field 1 ≠ s.field 0) (p : Panel) :
    noteGsv s p = { p with group := p.gathered s } := by
  rw [noteGsv, if_neg unfinished]
  rfl

theorem SameSky.noteGsv (h : SameSky p q) (s : Sentence) :
    SameSky (Panel.noteGsv s p) (Panel.noteGsv s q) := by
  have gathered : p.gathered s = q.gathered s := by rw [Panel.gathered, Panel.gathered, h.group]
  by_cases closing : s.field 1 = s.field 0
  · rw [noteGsv_closing closing, noteGsv_closing closing, gathered, h.used]
    exact ⟨rfl, rfl, rfl⟩
  · rw [noteGsv_open closing, noteGsv_open closing, gathered]
    exact ⟨h.used, rfl, h.skyView⟩

/-- A sentence says nothing of tags and times. -/
theorem noteSentence_frame (s : Sentence) (p : Panel) :
    ∃ fix used skyView group, p.noteSentence s = { p with fix, used, skyView, group } := by
  unfold Panel.noteSentence
  cases s.kind with
  | rmc | gga | gsa | other => exact ⟨_, _, _, _, rfl⟩
  | gsv =>
    by_cases closing : s.field 1 = s.field 0
    · exact ⟨_, _, _, _, noteGsv_closing closing p⟩
    · exact ⟨_, _, _, _, noteGsv_open closing p⟩

/-- A tagged packet: its tag and its time are noted, and then what a sentence says besides. -/
theorem meet_frame (tagged : x.tag = some tag) : ∃ fix used skyView group,
    p.meet x = { (p.noteTag tag).noteTime tag x.now with fix, used, skyView, group } := by
  rw [meet_tagged tagged]
  cases x.read? with
  | none => exact ⟨_, _, _, _, rfl⟩
  | some s => exact noteSentence_frame s _

/-- What a sentence makes of the sky goes by what was known of it before. -/
theorem SameSky.noteSentence (h : SameSky p q) (s : Sentence) :
    SameSky (p.noteSentence s) (q.noteSentence s) := by
  unfold Panel.noteSentence
  cases s.kind with
  | rmc | gga => exact ⟨h.used, h.group, h.skyView⟩
  | gsa => exact ⟨rfl, h.group, h.skyView⟩
  | gsv => exact h.noteGsv s
  | other => exact h

theorem meet_sameSky (h : SameSky p q) (x : Sighting) :
    SameSky (p.meet x) (x.read?.elim q q.noteSentence) := by
  cases tagged : x.tag with
  | none =>
    rw [meet_untagged tagged, Sighting.read?_untagged tagged]
    exact h
  | some tag =>
    have seen := (noteTime_sameSky tag x.now _).trans ((noteTag_sameSky tag p).trans h)
    rw [meet_tagged tagged]
    cases x.read? with
    | none => exact seen
    | some s => exact seen.noteSentence s

/-- Of the sky a panel knows what the sentences among the packets said. -/
theorem after_sameSky (p : Panel) (history : List Sighting) :
    SameSky (p.after history) (p.afterTold (sentences history)) := by
  induction history with
  | nil => exact ⟨rfl, rfl, rfl⟩
  | cons x earlier ih =>
    have met := meet_sameSky ih x
    rw [after, sentences, List.filterMap_cons]
    cases read : x.read? with
    | none =>
      rw [read] at met
      exact met
    | some s =>
      rw [read] at met
      exact met

end Panel
end GnssMonitor
