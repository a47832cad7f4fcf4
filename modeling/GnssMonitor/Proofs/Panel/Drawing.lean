import GnssMonitor.Desk.Switching
import GnssMonitor.Proofs.Act
import GnssMonitor.Proofs.Panel.Tags

/-! Where a panel draws. Rows of text are cut to the width of the window, but the tags one by one
are not: they have room by their joined length, which leaves the mark behind them one column
short. -/

namespace GnssMonitor

/-- What is put stays on the window that a panel gets. -/
def WindowOp.Within : WindowOp → Prop
  | .put row col text _ => row < Panel.height ∧ col + text.length ≤ Panel.width
  | .clear | .refresh => True

namespace Panel

variable {p : Panel} {op : WindowOp} {longest : Option String} {truncated : Bool} {col : Nat}
  {tags : List String}

/-- The column behind the tags and the blank after each. -/
def markColumn : List String → Nat
  | [] => 0
  | tag :: rest => tag.length + 1 + markColumn rest

/-- The mark that a tag did not fit. -/
def mark (tags : List String) : WindowOp := .put tagRow (markColumn tags) "..." false

/-- The tags take all the room for them, there were more, and they are shown one by one. -/
def Overhangs (p : Panel) : Prop :=
  p.longest.isSome ∧ p.truncated ∧ (joined p.tags).length + 1 = tagRoom

instance (p : Panel) : Decidable p.Overhangs := inferInstanceAs (Decidable (_ ∧ _ ∧ _))

theorem length_joined_singleton (tag : String) : (joined [tag]).length = tag.length := by
  simp [joined]

theorem length_joined_cons (tag next : String) (rest : List String) :
    (joined (tag :: next :: rest)).length = tag.length + 1 + (joined (next :: rest)).length := by
  rw [joined, String.intercalate_cons_cons, String.length_append, String.length_append]
  rfl

theorem markColumn_eq (some : tags ≠ []) : markColumn tags = (joined tags).length + 1 := by
  induction tags with
  | nil => contradiction
  | cons tag rest ih =>
    cases rest with
    | nil => rw [markColumn, markColumn, length_joined_singleton]
    | cons next rest =>
      rw [markColumn, ih (List.cons_ne_nil _ _), length_joined_cons]
      omega

/-- Each tag ends where the joined tags do or before. -/
theorem putTags_within (room : tags ≠ [] → col + (joined tags).length ≤ width)
    (there : op ∈ putTags longest truncated col tags) :
    op.Within ∨ truncated = true ∧ op = .put tagRow (col + markColumn tags) "..." false := by
  induction tags generalizing col with
  | nil =>
    cases truncated with
    | false => simp [putTags] at there
    | true => exact .inr ⟨rfl, by simpa [putTags, markColumn] using there⟩
  | cons tag rest ih =>
    have bound := room (List.cons_ne_nil _ _)
    obtain rfl | later := List.mem_cons.mp there
    · refine .inl ⟨by decide, ?_⟩
      cases rest with
      | nil => rwa [length_joined_singleton] at bound
      | cons next rest =>
        rw [length_joined_cons] at bound
        omega
    · have shifted : col + markColumn (tag :: rest) =
          col + tag.length + 1 + markColumn rest := by
        rw [markColumn]
        omega
      rw [shifted]
      refine ih (fun some => ?_) later
      obtain ⟨next, others, rfl⟩ := List.exists_cons_of_ne_nil some
      rw [length_joined_cons] at bound
      omega

theorem mark_mem_putTags : .put tagRow (col + markColumn tags) "..." false ∈
    putTags longest true col tags := by
  induction tags generalizing col with
  | nil => exact List.mem_singleton.mpr rfl
  | cons tag rest ih =>
    have shifted : col + markColumn (tag :: rest) = col + tag.length + 1 + markColumn rest := by
      rw [markColumn]
      omega
    rw [shifted, putTags]
    exact List.mem_cons_of_mem _ ih

theorem mem_draw : op ∈ p.draw ↔ op = .clear ∨ op = .refresh ∨
    ∃ row text, (text, row) ∈ (p.lines.take height).zipIdx ∧ op ∈ p.putLine row text := by
  simp only [draw, List.cons_append, List.mem_cons, List.mem_append, List.mem_flatMap,
    List.not_mem_nil, or_false, Prod.exists]
  constructor
  · rintro (cleared | ⟨text, row, line, there⟩ | refreshed)
    · exact .inl cleared
    · exact .inr (.inr ⟨row, text, line, there⟩)
    · exact .inr (.inl refreshed)
  · rintro (cleared | refreshed | ⟨row, text, line, there⟩)
    · exact .inl cleared
    · exact .inr (.inr refreshed)
    · exact .inr (.inl ⟨text, row, line, there⟩)

/-- Only the mark behind the tags may stand off the window. -/
theorem draw_within (room : (joined p.tags).length < tagRoom) (there : op ∈ p.draw) :
    op.Within ∨ (p.longest.isSome = true ∧ p.truncated = true) ∧ op = mark p.tags := by
  obtain rfl | rfl | ⟨row, text, line, there⟩ := mem_draw.mp there
  · exact .inl trivial
  · exact .inl trivial
  · have low : row < height := by
      have bound := (List.mem_zipIdx line).2.1
      rw [List.length_take] at bound
      omega
    unfold putLine at there
    split at there
    · rename_i shown
      have wide : p.tags ≠ [] → 0 + (joined p.tags).length ≤ width := by
        intro _
        simp only [tagRoom, width] at room ⊢
        omega
      obtain within | ⟨truncated, marked⟩ := putTags_within wide there
      · exact .inl within
      · rw [Nat.zero_add] at marked
        exact .inr ⟨⟨shown.2, truncated⟩, marked⟩
    · obtain rfl := List.mem_singleton.mp there
      refine .inl ⟨low, ?_⟩
      rw [String.length_ofList, List.length_take]
      omega

theorem mark_mem_draw (shown : p.longest.isSome = true) (truncated : p.truncated = true) :
    mark p.tags ∈ p.draw := by
  refine mem_draw.mpr (.inr (.inr ⟨tagRow, p.tagLine, ?_, ?_⟩))
  · exact List.mem_cons_of_mem _ List.mem_cons_self
  · have marked := @mark_mem_putTags p.longest 0 p.tags
    rw [putLine, if_pos ⟨rfl, shown⟩, truncated, mark]
    rwa [Nat.zero_add] at marked

theorem mark_within_iff (room : (joined tags).length < tagRoom) :
    (mark tags).Within ↔ (joined tags).length + 1 ≠ tagRoom := by
  have placed : (mark tags).Within ↔ markColumn tags + 3 ≤ width := and_iff_right (by decide)
  rw [placed]
  cases tags with
  | nil => decide
  | cons tag rest =>
    rw [markColumn_eq (List.cons_ne_nil _ _)]
    simp only [tagRoom, width] at room ⊢
    omega

theorem draw_within_iff (room : (joined p.tags).length < tagRoom) :
    (∀ op ∈ p.draw, op.Within) ↔ ¬ p.Overhangs := by
  constructor
  · rintro within ⟨shown, truncated, full⟩
    exact (mark_within_iff room).mp (within _ (mark_mem_draw shown truncated)) full
  · intro short op there
    obtain within | ⟨⟨shown, truncated⟩, rfl⟩ := draw_within room there
    · exact within
    · exact (mark_within_iff room).mpr fun full => short ⟨shown, truncated, full⟩

/-- The one thing that may not stay on the window goes beyond it by one column. -/
theorem draw_nearly_within (room : (joined p.tags).length < tagRoom) (there : op ∈ p.draw) :
    op.Within ∨ op = .put tagRow tagRoom "..." false := by
  obtain within | ⟨-, rfl⟩ := draw_within room there
  · exact .inl within
  · by_cases full : (joined p.tags).length + 1 = tagRoom
    · have some : p.tags ≠ [] := by
        intro none
        rw [none] at full
        exact absurd full (by decide)
      exact .inr (by rw [mark, markColumn_eq some, full])
    · exact .inl ((mark_within_iff room).mpr full)

end Panel

/-- The latest packet of a session as a panel gets to see it. -/
def Session.sighting (s : Session) (now : Binary64) : Sighting :=
  ⟨s.framer.last, s.fields, s.sentence, now⟩

namespace Desk

variable {h : Handler} {hasCommands : Bool} {d : Desk}

/-- The desk with another panel for a handler. -/
def withPanel (name : String) (p : Panel) (d : Desk) : Desk :=
  { d with panels := (name, p) :: d.panels.filter (·.1 != name) }

theorem setPanel_bind (name : String) (p : Panel) (x : Do Unit) :
    (do setPanel name p; x : Do Unit) d = x (d.withPanel name p) := rfl

theorem panel_withPanel (name : String) (p : Panel) (d : Desk) :
    (d.withPanel name p).panel name = p := by
  rw [withPanel, panel, List.find?_cons_of_pos (by simp)]
  rfl

theorem drawAll_on {w : Window} (window : d.surface.window = some w) (ops : List WindowOp) :
    drawAll ops d =
      ⟨.ok (), { d with surface.window := some (w.applyAll ops) }, ops.map .draw⟩ := by
  unfold drawAll
  rw [Act.get_bind, window]
  simp [bind, Act.emitAll]

/-- A panel takes in the packet, and with a window it draws all of itself if the packet has a
tag. -/
theorem showPacket_panel (shows : h.presentation = .panel hasCommands)
    (window : d.surface.window.isSome) (s : Session) :
    (showPacket h s d).state.panel h.name = (d.panel h.name).meet (s.sighting d.clock) ∧
      ∀ op, .draw op ∈ (showPacket h s d).effects ↔ (s.sighting d.clock).tag.isSome ∧
        op ∈ ((d.panel h.name).meet (s.sighting d.clock)).draw := by
  obtain ⟨w, there⟩ := Option.isSome_iff_exists.mp window
  have updates : h.hasUpdate = true := by rw [Handler.hasUpdate, shows]
  rw [showPacket, if_pos updates, Act.emit_bind, shows]
  dsimp only
  rw [Act.get_bind]
  cases tagged : (s.sighting d.clock).tag with
  | none =>
    have kept : (d.panel h.name).update s.framer.last s.fields s.sentence d.clock = none :=
      Panel.update_untagged tagged
    rw [kept, Panel.meet_untagged tagged]
    exact ⟨rfl, by simp⟩
  | some tag =>
    have taken : (d.panel h.name).update s.framer.last s.fields s.sentence d.clock =
        some ((d.panel h.name).meet (s.sighting d.clock)) := by
      rw [Panel.meet_tagged tagged]
      exact Panel.update_tagged tagged
    rw [taken]
    dsimp only
    rw [setPanel_bind, drawAll_on (d := d.withPanel h.name _) there]
    exact ⟨panel_withPanel h.name _ d, fun op => by simp⟩

/-- **A panel draws on its window only, but for the mark behind the tags.** That stands beyond the
edge by one column exactly when the tags take all their room, another did not fit and one of
them is shown as the longest awaited. -/
theorem panel_stays_on_window_iff (shows : h.presentation = .panel hasCommands)
    (window : d.surface.window.isSome) {now : Binary64} {history : List Sighting}
    (panel : d.panel h.name = (Panel.fresh now).after history) (s : Session) :
    let x := s.sighting d.clock
    let p := (Panel.fresh now).after (x :: history)
    let drawn := (showPacket h s d).effects
    ((∀ op, .draw op ∈ drawn → op.Within) ↔ ¬ (x.tag.isSome ∧ p.Overhangs)) ∧
      (∀ op, .draw op ∈ drawn →
        op.Within ∨ op = .put Panel.tagRow Panel.tagRoom "..." false) ∧
      (showPacket h s d).state.panel h.name = p := by
  intro x p drawn
  obtain ⟨left, draws⟩ := showPacket_panel shows window s
  rw [panel] at left draws
  have room : (Panel.joined p.tags).length < Panel.tagRoom := Panel.after_room now (x :: history)
  refine ⟨?_, fun op there => Panel.draw_nearly_within room ((draws op).mp there).2, left⟩
  constructor
  · rintro within ⟨tagged, overhangs⟩
    have all : ∀ op ∈ p.draw, op.Within := fun op there =>
      within op ((draws op).mpr ⟨tagged, there⟩)
    exact (Panel.draw_within_iff room).mp all overhangs
  · intro short op there
    obtain ⟨tagged, drawn⟩ := (draws op).mp there
    exact (Panel.draw_within_iff room).mpr (fun overhangs => short ⟨tagged, overhangs⟩) op drawn

/-- A sentence of this type and nothing in it. -/
def bareSentence (tag : String) : Sighting where
  packet := ⟨.nmea, Bytes.ofString s!"${tag}"⟩
  fields := some [tag]
  sentence := none
  now := .ofInt 1

/-- Thirteen types of five letters, which fill the room for tags. -/
def fullHouse : List String :=
  ["GPBWC", "GPDBT", "GPDPT", "GPGGA", "GPGLL", "GPGSA", "GPGST", "GPGSV", "GPHDM", "GPHDT",
    "GPRMC", "GPVTG", "GPZDA"]

/-- A desk with a window, whose panel has seen these types. -/
def fullDesk : Desk where
  hostname := "host"
  surface := { window := some [] }
  panels := [("NMEA0183",
    { tags := fullHouse, lastTick := .ofInt 1, longestInterval := .ofInt 1, longest := "GPBWC" })]

/-- A session that has just read a sentence of this type. -/
def bareSession (tag : String) : Session :=
  { Session.opened (.relay "host" "2947" none) with
    framer := { kind := .nmea, packet := Bytes.ofString s!"${tag}" }
    fields := some [tag] }

theorem panel_fullDesk : fullDesk.panel "NMEA0183" =
    (Panel.fresh .zero).after (fullHouse.reverse.map bareSentence) := by decide +kernel

/-- The room for tags is taken to the last column, and one of the tags is seen once more. -/
theorem panel_stays_on_window_of_full_house :
    let h := Handler.panelFor .nmea0183 false
    let s := bareSession "GPGGA"
    let p := (showPacket h s fullDesk).state.panel h.name
    (∃ history, fullDesk.panel h.name = (Panel.fresh .zero).after history) ∧
      (Panel.joined p.tags).length + 1 = Panel.tagRoom ∧ p.longest = some "GPBWC" ∧
      p.truncated = false ∧
      ∀ op, .draw op ∈ (showPacket h s fullDesk).effects → op.Within := by
  intro h s p
  have left : p = (fullDesk.panel h.name).meet (s.sighting fullDesk.clock) :=
    (showPacket_panel (h := h) (d := fullDesk) rfl rfl s).1
  obtain ⟨full, longest, whole⟩ : (Panel.joined p.tags).length + 1 = Panel.tagRoom ∧
      p.longest = some "GPBWC" ∧ p.truncated = false := by
    rw [left]
    decide +kernel
  obtain ⟨stays, -, same⟩ :=
    panel_stays_on_window_iff (h := h) (d := fullDesk) rfl rfl panel_fullDesk s
  refine ⟨⟨_, panel_fullDesk⟩, full, longest, whole, stays.mpr ?_⟩
  rintro ⟨-, -, truncated, -⟩
  rw [← same] at truncated
  exact absurd (truncated.symm.trans whole) (by decide)

/-- With one type more the mark is put on the columns from 78 to 80, and 79 is the last. -/
theorem panel_leaves_window :
    let h := Handler.panelFor .nmea0183 false
    let mark := WindowOp.put 1 78 "..." false
    (∃ history, fullDesk.panel h.name = (Panel.fresh .zero).after history) ∧
      .draw mark ∈ (showPacket h (bareSession "GPXTE") fullDesk).effects ∧ ¬ mark.Within := by
  intro h mark
  let p := (fullDesk.panel h.name).meet ((bareSession "GPXTE").sighting fullDesk.clock)
  obtain ⟨shown, truncated, marked⟩ : p.longest.isSome = true ∧ p.truncated = true ∧
      mark = Panel.mark p.tags := by decide +kernel
  have there : mark ∈ p.draw := by
    rw [marked]
    exact Panel.mark_mem_draw shown truncated
  have drawn := (showPacket_panel (h := h) (d := fullDesk) rfl rfl (bareSession "GPXTE")).2 mark
  exact ⟨⟨_, panel_fullDesk⟩, drawn.mpr ⟨by decide +kernel, there⟩,
    fun within => absurd within.2 (by decide)⟩

end Desk
end GnssMonitor
