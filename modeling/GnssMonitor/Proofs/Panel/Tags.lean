import GnssMonitor.Proofs.Panel.History

/-! The tags that a panel lists over a history of packets: all that were seen, until one of them
does not fit. From then on the list stays as it is. -/

namespace GnssMonitor

namespace Panel

/-- The tags of a history, each once, in order of first appearance. -/
def seen (history : List Sighting) : List String :=
  (history.filterMap Sighting.tag).reverse.eraseDups

/-- With this packet comes a new tag, which does not fit behind those seen before. -/
def Overfills (x : Sighting) (earlier : List Sighting) : Prop :=
  ∃ tag, x.tag = some tag ∧ tag ∉ seen earlier ∧
    tagRoom ≤ (joined (seen earlier ++ [tag])).length

variable {p : Panel} {x : Sighting} {tag : String} {history : List Sighting}

theorem seen_untagged (untagged : x.tag = none) : seen (x :: history) = seen history := by
  rw [seen, List.filterMap_cons_none untagged]
  rfl

/-- A tag that was seen before is passed over, and a new one comes last. -/
theorem seen_tagged (tagged : x.tag = some tag) : seen (x :: history) =
    if tag ∈ seen history then seen history else seen history ++ [tag] := by
  have known : tag ∈ seen history ↔ tag ∈ (history.filterMap Sighting.tag).reverse :=
    List.mem_eraseDups
  rw [seen, List.filterMap_cons_some tagged, List.reverse_cons, List.eraseDups_append]
  split
  · rename_i again
    have none : [tag].removeAll (history.filterMap Sighting.tag).reverse = [] := by
      simpa [List.removeAll] using known.mp again
    rw [none]
    exact List.append_nil _
  · rename_i new
    have one : [tag].removeAll (history.filterMap Sighting.tag).reverse = [tag] := by
      simpa [List.removeAll] using fun again => new (known.mpr again)
    rw [one]
    rfl

theorem seen_nodup (history : List Sighting) : (seen history).Nodup := by
  induction history with
  | nil => exact List.nodup_nil
  | cons x earlier ih =>
    cases tagged : x.tag with
    | none => rwa [seen_untagged tagged]
    | some tag =>
      rw [seen_tagged tagged]
      split
      · exact ih
      · rename_i new
        have apart : ∀ t ∈ seen earlier, ∀ u ∈ [tag], t ≠ u := by
          intro t there u last same
          rw [same, List.mem_singleton.mp last] at there
          exact new there
        exact List.nodup_append.mpr ⟨ih, List.pairwise_singleton _ tag, apart⟩

theorem noteTag_known (known : tag ∈ p.tags) : p.noteTag tag = p := if_pos (.inl known)

theorem noteTag_cut (cut : p.truncated = true) : p.noteTag tag = p := if_pos (.inr cut)

section New

variable (new : tag ∉ p.tags) (whole : p.truncated = false)
include new whole

theorem noteTag_fits (fits : (joined (p.tags ++ [tag])).length < tagRoom) :
    p.noteTag tag = { p with tags := p.tags ++ [tag] } := by
  rw [noteTag, if_neg (by simp [new, whole]), if_pos fits]

theorem noteTag_full (full : tagRoom ≤ (joined (p.tags ++ [tag])).length) :
    p.noteTag tag = { p with truncated := true } := by
  rw [noteTag, if_neg (by simp [new, whole]), if_neg (Nat.not_lt_of_le full)]

end New

/-- What else a packet tells does not touch the tags. -/
theorem meet_noteTag (tagged : x.tag = some tag) :
    (p.meet x).tags = (p.noteTag tag).tags ∧
      (p.meet x).truncated = (p.noteTag tag).truncated := by
  obtain ⟨_, _, _, _, met⟩ := meet_frame (p := p) tagged
  obtain ⟨_, _, timed⟩ := noteTime_frame tag x.now (p.noteTag tag)
  rw [met, timed]
  exact ⟨rfl, rfl⟩

theorem meet_cut (cut : p.truncated = true) (x : Sighting) :
    (p.meet x).tags = p.tags ∧ (p.meet x).truncated = true := by
  cases tagged : x.tag with
  | none =>
    rw [meet_untagged tagged]
    exact ⟨rfl, cut⟩
  | some tag =>
    obtain ⟨tags, truncated⟩ := meet_noteTag (p := p) tagged
    rw [noteTag_cut cut] at tags truncated
    exact ⟨tags, truncated.trans cut⟩

theorem after_cut (cut : p.truncated = true) (later : List Sighting) :
    (p.after later).tags = p.tags ∧ (p.after later).truncated = true := by
  induction later with
  | nil => exact ⟨rfl, cut⟩
  | cons x earlier ih =>
    obtain ⟨tags, truncated⟩ := meet_cut ih.2 x
    exact ⟨tags.trans ih.1, truncated⟩

/-- A panel lists the tags of a history: all of them, or those before the first that did not
fit. -/
inductive Lists (history : List Sighting) (p : Panel) : Prop
  | whole (tags : p.tags = seen history) (whole : p.truncated = false)
      (room : (joined (seen history)).length < tagRoom)
  | cut (later : List Sighting) {earlier : List Sighting} {x : Sighting}
      (split : history = later ++ x :: earlier) (first : Overfills x earlier)
      (tags : p.tags = seen earlier) (cut : p.truncated = true)
      (room : (joined (seen earlier)).length < tagRoom)

/-- With a list that is not cut yet, a new tag that does not fit cuts it. -/
theorem meet_overfilled (tags : p.tags = seen history) (whole : p.truncated = false)
    (overfills : Overfills x history) :
    (p.meet x).tags = p.tags ∧ (p.meet x).truncated = true := by
  obtain ⟨tag, tagged, new, full⟩ := overfills
  obtain ⟨tags', truncated'⟩ := meet_noteTag (p := p) tagged
  rw [← tags] at new full
  rw [noteTag_full new whole full] at tags' truncated'
  exact ⟨tags', truncated'⟩

/-- Any other tag leaves it whole. -/
theorem meet_fitting (tags : p.tags = seen history) (whole : p.truncated = false)
    (room : (joined (seen history)).length < tagRoom) (fitting : ¬ Overfills x history) :
    Lists (x :: history) (p.meet x) := by
  cases tagged : x.tag with
  | none =>
    rw [meet_untagged tagged]
    rw [← seen_untagged tagged] at tags room
    exact .whole tags whole room
  | some tag =>
    obtain ⟨tags', truncated'⟩ := meet_noteTag (p := p) tagged
    by_cases known : tag ∈ seen history
    · have same : seen (x :: history) = seen history := by rw [seen_tagged tagged, if_pos known]
      rw [noteTag_known (tags ▸ known)] at tags' truncated'
      exact .whole (by rw [tags', tags, same]) (truncated'.trans whole) (by rwa [same])
    · have more : seen (x :: history) = seen history ++ [tag] := by
        rw [seen_tagged tagged, if_neg known]
      have fits : (joined (seen history ++ [tag])).length < tagRoom :=
        Nat.lt_of_not_le fun full => fitting ⟨tag, tagged, known, full⟩
      rw [noteTag_fits (tags ▸ known) whole (tags ▸ fits)] at tags' truncated'
      exact .whole (by rw [tags', tags, more]) (truncated'.trans whole) (by rwa [more])

theorem Lists.meet (lists : Lists history p) (x : Sighting) :
    Lists (x :: history) (p.meet x) := by
  cases lists with
  | cut later split first tags cut room =>
    obtain ⟨same, cut⟩ := meet_cut cut x
    exact .cut (x :: later) (congrArg (x :: ·) split) first (same.trans tags) cut room
  | whole tags whole room =>
    by_cases overfills : Overfills x history
    · obtain ⟨same, cut⟩ := meet_overfilled tags whole overfills
      exact .cut [] rfl overfills (same.trans tags) cut room
    · exact meet_fitting tags whole room overfills

theorem after_lists (start : Binary64) (history : List Sighting) :
    Lists history ((fresh start).after history) := by
  induction history with
  | nil => exact .whole rfl rfl (by decide)
  | cons x earlier ih => exact ih.meet x

/-- The tags keep to the room for them. -/
theorem after_room (start : Binary64) (history : List Sighting) :
    (joined ((fresh start).after history).tags).length < tagRoom := by
  cases after_lists start history with
  | whole tags _ room => rwa [tags]
  | cut _ _ _ tags _ room => rwa [tags]

/-- Whether the list is whole or cut, a new tag that does not fit leaves it cut. -/
theorem Lists.overfilled (lists : Lists history p) (overfills : Overfills x history) :
    (p.meet x).tags = p.tags ∧ (p.meet x).truncated = true := by
  cases lists with
  | whole tags whole => exact meet_overfilled tags whole overfills
  | cut _ _ _ _ cut => exact meet_cut cut x

/-- **The list of tags is exact until it is full.** As long as it is whole it holds the tags seen
since the panel began, each once, in order of first appearance, and there is room for them. The
first new tag that does not fit cuts it. From then on nothing is added, also no shorter tag, until
the panel begins anew. -/
theorem tags_exact_until_full (start : Binary64) (history : List Sighting) :
    let p := (fresh start).after history
    p.tags.Nodup ∧ (joined p.tags).length < tagRoom ∧
      (p.truncated = false → p.tags = seen history) ∧
      (p.truncated = true ↔ ∃ x earlier, x :: earlier <:+ history ∧ Overfills x earlier) ∧
      (∀ x, Overfills x history → (p.meet x).tags = p.tags ∧ (p.meet x).truncated = true) ∧
      (p.truncated = true →
        ∀ later, (p.after later).tags = p.tags ∧ (p.after later).truncated = true) := by
  intro p
  have lists : Lists history p := after_lists start history
  refine ⟨?_, after_room start history, ?_, ⟨?_, ?_⟩, fun x => lists.overfilled, after_cut⟩
  · cases lists with
    | whole tags | cut _ _ _ tags => exact tags ▸ seen_nodup _
  · intro whole
    cases lists with
    | whole tags => exact tags
    | cut _ _ _ _ cut => exact absurd (cut.symm.trans whole) (by decide)
  · intro cut
    cases lists with
    | whole _ whole => exact absurd (cut.symm.trans whole) (by decide)
    | cut later split first => exact ⟨_, _, ⟨later, split.symm⟩, first⟩
  · rintro ⟨x, earlier, ⟨later, rfl⟩, overfills⟩
    have cut : (((fresh start).after earlier).meet x).truncated = true :=
      ((after_lists start earlier).overfilled overfills).2
    have stays := (after_cut cut later).2
    rwa [← after, ← after_append] at stays

/-- Two tags take 11 columns, so that one of 66 letters does not fit behind them and a blank, and
keeps all others out. -/
theorem tags_exact_until_full_of_long_tag :
    let sentence (tag : String) : Sighting :=
      ⟨⟨.nmea, Bytes.ofString s!"${tag}"⟩, some [tag], none, .zero⟩
    let message : Sighting := ⟨⟨.sirf, [0xa0, 0xa2, 0x00, 0x01, 0x29]⟩, none, none, .zero⟩
    let long := sentence (String.ofList (List.replicate 66 'X'))
    let history := [sentence "GPRMC", message, sentence "GPRMC"]
    let p := (fresh .zero).after history
    let full := (fresh .zero).after (long :: history)
    p.truncated = false ∧ p.tags = seen history ∧ seen history = ["GPRMC", "MID41"] ∧
      Overfills long history ∧ full.truncated = true ∧ full.tags = p.tags ∧
      (full.after [sentence "GPGGA"]).tags = ["GPRMC", "MID41"] := by
  intro sentence message long history p full
  have whole : p.truncated = false := by decide +kernel
  have listed : seen history = ["GPRMC", "MID41"] := by decide +kernel
  have tagged : long.tag = some (String.ofList (List.replicate 66 'X')) := by decide +kernel
  have overfills : Overfills long history := by
    refine ⟨_, tagged, ?_, ?_⟩ <;> rw [listed] <;> decide +kernel
  obtain ⟨-, -, exact', -, cuts, -⟩ := tags_exact_until_full .zero history
  obtain ⟨-, -, -, -, -, stays⟩ := tags_exact_until_full .zero (long :: history)
  obtain ⟨same, cut⟩ := cuts long overfills
  refine ⟨whole, exact' whole, listed, overfills, cut, same, ?_⟩
  calc (full.after [sentence "GPGGA"]).tags
    _ = full.tags := (stays cut _).1
    _ = p.tags := same
    _ = ["GPRMC", "MID41"] := (exact' whole).trans listed

end Panel
end GnssMonitor
