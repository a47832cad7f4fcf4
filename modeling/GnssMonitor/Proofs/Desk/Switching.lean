import GnssMonitor.Desk.Switching
import GnssMonitor.Proofs.Act

/-! What a change of handlers does: which parts of the desk it touches, and that it fails only
when the registry has no handler. -/

namespace GnssMonitor.Desk

open Act (Obeys Answers)

/-- What the display gets to see of a handler. -/
def isShown : Effect → Bool
  | .hook .. | .draw _ | .clear | .layout _ | .status _ => true
  | _ => false

/-- A handler has its window and its panel to itself. -/
def OnlyShows (d : Desk) (es : List Effect) (d' : Desk) : Prop :=
  (∃ window panels, d' = { d with surface.window := window, panels }) ∧
    ∀ e ∈ es, isShown e = true

instance : Act.Composes OnlyShows where
  nothing d := ⟨⟨d.surface.window, d.panels, rfl⟩, by simp⟩
  next := by
    rintro d _ _ es es' ⟨⟨_, _, rfl⟩, shown⟩ ⟨⟨_, _, rfl⟩, shown'⟩
    exact ⟨⟨_, _, rfl⟩, fun e he => (List.mem_append.mp he).elim (shown e) (shown' e)⟩

theorem hook_shows (name : String) (call : HookCall) (d : Desk) :
    Obeys OnlyShows d (Act.emit (.hook name call)) :=
  ⟨⟨_, _, rfl⟩, by simp [isShown]⟩

theorem drawAll_shows (ops : List WindowOp) (d : Desk) : Obeys OnlyShows d (drawAll ops) := by
  unfold drawAll
  refine .get_bind ?_
  split
  · exact Act.obeys_pure ()
  · have drawn : Obeys OnlyShows d (Act.emitAll (ops.map .draw)) :=
      ⟨⟨_, _, rfl⟩, by simp [Act.emitAll, isShown]⟩
    exact drawn.bind fun _ _ => ⟨⟨_, _, rfl⟩, by simp⟩

theorem setPanel_shows (name : String) (p : Panel) (d : Desk) :
    Obeys OnlyShows d (setPanel name p) :=
  ⟨⟨_, _, rfl⟩, by simp [setPanel]⟩

theorem leave_shows (h : Handler) (d : Desk) : Obeys OnlyShows d (leave h) := by
  unfold leave
  split
  · refine (hook_shows _ _ d).bind fun _ _ => ?_
    split
    · exact drawAll_shows _ _
    · exact Act.obeys_pure ()
  · exact Act.obeys_pure ()

theorem enter_shows (h : Handler) (d : Desk) : Obeys OnlyShows d (enter h) := by
  unfold enter
  split
  · exact Act.obeys_pure true
  · refine (hook_shows _ _ d).bind fun _ _ => ?_
    split
    · refine .get_bind ((setPanel_shows _ _ _).bind fun _ _ => Act.obeys_pure _)
    · exact Act.obeys_pure _

theorem showPacket_shows (h : Handler) (s : Session) (d : Desk) :
    Obeys OnlyShows d (showPacket h s) := by
  unfold showPacket
  split
  · refine (hook_shows _ _ d).bind fun _ _ => ?_
    split
    · refine .get_bind ?_
      split
      · exact Act.obeys_pure ()
      · exact (setPanel_shows _ _ _).bind fun _ _ => drawAll_shows _ _
    · exact Act.obeys_pure ()
  · exact Act.obeys_pure ()

theorem drawAll_answers (ops : List WindowOp) : Answers (drawAll ops) := by
  refine Act.answers_get.bind fun d => ?_
  split
  · exact Act.answers_pure ()
  · exact Answers.bind (fun d => ⟨(), rfl⟩) fun _ => Act.answers_modify _

theorem leave_answers (h : Handler) : Answers (leave h) := by
  unfold leave
  split
  · refine (Act.answers_emit _).bind fun _ => ?_
    split
    · exact drawAll_answers _
    · exact Act.answers_pure ()
  · exact Act.answers_pure ()

theorem enter_answers (h : Handler) : Answers (enter h) := by
  unfold enter
  split
  · exact Act.answers_pure true
  · refine (Act.answers_emit _).bind fun _ => ?_
    split
    · refine Act.answers_get.bind fun d => ?_
      exact (Act.answers_modify _).bind fun _ => Act.answers_pure _
    · exact Act.answers_pure _

theorem showPacket_answers (h : Handler) (s : Session) : Answers (showPacket h s) := by
  unfold showPacket
  split
  · refine (Act.answers_emit _).bind fun _ => ?_
    split
    · refine Act.answers_get.bind fun d => ?_
      split
      · exact Act.answers_pure ()
      · exact (Act.answers_modify _).bind fun _ => drawAll_answers _
    · exact Act.answers_pure ()
  · exact Act.answers_pure ()

/-- The complaint that there is no handler. -/
def Unmatched : Effect → Prop
  | .complain text => "No monitor matches".toList <+: text.toList
  | _ => False

/-- What the operator gets to see and to hear of a change to the handler of a receiver. -/
inductive Switching (registry : Registry) (r : Receiver) : Effect → Prop
  | shown {e : Effect} (h : isShown e = true) : Switching registry r e
  | notStarted : Switching registry r (.complain "Internal initialization failed.")
  | noRoom {h : Handler} (known : h ∈ registry) :
      Switching registry r (.complain s!"{h.name} requires {h.columns}x{h.rows + 1} screen")
  | unmatched (unknown : registry.resolve r.name = none) :
      Switching registry r (.complain s!"No monitor matches {r.name}.")

/-- Apart from what handlers have to themselves, only the choice among the handlers of the
registry changes. -/
def OnlySwitches (r : Receiver) (d : Desk) (es : List Effect) (d' : Desk) : Prop :=
  (∃ active window panels lastKind,
    d' = { d with active, surface.window := window, panels, lastKind } ∧
      (active = d.active ∨ ∃ h ∈ d.registry, active = some h)) ∧
    ∀ e ∈ es, Switching d.registry r e

instance (r : Receiver) : Act.Composes (OnlySwitches r) where
  nothing d := ⟨⟨_, _, _, _, rfl, .inl rfl⟩, by simp⟩
  next := by
    rintro d _ _ es es' ⟨⟨active, _, _, _, rfl, chosen⟩, heard⟩
      ⟨⟨_, _, _, _, rfl, chosen'⟩, heard'⟩
    refine ⟨⟨_, _, _, _, rfl, ?_⟩, fun e he => (List.mem_append.mp he).elim (heard e) (heard' e)⟩
    obtain rfl | known := chosen'
    · exact chosen
    · exact .inr known

variable {r : Receiver}

theorem OnlyShows.switches {d d' : Desk} {es : List Effect} (h : OnlyShows d es d') :
    OnlySwitches r d es d' := by
  obtain ⟨⟨_, _, rfl⟩, shown⟩ := h
  exact ⟨⟨_, _, _, _, rfl, .inl rfl⟩, fun e he => .shown (shown e he)⟩

theorem complain_switches {d : Desk} {text : String}
    (h : Switching d.registry r (.complain text)) : Obeys (OnlySwitches r) d (complain text) :=
  ⟨⟨_, _, _, _, rfl, .inl rfl⟩, by simpa [complain] using h⟩

theorem OnlySwitches.registry {d d' : Desk} {es : List Effect} (h : OnlySwitches r d es d') :
    d'.registry = d.registry := by
  obtain ⟨⟨_, _, _, _, rfl, _⟩, _⟩ := h
  rfl

theorem shown_switches {d : Desk} {e : Effect} (h : isShown e = true) :
    Obeys (OnlySwitches r) d (Act.emit e) :=
  ⟨⟨_, _, _, _, rfl, .inl rfl⟩, by simpa using .shown h⟩

theorem layOut_switches (rows : Int) (d : Desk) : Obeys (OnlySwitches r) d (layOut rows) :=
  ⟨⟨_, _, _, _, rfl, .inl rfl⟩, by simpa [layOut] using .shown rfl⟩

theorem occupy_switches {h : Handler} {d : Desk} (known : h ∈ d.registry) (s : Session) :
    Obeys (OnlySwitches r) d (occupy h s) := by
  have chosen : Obeys (OnlySwitches r) d (modify fun d => { d with active := some h }) :=
    ⟨⟨_, _, _, _, rfl, .inr ⟨h, known, rfl⟩⟩, by simp⟩
  refine chosen.bind fun _ _ => (shown_switches rfl).bind fun _ _ => ?_
  refine (layOut_switches _ _).bind fun _ _ => ?_
  refine Obeys.bind (enter_shows h _).switches fun answer _ => ?_
  cases answer with
  | true => exact .get_bind (shown_switches rfl)
  | false => exact (complain_switches .notStarted).bind fun _ _ => .get_bind (shown_switches rfl)

theorem install_switches {h : Handler} {d : Desk} (known : h ∈ d.registry) (s : Session) :
    Obeys (OnlySwitches r) d (install h s) := by
  refine .get_bind ?_
  cases d.active with
  | none => exact occupy_switches known s
  | some old =>
    have left := (leave_shows old d).switches (r := r)
    exact Obeys.bind left fun _ _ => occupy_switches (left.registry.symm ▸ known) s

theorem resolve_mem {registry : Registry} {name : String} {h : Handler}
    (found : registry.resolve name = some h) : h ∈ registry := List.mem_of_find?_eq_some found

theorem switchTo_switches (s : Session) (d : Desk) :
    Obeys (OnlySwitches r) d (switchTo r s) := by
  refine .get_bind ?_
  cases found : d.registry.resolve r.name with
  | none => exact (complain_switches (.unmatched found)).bind fun _ _ => Act.obeys_pure false
  | some h =>
    have known := resolve_mem found
    dsimp only
    split
    · exact (install_switches known s).bind fun _ _ => Act.obeys_pure true
    · exact (complain_switches (.noRoom known)).bind fun _ _ => Act.obeys_pure true

theorem follow_switches (s : Session) (d : Desk) :
    Obeys (OnlySwitches (d.target s)) d (follow s) := by
  refine .get_bind ?_
  split
  · exact Act.obeys_pure true
  · exact switchTo_switches s d

theorem present_shows (s : Session) (d : Desk) : Obeys OnlyShows d (present s) := by
  refine .get_bind ?_
  split
  · split
    · exact Act.obeys_pure ()
    · exact showPacket_shows _ s d
  · exact Act.obeys_pure ()

theorem select_switches (s : Session) (d : Desk) :
    Obeys (OnlySwitches (d.target s)) d (select s) := by
  refine (follow_switches s d).bind fun ready _ => ?_
  cases ready with
  | false => exact Act.obeys_pure false
  | true =>
    have noted : ∀ d', Obeys (OnlySwitches (d.target s)) d'
        (modify fun d => { d with lastKind := s.framer.kind }) :=
      fun d' => ⟨⟨_, _, _, _, rfl, .inl rfl⟩, by simp⟩
    refine (noted _).bind fun _ _ => Obeys.bind (present_shows s _).switches fun _ _ => ?_
    exact Act.obeys_pure true

theorem occupy_answers (h : Handler) (s : Session) : Answers (occupy h s) := by
  refine (Act.answers_modify _).bind fun _ => (Act.answers_emit _).bind fun _ => ?_
  refine Answers.bind (fun d => ⟨(), rfl⟩) fun _ => (enter_answers h).bind fun answer => ?_
  cases answer with
  | true => exact Act.answers_get.bind fun _ => Act.answers_emit _
  | false =>
    refine (Act.answers_emit _).bind fun _ => ?_
    exact Act.answers_get.bind fun _ => Act.answers_emit _

theorem install_answers (h : Handler) (s : Session) : Answers (install h s) := by
  refine Act.answers_get.bind fun d => ?_
  split
  · exact (leave_answers _).bind fun _ => occupy_answers h s
  · exact occupy_answers h s

theorem present_answers (s : Session) : Answers (present s) := by
  refine Act.answers_get.bind fun d => ?_
  split
  · split
    · exact Act.answers_pure ()
    · exact showPacket_answers _ s
  · exact Act.answers_pure ()

/-- A change of handlers fails only when there is none. -/
theorem switchTo_value (r : Receiver) (s : Session) (d : Desk) :
    (switchTo r s d).value = .ok (d.registry.resolve r.name).isSome := by
  unfold switchTo
  simp only [Act.get_bind]
  cases d.registry.resolve r.name with
  | none => rfl
  | some h =>
    dsimp only
    split
    · obtain ⟨_, done⟩ := install_answers h s d
      rw [Act.bind_ok done]
      rfl
    · rfl

theorem follow_value (s : Session) (d : Desk) : (follow s d).value =
    .ok (s.framer.kind = d.lastKind || (d.registry.resolve (d.target s).name).isSome) := by
  unfold follow
  simp only [Act.get_bind]
  by_cases same : s.framer.kind = d.lastKind
  · simp [same]
  · simp [same, switchTo_value]

/-- A selection fails only when it needs a handler that there is none of. -/
theorem select_value (s : Session) (d : Desk) : (select s d).value =
    .ok (s.framer.kind = d.lastKind || (d.registry.resolve (d.target s).name).isSome) := by
  rw [← follow_value]
  obtain ⟨ready, followed⟩ : ∃ ready, (follow s d).value = .ok ready := ⟨_, follow_value s d⟩
  rw [select, Act.bind_ok followed, followed]
  cases ready with
  | false => rfl
  | true =>
    obtain ⟨_, shown⟩ := present_answers s { (follow s d).state with lastKind := s.framer.kind }
    simp only [if_true, Act.modify_bind, Act.bind_ok shown, Act.pure_apply]

end GnssMonitor.Desk
