import GnssMonitor.Proofs.Command.Gates
import GnssMonitor.Proofs.Desk.Stints
import GnssMonitor.Proofs.Monitor.Runs

/-! What comes of the operator naming a receiver. The one that is named is taken for the receiver that
talks, whatever else was known, and its handler comes on if the display has room for it. -/

namespace GnssMonitor.Monitor

open Desk (Shows)

theorem occursIn_iff {part whole : List Char} : occursIn part whole = true ↔ part <:+: whole := by
  induction whole with
  | nil => rw [occursIn, List.isEmpty_iff, List.infix_nil]
  | cons c cs ih =>
    rw [occursIn, Bool.or_eq_true, ih, List.isPrefixOf_iff_prefix, List.infix_cons_iff]

/-- The receiver is the one whose name the text stands in. -/
def Names (arg : String) (r : Receiver) : Prop :=
  ∀ r', r' ∈ Receiver.all ∧ arg.toList <:+: r'.name.toList ↔ r' = r

/-- The receivers whose names the text stands in. -/
def candidates (arg : String) : List Receiver :=
  Receiver.all.filter fun r => occursIn arg.toList r.name.toList

variable {m : Monitor} {arg : String} {r : Receiver}

theorem mem_candidates : r ∈ candidates arg ↔
    r ∈ Receiver.all ∧ arg.toList <:+: r.name.toList := by
  rw [candidates, List.mem_filter, occursIn_iff]

theorem candidates_eq_singleton : candidates arg = [r] ↔ Names arg r := by
  have distinct : Receiver.all.Nodup := by decide
  have distinct : (candidates arg).Nodup := distinct.filter _
  rw [← List.perm_singleton, List.perm_ext_iff_of_nodup distinct (by simp)]
  simp only [mem_candidates, List.mem_singleton, Names]

theorem Names.known (names : Names arg r) : r ∈ Receiver.all := ((names r).mpr rfl).1

theorem find?_known : ∀ r ∈ Receiver.all, Receiver.find? r.name = some r := by decide

/-- Text that stands in one name alone is not empty. -/
theorem Names.nonempty (names : Names arg r) : arg.isEmpty = false := by
  cases empty : arg.isEmpty with
  | false => rfl
  | true =>
    rw [String.isEmpty_iff] at empty
    subst empty
    have first := (names .nmea0183).mp ⟨by decide, List.nil_infix⟩
    have second := (names .sirf).mp ⟨by decide, List.nil_infix⟩
    exact absurd (first.trans second.symm) (by decide)

theorem switchTo_known (builtIn : m.desk.registry = Registry.builtIn) (known : r ∈ Receiver.all) :
    onDesk (Desk.switchTo r m.session) m = ⟨.ok true,
      (m.session, (Desk.switchTo r m.session m.desk).state),
      (Desk.switchTo r m.session m.desk).effects⟩ := by
  have changed := Desk.switchTo_value r m.session m.desk
  rw [builtIn, Registry.resolve_builtIn r known] at changed
  unfold onDesk
  rw [Act.within_apply, List.map_id, ← changed]
  rfl

/-- The receiver that is named is forced, whether or not its handler has come on. -/
theorem forceReceiver_names (serial : m.session.source.isSerial = true)
    (builtIn : m.desk.registry = Registry.builtIn) (names : Names arg r) :
    forceReceiver arg m = ⟨.ok (), ({ m.session with device := some r },
      { (Desk.switchTo r m.session m.desk).state with fallback := none }),
      (Desk.switchTo r m.session m.desk).effects⟩ := by
  have permitted : permit none m = ⟨.ok true, m, []⟩ := permit_granted serial (by simp)
  have only : Receiver.all.filter (fun r => occursIn arg.toList r.name.toList) = [r] :=
    candidates_eq_singleton.mpr names
  have forced (d : Desk) : onSession (Session.switchReceiver r.name) (m.session, d) =
      ⟨.ok true, ({ m.session with device := some r }, d), []⟩ := by
    unfold Session.switchReceiver
    rw [find?_known r names.known]
    rfl
  unfold forceReceiver
  rw [Act.bind_silent permitted, Bool.not_true, if_neg Bool.false_ne_true, names.nonempty,
    if_neg Bool.false_ne_true, only]
  dsimp only
  rw [Act.get_bind, Act.bind_of (switchTo_known builtIn names.known), if_pos rfl,
    Act.bind_silent (forced _)]
  simp [modifyDesk]

theorem forceReceiver_unnamed (serial : m.session.source.isSerial = true)
    (unnamed : ∀ r, ¬ Names arg r) :
    (forceReceiver arg m).value = .ok () ∧ (forceReceiver arg m).state = m := by
  have permitted : permit none m = ⟨.ok true, m, []⟩ := permit_granted serial (by simp)
  have asked : Receiver.all.filter (fun r => occursIn arg.toList r.name.toList) = candidates arg :=
    rfl
  unfold forceReceiver
  rw [Act.bind_silent permitted, Bool.not_true, if_neg Bool.false_ne_true]
  by_cases empty : arg.isEmpty = true
  · rw [if_pos empty]
    exact ⟨rfl, rfl⟩
  · rw [if_neg empty, asked]
    match found : candidates arg with
    | [] => exact ⟨rfl, rfl⟩
    | [r] => exact absurd (candidates_eq_singleton.mp found) (unnamed r)
    | _ :: _ :: _ => exact ⟨rfl, rfl⟩

/-- What is left once a receiver has been forced: it is the one that talks, nothing is remembered,
and its handler is on display if there is room for it, else the one that was. -/
structure Forced (m : Monitor) (r : Receiver) (m' : Monitor) : Prop where
  session : m'.session = { m.session with device := some r }
  desk : ∃ h ∈ Registry.builtIn, h.receiver = r ∧
    Shows (if m.desk.hasRoom h then some h else m.desk.active)
      { m.desk with fallback := none } m'.desk

theorem handler_known : ∀ r ∈ Receiver.all, ∃ h ∈ Registry.builtIn, h.receiver = r ∧
    Registry.builtIn.resolve r.name = some h := by decide

theorem forceReceiver_forces (serial : m.session.source.isSerial = true)
    (builtIn : m.desk.registry = Registry.builtIn) (names : Names arg r) :
    (forceReceiver arg m).value = .ok () ∧ Forced m r (forceReceiver arg m).state := by
  obtain ⟨h, there, own, resolved⟩ := handler_known r names.known
  obtain ⟨_, window, panels, on⟩ := Desk.switchTo_shows r m.session m.desk
  have heir : m.desk.heir r = if m.desk.hasRoom h then some h else m.desk.active := by
    unfold Desk.heir Desk.admitted
    rw [builtIn, resolved]
    by_cases room : m.desk.hasRoom h = true
    · rw [Option.filter_some, if_pos room, if_pos room, Option.some_or]
    · rw [Option.filter_some, if_neg room, if_neg room, Option.none_or]
  rw [forceReceiver_names serial builtIn names]
  refine ⟨rfl, rfl, h, there, own, window, panels, ?_⟩
  show { (Desk.switchTo r m.session m.desk).state with fallback := none } = _
  rw [on, heir]

/-- **Forcing a receiver is all or nothing, but for the display.** Whatever has happened before, the
receiver that the argument names is taken for the one that talks and nothing is remembered in its
place; its handler is on display then, unless the display is too small for it, where the one that
was there stays. An argument that names none or several changes nothing. -/
theorem forcing_as_whole {start : Monitor} (fresh : Fresh start) (run : Reachable start m)
    (serial : m.session.source.isSerial = true) {typed : String}
    (read : Command.read? typed = some ⟨'t', arg⟩) :
    (∀ r, Names arg r → Forced m r (execute typed m).state) ∧
      ((∀ r, ¬ Names arg r) → (execute typed m).state = m) := by
  have settled := run.settled fresh
  have passed := passed_of_builtIn settled.desk.active read (by simp)
  constructor
  · intro r names
    obtain ⟨answers, forced⟩ := forceReceiver_forces serial settled.desk.registry names
    rwa [execute_done read passed rfl answers]
  · intro unnamed
    obtain ⟨answers, same⟩ := forceReceiver_unnamed serial unnamed
    rwa [execute_done read passed rfl answers]

/-- A sentence has been shown when the operator names a receiver, first with a part of two names,
then with that of one. -/
theorem forcing_as_whole_of_sirf :
    let start : Monitor := (Session.opened (.serial "/dev/ttyS0"), { hostname := "localhost" })
    let told := (meet (.arrives (.bytes (Bytes.ofString "$GPGGA,1*4B\r\n"))) start).state
    let m := (meet (.turn (.woke { deviceReady := true })) told).state
    let forced := (execute "t SiRF" m).state
    Fresh start ∧ Reachable start m ∧ m.session.source.isSerial = true ∧ Names "SiRF" .sirf ∧
      m.session.device = some .nmea0183 ∧ (execute "t A" m).state = m ∧
      forced.session.device = some .sirf ∧
      forced.desk.active = some (Handler.panelFor .sirf false) := by
  intro start told m forced
  have fresh : Fresh start := ⟨rfl, rfl, rfl, rfl⟩
  have run : Reachable start m := .meet _ (.meet _ .start)
  have serial : m.session.source.isSerial = true := by decide +kernel
  have names : Names "SiRF" .sirf := candidates_eq_singleton.mp (by decide +kernel)
  have several : ∀ r, ¬ Names "A" r := by
    intro r names
    have first := (names .ashtech).mp ⟨by decide, by decide⟩
    have second := (names .aivdm).mp ⟨by decide, by decide⟩
    exact absurd (first.trans second.symm) (by decide)
  have read : Command.read? "t SiRF" = some ⟨'t', "SiRF"⟩ := by decide +kernel
  have read' : Command.read? "t A" = some ⟨'t', "A"⟩ := by decide +kernel
  obtain ⟨forces, _⟩ := forcing_as_whole fresh run serial read
  obtain ⟨_, spares⟩ := forcing_as_whole fresh run serial read'
  obtain ⟨talks, _⟩ := forces .sirf names
  exact ⟨fresh, run, serial, names, by decide +kernel, spares several, congrArg _ talks,
    by decide +kernel⟩

/-- On a display that is too small for its handler, the receiver is forced without that one coming
on: it is the one that talks, and no handler is active. -/
theorem forcing_without_room :
    let start : Monitor := (Session.opened (.serial "/dev/ttyUSB0"),
      { hostname := "testhost", surface := { rows := 10 } })
    let m := (execute "t SiRF" start).state
    Fresh start ∧ start.session.device = none ∧ start.desk.active = none ∧
      m.session.device = some .sirf ∧ m.desk.active = none ∧
      ¬ ((∃ r, m.desk.active.map (·.receiver) = some r ∧ m.session.device = some r ∧
            m.desk.fallback = none) ∨
          m.desk.active = start.desk.active ∧ m.session.device = start.session.device ∧
            m.desk.fallback = start.desk.fallback) := by
  intro start m
  have forced : m.session.device = some .sirf := by decide +kernel
  have nothing : m.desk.active = none := by decide +kernel
  refine ⟨⟨rfl, rfl, rfl, rfl⟩, rfl, rfl, forced, nothing, ?_⟩
  rintro (⟨r, shown, _⟩ | ⟨_, same, _⟩)
  · rw [nothing] at shown
    contradiction
  · rw [forced] at same
    contradiction

end GnssMonitor.Monitor
