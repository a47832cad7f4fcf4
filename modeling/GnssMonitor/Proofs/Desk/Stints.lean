import GnssMonitor.Proofs.Desk.Switching

/-! Handlers have the display one after the other. Each is entered on a display laid out for it, is
handed packets, and is left when the next one comes; an attempt to change that is refused leaves
the present one where it is. -/

namespace GnssMonitor.Desk

/-- The hooks of handlers, and the display cleared and laid out for them. -/
def isStaged : Effect → Bool
  | .hook .. | .clear | .layout _ => true
  | _ => false

def staged (es : List Effect) : List Effect := es.filter isStaged

@[simp] theorem staged_nil : staged [] = [] := rfl

@[simp] theorem staged_append (es es' : List Effect) :
    staged (es ++ es') = staged es ++ staged es' := List.filter_append ..

@[simp] theorem staged_cons (e : Effect) (es : List Effect) :
    staged (e :: es) = if isStaged e then e :: staged es else staged es := List.filter_cons ..

/-- What goes before the packets: the display is made ready for the handler, and it is entered. -/
def opening (h : Handler) : List Effect :=
  .clear :: .layout h.rows :: if h.enters.isSome then [.hook h.name .enter] else []

def handing (h : Handler) (packet : Bytes) : List Effect :=
  if h.hasUpdate then [.hook h.name (.update packet)] else []

def parting (h : Handler) : List Effect := if h.hasLeave then [.hook h.name .leave] else []

/-- A handler's time on the display, and the packets that it has been handed. -/
structure Stint where
  handler : Handler
  packets : List Bytes := []

namespace Stint

def shown (s : Stint) : List Effect := opening s.handler ++ s.packets.flatMap (handing s.handler)

def ended (s : Stint) : List Effect := s.shown ++ parting s.handler

end Stint

/-- What has been on stage once the stints of the past are over and another goes on, if any. -/
def played (past : List Stint) (now : Option Stint) : List Effect :=
  past.flatMap Stint.ended ++ now.elim [] Stint.shown

/-- The handlers came one after the other, and the stint that goes on is that of this one. -/
def InTurn (trace : List Effect) (active : Option Handler) : Prop :=
  ∃ past now, trace = played past now ∧ active = now.map Stint.handler

theorem inTurn_nil : InTurn [] none := ⟨[], none, rfl, rfl⟩

variable {trace es : List Effect} {active : Option Handler}

theorem InTurn.next (turn : InTurn trace active) (h : Handler) :
    InTurn (trace ++ (active.elim [] parting ++ opening h)) (some h) := by
  obtain ⟨past, now, rfl, rfl⟩ := turn
  refine ⟨past ++ now.toList, some { handler := h }, ?_, rfl⟩
  cases now with
  | none => simp [played, Stint.shown]
  | some stint => simp [played, Stint.shown, Stint.ended]

theorem InTurn.handed {h : Handler} (turn : InTurn trace (some h)) (packet : Bytes) :
    InTurn (trace ++ handing h packet) (some h) := by
  obtain ⟨past, now, rfl, on⟩ := turn
  obtain ⟨stint, rfl, rfl⟩ := Option.map_eq_some_iff.mp on.symm
  refine ⟨past, some { stint with packets := stint.packets ++ [packet] }, ?_, rfl⟩
  simp [played, Stint.shown]

/-! What is on stage in each part of a change. -/

theorem staged_draws (ops : List WindowOp) : staged (ops.map .draw) = [] := by
  induction ops with
  | nil => rfl
  | cons op ops ih => simp [isStaged, ih]

theorem staged_drawAll (ops : List WindowOp) (d : Desk) : staged (drawAll ops d).effects = [] := by
  unfold drawAll
  rw [Act.get_bind]
  cases d.surface.window with
  | none => rfl
  | some w =>
    have drawn : (Act.emitAll (ops.map .draw) d : Outcome Effect Desk Unit).value = .ok () := rfl
    dsimp only
    rw [Act.bind_ok drawn]
    simp [Act.emitAll, staged_draws]

theorem staged_leave (h : Handler) (d : Desk) : staged (leave h d).effects = parting h := by
  unfold leave parting
  by_cases leaves : h.hasLeave
  · simp only [leaves, if_true, Act.emit_bind, staged_cons, isStaged]
    cases h.presentation with
    | panel _ => simp [staged_drawAll]
    | hooks _ => simp
  · simp [leaves]

theorem staged_enter (h : Handler) (d : Desk) :
    staged (enter h d).effects = if h.enters.isSome then [.hook h.name .enter] else [] := by
  unfold enter
  cases h.enters with
  | none => simp
  | some answer =>
    simp only [Act.emit_bind, staged_cons, isStaged]
    cases h.presentation <;> simp [setPanel]

theorem staged_showPacket (h : Handler) (s : Session) (d : Desk) :
    staged (showPacket h s d).effects = handing h s.framer.packet := by
  unfold showPacket handing
  by_cases updates : h.hasUpdate
  · simp only [updates, if_true, Act.emit_bind, staged_cons, isStaged]
    cases h.presentation with
    | hooks _ => simp
    | panel _ =>
      simp only [Act.get_bind]
      cases (d.panel h.name).update s.framer.last s.fields s.sentence d.clock with
      | none => simp
      | some p => simp [setPanel, staged_drawAll]
  · simp [updates]

/-- This handler is on display, and otherwise only what handlers have to themselves differs. -/
def Shows (active : Option Handler) (d d' : Desk) : Prop :=
  ∃ window panels, d' = { d with active, surface.window := window, panels }

theorem OnlyShows.shows {d d' : Desk} (h : OnlyShows d es d') : Shows d.active d d' := h.1

theorem Shows.trans {d d' d'' : Desk} {first second : Option Handler} (h : Shows first d d')
    (h' : Shows second d' d'') : Shows second d d'' := by
  obtain ⟨_, _, rfl⟩ := h
  obtain ⟨window, panels, rfl⟩ := h'
  exact ⟨window, panels, rfl⟩

theorem occupy_shows (h : Handler) (s : Session) (d : Desk) :
    staged (occupy h s d).effects = opening h ∧ Shows (some h) d (occupy h s d).state := by
  let laid : Desk := (layOut h.rows { d with active := some h }).state
  obtain ⟨answer, entered⟩ := enter_answers h laid
  have shows : Shows (some h) d (enter h laid).state :=
    Shows.trans ⟨_, _, rfl⟩ (enter_shows h laid).shows
  have layout : layOut h.rows { d with active := some h } =
      ⟨.ok (), laid, [.layout h.rows]⟩ := rfl
  unfold occupy
  rw [Act.modify_bind, Act.emit_bind, Act.bind_ok (by rw [layout]), layout, Act.bind_ok entered]
  cases answer <;>
    simpa [complain, opening, isStaged, staged_enter] using shows

theorem install_shows (h : Handler) (s : Session) (d : Desk) :
    staged (install h s d).effects = d.active.elim [] parting ++ opening h ∧
      Shows (some h) d (install h s d).state := by
  unfold install
  rw [Act.get_bind]
  cases d.active with
  | none => exact occupy_shows h s d
  | some old =>
    obtain ⟨_, left⟩ := leave_answers old d
    obtain ⟨opened, shows⟩ := occupy_shows h s (leave old d).state
    dsimp only
    rw [Act.bind_ok left]
    constructor
    · simp [staged_leave, opened]
    · exact (leave_shows old d).shows.trans shows

/-- The handler that a change to a receiver brings on: there is one, and the display has room. -/
def admitted (d : Desk) (r : Receiver) : Option Handler :=
  (d.registry.resolve r.name).filter d.hasRoom

/-- The handler on display after an attempt to change to a receiver. -/
def heir (d : Desk) (r : Receiver) : Option Handler := (d.admitted r).or d.active

/-- What an attempt to change to a receiver puts on stage; a refused one nothing. -/
def relief (d : Desk) (r : Receiver) : List Effect :=
  (d.admitted r).elim [] fun h => d.active.elim [] parting ++ opening h

theorem switchTo_shows (r : Receiver) (s : Session) (d : Desk) :
    staged (switchTo r s d).effects = d.relief r ∧
      Shows (d.heir r) d (switchTo r s d).state := by
  unfold switchTo relief heir admitted
  rw [Act.get_bind]
  cases d.registry.resolve r.name with
  | none => exact ⟨rfl, _, _, rfl⟩
  | some h =>
    by_cases room : d.hasRoom h
    · obtain ⟨_, installed⟩ := install_answers h s d
      simp only [room, if_true, Option.filter_some]
      rw [Act.bind_ok installed]
      simpa using install_shows h s d
    · simp only [room, Option.filter_some]
      exact ⟨rfl, _, _, rfl⟩

/-- What the active handler gets of the latest packet. -/
def handout (s : Session) (active : Option Handler) : List Effect :=
  active.elim [] fun h => if s.framer.packet.isEmpty then [] else handing h s.framer.packet

theorem staged_present (s : Session) (d : Desk) :
    staged (present s d).effects = handout s d.active := by
  unfold present handout
  rw [Act.get_bind]
  cases d.active with
  | none => rfl
  | some h =>
    by_cases empty : s.framer.packet.isEmpty
    · simp [empty]
    · simp [empty, staged_showPacket]

/-- A kind of packet that is on display already only has its handler get the packet. -/
theorem select_same {s : Session} {d : Desk} (same : s.framer.kind = d.lastKind) :
    (select s d).value = .ok true ∧ staged (select s d).effects = handout s d.active ∧
      Shows d.active d (select s d).state := by
  have followed : follow s d = ⟨.ok true, d, []⟩ := by simp [follow, same]
  have noted : { d with lastKind := s.framer.kind } = d := by rw [same]
  obtain ⟨_, shown⟩ := present_answers s d
  have selected : select s d = ⟨.ok true, (present s d).state, (present s d).effects⟩ := by
    rw [select, Act.bind_ok (by rw [followed]), followed]
    simp [noted, Act.bind_ok shown]
  rw [selected]
  exact ⟨rfl, staged_present s d, (present_shows s d).shows⟩

/-- Another kind of packet has its handler tried; it gets the packet if it comes on, else the one
does that is still there. -/
theorem select_other {s : Session} {d : Desk} (other : s.framer.kind ≠ d.lastKind)
    (known : (d.registry.resolve (d.target s).name).isSome) :
    (select s d).value = .ok true ∧
      staged (select s d).effects = d.relief (d.target s) ++ handout s (d.heir (d.target s)) ∧
      Shows (d.heir (d.target s)) { d with lastKind := s.framer.kind } (select s d).state := by
  have tried := switchTo_value (d.target s) s d
  obtain ⟨relieved, window, panels, on⟩ := switchTo_shows (d.target s) s d
  rw [known] at tried
  have followed : follow s d = switchTo (d.target s) s d := by simp [follow, other]
  let noted : Desk := { (switchTo (d.target s) s d).state with lastKind := s.framer.kind }
  have heir : noted.active = d.heir (d.target s) := by simp [noted, on]
  obtain ⟨_, shown⟩ := present_answers s noted
  have selected : select s d = ⟨.ok true, (present s noted).state,
      (switchTo (d.target s) s d).effects ++ (present s noted).effects⟩ := by
    rw [select, Act.bind_ok (by rw [followed, tried]), followed]
    simp [noted, Act.bind_ok shown]
  have shows : Shows (d.heir (d.target s)) { d with lastKind := s.framer.kind } noted :=
    ⟨window, panels, by simp [noted, on]⟩
  rw [selected]
  refine ⟨rfl, ?_, ?_⟩
  · rw [staged_append, relieved, staged_present, heir]
  · exact shows.trans (heir ▸ (present_shows s noted).shows)

/-- Without a handler no more is done than to say so. -/
theorem select_unmatched {s : Session} {d : Desk} (other : s.framer.kind ≠ d.lastKind)
    (unknown : d.registry.resolve (d.target s).name = none) :
    select s d = ⟨.ok false, d, [.complain s!"No monitor matches {(d.target s).name}."]⟩ := by
  have tried : follow s d =
      ⟨.ok false, d, [.complain s!"No monitor matches {(d.target s).name}."]⟩ := by
    simp [follow, other, switchTo, unknown, complain]
  rw [select, Act.bind_of tried]
  rfl

/-- Without a handler nothing comes of the packet. -/
theorem select_failed {s : Session} {d : Desk} (other : s.framer.kind ≠ d.lastKind)
    (unknown : d.registry.resolve (d.target s).name = none) :
    (select s d).value = .ok false ∧ staged (select s d).effects = [] ∧
      (select s d).state = d := by
  rw [select_unmatched other unknown]
  exact ⟨rfl, rfl, rfl⟩

/-- The handler on display once one has been selected. -/
theorem select_active (s : Session) (d : Desk) : (select s d).state.active =
    if s.framer.kind = d.lastKind then d.active else d.heir (d.target s) := by
  by_cases same : s.framer.kind = d.lastKind
  · obtain ⟨_, _, _, _, on⟩ := select_same same
    rw [if_pos same, on]
  rw [if_neg same]
  cases known : d.registry.resolve (d.target s).name with
  | none =>
    obtain ⟨_, _, on⟩ := select_failed same known
    rw [on, heir, admitted, known, Option.filter_none, Option.none_or]
  | some h =>
    obtain ⟨_, _, _, _, on⟩ := select_other same (by rw [known]; rfl)
    rw [on]

/-! Any number of requests, from packets and from the operator. -/

/-- A packet selects its handler, or the operator changes to that of a receiver. -/
inductive Request
  | select (s : Session)
  | switchTo (r : Receiver) (s : Session)

namespace Request

def serve : Request → Do Bool
  | select s => Desk.select s
  | switchTo r s => Desk.switchTo r s

theorem serve_answers (q : Request) : Act.Answers q.serve := by
  intro d
  cases q with
  | select s => exact ⟨_, select_value s d⟩
  | switchTo r s => exact ⟨_, switchTo_value r s d⟩

/-- The kind of packet that a selection answered with success was for. -/
def selected? : Request × Bool → Option PacketKind
  | (select s, true) => some s.framer.kind
  | _ => none

end Request

/-- The kind of packet of the last selection with success. -/
def lastSelected (past : List (Request × Bool)) : PacketKind :=
  (past.filterMap Request.selected?).getLast?.getD .bad

/-- The requests served so far with their answers, and what became of them. In the meantime all
else about the desk may change, the size of the display with it. -/
inductive Served (start : Desk) : List (Request × Bool) → List Effect → Desk → Prop
  | start : Served start [] [] start
  | request {past : List (Request × Bool)} {es : List Effect} {d : Desk} (q : Request)
      {answer : Bool} (run : Served start past es d) (answered : (q.serve d).value = .ok answer) :
      Served start (past ++ [(q, answer)]) (es ++ (q.serve d).effects) (q.serve d).state
  | meantime {past : List (Request × Bool)} {es : List Effect} {d d' : Desk}
      (run : Served start past es d) (active : d'.active = d.active)
      (lastKind : d'.lastKind = d.lastKind) : Served start past es d'

@[simp] theorem lastSelected_switchTo (past : List (Request × Bool)) (r : Receiver) (s : Session)
    (answer : Bool) : lastSelected (past ++ [(.switchTo r s, answer)]) = lastSelected past := by
  simp [lastSelected, Request.selected?]

@[simp] theorem lastSelected_select (past : List (Request × Bool)) (s : Session) :
    lastSelected (past ++ [(.select s, true)]) = s.framer.kind := by
  simp [lastSelected, Request.selected?]

@[simp] theorem lastSelected_failed (past : List (Request × Bool)) (s : Session) :
    lastSelected (past ++ [(.select s, false)]) = lastSelected past := by
  simp [lastSelected, Request.selected?]

variable {d : Desk}

theorem InTurn.relieved (turn : InTurn trace d.active) (r : Receiver) :
    InTurn (trace ++ d.relief r) (d.heir r) := by
  unfold relief heir
  cases d.admitted r with
  | none => simpa using turn
  | some h => exact turn.next h

theorem InTurn.attended (turn : InTurn trace active) (s : Session) :
    InTurn (trace ++ handout s active) active := by
  unfold handout
  cases active with
  | none => simpa using turn
  | some h =>
    by_cases empty : s.framer.packet.isEmpty
    · simpa [empty] using turn
    · simpa [empty] using turn.handed s.framer.packet

/-- One request keeps the handlers in turn, and the desk in mind of the last selection. -/
theorem Request.serve_inTurn (q : Request) (turn : InTurn trace d.active) {answer : Bool}
    (answered : (q.serve d).value = .ok answer) {past : List (Request × Bool)}
    (last : d.lastKind = lastSelected past) :
    InTurn (trace ++ staged (q.serve d).effects) (q.serve d).state.active ∧
      (q.serve d).state.lastKind = lastSelected (past ++ [(q, answer)]) := by
  cases q with
  | switchTo r s =>
    obtain ⟨relieved, window, panels, on⟩ := switchTo_shows r s d
    simp only [serve, on, relieved, lastSelected_switchTo]
    exact ⟨turn.relieved r, last⟩
  | select s =>
    simp only [serve] at answered ⊢
    by_cases same : s.framer.kind = d.lastKind
    · obtain ⟨succeeded, handed, window, panels, on⟩ := select_same same
      obtain rfl : true = answer := by simpa [succeeded] using answered
      simp only [on, handed, lastSelected_select]
      exact ⟨turn.attended s, same.symm⟩
    cases known : d.registry.resolve (d.target s).name with
    | none =>
      obtain ⟨failed, nothing, on⟩ := select_failed same known
      obtain rfl : false = answer := by simpa [failed] using answered
      simp only [on, nothing, List.append_nil, lastSelected_failed]
      exact ⟨turn, last⟩
    | some h =>
      obtain ⟨succeeded, changed, window, panels, on⟩ := select_other same (by simp [known])
      obtain rfl : true = answer := by simpa [succeeded] using answered
      simp only [on, changed, lastSelected_select, ← List.append_assoc, and_true]
      exact (turn.relieved (d.target s)).attended s

theorem Served.inTurn {start : Desk} {past : List (Request × Bool)} (idle : start.active = none)
    (unshown : start.lastKind = .bad) (run : Served start past es d) :
    InTurn (staged es) d.active ∧ d.lastKind = lastSelected past := by
  induction run with
  | start => exact ⟨idle ▸ inTurn_nil, unshown⟩
  | request q _ answered ih =>
    rw [staged_append]
    exact q.serve_inTurn ih.1 answered ih.2
  | meantime _ active lastKind ih => rwa [active, lastKind]

/-- No hook runs, and who is on display stays there. -/
def Refused {α : Type} (x : Do α) (d : Desk) : Prop :=
  staged (x d).effects = [] ∧ (x d).state.active = d.active ∧ (x d).state.lastKind = d.lastKind

theorem switchTo_refused {r : Receiver} (refused : d.admitted r = none) (s : Session) :
    Refused (switchTo r s) d := by
  obtain ⟨relieved, window, panels, on⟩ := switchTo_shows r s d
  constructor
  · simp [relieved, relief, refused]
  · simp [on, heir, refused]

/-- What requests come to when the last selection with success was for a packet of this kind. -/
structure Attends (last : PacketKind) (d : Desk) : Prop where
  answers (q : Request) : ∃ answer, (q.serve d).value = .ok answer
  /-- No handler is entered for another packet of the kind. -/
  again (s : Session) (same : s.framer.kind = last) : (select s d).value = .ok true ∧
    staged (select s d).effects = handout s d.active ∧ (select s d).state.active = d.active
  refused (r : Receiver) (s : Session) (refused : d.admitted r = none) : Refused (switchTo r s) d
  /-- Without a handler nothing comes of the selection. -/
  unmatched (s : Session) (other : s.framer.kind ≠ last)
    (unknown : d.registry.resolve (d.target s).name = none) :
    (select s d).value = .ok false ∧ Refused (select s) d
  /-- Without room for the handler only the packet is handed out, to the one that stayed. -/
  cramped (s : Session) (other : s.framer.kind ≠ last)
    (known : (d.registry.resolve (d.target s).name).isSome)
    (noRoom : d.admitted (d.target s) = none) : Refused (follow s) d ∧
      (select s d).value = .ok true ∧ staged (select s d).effects = handout s d.active ∧
        (select s d).state.active = d.active

theorem attends (d : Desk) : Attends d.lastKind d where
  answers q := q.serve_answers d
  again s same := by
    obtain ⟨succeeded, handed, window, panels, on⟩ := select_same same
    exact ⟨succeeded, handed, by rw [on]⟩
  refused r s refused := switchTo_refused refused s
  unmatched s other unknown := by
    obtain ⟨failed, nothing, on⟩ := select_failed other unknown
    exact ⟨failed, nothing, by rw [on], by rw [on]⟩
  cramped s other known noRoom := by
    have followed : follow s d = switchTo (d.target s) s d := by simp [follow, other]
    obtain ⟨succeeded, changed, window, panels, on⟩ := select_other other known
    have stays : d.heir (d.target s) = d.active := by simp [heir, noRoom]
    refine ⟨?_, succeeded, ?_, by rw [on, stays]⟩
    · simpa [Refused, followed] using switchTo_refused noRoom s
    · simp [changed, stays, relief, noRoom]

/-- **Hooks follow the life cycle of a handler.** Whatever is asked for, on a display of whatever
size, the handlers come on one after the other: each is entered on a display laid out anew, alone
is handed packets, and is left right before the next. A handler is entered for a packet only when
its kind is not that of the last selection with success, and an attempt that is refused, for want
of a handler or of room, runs no hook and keeps who is on display. -/
theorem handlers_take_turns {start : Desk} {past : List (Request × Bool)}
    (idle : start.active = none) (unshown : start.lastKind = .bad) (run : Served start past es d) :
    InTurn (staged es) d.active ∧ d.lastKind = lastSelected past ∧
      Attends (lastSelected past) d := by
  obtain ⟨turn, last⟩ := run.inTurn idle unshown
  exact ⟨turn, last, last ▸ attends d⟩

/-- A sentence is shown, and then the operator changes to SiRF on a display that has become too
small for that. -/
theorem handlers_take_turns_of_small_display :
    let s : Session := { Session.opened (.serial "/dev/ttyS0") with
      framer := { kind := .nmea, packet := [0x24, 0x0d, 0x0a] } }
    let start : Desk := { hostname := "localhost" }
    let shown := (select s start).state
    let small : Desk := { shown with surface.rows := 10 }
    let es := (select s start).effects ++ (switchTo .sirf s small).effects
    let kept := (switchTo .sirf s small).state
    start.active = none ∧ start.lastKind = .bad ∧
      Served start [(.select s, true), (.switchTo .sirf s, true)] es kept ∧
      staged es = [.clear, .layout 21, .hook "NMEA0183" .enter,
        .hook "NMEA0183" (.update s.framer.packet)] ∧
      InTurn (staged es) kept.active := by
  intro s start shown small es kept
  have selected : (select s start).value = .ok true := select_value s start
  have refused : (switchTo .sirf s small).value = .ok true := switchTo_value .sirf s small
  have first : Served start [(.select s, true)] (select s start).effects shown :=
    .request (.select s) .start selected
  have resized : Served start [(.select s, true)] (select s start).effects small :=
    first.meantime rfl rfl
  have run := resized.request (.switchTo .sirf s) refused
  exact ⟨rfl, rfl, run, by decide +kernel, (handlers_take_turns rfl rfl run).1⟩

end GnssMonitor.Desk
