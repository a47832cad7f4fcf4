import GnssMonitor.Proofs.Monitor.Loop

/-! What can happen to a monitor, in any order, and what holds however it goes on. -/

namespace GnssMonitor.Monitor

open Act (Obeys)
open Desk (Unmatched)

/-- What a monitor meets with: what its endpoint, its display and the file system come to be like,
the time, pulses on the line, and turns of the loop. -/
inductive Happening
  | arrives (a : Arrival)
  | readFails
  | delivers (delivery : Delivery)
  | drains (drainage : Drainage)
  | refuses (speeds : List Int)
  | resized (rows columns : Int)
  | ticks (clock : Binary64)
  | stores (storage : Storage)
  | pulse (clock second : Binary64)
  | turn (wait : Wait)

/-- The operator is going to say the line then. -/
def Happening.Says (h : Happening) (line : String) : Prop :=
  ∃ w, h = .turn (.woke w) ∧ w.reply = some (.line line)

/-- The device has something to read then. -/
def Happening.Reads (h : Happening) : Prop := ∃ w, h = .turn (.woke w) ∧ w.deviceReady = true

def onEndpoint (f : Endpoint → Endpoint) : Do Unit :=
  onSession (modify fun s => { s with endpoint := s.endpoint.map f })

/-- What ends the run then, if anything does. -/
def meet : Happening → Do (Option Cause)
  | .arrives a => do
    onEndpoint (·.add a)
    return none
  | .readFails => do
    onEndpoint fun e => { e with readFails := true }
    return none
  | .delivers delivery => do
    onEndpoint fun e => { e with delivery }
    return none
  | .drains drainage => do
    onEndpoint fun e => { e with drainage }
    return none
  | .refuses refused => do
    onEndpoint fun e => { e with refused }
    return none
  | .resized rows columns => do
    modifyDesk fun d => { d with surface.rows := rows, surface.columns := columns }
    return none
  | .ticks clock => do
    modifyDesk fun d => { d with clock }
    return none
  | .stores storage => do
    modifyDesk fun d => { d with log.storage := storage }
    return none
  | .pulse clock second => do
    onDesk (Desk.takePulse clock second)
    return none
  | .turn wait => step wait

/-- A monitor whose handlers are the built-in ones and that has seen no packet yet. -/
structure Fresh (m : Monitor) : Prop where
  unidentified : m.session.device = none
  registry : m.desk.registry = Registry.builtIn
  inactive : m.desk.active = none
  idle : m.desk.pending = none

/-- The monitor has come to be this one, whatever happened. -/
inductive Reachable (start : Monitor) : Monitor → Prop
  | start : Reachable start start
  | meet {m : Monitor} (h : Happening) (earlier : Reachable start m) :
      Reachable start (meet h m).state

/-- The relation allows what happens apart from turns of the loop. -/
structure Passes (T : Monitor → List Effect → Monitor → Prop) : Prop where
  reaches (f : Endpoint → Endpoint) (m : Monitor)
    (same : ∀ e, (f e).medium = e.medium ∧ (f e).line = e.line) : Obeys T m (onEndpoint f)
  surrounds (s : Session) (d : Desk) (rows columns : Int) (clock : Binary64) (storage : Storage) :
    T (s, d) [] (s, { d with
      surface.rows := rows, surface.columns := columns, clock, log.storage := storage })
  pulses (clock second : Binary64) (m : Monitor) :
    Obeys T m (onDesk (Desk.takePulse clock second))

section

variable {T : Monitor → List Effect → Monitor → Prop} [Act.Composes T] {h : Happening}

theorem Passes.meet (p : Passes T) (idle : ∀ wait, h ≠ .turn wait) (m : Monitor) :
    Obeys T m (meet h) := by
  cases h with
  | arrives | readFails | delivers | drains | refuses =>
    refine (p.reaches _ m ?_).bind fun _ _ => Act.obeys_pure none
    exact fun _ => ⟨rfl, rfl⟩
  | resized rows columns => exact p.surrounds m.1 m.2 rows columns m.2.clock m.2.log.storage
  | ticks clock =>
    exact p.surrounds m.1 m.2 m.2.surface.rows m.2.surface.columns clock m.2.log.storage
  | stores storage =>
    exact p.surrounds m.1 m.2 m.2.surface.rows m.2.surface.columns m.2.clock storage
  | pulse clock second => exact (p.pulses clock second m).bind fun _ _ => Act.obeys_pure none
  | turn wait => exact absurd rfl (idle wait)

/-- What holds apart from turns of the loop, of what the operator says and of an intake of what
the device has sent by then, holds of all that happens. -/
theorem Passes.meet_reading {said : String → Prop} (p : Passes T) (q : Hears said T)
    (signals : ∀ m, Obeys T m (modifyDesk fun d => { d with signalled := true }))
    (there : ∀ line, h.Says line → said line) {m : Monitor}
    (reads : h.Reads → ∀ d, Obeys T (m.1, d) intake) : Obeys T m (Monitor.meet h) := by
  by_cases turn : ∃ wait, h = .turn wait
  · obtain ⟨wait, rfl⟩ := turn
    apply q.step (signals m)
    · rintro w line rfl reply
      exact there line ⟨w, rfl, reply⟩
    · rintro w rfl ready
      exact reads ⟨w, rfl, ready⟩
  · apply p.meet
    rintro wait rfl
    exact turn ⟨wait, rfl⟩

theorem Passes.meet_saying {said : String → Prop} (p : Passes T) (q : Attends said T)
    (there : ∀ line, h.Says line → said line) (m : Monitor) : Obeys T m (Monitor.meet h) :=
  p.meet_reading q.toHears q.signals there fun _ d => q.intakes (m.1, d)

theorem Passes.meet_any (p : Passes T) (q : Serves T) (h : Happening) (m : Monitor) :
    Obeys T m (Monitor.meet h) := p.meet_saying q.attends (fun _ _ => trivial) m

end

theorem onEndpoint_settles (f : Endpoint → Endpoint) (m : Monitor) :
    Obeys Settles m (onEndpoint f) := onSession_settles rfl

theorem passes_settles : Passes Settles where
  reaches f m _ := onEndpoint_settles f m
  surrounds _ _ _ _ _ _ := desk_settles fun d => ⟨d.registry, d.idle, d.active⟩
  pulses clock second _ := onDesk_settles (Desk.takePulse_settles clock second _)

theorem meet_settles (h : Happening) (m : Monitor) : Obeys Settles m (meet h) :=
  passes_settles.meet_any serves_settles h m

theorem meet_cause (h : Happening) {m : Monitor} (settled : m.Settled) :
    (meet h m).value ≠ .ok (some .driverSwitch) := by
  cases h with
  | turn wait => exact step_cause settled
  | _ =>
    intro h
    obtain ⟨_, _, h⟩ := Act.bind_value_ok.mp h
    cases h

theorem Fresh.settled {m : Monitor} (fresh : Fresh m) : m.Settled where
  desk := ⟨fresh.registry, fresh.idle, by simp [fresh.inactive]⟩
  known := by simp [fresh.unidentified]

theorem Reachable.stays_settled {start m : Monitor} (settled : start.Settled)
    (run : Reachable start m) : m.Settled := by
  induction run with
  | start => exact settled
  | meet h _ ih => exact (meet_settles h _ ih).1

theorem Reachable.settled {start m : Monitor} (fresh : Fresh start) (run : Reachable start m) :
    m.Settled := run.stays_settled fresh.settled

/-- **No run ends for want of a handler.** With the built-in handlers, whatever happens and in
whatever order, every packet has a sender that is known and a handler that can be selected, no
change of handlers fails, and no one is told that there is no handler. -/
theorem handled_throughout {start m : Monitor} (fresh : Fresh start) (run : Reachable start m) :
    m.desk.pending = none ∧ (∀ call ∈ m.hookCalls, Handled call) ∧
      (∀ h, (meet h m).value ≠ .ok (some .driverSwitch) ∧
        ∀ e ∈ (meet h m).effects, ¬ Unmatched e) ∧
      ∀ display script, (Run.loop script ⟨m, display⟩).value ≠ .ok .driverSwitch := by
  have settled := run.settled fresh
  refine ⟨settled.desk.idle, hookCalls_handled settled, fun h => ?_, fun display script => ?_⟩
  · exact ⟨meet_cause h settled, (meet_settles h m settled).2⟩
  · exact Run.loop_cause script settled

/-- A serial line on which a frame without payload has come in. -/
theorem handled_throughout_of_frame :
    let start : Monitor := (Session.opened (.serial "/dev/ttyS0"), { hostname := "localhost" })
    let m := (meet (.arrives (.bytes [0xa0, 0xa2, 0, 0, 0, 0, 0xb0, 0xb3])) start).state
    Fresh start ∧ Reachable start m ∧ m.hookCalls.length = 1 ∧
      ∀ call ∈ m.hookCalls, Handled call := by
  intro start m
  have fresh : Fresh start := ⟨rfl, rfl, rfl, rfl⟩
  have run : Reachable start m := .meet _ .start
  have called : m.hookCalls.length = 1 := by decide +kernel
  exact ⟨fresh, run, called, (handled_throughout fresh run).2.1⟩

end GnssMonitor.Monitor
