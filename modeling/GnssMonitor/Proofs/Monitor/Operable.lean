import GnssMonitor.Proofs.Command.Survival
import GnssMonitor.Proofs.Monitor.Runs

/-! A monitor that has been opened stays one that can be operated, so that every command is
answered whenever it comes. -/

namespace GnssMonitor.Monitor

open Act (Obeys)

/-- The session stays operable. -/
abbrev Lasts : Monitor → List Effect → Monitor → Prop :=
  Act.Keeps (·.session.Operable) fun _ => True

variable {m : Monitor}

theorem lasts_of_desk {s : Session} {d d' : Desk} {es : List Effect} :
    Lasts (s, d) es (s, d') :=
  fun operable => ⟨operable, fun _ _ => trivial⟩

theorem modifyDesk_lasts (f : Desk → Desk) (m : Monitor) : Obeys Lasts m (modifyDesk f) :=
  lasts_of_desk

theorem accept_operable {s : Session} (operable : s.Operable) :
    (Session.accept s).state.Operable := by
  obtain ⟨_, _, _, _, said⟩ := Session.accept_state s
  rw [said]
  exact ⟨operable.connected, operable.line⟩

theorem intakes_lasts : Intakes Lasts where
  reads _ _ _ _ operable := ⟨⟨rfl, operable.line⟩, fun _ _ => trivial⟩
  frames _ _ _ operable := ⟨⟨operable.connected, operable.line⟩, fun _ _ => trivial⟩
  accepts _ _ operable := ⟨accept_operable operable, fun _ _ => trivial⟩
  takes _ _ := lasts_of_desk

theorem serves_lasts : Serves Lasts where
  asks _ := lasts_of_desk
  resumes _ := lasts_of_desk
  deafens m := modifyDesk_lasts _ m
  signals m := modifyDesk_lasts _ m
  intakes := intakes_lasts.intake
  executes m line _ operable := ⟨(execute_copes line m operable).1, fun _ _ => trivial⟩

theorem onEndpoint_lasts (f : Endpoint → Endpoint) (m : Monitor) :
    Obeys Lasts m (onEndpoint f) := by
  intro operable
  have connected : (m.session.endpoint.map f).isSome = true := by
    rw [Option.isSome_map]
    exact operable.connected
  exact ⟨⟨connected, operable.line⟩, fun _ _ => trivial⟩

theorem passes_lasts : Passes Lasts where
  reaches f m _ := onEndpoint_lasts f m
  surrounds _ _ _ _ _ _ := lasts_of_desk
  pulses _ _ _ := lasts_of_desk

theorem meet_lasts (h : Happening) (m : Monitor) : Obeys Lasts m (meet h) :=
  passes_lasts.meet_any serves_lasts h m

theorem Reachable.operable {start : Monitor} (operable : start.session.Operable)
    (run : Reachable start m) : m.session.Operable := by
  induction run with
  | start => exact operable
  | meet h _ ih => exact (meet_lasts h _ ih).1

/-- **Every command is answered.** Whatever the device and the file system did before and are
going to do, whatever the operator types ends with an answer; the answer is to quit for the verb q
alone, and no private command ends the run. -/
theorem commands_answered {start : Monitor} (fresh : Fresh start)
    (operable : start.session.Operable) (run : Reachable start m) :
    (∀ line, (execute line m).value = .ok (resultOf line)) ∧
      ∀ cs, (privateCommand cs m).value ≠ .ok .terminate := by
  have builtIn := (run.settled fresh).desk.active
  constructor
  · exact execute_answers (run.operable operable) builtIn
  · exact privateCommand_ne_terminate builtIn

/-- A serial line to a SiRF receiver that takes no writes, with a log that can neither be written
to nor closed, and a command to change the mode. -/
theorem commands_answered_of_refusals :
    let start : Monitor := (Session.opened (.serial "/dev/ttyS0"),
      { hostname := "localhost", log := { current := some .sink } })
    let refusing : Storage := { writeRefusal := some "full", closeRefusal := some "full" }
    let known := (meet (.turn (.woke { reply := some (.line "t SiRF") })) start).state
    let failing := (meet (.delivers .failing) known).state
    let m := (meet (.stores refusing) failing).state
    Fresh start ∧ start.session.Operable ∧ Reachable start m ∧
      m.session.device = some .sirf ∧ m.desk.log.isOpen = true ∧
      (execute "n" m).value = .ok .proceed ∧ (execute "l" m).value = .ok .proceed ∧
      (execute "q" m).value = .ok .quit := by
  intro start refusing known failing m
  have fresh : Fresh start := ⟨rfl, rfl, rfl, rfl⟩
  have operable : start.session.Operable := ⟨rfl, by decide, by decide, by decide⟩
  have run : Reachable start m := .meet _ (.meet _ (.meet _ .start))
  obtain ⟨answered, _⟩ := commands_answered fresh operable run
  refine ⟨fresh, operable, run, by decide +kernel, by decide +kernel, ?_⟩
  exact ⟨answered "n", answered "l", answered "q"⟩

end GnssMonitor.Monitor
