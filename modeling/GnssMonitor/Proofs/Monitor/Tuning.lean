import GnssMonitor.Proofs.Command.SpeedChange
import GnssMonitor.Proofs.Desk.Line
import GnssMonitor.Proofs.Monitor.Runs
import GnssMonitor.Proofs.Session.Probing

/-! The port of a serial session stays set as the session has it, whatever happens, and the speed of
the line changes only where the operator asks for that. -/

namespace GnssMonitor.Monitor

open Act (Obeys)

/-- One of the lines is a change of speed. -/
def AsksSpeed (said : String → Prop) : Prop :=
  ∃ line arg, said line ∧ Command.read? line = some ⟨'s', arg⟩

/-- The session stays in tune with its port, and the local speed changes at most where one of the
lines asks for that. -/
abbrev StaysTuned (said : String → Prop) : Monitor → List Effect → Monitor → Prop :=
  Act.Keeps (·.session.Tuned) fun e => ∀ n, e = .line (.baud n) → AsksSpeed said

variable {said : String → Prop} {m m' : Monitor} {es : List Effect}

theorem staysTuned_of_desk {s : Session} {d d' : Desk} (off : onLine es = []) :
    StaysTuned said (s, d) es (s, d') := by
  intro tuned
  refine ⟨tuned, ?_⟩
  rintro e there n rfl
  have other := onLine_eq_nil.mp off _ there
  contradiction

theorem staysTuned_of_silence {s s' : Session} {d : Desk} (tuned : s.Tuned → s'.Tuned) :
    StaysTuned said (s, d) [] (s', d) := fun before => ⟨tuned before, by simp⟩

/-- What goes out to the receiver changes nothing about the line. -/
theorem staysTuned_of_output {s s' : Session} {d : Desk} {out : List LineEffect}
    (tuned : s.Tuned → s'.Tuned) (output : ∀ e ∈ out, Session.isOutput e = true) :
    StaysTuned said (s, d) (out.map .line) (s', d) := by
  intro before
  refine ⟨tuned before, ?_⟩
  rintro e there n rfl
  obtain ⟨e, there, same⟩ := List.mem_map.mp there
  obtain rfl := Effect.line.inj same
  have sent := output _ there
  contradiction

theorem onDesk_staysTuned {α : Type} {x : Desk.Do α} (off : Obeys Desk.KeepsOff m.desk x) :
    Obeys (StaysTuned said) m (onDesk x) := by
  unfold Obeys onDesk
  rw [Act.within_apply, List.map_id]
  exact staysTuned_of_desk off

/-- No verb but `s` has a hand in how the line is set. -/
theorem permits_staysTuned : Permits (· ≠ 's') (StaysTuned said) where
  complains _ _ _ := staysTuned_of_desk rfl
  notes _ _ _ := staysTuned_of_desk rfl
  logs _ _ _ _ := staysTuned_of_desk rfl
  sends _ _ _ output := staysTuned_of_output id (List.forall_mem_singleton.mpr output)
  settles _ _ := staysTuned_of_desk rfl
  reboots _ := staysTuned_of_desk rfl
  hooks _ _ _ := staysTuned_of_desk rfl
  probes _ _ _ _ _ := staysTuned_of_silence fun tuned => tuned.of_same rfl rfl
  recounts _ _ _ _ := staysTuned_of_silence fun tuned => tuned.of_same rfl rfl
  remembers _ _ _ _ := staysTuned_of_desk rfl
  relines _ _ _ verb := absurd rfl verb
  switches m _ _ _ _ := onDesk_staysTuned (Desk.switchTo_switches m.session m.desk).keepsOff
  forces _ _ _ _ _ _ := staysTuned_of_silence fun tuned => tuned.of_same rfl rfl
  forgets _ _ _ := staysTuned_of_desk rfl

theorem perform_staysTuned {line : String} {c : Command} (there : said line)
    (read : Command.read? line = some c) (m : Monitor) :
    Obeys (StaysTuned said) m (perform c) := by
  obtain ⟨verb, arg⟩ := c
  by_cases speed : verb = 's'
  · subst speed
    have changed : Obeys (StaysTuned said) m (changeSpeed arg) :=
      fun tuned => ⟨changeSpeed_tuned tuned, fun _ _ _ _ => ⟨line, arg, there, read⟩⟩
    exact changed.bind fun _ _ => Act.obeys_pure _
  · exact perform_obeys permits_staysTuned speed m

theorem intakes_staysTuned : Intakes (StaysTuned said) where
  reads _ _ _ present := staysTuned_of_silence (Session.receive_tuned present)
  frames _ _ _ := staysTuned_of_silence fun tuned => tuned.of_same rfl rfl
  accepts s _ := staysTuned_of_output Session.accept_tuned (Session.accept_sends s)
  takes s d := staysTuned_of_desk (Desk.takePacket_keepsOff s d)

theorem attends_staysTuned : Attends said (StaysTuned said) where
  asks _ := staysTuned_of_desk rfl
  resumes _ := staysTuned_of_desk rfl
  deafens _ := staysTuned_of_desk rfl
  signals _ := staysTuned_of_desk rfl
  intakes := intakes_staysTuned.intake
  executes m _ there := execute_performs permits_staysTuned (fun _ => perform_staysTuned there) m

theorem passes_staysTuned : Passes (StaysTuned said) where
  reaches _ _ same := staysTuned_of_silence fun tuned => tuned.of_map same
  surrounds _ _ _ _ _ _ := staysTuned_of_desk rfl
  pulses clock second m :=
    onDesk_staysTuned (Desk.takePulse_obeys Desk.reports_keepsOff clock second m.desk)

theorem meet_staysTuned (h : Happening) (m : Monitor) :
    Obeys (StaysTuned h.Says) m (meet h) :=
  passes_staysTuned.meet_saying attends_staysTuned (fun _ said => said) m

theorem Reachable.tuned {start : Monitor} (tuned : start.session.Tuned)
    (run : Reachable start m) : m.session.Tuned := by
  induction run with
  | start => exact tuned
  | meet h _ ih => exact (meet_staysTuned h _ ih).1

/-- **A change of speed is all or nothing.** Whatever has happened before, the port is set as the
session has it. A change of speed that goes through gives both the settings that were asked for,
once the message is out, the port drained and the receiver settled. Any other leaves all as it was,
and nothing but such a command changes the local speed. -/
theorem speed_changes_as_whole {start : Monitor} (fresh : Fresh start)
    (tuned : start.session.Tuned) (run : Reachable start m) :
    m.session.Tuned ∧
      (∀ typed arg, Command.read? typed = some ⟨'s', arg⟩ →
        (∀ r line, Retunes m arg r line → ∃ bs before,
          (Order.speed line).message m = .ok (some bs) ∧
          (execute typed m).state.session = retuned m.session line ∧
          (execute typed m).effects = before ++ delivery bs line.baud ∧
          ∀ n, .line (.baud n) ∉ before) ∧
        ((∀ r line, ¬ Retunes m arg r line) →
          (execute typed m).state.session = m.session ∧
          ∀ n, .line (.baud n) ∉ (execute typed m).effects)) ∧
      ∀ h n, .line (.baud n) ∈ (meet h m).effects → AsksSpeed h.Says := by
  have tuned := run.tuned tuned
  have builtIn := (run.settled fresh).desk.active
  refine ⟨tuned, ?_, ?_⟩
  · intro typed arg read
    constructor
    · intro r line retunes
      exact execute_retunes builtIn read tuned retunes
    · exact execute_steady builtIn read tuned
  · intro h n there
    exact (meet_staysTuned h m tuned).2 _ there n rfl

/-- A serial line to a SiRF receiver, and a change of speed that leaves the framing as it is. The
receiver is told with a message of its own. A change of speed without a speed does nothing, and one
behind which the port does not drain leaves the line as it is. -/
theorem speed_changes_as_whole_of_sirf :
    let start : Monitor := (Session.opened (.serial "/dev/ttyS0"), { hostname := "localhost" })
    let m := (meet (.turn (.woke { reply := some (.line "t SiRF") })) start).state
    let line : LineSettings := { baud := 19200 }
    let changed := (execute "s 19200" m).state
    let clogged := (meet (.drains (.failing "clogged")) m).state
    Fresh start ∧ start.session.Tuned ∧ Reachable start m ∧ Retunes m "19200" .sirf line ∧
      changed.session = retuned m.session line ∧
      (∃ bs before, (execute "s 19200" m).effects = before ++ delivery bs 19200) ∧
      (execute "s :8N1" m).state.session = m.session ∧
      (execute "s 19200" clogged).state.session = clogged.session := by
  intro start m line changed clogged
  have fresh : Fresh start := ⟨rfl, rfl, rfl, rfl⟩
  have tuned : start.session.Tuned := Session.opened_tuned _
  have run : Reachable start m := .meet _ .start
  have requested : Requests m.session.line "19200".toList line :=
    readLine_iff.mp (by decide +kernel)
  have retunes : Retunes m "19200" .sirf line :=
    ⟨by decide +kernel, by decide +kernel, requested, by decide +kernel, by decide +kernel,
      by decide +kernel, by decide +kernel, by decide +kernel⟩
  have silent : ∀ r line, ¬ Retunes m ":8N1" r line := by
    intro r line retunes
    have unread : readLine m.session.line ":8N1".toList = .error "Invalid speed ''" := rfl
    rw [readLine_iff.mpr retunes.requested] at unread
    contradiction
  have undrained : ∀ r line, ¬ Retunes clogged "19200" r line :=
    fun _ _ retunes => Option.some_ne_none _ retunes.drained
  obtain ⟨_, whole, _⟩ := speed_changes_as_whole fresh tuned run
  have run' := run.meet (.drains (.failing "clogged"))
  obtain ⟨_, whole', _⟩ := speed_changes_as_whole fresh tuned run'
  obtain ⟨goes, _⟩ := whole "s 19200" "19200" (by decide +kernel)
  obtain ⟨_, stays⟩ := whole "s :8N1" ":8N1" (by decide +kernel)
  obtain ⟨_, waits⟩ := whole' "s 19200" "19200" (by decide +kernel)
  obtain ⟨bs, before, _, same, done, _⟩ := goes _ _ retunes
  exact ⟨fresh, tuned, run, retunes, same, ⟨bs, before, done⟩, (stays silent).1,
    (waits undrained).1⟩

end GnssMonitor.Monitor
