import GnssMonitor.Proofs.Command.Execution
import GnssMonitor.Proofs.Desk.Reporting
import GnssMonitor.Proofs.Monitor.EventLoop
import GnssMonitor.Proofs.Session.Hooks
import GnssMonitor.Proofs.Session.Probing

/-! The work of monitoring is done between a question to the operator and its end, and before
anything is let go of. -/

namespace GnssMonitor

/-- No question to the operator, nor its end, nor the end of monitoring. -/
def Effect.isWork : Effect → Bool
  | .ask _ | .resume | .stop | .line .close => false
  | _ => true

theorem Effect.holds_of_work {e : Effect} (work : e.isWork = true) :
    e ≠ .stop ∧ e ≠ .line .close := by
  constructor
  · rintro rfl
    contradiction
  · rintro rfl
    contradiction

open Act (Obeys Only)

theorem Session.isWork_of_output {e : LineEffect} (output : Session.isOutput e = true) :
    (Effect.line e).isWork = true := by
  cases e <;> simp_all [Session.isOutput, Effect.isWork]

namespace Desk

theorem isWork_of_shown {e : Effect} (shown : isShown e = true) : e.isWork = true := by
  cases e <;> simp_all [isShown, Effect.isWork]

/-- Only work is done. -/
abbrev Works {σ : Type} : σ → List Effect → σ → Prop := Only (·.isWork = true)

theorem OnlySwitches.works {r : Receiver} {d d' : Desk} {es : List Effect}
    (h : OnlySwitches r d es d') : Works d es d' := by
  intro e he
  cases h.2 e he with
  | shown shown => exact isWork_of_shown shown
  | notStarted | noRoom | unmatched => rfl

theorem reports_works : Reports Works where
  appends _ _ := by simp [Only, Effect.isWork]
  complains _ _ _ := by simp [Only, Effect.isWork]
  logs h := by simp [Only, h.2]
  tracks _ _ := by simp [Only]

theorem takePacket_works (s : Session) (d : Desk) : Obeys Works d (takePacket s) := by
  apply takePacket_obeys reports_works
  · exact (select_switches s d).works
  · intro _
    simp [Only]

end Desk

namespace Monitor

open Desk (Works)

theorem permits_works : Permits (fun _ => True) Works where
  complains _ _ _ := by simp [Only, Effect.isWork]
  notes _ _ _ := by simp [Only]
  logs _ _ _ _ := by simp [Only]
  sends _ _ _ output := by simpa [Only] using Session.isWork_of_output output
  settles _ _ := by simp [Only, Effect.isWork]
  reboots _ := by simp [Only, Effect.isWork]
  hooks _ _ _ := by simp [Only, Effect.isWork]
  probes _ _ _ _ _ := by simp [Only]
  recounts _ _ _ _ := by simp [Only]
  remembers _ _ _ _ := by simp [Only]
  relines m line _ _ := by
    intro e he
    obtain ⟨e', he', rfl⟩ := List.mem_map.mp he
    rw [Session.setLine_bauds line m.session e' he']
    rfl
  switches m r _ _ _ := by
    intro e he
    obtain ⟨e', he', rfl⟩ := List.mem_map.mp he
    exact (Desk.switchTo_switches m.session m.desk).works e' he'
  forces _ _ _ _ _ _ := by simp [Only]
  forgets _ _ _ := by simp [Only]

theorem execute_works (line : String) (m : Monitor) : Obeys Works m (execute line) :=
  execute_obeys permits_works (fun _ _ => trivial) m

theorem intakes_works : Intakes Works where
  reads _ _ _ _ := by simp [Only]
  frames _ _ _ := by simp [Only]
  accepts s _ := by
    intro e he
    obtain ⟨e', he', rfl⟩ := List.mem_map.mp he
    exact Session.isWork_of_output (Session.accept_sends s e' he')
  takes s d := Desk.takePacket_works s d

theorem intake_works (m : Monitor) : Obeys Works m intake := intakes_works.intake m

theorem serveDevice_works (m : Monitor) : Obeys Works m serveDevice :=
  (intake_works m).bind fun _ _ => .get_bind (Act.obeys_pure _)

/-- Nothing is let go of before the end. -/
theorem serves_holds : Serves (Only fun e => e ≠ .stop ∧ e ≠ .line .close) where
  asks _ := by simp [Only]
  resumes _ := by simp [Only]
  deafens _ := by simp [Only, Obeys, modifyDesk]
  signals _ := by simp [Only, Obeys, modifyDesk]
  intakes m := (intake_works m).mono fun _ => Effect.holds_of_work
  executes m line _ := (execute_works line m).mono fun _ => Effect.holds_of_work

/-- What a question leads to when the run goes on: a command, after which input goes on, or
nothing more. -/
inductive Asked : Reply → List Effect → Prop
  | answered (prompt text : String) {es : List Effect} (work : ∀ e ∈ es, e.isWork = true) :
      Asked (.line text) (.ask prompt :: es ++ [.resume])
  | unanswered (prompt : String) {reply : Reply} (silent : ∀ text, reply ≠ .line text) :
      Asked reply [.ask prompt]

/-- What a turn does when the run goes on: work, and then one question at most. -/
def Turned (reply : Option Reply) (es : List Effect) : Prop :=
  ∃ before rest, es = before ++ rest ∧ (∀ e ∈ before, e.isWork = true) ∧
    (rest = [] ∨ ∃ r, reply = some r ∧ Asked r rest)

theorem turned_nil (reply : Option Reply) : Turned reply [] := ⟨[], [], rfl, by simp, .inl rfl⟩

variable {m : Monitor}

theorem keystroke_asked {reply : Reply} (goesOn : (keystroke reply m).value = .ok none) :
    Asked reply (keystroke reply m).effects := by
  unfold keystroke at goesOn ⊢
  simp only [Act.get_bind, Act.emit_bind] at goesOn ⊢
  cases reply with
  | closed => exact .unanswered m.prompt (by simp)
  | nothing => exact .unanswered m.prompt (by simp)
  | line text =>
    dsimp only at goesOn ⊢
    have work := execute_works text m
    obtain ⟨result, executed, goesOn⟩ := Act.bind_value_ok.mp goesOn
    rw [Act.bind_ok executed]
    cases result with
    | quit => cases goesOn
    | proceed => exact .answered m.prompt text work

theorem serveOperator_turned {reply : Option Reply}
    (goesOn : (serveOperator reply m).value = .ok none) :
    Turned reply (serveOperator reply m).effects := by
  cases reply with
  | none => exact turned_nil none
  | some r =>
    unfold serveOperator at goesOn ⊢
    simp only [Act.get_bind] at goesOn ⊢
    by_cases listening : m.desk.listening = true
    · simp only [listening, if_true] at goesOn ⊢
      exact ⟨[], _, rfl, by simp, .inr ⟨r, rfl, keystroke_asked goesOn⟩⟩
    · simp only [listening] at goesOn ⊢
      exact turned_nil (some r)

theorem attend_turned {w : Wake} (goesOn : (attend w m).value = .ok none) :
    Turned w.reply (attend w m).effects := by
  unfold attend at goesOn ⊢
  simp only [Act.get_bind] at goesOn ⊢
  by_cases late : m.desk.signalled = true
  · simp [late] at goesOn
  simp only [late] at goesOn ⊢
  by_cases erred : w.deviceErred = true
  · simp [erred] at goesOn
  simp only [erred] at goesOn ⊢
  by_cases ready : w.deviceReady = true
  · simp only [ready, if_true] at goesOn ⊢
    have work := serveDevice_works m
    obtain ⟨cause, served, goesOn⟩ := Act.bind_value_ok.mp goesOn
    simp only [Bool.false_eq_true, if_false]
    rw [Act.bind_ok served]
    cases cause with
    | some cause => cases goesOn
    | none =>
      obtain ⟨before, rest, split, first, second⟩ := serveOperator_turned goesOn
      refine ⟨(serveDevice m).effects ++ before, rest, ?_, ?_, second⟩
      · simp only [split, List.append_assoc]
      · exact List.forall_mem_append.mpr ⟨work, first⟩
  · simp only [ready] at goesOn ⊢
    exact serveOperator_turned goesOn

/-- The operator has the last word of a turn. -/
theorem step_turned {wait : Wait} (goesOn : (step wait m).value = .ok none) :
    ∃ w, wait = .woke w ∧ Turned w.reply (step wait m).effects := by
  unfold step at goesOn ⊢
  simp only [Act.get_bind] at goesOn ⊢
  by_cases late : m.desk.signalled = true
  · simp [late] at goesOn
  by_cases absent : m.session.endpoint.isNone = true
  · simp [late, absent] at goesOn
  simp only [late, absent] at goesOn ⊢
  cases wait with
  | failed => cases goesOn
  | broken e => cases goesOn
  | woke w =>
    refine ⟨w, rfl, ?_⟩
    dsimp only [serve] at goesOn ⊢
    by_cases signalled : w.signalled = true
    · simp only [signalled] at goesOn ⊢
      exact attend_turned goesOn
    · simp only [signalled] at goesOn ⊢
      exact attend_turned goesOn

end Monitor
end GnssMonitor
