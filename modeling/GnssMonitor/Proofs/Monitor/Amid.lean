import GnssMonitor.Proofs.Command.Heedless
import GnssMonitor.Proofs.Session.Hooks

/-! A turn of the loop with signals coming in the middle of it. They are taken note of and make no
difference else. -/

namespace GnssMonitor

/-- What happens in a run: a turn begins, the device and the operator are waited for, something is
done, and a signal comes. -/
inductive Event
  | begins
  | waits
  | does (e : Effect)
  | signal
  deriving DecidableEq, Repr

namespace Event

def effect? : Event → Option Effect
  | does e => some e
  | _ => none

/-- Something is done, or a signal comes. -/
def isBusy : Event → Bool
  | does _ | signal => true
  | begins | waits => false

/-- What is done. -/
def done (es : List Event) : List Effect := es.filterMap effect?

/-- Whether a signal has come. -/
def came (es : List Event) : Bool := es.contains signal

@[simp] theorem done_nil : done [] = [] := rfl

@[simp] theorem done_append (es es' : List Event) : done (es ++ es') = done es ++ done es' :=
  List.filterMap_append ..

@[simp] theorem done_does (es : List Effect) : done (es.map does) = es := by
  simp [done, List.filterMap_map, Function.comp_def, effect?]

@[simp] theorem came_nil : came [] = false := rfl

@[simp] theorem came_append (es es' : List Event) : came (es ++ es') = (came es || came es') := by
  simp [came]

@[simp] theorem came_does (es : List Effect) : came (es.map does) = false := by
  simp [came]

end Event

open Event (done came)

/-- A point at which a signal can come, once the loop is past its looks for one. -/
inductive Juncture
  /-- During a wait that fails. -/
  | waiting
  /-- Before the device is served. -/
  | woken
  /-- Before and after something is done with a packet of the session. -/
  | taking (s : Session)
  | taken (s : Session)
  | served
  | asked
  | executed
  | resumed

namespace Desk

variable {α : Type}

abbrev Amid := Act Event Desk

def plainly (x : Do α) : Amid α := Act.within id (fun d _ => d) .does x

/-- A signal comes, or does not. -/
def strike (comes : Bool) : Amid Unit :=
  if comes then do
    Act.emit .signal
    modify (withSignal true)
  else pure ()

def takePacketAmid (comes : Juncture → Bool) (s : Session) : Amid Unit := do
  strike (comes (.taking s))
  plainly (takePacket s)
  strike (comes (.taken s))

end Desk

namespace Monitor

variable {α β : Type} {m : Monitor} {comes : Juncture → Bool}

abbrev Amid := Act Event Monitor

def plainly (x : Do α) : Amid α := Act.within id (fun m _ => m) .does x

def onDeskAmid (x : Desk.Amid α) : Amid α := Act.within Prod.snd (fun d m => (m.1, d)) id x

def strike (comes : Bool) : Amid Unit := onDeskAmid (Desk.strike comes)

/-- With signals coming in between the same is done, with the same result, and they are taken note
of. -/
structure Echoes (m : Monitor) (y : Amid α) (x : Do α) : Prop where
  same : x (m.withSignal false) =
    ⟨(y m).value, (y m).state.withSignal false, done (y m).effects⟩
  noted : (y m).state.desk.signalled = (m.desk.signalled || came (y m).effects)
  busy : ∀ e ∈ (y m).effects, e.isBusy = true

theorem echoes_pure (a : α) : Echoes m (pure a) (pure a) := ⟨rfl, by simp, by simp⟩

theorem echoes_throw (e : Fault) : Echoes m (throw e : Amid α) (throw e) := ⟨rfl, by simp, by simp⟩

theorem echoes_emit (e : Effect) : Echoes m (Act.emit (.does e)) (Act.emit e) :=
  ⟨rfl, by simp [came], by simp [Event.isBusy]⟩

theorem Echoes.bind {y : Amid α} {x : Do α} {g : α → Amid β} {f : α → Do β}
    (first : Echoes m y x) (rest : ∀ a, Echoes (y m).state (g a) (f a)) :
    Echoes m (y >>= g) (x >>= f) := by
  obtain ⟨same, noted, busy⟩ := first
  cases answered : (y m).value with
  | error e =>
    have amid := Act.bind_error (f := g) answered
    have answered' : (x (m.withSignal false)).value = .error e := by rw [same, answered]
    have plain := Act.bind_error (f := f) answered'
    constructor
    · rw [plain, amid, same]
    · rw [amid]
      exact noted
    · rw [amid]
      exact busy
  | ok a =>
    obtain ⟨same', noted', busy'⟩ := rest a
    have amid := Act.bind_ok (f := g) answered
    have answered' : (x (m.withSignal false)).value = .ok a := by rw [same, answered]
    have plain := Act.bind_ok (f := f) answered'
    constructor
    · rw [plain, amid, same]
      simp [same']
    · rw [amid]
      simp [noted', noted, Bool.or_assoc]
    · rw [amid]
      exact List.forall_mem_append.mpr ⟨busy, busy'⟩

theorem echoes_get_bind {g : Monitor → Amid β} {f : Monitor → Do β}
    (rest : Echoes m (g m) (f (m.withSignal false))) : Echoes m (get >>= g) (get >>= f) :=
  ⟨rest.same, rest.noted, rest.busy⟩

/-- What has nothing to do with signals leaves them as they are. -/
theorem signalled_of_heedless {x : Do α} (heedless : ∀ b, Heedless b x) (m : Monitor) :
    (x m).state.desk.signalled = m.desk.signalled := by
  have same : x (m.withSignal m.desk.signalled) = _ := heedless m.desk.signalled m
  have here : m.withSignal m.desk.signalled = m := rfl
  rw [here] at same
  exact congrArg (·.state.desk.signalled) same

theorem echoes_plainly {x : Do α} (heedless : ∀ b, Heedless b x) (m : Monitor) :
    Echoes m (plainly x) x := by
  have kept := signalled_of_heedless heedless m
  constructor
  · rw [heedless false m]
    simp [plainly]
  · simp [plainly, kept]
  · simp [plainly, Event.isBusy]

theorem strike_apply (comes : Bool) (m : Monitor) : strike comes m =
    ⟨.ok (), if comes then m.withSignal true else m, if comes then [.signal] else []⟩ := by
  cases comes <;> rfl

theorem echoes_strike (comes : Bool) (m : Monitor) : Echoes m (strike comes) (pure ()) := by
  have struck := strike_apply comes m
  cases comes with
  | false => exact ⟨rfl, by simp [struck], by simp [struck]⟩
  | true =>
    constructor
    · rfl
    · simp [struck, withSignal, Desk.withSignal, came, desk]
    · simp [struck, Event.isBusy]

/-- A signal may come before anything is done. -/
theorem Echoes.after_strike {y : Amid α} {x : Do α} (comes : Bool) (rest : ∀ m, Echoes m y x)
    (m : Monitor) : Echoes m (strike comes >>= fun _ => y) x := by
  show Echoes m (strike comes >>= fun _ => y) (pure () >>= fun _ => x)
  exact (echoes_strike comes m).bind fun _ => rest _

/-- A signal may come once all is done. -/
theorem Echoes.then_strike {y : Amid Unit} {x : Do Unit} (first : Echoes m y x) (comes : Bool) :
    Echoes m (y >>= fun _ => strike comes) x := by
  have struck : Echoes m (y >>= fun _ => strike comes) (x >>= pure) :=
    first.bind fun _ => echoes_strike comes _
  exact ⟨(Act.bind_pure x _).symm.trans struck.same, struck.noted, struck.busy⟩

theorem onDeskAmid_apply (y : Desk.Amid α) (m : Monitor) : onDeskAmid y m =
    ⟨(y m.desk).value, (m.session, (y m.desk).state), (y m.desk).effects⟩ := by
  unfold onDeskAmid
  rw [Act.within_apply, List.map_id]
  rfl

theorem onDeskAmid_bind (y : Desk.Amid α) (g : α → Desk.Amid β) :
    onDeskAmid (y >>= g) = (onDeskAmid y >>= fun a => onDeskAmid (g a)) := by
  funext m
  have first := onDeskAmid_apply y m
  cases answered : (y m.desk).value with
  | error e =>
    rw [onDeskAmid_apply, Act.bind_error answered, Act.bind_error (by rw [first]; exact answered),
      first]
  | ok a =>
    rw [onDeskAmid_apply, Act.bind_ok answered, Act.bind_ok (by rw [first]; exact answered), first,
      onDeskAmid_apply]
    rfl

theorem onDeskAmid_plainly (x : Desk.Do α) : onDeskAmid (Desk.plainly x) = plainly (onDesk x) := by
  funext m
  simp [onDeskAmid, Desk.plainly, plainly, onDesk]

theorem takePacketAmid_echoes (comes : Juncture → Bool) (s : Session) (m : Monitor) :
    Echoes m (onDeskAmid (Desk.takePacketAmid comes s)) (onDesk (Desk.takePacket s)) := by
  have parts : onDeskAmid (Desk.takePacketAmid comes s) = (strike (comes (.taking s)) >>= fun _ =>
      plainly (onDesk (Desk.takePacket s)) >>= fun _ => strike (comes (.taken s))) := by
    simp only [Desk.takePacketAmid, onDeskAmid_bind, onDeskAmid_plainly, strike]
  rw [parts]
  refine Echoes.after_strike _ (fun m => ?_) m
  refine (echoes_plainly (fun b => ?_) m).then_strike _
  exact onDesk_heedless (Desk.takePacket_heedless s)

/-- The session has nothing to do with signals. -/
theorem onSession_echoes (x : Session.Do α) (m : Monitor) :
    Echoes m (Session.onSession (fun e => .does (.line e)) x) (onSession x) := by
  have does : ∀ es : List LineEffect, es.map (fun e => Event.does (.line e)) =
      (es.map Effect.line).map .does := by simp
  have amid : (Session.onSession (fun e => Event.does (.line e)) x m).effects =
      ((x m.session).effects.map Effect.line).map Event.does := does _
  constructor
  · rw [amid, Event.done_does]
    rfl
  · rw [amid, Event.came_does, Bool.or_false]
    rfl
  · rw [amid]
    simp [Event.isBusy]

/-- An intake amid signals. -/
def intakeAmid (comes : Juncture → Bool) : Amid IntakeStatus :=
  Session.intake (fun e => .does (.line e)) (Desk.takePacketAmid comes)

theorem takeIn_echoes (f : Framer) (m : Monitor) :
    Echoes m (Session.takeIn (fun e => .does (.line e)) (Desk.takePacketAmid comes) f)
      (Session.takeIn .line Desk.takePacket f) := by
  refine (onSession_echoes _ m).bind fun _ => (onSession_echoes _ _).bind fun _ => ?_
  exact echoes_get_bind (takePacketAmid_echoes comes _ _)

theorem takeInAll_echoes (cuts : List Framer) (m : Monitor) :
    Echoes m (Session.takeInAll (fun e => .does (.line e)) (Desk.takePacketAmid comes) cuts)
      (Session.takeInAll .line Desk.takePacket cuts) := by
  induction cuts generalizing m with
  | nil => exact echoes_pure ()
  | cons f rest ih => exact (takeIn_echoes f m).bind fun _ => ih _

theorem takeInBytes_echoes (bs : Bytes) (m : Monitor) :
    Echoes m (Session.takeInBytes (fun e => .does (.line e)) (Desk.takePacketAmid comes) bs)
      (Session.takeInBytes .line Desk.takePacket bs) :=
  echoes_get_bind ((takeInAll_echoes _ m).bind fun _ => onSession_echoes _ _)

theorem intake_echoes (comes : Juncture → Bool) (m : Monitor) :
    Echoes m (intakeAmid comes) intake := by
  refine echoes_get_bind ?_
  have same : (m.withSignal false).1 = m.1 := rfl
  rw [same]
  dsimp only
  cases m.1.endpoint with
  | none => exact echoes_throw _
  | some e =>
    refine (onSession_echoes _ m).bind fun _ => ?_
    obtain _ | _ | ⟨b, bs⟩ := e.receive.1
    · exact echoes_pure _
    · exact echoes_pure _
    · exact (takeInBytes_echoes _ _).bind fun _ => echoes_pure _

/-- Serving the device amid signals. -/
def serveDeviceAmid (comes : Juncture → Bool) : Amid (Option Cause) := do
  let status ← intakeAmid comes
  strike (comes .served)
  return (← get).desk.pending.orElse fun _ => Cause.ofIntake? status

theorem serveDevice_echoes (comes : Juncture → Bool) (m : Monitor) :
    Echoes m (serveDeviceAmid comes) serveDevice := by
  refine (intake_echoes comes m).bind fun status => ?_
  refine Echoes.after_strike _ (fun m => ?_) _
  exact echoes_get_bind (g := fun m => pure (m.desk.pending.orElse _)) (echoes_pure _)

/-- Hearing the operator amid signals. -/
def keystrokeAmid (comes : Juncture → Bool) (reply : Reply) : Amid (Option Cause) := do
  Act.emit (.does (.ask (← get).prompt))
  strike (comes .asked)
  match reply with
  | .closed =>
    plainly (modifyDesk fun d => { d with listening := false })
    return none
  | .nothing => return none
  | .line text =>
    let result ← plainly (execute text)
    strike (comes .executed)
    match result with
    | .quit => return some .quit
    | .proceed =>
      Act.emit (.does .resume)
      strike (comes .resumed)
      return none

theorem keystroke_echoes (comes : Juncture → Bool) (reply : Reply) (m : Monitor) :
    Echoes m (keystrokeAmid comes reply) (keystroke reply) := by
  refine echoes_get_bind ((echoes_emit _).bind fun _ => Echoes.after_strike _ (fun m => ?_) _)
  cases reply with
  | closed =>
    refine (echoes_plainly (fun _ => modifyDesk_heedless fun _ => rfl) m).bind fun _ => ?_
    exact echoes_pure none
  | nothing => exact echoes_pure none
  | line text =>
    refine (echoes_plainly (fun _ => execute_heedless text) m).bind fun result => ?_
    refine Echoes.after_strike _ (fun m => ?_) _
    cases result with
    | quit => exact echoes_pure _
    | proceed =>
      refine (echoes_emit _).bind fun _ => ?_
      exact Echoes.after_strike _ (fun _ => echoes_pure none) _

def serveOperatorAmid (comes : Juncture → Bool) : Option Reply → Amid (Option Cause)
  | none => return none
  | some reply => do
    if (← get).desk.listening then keystrokeAmid comes reply else return none

theorem serveOperator_echoes (comes : Juncture → Bool) (reply : Option Reply) (m : Monitor) :
    Echoes m (serveOperatorAmid comes reply) (serveOperator reply) := by
  cases reply with
  | none => exact echoes_pure none
  | some reply =>
    refine echoes_get_bind ?_
    have same : (m.withSignal false).desk.listening = m.desk.listening := rfl
    rw [same]
    split
    · exact keystroke_echoes comes reply m
    · exact echoes_pure none

/-- Serving what a wait returned with amid signals. -/
def attendAmid (comes : Juncture → Bool) (w : Wake) : Amid (Option Cause) := do
  if (← get).desk.signalled then return some .signal
  strike (comes .woken)
  if w.deviceErred then return some .selectFailed
  if w.deviceReady then
    match ← serveDeviceAmid comes with
    | some cause => return some cause
    | none => serveOperatorAmid comes w.reply
  else serveOperatorAmid comes w.reply

theorem attend_echoes (comes : Juncture → Bool) (w : Wake) (quiet : m.desk.signalled = false) :
    Echoes m (attendAmid comes w) (attend w) := by
  refine echoes_get_bind ?_
  have quiet' : (m.withSignal false).desk.signalled = false := rfl
  rw [quiet, quiet']
  refine Echoes.after_strike _ (fun m => ?_) m
  by_cases erred : w.deviceErred = true
  · simp only [erred, if_true]
    exact echoes_pure _
  · simp only [erred]
    by_cases ready : w.deviceReady = true
    · simp only [ready, if_true]
      refine (serveDevice_echoes comes m).bind fun cause => ?_
      cases cause with
      | some cause => exact echoes_pure _
      | none => exact serveOperator_echoes comes w.reply _
    · simp only [ready]
      exact serveOperator_echoes comes w.reply m

/-- What the end of a wait leads to. -/
def answer : Wait → Do (Option Cause)
  | .failed => return some .selectFailed
  | .broken e => throw e
  | .woke w => serve w

/-- What the end of a wait leads to amid signals. One that comes during a wait that returns is among
what it brings. -/
def answerAmid (comes : Juncture → Bool) : Wait → Amid (Option Cause)
  | .failed => do
    strike (comes .waiting)
    return some .selectFailed
  | .broken e => do
    strike (comes .waiting)
    throw e
  | .woke w => do
    strike w.signalled
    attendAmid comes w

theorem answer_echoes {wait : Wait} (quiet : m.desk.signalled = false)
    (undisturbed : ∀ w, wait = .woke w → w.signalled = false) (comes : Juncture → Bool) :
    Echoes m (answerAmid comes wait) (answer wait) := by
  cases wait with
  | failed => exact Echoes.after_strike _ (fun _ => echoes_pure _) m
  | broken e => exact Echoes.after_strike _ (fun _ => echoes_throw e) m
  | woke w =>
    have calm := undisturbed w rfl
    have served : answer (.woke w) = attend w := by
      unfold answer serve
      simp [calm]
    rw [served, answerAmid, calm]
    exact attend_echoes comes w quiet

/-- A turn of the loop amid signals. -/
def stepAmid (comes : Juncture → Bool) (wait : Wait) : Amid (Option Cause) := do
  let m ← get
  if m.desk.signalled then return some .signal
  if m.session.endpoint.isNone then throw (.absent "fileno")
  Act.emit .waits
  answerAmid comes wait

theorem stepAmid_of_signalled (late : m.desk.signalled = true) (comes : Juncture → Bool)
    (wait : Wait) : stepAmid comes wait m = ⟨.ok (some .signal), m, []⟩ := by
  simp [stepAmid, late]

theorem stepAmid_of_absent (quiet : m.desk.signalled = false)
    (absent : m.session.endpoint.isNone = true) (comes : Juncture → Bool) (wait : Wait) :
    stepAmid comes wait m = ⟨.error (.absent "fileno"), m, []⟩ := by
  unfold stepAmid
  rw [Act.get_bind, if_neg (by simp [quiet]), if_pos absent]
  rfl

section Present

variable (quiet : m.desk.signalled = false) (present : m.session.endpoint.isNone = false)
include quiet present

theorem stepAmid_of_present (comes : Juncture → Bool) (wait : Wait) :
    stepAmid comes wait m = (Act.emit .waits >>= fun _ => answerAmid comes wait) m := by
  unfold stepAmid
  rw [Act.get_bind, if_neg (by simp [quiet]), if_neg (by simp [present])]

/-- A signal by the time that a wait returns comes before all else. -/
theorem stepAmid_of_woken {w : Wake} (signalled : w.signalled = true) (comes : Juncture → Bool) :
    stepAmid comes (.woke w) m =
      ⟨.ok (some .signal), m.withSignal true, [.waits, .signal]⟩ := by
  have struck := strike_apply true m
  have attended : attendAmid comes w (m.withSignal true) =
      ⟨.ok (some .signal), m.withSignal true, []⟩ := rfl
  rw [stepAmid_of_present quiet present, Act.emit_bind, answerAmid, signalled,
    Act.bind_ok (by rw [struck]), struck]
  simp [attended]

theorem step_of_present (wait : Wait) : step wait m = answer wait m := by
  unfold step
  rw [Act.get_bind, if_neg (by simp [quiet]), if_neg (by simp [present])]
  cases wait <;> rfl

/-- A turn that goes by without a signal until its wait returns is the same whether or not one comes
later. -/
theorem step_echoes {wait : Wait}
    (undisturbed : ∀ w, wait = .woke w → w.signalled = false) (comes : Juncture → Bool) :
    ∃ es, (stepAmid comes wait m).effects = .waits :: es ∧ (∀ e ∈ es, e.isBusy = true) ∧
      step wait m =
        ⟨(stepAmid comes wait m).value, (stepAmid comes wait m).state.withSignal false, done es⟩ ∧
      (stepAmid comes wait m).state.desk.signalled = came es := by
  have plain : m.withSignal false = m := by
    rw [← quiet]
    rfl
  obtain ⟨same, noted, busy⟩ := answer_echoes quiet undisturbed comes
  rw [stepAmid_of_present quiet present, step_of_present quiet present, Act.emit_bind]
  rw [plain] at same
  rw [quiet, Bool.false_or] at noted
  exact ⟨_, rfl, busy, same, noted⟩

end Present

theorem step_of_absent (quiet : m.desk.signalled = false)
    (absent : m.session.endpoint.isNone = true) (wait : Wait) :
    step wait m = ⟨.error (.absent "fileno"), m, []⟩ := by
  unfold step
  rw [Act.get_bind, if_neg (by simp [quiet]), if_pos absent]
  rfl

/-- Without a signal by the time that its wait returns, a turn takes note of any that come later and
is the same as without them. -/
theorem step_of_undisturbed {wait : Wait} (quiet : m.desk.signalled = false)
    (undisturbed : ∀ w, wait = .woke w → w.signalled = false) (comes : Juncture → Bool) :
    step wait m = ⟨(stepAmid comes wait m).value, (stepAmid comes wait m).state.withSignal false,
        done (stepAmid comes wait m).effects⟩ ∧
      (stepAmid comes wait m).state.desk.signalled = came (stepAmid comes wait m).effects := by
  cases present : m.session.endpoint.isNone with
  | true =>
    have plain : m.withSignal false = m := by
      rw [← quiet]
      rfl
    rw [stepAmid_of_absent quiet present, step_of_absent quiet present, plain]
    exact ⟨rfl, quiet⟩
  | false =>
    obtain ⟨es, effects, _, same, noted⟩ := step_echoes quiet present undisturbed comes
    rw [same, noted, effects]
    exact ⟨rfl, rfl⟩

end Monitor
end GnssMonitor
