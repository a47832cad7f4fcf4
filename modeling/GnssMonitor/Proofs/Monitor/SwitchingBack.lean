import GnssMonitor.Proofs.Monitor.Tuning
import GnssMonitor.Proofs.Session.Framed

/-! A receiver that the operator has had change to sentences is remembered until one is forced, so
that it can be changed back whoever seems to talk by then. -/

namespace GnssMonitor

open Act (Obeys)

namespace Desk

/-- The same receiver is remembered, if any is. -/
def KeepsFallback (d : Desk) (_ : List Effect) (d' : Desk) : Prop := d'.fallback = d.fallback

instance : Act.Composes KeepsFallback where
  nothing _ := rfl
  next same same' := same'.trans same

theorem reports_keepsFallback : Reports KeepsFallback where
  appends _ _ := rfl
  complains _ _ _ := rfl
  logs := by
    rintro d _ _ ⟨⟨_, rfl⟩, _⟩
    rfl
  tracks _ _ := rfl

theorem takePacket_keepsFallback (s : Session) (d : Desk) :
    Obeys KeepsFallback d (takePacket s) := by
  apply takePacket_obeys reports_keepsFallback
  · obtain ⟨⟨_, _, _, _, same, _⟩, _⟩ := select_switches s d
    unfold Obeys KeepsFallback
    rw [same]
  · intro _
    exact rfl

end Desk

namespace Monitor

/-- The receiver is remembered, on a serial line. -/
structure Remembers (r : Receiver) (m : Monitor) : Prop where
  serial : m.session.source.isSerial = true
  identified : m.session.device.isSome
  remembered : m.desk.fallback = some r

/-- The receiver stays remembered. -/
abbrev StaysRemembered (r : Receiver) : Monitor → List Effect → Monitor → Prop :=
  Act.Keeps (Remembers r) fun _ => True

/-- The line does not force a receiver. -/
def IsUnforcing (line : String) : Prop := ∀ c ∈ Command.read? line, c.verb ≠ 't'

instance (line : String) : Decidable (IsUnforcing line) :=
  inferInstanceAs (Decidable (∀ c ∈ Command.read? line, c.verb ≠ 't'))

variable {r : Receiver} {m m' : Monitor} {es : List Effect} {arg : String}

theorem staysRemembered_of (source : m'.session.source = m.session.source)
    (device : m.session.device.isSome → m'.session.device.isSome)
    (fallback : m'.desk.fallback = m.desk.fallback) : StaysRemembered r m es m' := by
  rintro ⟨serial, identified, remembered⟩
  refine ⟨⟨?_, device identified, fallback.trans remembered⟩, fun _ _ => trivial⟩
  rw [source]
  exact serial

theorem onDesk_staysRemembered {α : Type} {x : Desk.Do α}
    (same : Obeys Desk.KeepsFallback m.desk x) : Obeys (StaysRemembered r) m (onDesk x) :=
  staysRemembered_of rfl id same

/-- Who is remembered is a matter of changes of mode and of forcing. -/
theorem permits_staysRemembered : Permits (fun v => v ≠ 'n' ∧ v ≠ 't') (StaysRemembered r) where
  complains _ _ _ := staysRemembered_of rfl id rfl
  notes _ _ _ := staysRemembered_of rfl id rfl
  logs _ _ _ _ := staysRemembered_of rfl id rfl
  sends _ _ _ _ := staysRemembered_of rfl id rfl
  settles _ _ := staysRemembered_of rfl id rfl
  reboots _ := staysRemembered_of rfl id rfl
  hooks _ _ _ := staysRemembered_of rfl id rfl
  probes _ _ _ _ _ := staysRemembered_of rfl id rfl
  recounts _ _ _ _ := staysRemembered_of rfl id rfl
  remembers _ _ _ verb := absurd rfl verb.1
  relines m line _ _ := by
    obtain ⟨_, _, relined⟩ := setLine_state line m
    unfold Obeys
    rw [relined]
    exact staysRemembered_of rfl id rfl
  switches _ _ _ _ verb := absurd rfl verb.2
  forces _ _ _ _ _ verb := absurd rfl verb.2
  forgets _ _ verb := absurd rfl verb.2

section

variable (has : r.has .mode = true)
include has

/-- The remembered receiver is the one asked to change its mode. -/
theorem Remembers.capable (here : Remembers r m) : m.capable .mode = some r := by
  have asked : m.capable .mode = (Receiver.select .mode m.session.device (some r)).filter
      (·.has .mode) := by
    rw [← here.remembered]
    rfl
  rw [asked, Receiver.select, if_pos has, Option.filter_some, if_pos has]

theorem Remembers.changeMode_eq (here : Remembers r m) (arg : String) : changeMode arg m =
    (announce (Order.note (modeAsked m.session.framer.kind arg)) >>= fun _ =>
      switchMode r (modeAsked m.session.framer.kind arg)) m := by
  have able := here.capable has
  exact changeMode_granted (granted_of_capable here.serial here.identified rfl able) able

theorem changeMode_staysRemembered (arg : String) (m : Monitor) :
    Obeys (StaysRemembered r) m (changeMode arg) := by
  have p := permits_staysRemembered (r := r)
  intro here
  have switched (n : Int) : Obeys (StaysRemembered r) (announce (Order.note n) m).state
      (switchMode r n) := by
    refine p.bind_writable (m := (announce _ m).state) here.serial (Session.switchMode_sends _ _)
      fun taken => ?_
    cases taken with
    | false => exact complain_obeys p (by simp [Desk.Unmatched]) _
    | true =>
      refine (settle_obeys p (m := (announce _ m).state) here.serial).bind fun _ _ => ?_
      apply Act.obeys_ite
      · rintro _ ⟨serial, identified, _⟩
        exact ⟨⟨serial, identified, rfl⟩, fun _ _ => trivial⟩
      · exact fun _ => Act.obeys_pure ()
  rw [here.changeMode_eq has arg]
  exact (announce_obeys p _ m).bind (fun _ _ => switched _) here

theorem perform_staysRemembered {line : String} {c : Command} (unforcing : IsUnforcing line)
    (read : Command.read? line = some c) (m : Monitor) :
    Obeys (StaysRemembered r) m (perform c) := by
  by_cases mode : c.verb = 'n'
  · obtain ⟨verb, arg⟩ := c
    obtain rfl : verb = 'n' := mode
    exact (changeMode_staysRemembered has arg m).bind fun _ _ => Act.obeys_pure _
  · exact perform_obeys permits_staysRemembered ⟨mode, unforcing c read⟩ m

end

theorem intakes_staysRemembered : Intakes (StaysRemembered r) where
  reads _ _ _ _ := staysRemembered_of rfl id rfl
  frames _ _ _ := staysRemembered_of rfl id rfl
  accepts s _ := by
    obtain ⟨source, _, device⟩ := Session.accept_kept s
    exact staysRemembered_of source device rfl
  takes s d := staysRemembered_of rfl id (Desk.takePacket_keepsFallback s d)

theorem attends_staysRemembered (has : r.has .mode = true) :
    Attends IsUnforcing (StaysRemembered r) where
  asks _ := staysRemembered_of rfl id rfl
  resumes _ := staysRemembered_of rfl id rfl
  deafens _ := staysRemembered_of rfl id rfl
  signals _ := staysRemembered_of rfl id rfl
  intakes := intakes_staysRemembered.intake
  executes m _ unforcing :=
    execute_performs permits_staysRemembered (fun _ => perform_staysRemembered has unforcing) m

theorem passes_staysRemembered : Passes (StaysRemembered r) where
  reaches _ _ _ := staysRemembered_of rfl id rfl
  surrounds _ _ _ _ _ _ := staysRemembered_of rfl id rfl
  pulses clock second m :=
    onDesk_staysRemembered (Desk.takePulse_obeys Desk.reports_keepsFallback clock second m.desk)

/-- The monitor has come to be this one without a receiver being forced. -/
inductive Unforced (start : Monitor) : Monitor → Prop
  | start : Unforced start start
  | meet {m : Monitor} (h : Happening) (unforcing : ∀ line, h.Says line → IsUnforcing line)
      (earlier : Unforced start m) : Unforced start (meet h m).state

theorem Unforced.reachable {start : Monitor} (run : Unforced start m) : Reachable start m := by
  induction run with
  | start => exact .start
  | meet h _ _ ih => exact .meet h ih

theorem Unforced.remembers {start : Monitor} (has : r.has .mode = true)
    (here : Remembers r start) (run : Unforced start m) : Remembers r m := by
  induction run with
  | start => exact here
  | meet h unforcing _ ih =>
    exact (passes_staysRemembered.meet_saying (attends_staysRemembered has) unforcing _ ih).1

/-! What comes of a change of mode. -/

/-- What is said and done once the receiver's mode switcher has fared so. What it has sent is given
time; where it does not leave the port, the operator is told why. -/
def aftermath (m : Monitor) : Except Fault Bool → List Effect
  | .ok true =>
    match m.session.undrained? with
    | none => [.line .flush, .pause .settle]
    | some e => [failure 'n' e]
  | .ok false => [.complain "Mode switch not supported."]
  | .error e => [failure 'n' e]

/-- What the receiver's mode switcher is made to do. -/
def tellMode (r : Receiver) (n : Int) : Do Bool :=
  onSession (Session.writable (Session.switchMode (some r) n))

/-- A change of mode that the receiver's mode switcher carries out. The log is told first; where it
refuses that, no more is done. -/
def modeChange (r : Receiver) (n : Int) (m : Monitor) : List Effect :=
  match (announce (Order.note n) m).value with
  | .error e => [failure 'n' e]
  | .ok () => (tellMode r n m).effects ++ aftermath m (tellMode r n m).value

/-- A change of mode to sentences goes through, carried out by the receiver's mode switcher: the log
takes the note that goes before it, the switcher reports success, and the port drains. -/
structure Falls (m : Monitor) (arg : String) (r : Receiver) : Prop where
  serial : m.session.source.isSerial = true
  identified : m.session.device.isSome
  asked : modeAsked m.session.framer.kind arg = sentenceMode
  able : m.capable .mode = some r
  noted : (announce (Order.note sentenceMode) m).value = .ok ()
  reported : (tellMode r sentenceMode m).value = .ok true
  drained : m.session.undrained? = none

theorem tellMode_state (r : Receiver) (n : Int) (m : Monitor) : (tellMode r n m).state = m :=
  Prod.ext (Session.writable_sends (Session.switchMode_sends (some r) n) m.session).1 rfl

/-- What is done once the mode switcher reports success. -/
theorem switchMode_taken {n : Int} (told : (tellMode r n m).value = .ok true) :
    let rest := (settle >>= fun _ =>
      if n = sentenceMode then modifyDesk fun d => { d with fallback := some r } else pure ()) m
    switchMode r n m = ⟨rest.value, rest.state, (tellMode r n m).effects ++ rest.effects⟩ := by
  refine (Act.bind_ok told).trans ?_
  rw [tellMode_state]
  rfl

theorem switchMode_told (tuned : m.session.Tuned) {n : Int}
    (told : (tellMode r n m).value = .ok true) (drained : m.session.undrained? = none) :
    switchMode r n m = ⟨.ok (), (m.session,
      if n = sentenceMode then { m.desk with fallback := some r } else m.desk),
      (tellMode r n m).effects ++ aftermath m (.ok true)⟩ := by
  obtain ⟨⟨e, port, _⟩, _⟩ := tuned
  have settled : settle m = ⟨.ok (), m, [.line .flush, .pause .settle]⟩ := by
    rw [settle_apply, drained, port]
    rfl
  rw [switchMode_taken told, Act.bind_of settled, aftermath, drained]
  by_cases sentences : n = sentenceMode
  · rw [if_pos sentences, if_pos sentences]
    rfl
  · rw [if_neg sentences, if_neg sentences]
    rfl

/-- Output that does not leave ends a change of mode before the receiver is remembered. -/
theorem switchMode_undrained {n : Int} {e : Fault} (told : (tellMode r n m).value = .ok true)
    (stuck : m.session.undrained? = some e) :
    switchMode r n m = ⟨.error e, m, (tellMode r n m).effects⟩ := by
  have stopped : settle m = ⟨.error e, m, []⟩ := by rw [settle_apply, stuck]
  rw [switchMode_taken told, Act.bind_error (by rw [stopped]), stopped, List.append_nil]

theorem switchMode_untold {n : Int} (told : (tellMode r n m).value = .ok false) :
    switchMode r n m = ⟨.ok (), m, (tellMode r n m).effects ++ aftermath m (.ok false)⟩ := by
  refine (Act.bind_ok told).trans ?_
  rw [tellMode_state]
  rfl

theorem switchMode_stopped {n : Int} {e : Fault} (told : (tellMode r n m).value = .error e) :
    switchMode r n m = ⟨.error e, m, (tellMode r n m).effects⟩ := by
  refine (Act.bind_error told).trans ?_
  rw [tellMode_state]

/-- Whichever way a change of mode ends, the aftermath is all that follows what is sent. -/
theorem switchMode_aftermath (tuned : m.session.Tuned) (n : Int) :
    (switchMode r n m).effects ++ failures 'n' (switchMode r n m).value =
      (tellMode r n m).effects ++ aftermath m (tellMode r n m).value := by
  match told : (tellMode r n m).value with
  | .error e =>
    rw [switchMode_stopped told]
    rfl
  | .ok false =>
    rw [switchMode_untold told]
    exact List.append_nil _
  | .ok true =>
    cases drained : m.session.undrained? with
    | none =>
      rw [switchMode_told tuned told drained]
      exact List.append_nil _
    | some e =>
      rw [switchMode_undrained told drained, aftermath, drained]
      rfl

/-- A change of mode that is noted first. -/
theorem noted_mode (tuned : m.session.Tuned) (n : Int) :
    let change := (announce (Order.note n) >>= fun _ => switchMode r n) m
    change.effects ++ failures 'n' change.value = modeChange r n m := by
  unfold modeChange
  cases noted : (announce (Order.note n) m).value with
  | error e =>
    rw [Act.bind_error noted]
    rfl
  | ok u =>
    rw [Act.bind_ok noted]
    exact switchMode_aftermath (m := (announce (Order.note n) m).state) tuned n

section

variable {typed : String} (tuned : m.session.Tuned)
  (builtIn : ∀ h ∈ m.desk.active, h ∈ Registry.builtIn)
  (read : Command.read? typed = some ⟨'n', arg⟩)
include tuned builtIn read

/-- A receiver that falls to sentences is remembered. -/
theorem Falls.remembers (falls : Falls m arg r) : Remembers r (execute typed m).state := by
  have granted : Granted m ⟨'n', arg⟩ :=
    granted_of_capable falls.serial falls.identified rfl falls.able
  have carried := changeMode_granted granted falls.able
  rw [falls.asked, Act.bind_ok falls.noted,
    switchMode_told (m := (announce _ m).state) tuned falls.reported falls.drained,
    if_pos rfl] at carried
  have passed := passed_of_builtIn builtIn read (by simp)
  rw [execute_done read passed rfl (by rw [carried]), carried]
  exact ⟨falls.serial, falls.identified, rfl⟩

/-- With a receiver remembered, a change of mode is carried out by its mode switcher. -/
theorem Remembers.execute_mode (here : Remembers r m) (has : r.has .mode = true) :
    (execute typed m).effects = m.consulted (Command.withoutLineEnd typed.toList) ++
      modeChange r (modeAsked m.session.framer.kind arg) m := by
  have mild := (changeMode_copes arg m tuned.operable).2
  have passed := passed_of_builtIn builtIn read (by simp)
  rw [execute_effects read passed rfl mild, here.changeMode_eq has arg, noted_mode tuned]

end

/-- The answer that the receiver called so cannot change its mode. -/
def noModeSwitcher (name : String) : Effect :=
  .complain s!"Device type {name} has no mode switcher"

theorem complain_able {text : String} (begins : text.toList.head? ≠ some 'D') (name : String) :
    noModeSwitcher name ∉ [.complain text] := by
  intro there
  have same : noModeSwitcher name = .complain text := List.mem_singleton.mp there
  rw [← Effect.complain.inj same] at begins
  simp [toString] at begins

theorem failure_able (e : Fault) (name : String) : noModeSwitcher name ∉ [failure 'n' e] :=
  complain_able (by simp [toString]) name

theorem aftermath_able (name : String) (m : Monitor) (told : Except Fault Bool) :
    noModeSwitcher name ∉ aftermath m told := by
  match told with
  | .ok true =>
    unfold aftermath
    cases m.session.undrained? with
    | none => simp [noModeSwitcher]
    | some e => exact failure_able e name
  | .ok false => exact complain_able (by simp) name
  | .error e => exact failure_able e name

theorem modeChange_able (r : Receiver) (n : Int) (m : Monitor) (name : String) :
    noModeSwitcher name ∉ modeChange r n m := by
  unfold modeChange
  cases (announce (Order.note n) m).value with
  | error e => exact failure_able e name
  | ok u =>
    intro there
    obtain told | after := List.mem_append.mp there
    · obtain ⟨_, _, same⟩ := List.mem_map.mp told
      contradiction
    · exact aftermath_able name m _ after

/-- **The operator can always change back.** Once a receiver's change to sentences has gone through, it
stays remembered until one is forced, whatever it sends and whoever it is taken for, whatever else
the operator does and whatever fails. Till then every change of mode is carried out by that
receiver's mode switcher, unless the log refuses the note that goes before it, and never answered
with there being none. -/
theorem changed_back_always {start before : Monitor} (fresh : Fresh start)
    (tuned : start.session.Tuned) (reached : Reachable start before) {typed : String}
    (read : Command.read? typed = some ⟨'n', arg⟩) (falls : Falls before arg r)
    (run : Unforced (execute typed before).state m) :
    m.desk.fallback = some r ∧
      ∀ typed arg, Command.read? typed = some ⟨'n', arg⟩ →
        (execute typed m).effects = m.consulted (Command.withoutLineEnd typed.toList) ++
          modeChange r (modeAsked m.session.framer.kind arg) m ∧
        ∀ name, noModeSwitcher name ∉ (execute typed m).effects := by
  have has := capable_has falls.able
  have settled := reached.settled fresh
  have here := run.remembers has (falls.remembers (reached.tuned tuned) settled.desk.active read)
  have tuned : m.session.Tuned := by
    have spoken : Obeys (StaysTuned fun _ => True) before (execute typed) :=
      attends_staysTuned.executes before typed trivial
    exact run.reachable.tuned (spoken (reached.tuned tuned)).1
  have builtIn : ∀ h ∈ m.desk.active, h ∈ Registry.builtIn := by
    have spoken := serves_settles.executes before typed trivial settled
    exact (run.reachable.stays_settled spoken.1).desk.active
  refine ⟨here.remembered, ?_⟩
  intro typed arg read
  have carried := here.execute_mode tuned builtIn read has
  refine ⟨carried, ?_⟩
  intro name
  rw [carried]
  intro there
  obtain consulted | changed := List.mem_append.mp there
  · obtain ⟨_, told⟩ := consulted_hooks consulted
    contradiction
  · exact modeChange_able _ _ _ _ changed

/-- The operator says something while nothing else happens. -/
def typing (line : String) (m : Monitor) : Monitor :=
  (meet (.turn (.woke { reply := some (.line line) })) m).state

theorem Unforced.types {start : Monitor} (run : Unforced start m) (line : String)
    (unforcing : IsUnforcing line) : Unforced start (typing line m) := by
  refine .meet _ ?_ run
  rintro _ ⟨_, ⟨⟩, ⟨⟩⟩
  exact unforcing

theorem Unforced.passes {start : Monitor} (run : Unforced start m) (h : Happening)
    (silent : ∀ line, ¬ h.Says line) : Unforced start (Monitor.meet h m).state :=
  .meet h (fun line said => absurd said (silent line)) run

/-- SiRF has been changed to sentences. Then one comes in that only an Ashtech receiver sends, and
the operator has everything changed back all the same. Where the port does not drain behind that, the
operator is told so, and SiRF stays remembered. -/
theorem changed_back_always_of_ashtech :
    let start : Monitor := (Session.opened (.serial "/dev/ttyS0"), { hostname := "localhost" })
    let before := typing "t SiRF" start
    let silenced := (execute "n 0" before).state
    let told := (meet (.arrives (.bytes (Bytes.ofString "$PASHR,RID,1*36\n"))) silenced).state
    let m := (meet (.turn (.woke { deviceReady := true })) told).state
    let clogged := (meet (.drains (.failing "clogged")) m).state
    Fresh start ∧ start.session.Tuned ∧ Reachable start before ∧ Falls before "0" .sirf ∧
      Unforced silenced m ∧ m.session.device = some .ashtech ∧ m.desk.fallback = some .sirf ∧
      written (execute "n 1" m).effects = [Bytes.ofString "$PSRF100,0,9600,8,1,0*0C\r\n"] ∧
      Unforced silenced clogged ∧
      complaints (execute "n 1" clogged).effects = ["Command 'n' failed: clogged"] ∧
      (typing "n 1" clogged).desk.fallback = some .sirf := by
  intro start before silenced told m clogged
  have fresh : Fresh start := ⟨rfl, rfl, rfl, rfl⟩
  have tuned : start.session.Tuned := Session.opened_tuned _
  have reached : Reachable start before := .meet _ .start
  have falls : Falls before "0" .sirf :=
    ⟨by decide +kernel, by decide +kernel, by decide +kernel, by decide +kernel,
      by decide +kernel, by decide +kernel, by decide +kernel⟩
  have begun : Unforced silenced silenced := .start
  have heard := begun.passes (.arrives (.bytes (Bytes.ofString "$PASHR,RID,1*36\n"))) nofun
  have run := heard.passes (.turn (.woke { deviceReady := true })) nofun
  have stuck := run.passes (.drains (.failing "clogged")) nofun
  have read : Command.read? "n 0" = some ⟨'n', "0"⟩ := by decide +kernel
  have read' : Command.read? "n 1" = some ⟨'n', "1"⟩ := by decide +kernel
  obtain ⟨remembered, back⟩ := changed_back_always fresh tuned reached read falls run
  obtain ⟨carried, _⟩ := back _ _ read'
  obtain ⟨_, back'⟩ := changed_back_always fresh tuned reached read falls stuck
  obtain ⟨carried', _⟩ := back' _ _ read'
  have later := stuck.types "n 1" (by decide +kernel)
  obtain ⟨still, _⟩ := changed_back_always fresh tuned reached read falls later
  refine ⟨fresh, tuned, reached, falls, run, by decide +kernel, remembered, ?_, stuck, ?_, still⟩
  · rw [carried]
    decide +kernel
  · rw [carried']
    decide +kernel

/-- Two refusals that come between. With SiRF remembered, the log is lost when it cannot be closed:
the mode switcher would have the change back sent, but the note that goes before it is refused and
nothing is. And where the port does not drain on the way to sentences, SiRF has been told but is not
remembered. -/
theorem unchanged_after_refusals :
    let start : Monitor := (Session.opened (.serial "/dev/ttyUSB0"), { hostname := "testhost" })
    let before := typing "t SiRF" start
    let silenced := (execute "n 0" before).state
    let lost := typing "l" (typing "i0" (typing "l /dev/full" silenced))
    let clogged := (meet (.drains (.failing "clogged")) before).state
    (Fresh start ∧ Reachable start before ∧ Reachable start clogged) ∧
      (Falls before "0" .sirf ∧ Unforced silenced lost ∧
        lost.desk.fallback = some .sirf ∧ (tellMode .sirf binaryMode lost).value = .ok true ∧
        onLine (execute "n 1" lost).effects = [] ∧
        complaints (execute "n 1" lost).effects = ["Command 'n' failed: write to closed file"]) ∧
      (tellMode .sirf sentenceMode clogged).value = .ok true ∧
        complaints (execute "n 0" clogged).effects = ["Command 'n' failed: clogged"] ∧
        (execute "n 0" clogged).state.desk.fallback = none := by
  intro start before silenced lost clogged
  have fresh : Fresh start := ⟨rfl, rfl, rfl, rfl⟩
  have reached : Reachable start before := .meet _ .start
  have falls : Falls before "0" .sirf :=
    ⟨by decide +kernel, by decide +kernel, by decide +kernel, by decide +kernel,
      by decide +kernel, by decide +kernel, by decide +kernel⟩
  have begun : Unforced silenced silenced := .start
  have logged := begun.types "l /dev/full" (by decide +kernel)
  have noted := logged.types "i0" (by decide +kernel)
  have run := noted.types "l" (by decide +kernel)
  refine ⟨⟨fresh, reached, .meet _ reached⟩, ⟨falls, run, by decide +kernel⟩, ?_⟩
  decide +kernel

end Monitor
end GnssMonitor
