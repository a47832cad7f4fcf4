import GnssMonitor.Proofs.Desk.Stints
import GnssMonitor.Proofs.Desk.Telling
import GnssMonitor.Proofs.Monitor.Settled
import GnssMonitor.Proofs.Session.Framed

/-! What becomes of a batch of packets one of which finds no handler. Those before it are handled as
usual, it and those behind it leave no trace, and the run ends. -/

namespace GnssMonitor

open Act (Obeys)

namespace Session

variable {τ : Type} {hook : Session → Act Effect τ Unit} {cuts : List Framer} {t t' : τ}
  {calls before after : List (Session × τ)} {c : Session × τ} {answer : Except Fault Unit}

/-- What is done at a packet: what is asked after it, and what the hook does. -/
def outlay (hook : Session → Act Effect τ Unit) (call : Session × τ) : List Effect :=
  call.1.asked.map .line ++ (hook call.1 call.2).effects

/-- Where the hook does nothing, all that is done is to ask. -/
theorem outlay_of_quiet (quiet : ∀ call ∈ calls, (hook call.1 call.2).effects = []) :
    calls.flatMap (outlay hook) = calls.flatMap fun call => call.1.asked.map .line := by
  rw [List.flatMap_def, List.flatMap_def]
  apply congrArg List.flatten
  apply List.map_congr_left
  intro call there
  rw [outlay, quiet call there, List.append_nil]

/-- The hook is called at one packet after the other. Each call finds the state as the one before
has left it, and one that stops is the last. -/
inductive Handed (hook : Session → Act Effect τ Unit) :
    List Framer → τ → List (Session × τ) → Except Fault Unit → τ → Prop
  | done (t : τ) : Handed hook [] t [] (.ok ()) t
  | stops {s : Session} {t : τ} {e : Fault} (stopped : (hook s t).value = .error e)
      (rest : List Framer) : Handed hook (s.framer :: rest) t [(s, t)] (.error e) (hook s t).state
  | goes {s : Session} {t t' : τ} {rest : List Framer} {calls : List (Session × τ)}
      {answer : Except Fault Unit} (answered : (hook s t).value = .ok ())
      (later : Handed hook rest (hook s t).state calls answer t') :
      Handed hook (s.framer :: rest) t ((s, t) :: calls) answer t'

/-- Where none stops, there is a call at every packet. -/
theorem Handed.framers (run : Handed hook cuts t calls (.ok ()) t') :
    calls.map (·.1.framer) = cuts := by
  generalize answered : (.ok () : Except Fault Unit) = answer at run
  induction run with
  | done => rfl
  | stops => contradiction
  | goes _ _ ih => rw [List.map_cons, ih answered]

/-- The calls before one, and those from it on. -/
theorem Handed.split (run : Handed hook cuts t (before ++ c :: after) answer t') :
    ∃ first rest, cuts = first ++ rest ∧ Handed hook first t before (.ok ()) c.2 ∧
      Handed hook rest c.2 (c :: after) answer t' := by
  induction before generalizing cuts t with
  | nil =>
    refine ⟨[], cuts, rfl, ?_⟩
    cases run with
    | stops stopped rest => exact ⟨.done _, .stops stopped rest⟩
    | goes answered later => exact ⟨.done _, .goes answered later⟩
  | cons call before ih =>
    rw [List.cons_append] at run
    generalize made : before ++ c :: after = calls at run
    cases run with
    | stops => simp at made
    | goes answered later =>
      subst made
      obtain ⟨first, rest, rfl, handed, left⟩ := ih later
      exact ⟨_ :: first, rest, rfl, .goes answered handed, left⟩

/-- The calls behind one that answers. -/
theorem Handed.tail (run : Handed hook cuts t (c :: after) answer t')
    (answered : (hook c.1 c.2).value = .ok ()) :
    ∃ rest, Handed hook rest (hook c.1 c.2).state after answer t' := by
  cases run with
  | stops stopped =>
    rw [answered] at stopped
    contradiction
  | goes _ later => exact ⟨_, later⟩

/-- A packet that can be read is handed to the hook. -/
theorem takeIn_handed (hook : Session → Act Effect τ Unit) {cut : Framer} {s : Session} (t : τ)
    (present : s.endpoint.isSome) (calm : ∀ e, ¬ cut.last.Upsets e) : ∃ s' : Session,
      s'.framer = cut ∧ s'.endpoint = s.endpoint ∧ takeIn .line hook cut (s, t) =
        ⟨(hook s' t).value, (s', (hook s' t).state), outlay hook (s', t)⟩ := by
  have upsets (e : Fault) := @accept_error_iff { s with framer := cut } present e
  have framer := accept_framer { s with framer := cut }
  have there := accept_endpoint { s with framer := cut }
  rcases accepted : accept { s with framer := cut } with ⟨e | ⟨⟩, s', es⟩
  · rw [accepted] at upsets
    exact absurd ((upsets e).mp rfl) (calm e)
  · have asked := accept_asks (s := { s with framer := cut }) present accepted
    rw [accepted] at framer there
    refine ⟨s', framer, there, ?_⟩
    rw [takeIn_calm Effect.line hook t accepted, asked]
    rfl

/-- Packets that can be read are handed to the hook until it stops. -/
theorem takeInAll_handed (hook : Session → Act Effect τ Unit) {cuts : List Framer} {s : Session}
    (t : τ) (calls : List (Session × τ)) (present : s.endpoint.isSome)
    (calm : ∀ f ∈ cuts, ∀ e, ¬ f.last.Upsets e) : ∃ answer s' t' new,
      takeInAll .line (recording hook) cuts (s, t, calls) =
        ⟨answer, (s', t', calls ++ new), new.flatMap (outlay hook)⟩ ∧
      Handed hook cuts t new answer t' := by
  induction cuts generalizing s t calls with
  | nil =>
    refine ⟨.ok (), s, t, [], ?_, .done t⟩
    rw [List.append_nil]
    rfl
  | cons cut rest ih =>
    obtain ⟨quiet, later⟩ := List.forall_mem_cons.mp calm
    obtain ⟨s₁, rfl, there, taken⟩ := takeIn_handed (recording hook) (t, calls) present quiet
    rw [takeInAll]
    cases answer : (hook s₁ t).value with
    | error e =>
      refine ⟨.error e, s₁, (hook s₁ t).state, [(s₁, t)], ?_, .stops answer rest⟩
      rw [Act.bind_error (by rw [taken]; exact answer), taken, List.flatMap_singleton]
      rfl
    | ok u =>
      have present : s₁.endpoint.isSome := there ▸ present
      obtain ⟨v, s', t', new, went, handed⟩ :=
        ih (hook s₁ t).state (calls ++ [(s₁, t)]) present later
      refine ⟨v, s', t', (s₁, t) :: new, ?_, .goes answer handed⟩
      have taken : takeIn .line (recording hook) s₁.framer (s, t, calls) =
          ⟨.ok (), (s₁, (hook s₁ t).state, calls ++ [(s₁, t)]), outlay hook (s₁, t)⟩ := by
        rw [taken, ← answer]
        rfl
      rw [List.append_assoc, List.singleton_append] at went
      rw [Act.bind_of taken, went, List.flatMap_cons]

theorem takeInBytes_handed (hook : Session → Act Effect τ Unit) {s : Session} (t : τ)
    (present : s.endpoint.isSome) {bs : Bytes}
    (calm : ∀ p ∈ (s.framer.feed bs).packets, ∀ e, ¬ p.Upsets e) : ∃ cuts answer s' t' new,
      cuts.map Framer.last = (s.framer.feed bs).packets ∧
      takeInBytes .line (recording hook) bs (s, t, []) =
        ⟨answer, (s', t', new), new.flatMap (outlay hook)⟩ ∧
      Handed hook cuts t new answer t' := by
  obtain ⟨answer, s', t', new, went, handed⟩ :=
    takeInAll_handed hook t [] present
      fun f (there : f ∈ (s.framer.feed bs).drain.1) => calm f.last (List.mem_map_of_mem there)
  cases answer with
  | error e =>
    refine ⟨_, .error e, s', t', new, rfl, ?_, handed⟩
    rw [takeInBytes_apply, Act.bind_error (by rw [went]), went]
    rfl
  | ok u =>
    let final : Session := { s' with framer := (s.framer.feed bs).drain.2 }
    refine ⟨_, .ok (), final, t', new, rfl, ?_, handed⟩
    rw [takeInBytes_apply, Act.bind_of went]
    simp [onSession, final]

/-- What an intake comes to at which all packets can be read and the hook is called at all. -/
structure HandedAll (hook : Session → Act Effect τ Unit) (s : Session) (t : τ)
    (calls : List (Session × τ)) (cuts : List Framer) (answer : Except Fault Unit) : Prop where
  batch : cuts.map Framer.last = s.batch
  handed : Handed hook cuts t calls answer (intake .line hook (s, t)).state.2
  value : (intake .line hook (s, t)).value = answer.map fun _ => .ready
  effects : (intake .line hook (s, t)).effects = calls.flatMap (outlay hook)

theorem intake_handed (hook : Session → Act Effect τ Unit) {s : Session} (calm : ∀ p ∈ s.batch, ∀ e, ¬ p.Upsets e)
    (called : (intake .line (recording hook) (s, t, [])).state.2.2 ≠ []) : ∃ cuts answer,
      HandedAll hook s t (intake .line (recording hook) (s, t, [])).state.2.2 cuts answer := by
  have same : intake .line hook (s, t) = _ := intake_recording Effect.line hook (s, t, [])
  cases present : s.endpoint with
  | none => simp [intake, present] at called
  | some e =>
    have began : intake .line (recording hook) (s, t, []) = _ := intake_apply Effect.line present
    rcases data : e.receive.1 with _ | _ | ⟨b, bs⟩
    · rw [began, data] at called
      contradiction
    · rw [began, data] at called
      contradiction
    · have batch := batch_of_read present data
      obtain ⟨cuts, answer, s', t', new, packets, taken, handed⟩ :=
        takeInBytes_handed hook (s := { s with endpoint := some e.receive.2 }) t rfl
          (batch ▸ calm)
      rw [data] at began
      have ended := began.trans (Act.bind_pure_const
        (takeInBytes .line (recording hook) (b :: bs)) IntakeStatus.ready _)
      rw [taken] at ended
      rw [ended] at same ⊢
      refine ⟨cuts, answer, packets.trans batch.symm, ?_, ?_, ?_⟩
      · rw [same]
        exact handed
      · rw [same]
      · rw [same]

end Session

namespace Desk

variable {s : Session} {d : Desk}

/-- The run is to end for want of a handler; all else is as it was. -/
def stopped (d : Desk) : Desk := { d with pending := some .driverSwitch }

/-- Once the run is to end, nothing is done with packets. -/
theorem takePacket_pending (pending : d.pending.isSome) (s : Session) :
    takePacket s d = ⟨.ok (), d, []⟩ := by
  unfold takePacket
  rw [Act.get_bind, if_pos pending]
  rfl

theorem select_failed_iff : (select s d).value = .ok false ↔
    s.framer.kind ≠ d.lastKind ∧ d.registry.resolve (d.target s).name = none := by
  rw [select_value]
  simp

/-- A packet that finds no handler is complained of, and the run is to end. -/
theorem takePacket_failed (idle : d.pending = none) (chosen : timeReport? s = none)
    (failed : (select s d).value = .ok false) : takePacket s d =
      ⟨.ok (), d.stopped, [.complain s!"No monitor matches {(d.target s).name}."]⟩ := by
  obtain ⟨other, unknown⟩ := select_failed_iff.mp failed
  have going : ¬ d.pending.isSome = true := by simp [idle]
  unfold takePacket
  rw [Act.get_bind, if_neg going, chosen]
  dsimp only
  rw [Act.bind_of (select_unmatched other unknown), if_neg Bool.false_ne_true]
  rfl

/-- A packet after which the run goes on has found a handler, if it is one to be shown by one. -/
theorem takePacket_going {s : Session} (going : (takePacket s d).state.pending = none) :
    d.pending = none ∧ (timeReport? s = none → (select s d).value = .ok true) := by
  have idle : d.pending = none := by
    cases pending : d.pending with
    | none => rfl
    | some cause =>
      rw [takePacket_pending (by rw [pending]; rfl), pending] at going
      contradiction
  refine ⟨idle, ?_⟩
  intro chosen
  have answered := select_value s d
  generalize (s.framer.kind = d.lastKind || (d.registry.resolve (d.target s).name).isSome : Bool) =
    found at answered
  cases found with
  | true => exact answered
  | false =>
    rw [takePacket_failed idle chosen answered] at going
    contradiction

end Desk

/-- The wait has brought something to read, and nothing that goes before it. -/
structure Wake.Reading (w : Wake) : Prop where
  ready : w.deviceReady = true
  unerred : w.deviceErred = false
  unsignalled : w.signalled = false

namespace Monitor

open Session (Handed)

/-- The packet is one to be shown by a handler, and none is found for it. -/
structure Fails (call : Monitor) : Prop where
  idle : call.desk.pending = none
  chosen : Desk.timeReport? call.session = none
  failed : (Desk.select call.session call.desk).value = .ok false

instance (call : Monitor) : Decidable (Fails call) :=
  decidable_of_iff (call.desk.pending = none ∧ Desk.timeReport? call.session = none ∧
    (Desk.select call.session call.desk).value = .ok false)
    ⟨fun ⟨idle, chosen, failed⟩ => ⟨idle, chosen, failed⟩,
      fun fails => ⟨fails.idle, fails.chosen, fails.failed⟩⟩

/-- The packet finds its handler, if it is one to be shown by one, and is told to the operator and
to the log as it should be. -/
structure Usual (call : Monitor) : Prop where
  idle : call.desk.pending = none
  selected : Desk.timeReport? call.session = none →
    (Desk.select call.session call.desk).value = .ok true
  answered : (Desk.takePacket call.session call.desk).value = .ok ()
  told : Obeys (Desk.Tells (call.session.framer.last.shown call.session.source.isSerial)
    (call.session.framer.last.logged call.session.source.isSerial)) call.desk
    (Desk.takePacket call.session)

variable {m c : Monitor} {d d' : Desk} {cuts : List Framer} {calls before after : List Monitor}
  {answer : Except Fault Unit}

/-- Once the run is to end, the hook is called at all packets, and nothing comes of any. -/
theorem handed_pending (run : Handed Desk.takePacket cuts d calls answer d')
    (pending : d.pending.isSome) : answer = .ok () ∧ d' = d ∧ ∀ call ∈ calls,
      call.desk = d ∧ Desk.takePacket call.session call.desk = ⟨.ok (), d, []⟩ := by
  induction run with
  | done => exact ⟨rfl, rfl, by simp⟩
  | stops stopped =>
    rw [Desk.takePacket_pending pending] at stopped
    contradiction
  | goes answered later ih =>
    rw [Desk.takePacket_pending pending] at ih
    obtain ⟨answers, same, found⟩ := ih pending
    have here := Desk.takePacket_pending pending
    exact ⟨answers, same, List.forall_mem_cons.mpr ⟨⟨rfl, here _⟩, found⟩⟩

/-- Packets behind which the run goes on have all been handled as usual. -/
theorem handed_usual (run : Handed Desk.takePacket cuts d calls (.ok ()) d')
    (nonempty : ∀ f ∈ cuts, f.packet ≠ []) (going : d'.pending = none) :
    d.pending = none ∧ ∀ call ∈ calls, Usual call := by
  generalize ends : (.ok () : Except Fault Unit) = answer at run
  induction run with
  | done => exact ⟨going, by simp⟩
  | stops => contradiction
  | @goes s d d' rest calls answer answered later ih =>
    obtain ⟨there, nonempty⟩ := List.forall_mem_cons.mp nonempty
    obtain ⟨going, usual⟩ := ih nonempty going ends
    obtain ⟨idle, selected⟩ := Desk.takePacket_going going
    refine ⟨idle, List.forall_mem_cons.mpr ⟨⟨idle, selected, answered, ?_⟩, usual⟩⟩
    exact Desk.takePacket_tells idle selected there answered

/-- What has been decided on before is what the device ends the run with, whatever it says. -/
theorem serveDevice_pending {status : IntakeStatus} {cause : Cause}
    (answered : (intake m).value = .ok status)
    (pending : (intake m).state.desk.pending = some cause) :
    serveDevice m = ⟨.ok (some cause), (intake m).state, (intake m).effects⟩ := by
  unfold serveDevice
  rw [Act.bind_ok answered, Act.get_bind, Act.pure_apply, pending, List.append_nil]
  rfl

/-- A desk that is done with packets stays as it is. -/
theorem intake_pending (pending : m.desk.pending.isSome) : (intake m).state.desk = m.desk := by
  have intakes : Intakes (Act.Keeps (fun m' => m'.desk = m.desk) fun _ => True) := by
    refine ⟨?_, ?_, ?_, ?_⟩
    · exact fun _ _ _ _ same => ⟨same, fun _ _ => trivial⟩
    · exact fun _ _ _ same => ⟨same, fun _ _ => trivial⟩
    · exact fun _ _ same => ⟨same, fun _ _ => trivial⟩
    · intro s d same
      have same : d = m.desk := same
      rw [Desk.takePacket_pending (same ▸ pending)]
      exact ⟨same, fun _ _ => trivial⟩
  exact (intakes.intake m rfl).1

/-- A turn that ends with what the device is read for does no more than read it. -/
theorem step_reading {w : Wake} (reading : w.Reading) (unsignalled : m.desk.signalled = false)
    (present : m.session.endpoint.isSome) {cause : Cause} {m' : Monitor} {es : List Effect}
    (ends : serveDevice m = ⟨.ok (some cause), m', es⟩) :
    step (.woke w) m = ⟨.ok (some cause), m', es⟩ := by
  have there : ¬ m.session.endpoint.isNone = true := by
    simpa [Option.isSome_iff_ne_none] using present
  have attended : attend w m = ⟨.ok (some cause), m', es⟩ := by
    unfold attend
    rw [Act.get_bind, unsignalled, reading.unerred, if_neg Bool.false_ne_true,
      if_neg Bool.false_ne_true, if_pos reading.ready, Act.bind_of ends]
    dsimp only
    rw [Act.pure_apply, List.append_nil]
  have served : serve w m = attend w m := by
    unfold serve
    rw [reading.unsignalled, if_neg Bool.false_ne_true]
  have began : step (.woke w) m = serve w m := by
    unfold step
    rw [Act.get_bind, unsignalled, if_neg Bool.false_ne_true, if_neg there]
  rw [began, served, attended]

/-- What becomes of a batch one packet of which finds no handler: the hook is called at all of them,
in order. -/
structure Dropped (m : Monitor) (before : List Monitor) (c : Monitor) (after : List Monitor) :
    Prop where
  batch : m.hookCalls.map (·.session.framer.last) = m.session.batch
  inTurn : Handed Desk.takePacket (before.map (·.session.framer)) m.desk before (.ok ()) c.desk
  usual : ∀ call ∈ before, Usual call
  refused : Desk.takePacket c.session c.desk = ⟨.ok (), c.desk.stopped,
    [.complain s!"No monitor matches {(c.desk.target c.session).name}."]⟩
  ignored : ∀ call ∈ after, call.desk = c.desk.stopped ∧
    Desk.takePacket call.session call.desk = ⟨.ok (), c.desk.stopped, []⟩
  answered : (intake m).value = .ok .ready
  left : (intake m).state.desk = c.desk.stopped
  effects : (intake m).effects = before.flatMap (Session.outlay Desk.takePacket) ++
    (c.session.asked.map .line ++
      [.complain s!"No monitor matches {(c.desk.target c.session).name}."]) ++
    after.flatMap fun call => call.session.asked.map .line

theorem Fails.dropped (fails : Fails c) (calm : ∀ p ∈ m.session.batch, ∀ e, ¬ p.Upsets e)
    (called : m.hookCalls = before ++ c :: after) : Dropped m before c after := by
  have nonempty : m.hookCalls ≠ [] := by simp [called]
  obtain ⟨cuts, answer, all⟩ := Session.intake_handed Desk.takePacket calm nonempty
  have calls : Session.HandedAll Desk.takePacket m.1 m.2 (before ++ c :: after) cuts answer :=
    called ▸ all
  obtain ⟨first, rest, rfl, handed, run⟩ := calls.handed.split
  have refused := Desk.takePacket_failed fails.idle fails.chosen fails.failed
  have bytes : ∀ f ∈ first, f.packet ≠ [] := by
    intro f there
    have there : f.last ∈ m.session.batch := by
      rw [show m.session.batch = _ from calls.batch.symm]
      exact List.mem_map_of_mem (List.mem_append_left rest there)
    exact (m.session.batch_genuine f.last there).bytes_ne_nil
  obtain ⟨_, usual⟩ := handed_usual handed bytes fails.idle
  have same : Desk.takePacket c.1 c.2 = _ := refused
  obtain ⟨_, later⟩ := run.tail (by rw [same])
  rw [same] at later
  obtain ⟨rfl, left, ignored⟩ := handed_pending later rfl
  have firsts : before.map (·.session.framer) = first := handed.framers
  refine ⟨?_, firsts ▸ handed, usual, refused, ignored, calls.value, left, ?_⟩
  · have framers : m.hookCalls.map (·.session.framer) = first ++ rest := by
      rw [called]
      exact calls.handed.framers
    rw [show m.session.batch = _ from calls.batch.symm, ← framers, List.map_map]
    rfl
  · have effects : (intake m).effects =
        (before ++ c :: after).flatMap (Session.outlay Desk.takePacket) := calls.effects
    have silent : after.flatMap (Session.outlay Desk.takePacket) =
        after.flatMap fun call => call.session.asked.map .line :=
      Session.outlay_of_quiet fun call there => congrArg Outcome.effects (ignored call there).2
    have spent : Session.outlay Desk.takePacket c = c.session.asked.map .line ++
        [.complain s!"No monitor matches {(c.desk.target c.session).name}."] := by
      unfold Session.outlay
      rw [same]
      rfl
    rw [effects, List.flatMap_append, List.flatMap_cons, silent, spent]
    simp only [List.append_assoc]

/-- **After a failed switch nothing more of the batch gets through.** Whatever handlers there are,
and whatever the packets of a batch are that can all be read: where one finds no handler, those
before it have been handled as usual, it is only complained of, and those behind it change nothing
and show nothing. The turn ends the run for that, and so would any further read whatever came of
it. -/
theorem failed_switch_ends_batch (calm : ∀ p ∈ m.session.batch, ∀ e, ¬ p.Upsets e)
    (called : m.hookCalls = before ++ c :: after) (fails : Fails c) :
    Dropped m before c after ∧
      (∀ w : Wake, w.Reading → m.desk.signalled = false → step (.woke w) m =
        ⟨.ok (some .driverSwitch), (intake m).state, (intake m).effects⟩) ∧
      ∀ s status, (intake (s, c.desk.stopped)).value = .ok status →
        (serveDevice (s, c.desk.stopped)).value = .ok (some .driverSwitch) := by
  have dropped := fails.dropped calm called
  refine ⟨dropped, ?_, ?_⟩
  · intro w reading unsignalled
    have present : m.session.endpoint.isSome := by
      have answered := dropped.answered
      cases endpoint : m.session.endpoint with
      | some e => rfl
      | none =>
        have endpoint : m.1.endpoint = none := endpoint
        simp [intake, Session.intake, endpoint] at answered
    have pending : (intake m).state.desk.pending = some .driverSwitch := by
      rw [dropped.left]
      rfl
    have served := serveDevice_pending dropped.answered pending
    exact step_reading reading unsignalled present served
  · intro s status answered
    have kept : (intake (s, c.desk.stopped)).state.desk = c.desk.stopped := intake_pending rfl
    have pending : (intake (s, c.desk.stopped)).state.desk.pending = some .driverSwitch := by
      rw [kept]
      rfl
    rw [serveDevice_pending answered pending]

/-- There is a handler for sentences only. The packets are a sentence, a frame, a report of time
that a relay passes on and another sentence. -/
theorem failed_switch_ends_batch_of_frame :
    let sentence := Bytes.ofString "$GPGGA,1*4B\n"
    let report := Bytes.ofString "\x7b\"class\":\"TOFF\",\"clock_sec\":100,\"real_sec\":99\x7d\n"
    let bytes := sentence ++ [0xa0, 0xa2, 0, 0, 0, 0, 0xb0, 0xb3] ++ report ++ sentence
    let m : Monitor := (Session.hearing bytes,
      { hostname := "localhost", registry := [Handler.panelFor .nmea0183 false] })
    (∀ p ∈ m.session.batch, ∀ e, ¬ p.Upsets e) ∧ ∃ before c after,
      m.hookCalls = before ++ c :: after ∧ Fails c ∧ before.length = 1 ∧ after.length = 2 ∧
      Dropped m before c after ∧ appended (intake m).effects = ["(12) $GPGGA,1*4B\n"] ∧
      (step (.woke { deviceReady := true }) m).value = .ok (some .driverSwitch) := by
  intro sentence report bytes m
  have calm : ∀ p ∈ m.session.batch, ∀ e, ¬ p.Upsets e := by
    have lives : ∃ status, (Session.intake id Session.deaf (m.session, ())).value = .ok status :=
      ⟨.ready, by decide +kernel⟩
    obtain ⟨e, present, quiet⟩ :=
      (Session.intake_answers_iff id (fun _ _ => rfl) m.session ()).mp lives
    unfold Session.batch
    rw [present]
    exact quiet
  obtain ⟨c, second⟩ : ∃ c, m.hookCalls[1]? = some c :=
    Option.isSome_iff_exists.mp (by decide +kernel)
  have found : ∀ call ∈ m.hookCalls[1]?, Fails call := by decide +kernel
  have fails : Fails c := found c second
  have called : m.hookCalls = m.hookCalls.take 1 ++ c :: m.hookCalls.drop 2 := by
    obtain ⟨there, rfl⟩ := List.getElem?_eq_some_iff.mp second
    rw [← List.drop_eq_getElem_cons there, List.take_append_drop]
  obtain ⟨dropped, ends, _⟩ := failed_switch_ends_batch calm called fails
  refine ⟨calm, _, c, _, called, fails, by decide +kernel, by decide +kernel, dropped,
    by decide +kernel, ?_⟩
  rw [ends _ ⟨rfl, rfl, rfl⟩ rfl]

end Monitor
end GnssMonitor
