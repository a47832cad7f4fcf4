import GnssMonitor.Proofs.Desk.Telling
import GnssMonitor.Proofs.Framing.Scan
import GnssMonitor.Proofs.Monitor.Accounts
import GnssMonitor.Proofs.Session.Framed

/-! What the operator and the log are told in a whole run: of every packet in the stream once, and
in the order of the stream. -/

namespace GnssMonitor

namespace Monitor

open Act (Obeys)
open Framer (packetsIn)
open Framing (Scans verdict)

/-- These packets are shown and logged as they should be, and nothing else is. -/
structure Told (packets : List Packet) (m : Monitor) (es : List Effect) (m' : Monitor) : Prop where
  shown : appended es = packets.flatMap (·.shown m.session.source.isSerial)
  logged : m'.desk.log = m.desk.log.adds (packets.flatMap (·.logged m.session.source.isSerial))
  source : m'.session.source = m.session.source

variable {packets more : List Packet} {m m' m'' : Monitor} {es es' : List Effect}

theorem Told.append (told : Told packets m es m') (told' : Told more m' es' m'') :
    Told (packets ++ more) m (es ++ es') m'' where
  shown := by rw [appended_append, told.shown, told'.shown, told.source, List.flatMap_append]
  logged := by
    rw [told'.logged, told.logged, told.source, List.flatMap_append, Logbook.adds_append]
  source := told'.source.trans told.source

theorem takeIn_tells {f : Framer} {s : Session} {d : Desk} (settled : Settled (s, d))
    (cut : f.kind ≠ .bad) (nonempty : f.packet ≠ [])
    (calm : (Session.takeIn .line Desk.takePacket f (s, d)).value = .ok ()) :
    Obeys (Told [f.last]) (s, d) (Session.takeIn .line Desk.takePacket f) ∧
      Settled (Session.takeIn .line Desk.takePacket f (s, d)).state := by
  rcases accepted : Session.accept { s with framer := f } with ⟨e | ⟨⟩, s₁, es⟩
  · rw [Session.takeIn_upset Effect.line d accepted] at calm
    contradiction
  · have handled := (accept_handled settled cut).1
    have framer := Session.accept_framer { s with framer := f }
    have kept := (Session.accept_kept { s with framer := f }).source
    rw [accepted] at handled framer kept
    have settled₁ : Settled (s₁, d) := handled
    have framer : s₁.framer = f := framer
    have source : s₁.source = s.source := kept
    rw [Session.takeIn_calm Effect.line Desk.takePacket d accepted] at calm
    have there : s₁.framer.packet ≠ [] := by rwa [framer]
    have told : Obeys (Desk.Tells _ _) d (Desk.takePacket s₁) :=
      Desk.takePacket_tells settled₁.desk.idle
        (fun _ => Desk.select_succeeds settled₁.desk settled₁.known) there calm
    rw [framer, source] at told
    unfold Obeys
    rw [Session.takeIn_calm Effect.line Desk.takePacket d accepted]
    refine ⟨⟨?_, ?_, source⟩, (Desk.takePacket_settles settled₁.known d settled₁.desk).1,
      settled₁.known⟩
    · rw [appended_append, appended_map_line, told.1, List.nil_append, List.flatMap_singleton]
      rfl
    · rw [List.flatMap_singleton]
      exact told.2

theorem takeInAll_tells {cuts : List Framer} {s : Session} {d : Desk} (settled : Settled (s, d))
    (framed : ∀ f ∈ cuts, f.kind ≠ .bad ∧ f.packet ≠ [])
    (calm : (Session.takeInAll .line Desk.takePacket cuts (s, d)).value = .ok ()) :
    Obeys (Told (cuts.map Framer.last)) (s, d)
      (Session.takeInAll .line Desk.takePacket cuts) := by
  induction cuts generalizing s d with
  | nil => exact ⟨rfl, rfl, rfl⟩
  | cons f rest ih =>
    obtain ⟨⟨cut, nonempty⟩, framed⟩ := List.forall_mem_cons.mp framed
    rw [Session.takeInAll] at calm ⊢
    obtain ⟨_, stepped, calm⟩ := Act.bind_value_ok.mp calm
    obtain ⟨told, settled'⟩ := takeIn_tells settled cut nonempty stepped
    unfold Obeys
    rw [Act.bind_ok stepped]
    exact told.append (ih settled' framed calm)

theorem takeInBytes_tells {s : Session} {d : Desk} (settled : Settled (s, d))
    (waits : verdict s.framer.pending = .wait) {bs : Bytes} (small : bs.length ≤ packetLimit)
    (calm : (Session.takeInBytes .line Desk.takePacket bs (s, d)).value = .ok ()) :
    let r : Outcome Effect Monitor Unit := Session.takeInBytes .line Desk.takePacket bs (s, d)
    ∃ packets, Scans (s.framer.pending ++ bs) packets r.state.session.framer.pending ∧
      Told packets (s, d) r.effects r.state := by
  intro r
  obtain ⟨packets, left, scans⟩ := Scans.total (s.framer.pending ++ bs)
  have fed := Framer.feed_small waits small
  obtain ⟨yielded, final⟩ := Framer.drain_scans (f := s.framer.feed bs) (fed ▸ scans)
  have framed : ∀ f ∈ (s.framer.feed bs).drain.1, f.kind ≠ .bad ∧ f.packet ≠ [] := by
    intro f cut
    have there : f.last ∈ packets := yielded ▸ List.mem_map_of_mem cut
    have genuine := scans.genuine _ there
    exact ⟨genuine.kind_ne_bad, genuine.bytes_ne_nil⟩
  have begins : r = _ := Session.takeInBytes_apply _ _ bs s d
  have answered : r.value = .ok () := calm
  rw [begins] at answered
  obtain ⟨_, taken, _⟩ := Act.bind_value_ok.mp answered
  have told := takeInAll_tells settled framed taken
  rw [begins, Act.bind_ok taken]
  refine ⟨packets, ?_, ?_⟩
  · have waiting : (s.framer.feed bs).drain.2.pending = left := by
      rw [final, Framer.after_pending]
    simpa [Session.onSession, session, waiting] using scans
  · have all : (s.framer.feed bs).drain.1.map Framer.last = packets := yielded
    rw [all] at told
    exact ⟨by simpa [Session.onSession] using told.shown, told.logged, told.source⟩

theorem intake_tells (settled : m.Settled) (waits : verdict m.session.framer.pending = .wait)
    {status : IntakeStatus} (calm : (intake m).value = .ok status) :
    ∃ packets, Scans (m.session.framer.pending ++ m.incoming) packets
        (intake m).state.session.framer.pending ∧
      Told packets m (intake m).effects (intake m).state := by
  obtain ⟨s, d⟩ := m
  have begins : intake (s, d) = Session.intake .line Desk.takePacket (s, d) := rfl
  rw [begins] at calm ⊢
  cases present : s.endpoint with
  | none => simp [Session.intake, present] at calm
  | some e =>
    have unread : Scans (s.framer.pending ++ []) [] s.framer.pending := by
      rw [List.append_nil]
      exact .wait waits
    rw [Session.intake_apply Effect.line present] at calm ⊢
    unfold incoming session
    rw [present, Option.bind_some]
    cases data : e.receive.1 with
    | none => exact ⟨[], unread, rfl, rfl, rfl⟩
    | some bs =>
      cases bs with
      | nil => exact ⟨[], unread, rfl, rfl, rfl⟩
      | cons b bs =>
        have small : (b :: bs).length ≤ packetLimit :=
          Nat.le_trans (Endpoint.receive_length data) (by decide)
        rw [data] at calm
        obtain ⟨_, taken, _⟩ := Act.bind_value_ok.mp calm
        have told := takeInBytes_tells (s := { s with endpoint := some e.receive.2 })
          ⟨settled.desk, settled.known⟩ waits small taken
        dsimp only
        rw [Act.bind_ok taken, Act.pure_apply, List.append_nil]
        obtain ⟨packets, scans, told⟩ := told
        exact ⟨packets, scans, told.shown, told.logged, told.source⟩

/-- Nothing is shown, and what the device has said is framed no further. -/
structure Untold (m : Monitor) (es : List Effect) (m' : Monitor) : Prop where
  shown : appended es = []
  pending : m'.session.framer.pending = m.session.framer.pending
  source : m'.session.source = m.session.source

instance : Act.Composes Untold where
  nothing _ := ⟨rfl, rfl, rfl⟩
  next := by
    intro m m' m'' es es' first second
    refine ⟨?_, second.pending.trans first.pending, second.source.trans first.source⟩
    rw [appended_append, first.shown, second.shown, List.append_nil]

theorem untold_of_desk {s : Session} {d d' : Desk} (silent : appended es = []) :
    Untold (s, d) es (s, d') := ⟨silent, rfl, rfl⟩

/-- Commands show nothing of their own. -/
theorem permits_untold : Permits (fun _ => True) Untold where
  complains _ _ _ := untold_of_desk rfl
  notes _ _ _ := untold_of_desk rfl
  logs _ _ _ _ := untold_of_desk rfl
  sends _ _ _ _ := untold_of_desk rfl
  settles _ _ := untold_of_desk rfl
  reboots _ := untold_of_desk rfl
  hooks _ _ _ := untold_of_desk rfl
  probes _ _ _ _ _ := ⟨rfl, rfl, rfl⟩
  recounts _ _ _ _ := ⟨rfl, rfl, rfl⟩
  remembers _ _ _ _ := untold_of_desk rfl
  relines m line _ _ := by
    obtain ⟨endpoint, line', relined⟩ := setLine_state line m
    exact ⟨appended_map_line _, by rw [relined]; rfl, by rw [relined]; rfl⟩
  switches m r _ _ _ := by
    have told := (Desk.switchTo_switches (r := r) m.session m.desk).tells.1
    exact ⟨by rwa [onDesk, Act.within_apply, List.map_id], rfl, rfl⟩
  forces _ _ _ _ _ _ := ⟨rfl, rfl, rfl⟩
  forgets _ _ _ := untold_of_desk rfl

theorem meet_apart {h : Happening} (apart : h.Apart) (m : Monitor) :
    Untold m (meet h m).effects (meet h m).state ∧
      (meet h m).state.desk.log.holding = m.desk.log.holding := by
  cases h with
  | turn wait => exact absurd rfl (apart.1 wait)
  | pulse clock second => exact absurd rfl (apart.2 clock second)
  | arrives | readFails | delivers | drains | refuses => exact ⟨⟨rfl, rfl, rfl⟩, rfl⟩
  | resized | ticks | stores => exact ⟨⟨rfl, rfl, rfl⟩, rfl⟩

theorem intake_of_upset (calm : m.upset = []) : ∃ status, (intake m).value = .ok status := by
  unfold upset at calm
  cases answer : (intake m).value with
  | ok status => exact ⟨status, rfl⟩
  | error e => simp [answer] at calm

variable {start : Monitor} {a : Account}

/-- The account of a run fits what has been shown and, where no line was run, what has been
logged. -/
structure Accounted (start : Monitor) (a : Account) (es : List Effect) (m : Monitor)
    (packets : List Packet) : Prop where
  scans : Scans (start.session.framer.pending ++ a.read) packets m.session.framer.pending
  source : m.session.source = start.session.source
  shown : appended es = packets.flatMap (·.shown start.session.source.isSerial)
  logged : a.lines = [] → m.desk.log.holding =
    (start.desk.log.adds (packets.flatMap (·.logged start.session.source.isSerial))).holding

/-- What is shown and logged of the packets that have just been read comes behind the rest. -/
theorem Accounted.reads (accounted : Accounted start a es m packets) {bs : Bytes}
    (scans : Scans (m.session.framer.pending ++ bs) more m'.session.framer.pending)
    (told : Told more m es' m') {faults : List Fault} :
    Accounted start { a with read := a.read ++ bs, faults } (es ++ es') m' (packets ++ more) where
  scans := by
    rw [← List.append_assoc]
    exact accounted.scans.append scans
  source := told.source.trans accounted.source
  shown := by
    rw [appended_append, accounted.shown, told.shown, accounted.source, List.flatMap_append]
  logged silent := by
    rw [told.logged, Logbook.holding_adds (accounted.logged silent), accounted.source,
      List.flatMap_append, Logbook.adds_append]

/-- What shows nothing leaves the account of what was shown as it is. -/
theorem Accounted.untold (accounted : Accounted start a es m packets) (untold : Untold m es' m')
    {lines : List String} (logged : lines = [] → a.lines = [] ∧
      m'.desk.log.holding = m.desk.log.holding) :
    Accounted start { a with lines } (es ++ es') m' packets where
  scans := untold.pending ▸ accounted.scans
  source := untold.source.trans accounted.source
  shown := by rw [appended_append, accounted.shown, untold.shown, List.append_nil]
  logged silent := by
    obtain ⟨before, same⟩ := logged silent
    exact same.trans (accounted.logged before)

theorem Ran.accounted (settled : start.Settled) (drained : start.session.framer.Drained)
    (run : Ran start a es m) (calm : a.faults = []) :
    ∃ packets, Accounted start a es m packets := by
  induction run with
  | start =>
    have waits := Framer.drained_iff.mp drained
    refine ⟨[], ?_, rfl, rfl, fun _ => rfl⟩
    simpa using Scans.wait waits
  | reads run ih =>
    obtain ⟨before, now⟩ := List.append_eq_nil_iff.mp calm
    obtain ⟨packets, accounted⟩ := ih before
    obtain ⟨status, answered⟩ := intake_of_upset now
    obtain ⟨more, scans, told⟩ :=
      intake_tells (run.settled settled) accounted.scans.rest_waits answered
    exact ⟨packets ++ more, accounted.reads scans told⟩
  | @runs a es m line run ih =>
    obtain ⟨packets, accounted⟩ := ih calm
    have untold : Untold m (execute line m).effects (execute line m).state :=
      execute_obeys permits_untold (fun _ _ => trivial) m
    exact ⟨packets, accounted.untold untold (by simp)⟩
  | asks _ ih | resumes _ ih =>
    obtain ⟨packets, accounted⟩ := ih calm
    exact ⟨packets, accounted.untold ⟨rfl, rfl, rfl⟩ fun silent => ⟨silent, rfl⟩⟩
  | deafens _ ih | signals _ ih =>
    obtain ⟨packets, accounted⟩ := ih calm
    exact ⟨packets, accounted.scans, accounted.source, accounted.shown, accounted.logged⟩
  | passes h apart run ih =>
    obtain ⟨packets, accounted⟩ := ih calm
    obtain ⟨untold, same⟩ := meet_apart apart _
    exact ⟨packets, accounted.untold untold fun silent => ⟨silent, same⟩⟩

/-- **Every packet is told once, and in order.** In a run without pulses on the line in which no
packet raises a fault, with the built-in handlers and whatever else happens, the lines that the
display gets are those of the packets in the stream that was read, one after the other, and none
more. All of them can be written down as they are. Where no line of the operator was run, what the
log got is, packet by packet, that same line and behind it the packet, so that a file that is open
has grown by just that. Such runs go on with every turn of the loop, and what was read and run in
it is in the account. -/
theorem packets_told_in_order (settled : start.Settled) (drained : start.session.framer.Drained)
    (run : Ran start a es m) (calm : a.faults = []) :
    let serial := start.session.source.isSerial
    let packets := packetsIn (start.session.framer.pending ++ a.read)
    let logged := packets.flatMap (·.logged serial)
    appended es = packets.flatMap (·.shown serial) ∧
      (∀ p ∈ packets, ∀ text ∈ p.shown serial,
        Text.encodeAscii text = .ok (Text.encodeAsciiLossy text)) ∧
      (a.lines = [] → m.desk.log.holding = (start.desk.log.adds logged).holding ∧
        ∀ name held, start.desk.log.current = some (.file name) →
          Logbook.content start.desk.log.files name = some held →
            m.desk.log.current = some (.file name) ∧
              Logbook.content m.desk.log.files name = some (held ++ logged.flatten)) ∧
      ∀ h, (∀ clock second, h ≠ .pulse clock second) → ∃ lines, (∀ line ∈ lines, h.Says line) ∧
        Ran start (a.after m h lines) (es ++ (meet h m).effects) (meet h m).state := by
  intro serial packets logged
  obtain ⟨found, accounted⟩ := run.accounted settled drained calm
  obtain rfl : packets = found := Framer.packetsIn_of_scans accounted.scans
  refine ⟨accounted.shown, fun p _ => p.plain_shown serial, ?_, fun h other => run.meets other⟩
  intro silent
  have same := accounted.logged silent
  refine ⟨same, ?_⟩
  intro name held open_ holds
  obtain ⟨current, files⟩ := Prod.mk.inj same
  rw [current, files]
  exact Logbook.content_adds open_ holds logged

/-- A relay that passes a report of time on and then a sentence, with a log open. -/
theorem packets_told_in_order_of_report :
    let report := "\x7b\"class\":\"TOFF\",\"clock_sec\":100,\"real_sec\":99\x7d\n"
    let sentence := "$GPGGA,1*4B\n"
    let told := "TOFF=100.000000000 real=99.000000000 offset=1.000000000\n"
    let log : Logbook := { files := [("packets", [])], current := some (.file "packets") }
    let start : Monitor := (Session.hearing (Bytes.ofString (report ++ sentence)),
      { hostname := "localhost", log })
    let a : Account := { read := start.incoming, faults := start.upset }
    let m := (intake start).state
    start.Settled ∧ start.session.framer.Drained ∧ Ran start a (intake start).effects m ∧
      a.faults = [] ∧ appended (intake start).effects = [told, "(12) $GPGGA,1*4B\n"] ∧
      Logbook.content m.desk.log.files "packets" =
        some (Bytes.ofString (told ++ "(12) $GPGGA,1*4B\n" ++ sentence)) := by
  intro report sentence told log start a m
  have fresh : Fresh start := ⟨rfl, rfl, rfl, rfl⟩
  have drained : start.session.framer.Drained := Framer.drained_iff.mpr rfl
  have run : Ran start a (intake start).effects m := Ran.start.reads
  have calm : a.faults = [] := by decide +kernel
  obtain ⟨shown, _, logged, _⟩ := packets_told_in_order fresh.settled drained run calm
  have grown := (logged rfl).2 "packets" [] rfl rfl
  refine ⟨fresh.settled, drained, run, calm, ?_, ?_⟩
  · rw [shown]
    decide +kernel
  · rw [grown.2]
    decide +kernel

end Monitor
end GnssMonitor
