import GnssMonitor.Proofs.Monitor.Forcing
import GnssMonitor.Proofs.Monitor.SwitchingBack

/-! A handler that stays on display. As long as the packets that come in leave the receiver that is
taken for the talker as it is, or at least keep calling for its handler, no other one comes on. -/

namespace GnssMonitor

open Act (Obeys)

namespace Desk

/-- The same handler is on display, and there are the same to choose from. -/
structure KeepsHandler (d : Desk) (_ : List Effect) (d' : Desk) : Prop where
  registry : d'.registry = d.registry
  active : d'.active = d.active

instance : Act.Composes KeepsHandler where
  nothing _ := ⟨rfl, rfl⟩
  next := by
    intro d d' d'' es es' first second
    exact ⟨second.registry.trans first.registry, second.active.trans first.active⟩

theorem reports_keepsHandler : Reports KeepsHandler where
  appends _ _ := ⟨rfl, rfl⟩
  complains _ _ _ := ⟨rfl, rfl⟩
  logs := by
    rintro d _ _ ⟨⟨_, rfl⟩, _⟩
    exact ⟨rfl, rfl⟩
  tracks _ _ := ⟨rfl, rfl⟩

variable {s : Session} {d : Desk} {h : Handler}

/-- A handler that is called for again stays, whether there is still room for it or not. -/
theorem select_keepsHandler (on : d.active = some h) (found : d.registry.resolve h.name = some h)
    (called : d.target s = h.receiver) : Obeys KeepsHandler d (select s) := by
  constructor
  · exact (select_switches s d).registry
  · have again : d.heir h.receiver = some h := by
      have found : d.registry.resolve h.receiver.name = some h := found
      unfold heir admitted
      rw [found, on]
      by_cases room : d.hasRoom h = true
      · rw [Option.filter_some, if_pos room, Option.some_or]
      · rw [Option.filter_some, if_neg room, Option.none_or]
    rw [select_active, called, again, on, ite_self]

theorem takePacket_keepsHandler (on : d.active = some h)
    (found : d.registry.resolve h.name = some h) (called : d.target s = h.receiver) :
    Obeys KeepsHandler d (takePacket s) := by
  apply takePacket_obeys reports_keepsHandler (select_keepsHandler on found called)
  intro _
  exact ⟨rfl, rfl⟩

end Desk

namespace Monitor

/-- Packets of this sort leave the talker among these, and the handler is called for by them. -/
structure Claims (such : Packet → Prop) (who : Option Receiver → Prop) (h : Handler) : Prop where
  talker {device : Option Receiver} (talks : who device) {p : Packet} (comes : such p) :
    who (Session.identify device p)
  calls {device : Option Receiver} (talks : who device) {s : Session} {d : Desk}
    (comes : such s.framer.last) (noted : s.device = Session.identify device s.framer.last)
    (on : d.active = some h) : d.target s = h.receiver

/-- The handler is on display, where it is the one found by its name, and one of these talks. -/
structure Occupied (who : Option Receiver → Prop) (h : Handler) (m : Monitor) : Prop where
  talker : who m.session.device
  found : m.desk.registry.resolve h.name = some h
  on : m.desk.active = some h

abbrev StaysOccupied (who : Option Receiver → Prop) (h : Handler) :
    Monitor → List Effect → Monitor → Prop :=
  Act.Keeps (Occupied who h) fun _ => True

variable {such : Packet → Prop} {who : Option Receiver → Prop} {h : Handler} {m m' : Monitor}
  {es : List Effect}

theorem staysOccupied_of (device : m'.session.device = m.session.device)
    (registry : m'.desk.registry = m.desk.registry) (active : m'.desk.active = m.desk.active) :
    StaysOccupied who h m es m' := by
  intro here
  refine ⟨⟨?_, ?_, active.trans here.on⟩, fun _ _ => trivial⟩
  · rw [device]
    exact here.talker
  · rw [registry]
    exact here.found

theorem onDesk_staysOccupied {α : Type} {x : Desk.Do α}
    (same : Obeys Desk.KeepsHandler m.desk x) : Obeys (StaysOccupied who h) m (onDesk x) :=
  staysOccupied_of rfl same.registry same.active

/-- Who talks and which handler is on display are a matter of forcing. -/
theorem permits_staysOccupied : Permits (· ≠ 't') (StaysOccupied who h) where
  complains _ _ _ := staysOccupied_of rfl rfl rfl
  notes _ _ _ := staysOccupied_of rfl rfl rfl
  logs _ _ _ _ := staysOccupied_of rfl rfl rfl
  sends _ _ _ _ := staysOccupied_of rfl rfl rfl
  settles _ _ := staysOccupied_of rfl rfl rfl
  reboots _ := staysOccupied_of rfl rfl rfl
  hooks _ _ _ := staysOccupied_of rfl rfl rfl
  probes _ _ _ _ _ := staysOccupied_of rfl rfl rfl
  recounts _ _ _ _ := staysOccupied_of rfl rfl rfl
  remembers _ _ _ _ := staysOccupied_of rfl rfl rfl
  relines m line _ _ := by
    obtain ⟨_, _, relined⟩ := setLine_state line m
    unfold Obeys
    rw [relined]
    exact staysOccupied_of rfl rfl rfl
  switches _ _ _ _ verb := absurd rfl verb
  forces _ _ _ _ _ verb := absurd rfl verb
  forgets _ _ verb := absurd rfl verb

theorem hears_staysOccupied : Hears IsUnforcing (StaysOccupied who h) where
  asks _ := staysOccupied_of rfl rfl rfl
  resumes _ := staysOccupied_of rfl rfl rfl
  deafens _ := staysOccupied_of rfl rfl rfl
  executes m _ unforcing := execute_obeys permits_staysOccupied unforcing m

theorem passes_staysOccupied : Passes (StaysOccupied who h) where
  reaches _ _ _ := staysOccupied_of rfl rfl rfl
  surrounds _ _ _ _ _ _ := staysOccupied_of rfl rfl rfl
  pulses clock second m :=
    onDesk_staysOccupied (Desk.takePulse_obeys Desk.reports_keepsHandler clock second m.desk)

/-- The handler is on display, and has been whenever the hook was called. -/
structure Attended (who : Option Receiver → Prop) (h : Handler)
    (w : Session × Desk × List Monitor) : Prop where
  now : Occupied who h (w.1, w.2.1)
  calls : ∀ call ∈ w.2.2, Occupied who h call

abbrev StaysAttended (who : Option Receiver → Prop) (h : Handler) :
    Session × Desk × List Monitor → List Effect → Session × Desk × List Monitor → Prop :=
  Act.Keeps (Attended who h) fun _ => True

/-- One packet. -/
theorem takeIn_staysAttended (claims : Claims such who h) {f : Framer} (comes : such f.last)
    (w : Session × Desk × List Monitor) : Obeys (StaysAttended who h) w
      (Session.takeIn .line (Session.recording Desk.takePacket) f) := by
  obtain ⟨s, d, calls⟩ := w
  rintro ⟨now, before⟩
  have taken : Obeys (StaysAttended who h) (s, d, calls)
      (Session.takeIn .line (Session.recording Desk.takePacket) f) := by
    have noted : (Session.accept { s with framer := f }).state.device =
        Session.identify s.device f.last := Session.accept_device _
    have framer : (Session.accept { s with framer := f }).state.framer = f :=
      Session.accept_framer _
    apply Session.takeIn_obeys
    · intro _
      refine ⟨⟨⟨?_, now.found, now.on⟩, before⟩, fun _ _ => trivial⟩
      exact noted ▸ claims.talker now.talker comes
    · intro _
      rw [Session.runHook_apply]
      generalize (Session.accept { s with framer := f }).state = s' at *
      subst framer
      have here : Occupied who h (s', d) :=
        ⟨noted ▸ claims.talker now.talker comes, now.found, now.on⟩
      have kept : Obeys Desk.KeepsHandler d (Desk.takePacket s') :=
        Desk.takePacket_keepsHandler now.on now.found (claims.calls now.talker comes noted now.on)
      have after : Occupied who h (onDesk (Desk.takePacket s') (s', d)).state :=
        (onDesk_staysOccupied (m := (s', d)) kept here).1
      refine ⟨⟨after, ?_⟩, fun _ _ => trivial⟩
      exact List.forall_mem_append.mpr ⟨before, List.forall_mem_singleton.mpr here⟩
  exact taken ⟨now, before⟩

section

variable (claims : Claims such who h) (comes : ∀ p ∈ m.session.batch, such p)
include claims comes

theorem intake_staysAttended (calls : List Monitor) : Obeys (StaysAttended who h) (m.1, m.2, calls)
    (Session.intake .line (Session.recording Desk.takePacket)) := by
  apply Session.intake_obeys
  · rintro s ⟨d, calls⟩ e _ ⟨⟨talker, found, on⟩, before⟩
    exact ⟨⟨⟨talker, found, on⟩, before⟩, fun _ _ => trivial⟩
  · rintro s ⟨d, calls⟩ framer ⟨⟨talker, found, on⟩, before⟩
    exact ⟨⟨⟨talker, found, on⟩, before⟩, fun _ _ => trivial⟩
  · intro f there w
    exact takeIn_staysAttended claims (comes f.last there) w

theorem hookCalls_occupied (here : Occupied who h m) : ∀ call ∈ m.hookCalls, Occupied who h call :=
  (intake_staysAttended claims comes [] ⟨here, by simp⟩).1.calls

theorem intake_staysOccupied : Obeys (StaysOccupied who h) m intake := by
  intro here
  rw [intake_recorded]
  exact ⟨(intake_staysAttended claims comes [] ⟨here, by simp⟩).1.now, fun _ _ => trivial⟩

end

/-- The monitor has come to be this one from packets of this sort alone, without a receiver being
forced. -/
inductive Fed (such : Packet → Prop) (start : Monitor) : Monitor → Prop
  | start : Fed such start start
  | meet {m : Monitor} (h : Happening) (unforcing : ∀ line, h.Says line → IsUnforcing line)
      (comes : h.Reads → ∀ p ∈ m.session.batch, such p) (earlier : Fed such start m) :
      Fed such start (meet h m).state

theorem Fed.unforced {start : Monitor} (run : Fed such start m) : Unforced start m := by
  induction run with
  | start => exact .start
  | meet h unforcing _ _ ih => exact .meet h unforcing ih

/-- The device has said something. -/
def arriving (bs : Bytes) (m : Monitor) : Monitor := (meet (.arrives (.bytes bs)) m).state

/-- The device says something, and it is read. -/
def reading (bs : Bytes) (m : Monitor) : Monitor :=
  (meet (.turn (.woke { deviceReady := true })) (arriving bs m)).state

theorem Fed.reads {start : Monitor} (run : Fed such start m) (bs : Bytes)
    (comes : ∀ p ∈ (arriving bs m).session.batch, such p) : Fed such start (reading bs m) := by
  apply Fed.meet
  · rintro _ ⟨_, ⟨⟩, ⟨⟩⟩
  · exact fun _ => comes
  · exact .meet _ nofun (fun reads => by simp [Happening.Reads] at reads) run

/-- A handler that all packets call for stays on display. -/
theorem Fed.occupied (claims : Claims such who h) {start : Monitor} (run : Fed such start m)
    (here : Occupied who h start) : Occupied who h m := by
  induction run with
  | start => exact here
  | @meet m happens unforcing comes _ ih =>
    have met : Obeys (StaysOccupied who h) m (Monitor.meet happens) := by
      apply passes_staysOccupied.meet_reading hears_staysOccupied _ unforcing
      · intro reads d
        exact intake_staysOccupied claims (comes reads)
      · intro m
        exact staysOccupied_of rfl rfl rfl
    exact (met ih).1

/-! Sentences that tell of no receiver. -/

/-- A sentence that no receiver is recognised by. -/
def Untelling (p : Packet) : Prop :=
  p.kind = .nmea ∧ ∀ r ∈ Receiver.all, r.recognises p.bytes = false

instance (p : Packet) : Decidable (Untelling p) :=
  inferInstanceAs (Decidable (p.kind = .nmea ∧ ∀ r ∈ Receiver.all, r.recognises p.bytes = false))

/-- A receiver that may send sentences: they are all that it sends, or it falls back to them. -/
def Lasting (r : Receiver) : Prop := r.kind = .nmea ∨ r.sticky = true

instance (r : Receiver) : Decidable (Lasting r) :=
  inferInstanceAs (Decidable (r.kind = .nmea ∨ r.sticky = true))

variable {r : Receiver}

theorem identify_untelling (lasting : Lasting r) {p : Packet} (untelling : Untelling p) :
    Session.identify (some r) p = some r := by
  obtain ⟨sentence, unrecognised⟩ := untelling
  have kept : (r.sticky || decide (r.kind = .nmea)) = true := by
    simpa using lasting.symm
  have told : Receiver.all.foldl (fun r known => if known.recognises p.bytes then known else r) r =
      r := by
    apply List.foldlRecOn (motive := (· = r)) Receiver.all _ rfl
    intro r' same known there
    rw [unrecognised known there, if_neg Bool.false_ne_true, same]
  unfold Session.identify
  rw [sentence]
  dsimp only
  rw [if_pos kept, told]

theorem claims_untelling (lasting : Lasting r) (own : h.receiver = r) :
    Claims Untelling (· = some r) h where
  talker := by
    rintro _ rfl p untelling
    exact identify_untelling lasting untelling
  calls := by
    rintro _ rfl s d untelling noted on
    rw [identify_untelling lasting untelling] at noted
    unfold Desk.target
    rw [on, noted]
    dsimp only [Option.getD_some]
    rw [own, ite_self]

/-- **What is forced stays.** Once the operator has forced a receiver that sends sentences or falls
back to them, with room for its handler, it is taken for the talker and its handler is on display
for as long as only sentences come in that tell of no receiver, whatever had come in before,
whatever becomes of the display and whatever else the operator does short of forcing another. So it
is, too, at each packet of the next batch of such sentences. -/
theorem forced_stays {start before : Monitor} (fresh : Fresh start)
    (reached : Reachable start before) (serial : before.session.source.isSerial = true)
    {typed arg : String} (read : Command.read? typed = some ⟨'t', arg⟩) (names : Names arg r)
    (lasting : Lasting r)
    (room : ∀ h ∈ Registry.builtIn, h.receiver = r → before.desk.hasRoom h = true)
    (run : Fed Untelling (execute typed before).state m) :
    ∃ h ∈ Registry.builtIn, h.receiver = r ∧ m.session.device = some r ∧ m.desk.active = some h ∧
      ((∀ p ∈ m.session.batch, Untelling p) → ∀ call ∈ m.hookCalls,
        call.session.device = some r ∧ call.desk.active = some h) := by
  have settled := reached.settled fresh
  obtain ⟨answers, forced⟩ := forceReceiver_forces serial settled.desk.registry names
  have passed := passed_of_builtIn settled.desk.active read (by simp)
  rw [execute_done read passed rfl answers] at run
  obtain ⟨h, there, own, window, panels, shown⟩ := forced.desk
  rw [if_pos (room h there own)] at shown
  have here : Occupied (· = some r) h (forceReceiver arg before).state := by
    refine ⟨by rw [forced.session], ?_, by rw [shown]⟩
    rw [shown]
    dsimp only
    rw [settled.desk.registry]
    exact Registry.resolve_name h there
  have claims := claims_untelling lasting own
  have stays := run.occupied claims here
  refine ⟨h, there, own, stays.talker, stays.on, ?_⟩
  intro comes call called
  have stays := hookCalls_occupied claims comes stays call called
  exact ⟨stays.talker, stays.on⟩

/-- A binary frame has been read when the operator forces a receiver of sentences. Then one comes in
that tells of none. -/
theorem forced_stays_of_ashtech :
    let start : Monitor := (Session.opened (.serial "/dev/ttyS0"), { hostname := "localhost" })
    let before := reading [0xa0, 0xa2, 0, 0, 0, 0, 0xb0, 0xb3] start
    let forced := (execute "t Ashtech" before).state
    let m := reading (Bytes.ofString "$GPGGA,1*4B\r\n") forced
    Fresh start ∧ Reachable start before ∧ before.session.source.isSerial = true ∧
      Names "Ashtech" .ashtech ∧ Lasting .ashtech ∧
      (∀ h ∈ Registry.builtIn, h.receiver = .ashtech → before.desk.hasRoom h = true) ∧
      Fed Untelling forced m ∧ before.desk.lastKind = .sirf ∧ m.desk.lastKind = .nmea ∧
      m.session.device = some .ashtech ∧
      m.desk.active.map (·.receiver) = some .ashtech := by
  intro start before forced m
  have fresh : Fresh start := ⟨rfl, rfl, rfl, rfl⟩
  have reached : Reachable start before := .meet _ (.meet _ .start)
  have serial : before.session.source.isSerial = true := by decide +kernel
  have names : Names "Ashtech" .ashtech := candidates_eq_singleton.mp (by decide +kernel)
  have lasting : Lasting .ashtech := by decide
  have room : ∀ h ∈ Registry.builtIn, h.receiver = .ashtech → before.desk.hasRoom h = true := by
    decide +kernel
  have run : Fed Untelling forced m := Fed.start.reads _ (by decide +kernel)
  have read : Command.read? "t Ashtech" = some ⟨'t', "Ashtech"⟩ := by decide +kernel
  obtain ⟨h, _, own, talks, on, _⟩ := forced_stays fresh reached serial read names lasting room run
  refine ⟨fresh, reached, serial, names, lasting, room, run, by decide +kernel, by decide +kernel,
    talks, ?_⟩
  rw [on, Option.map_some, own]

/-! A sticky receiver. -/

def sirfPanel : Handler := Handler.panelFor .sirf false

/-- A packet that receivers themselves send: a binary frame or a sentence. -/
def Direct (p : Packet) : Prop := p.kind = .sirf ∨ p.kind = .nmea

instance (p : Packet) : Decidable (Direct p) :=
  inferInstanceAs (Decidable (p.kind = .sirf ∨ p.kind = .nmea))

theorem direct_of_batch {s : Session} (unrelayed : ∀ p ∈ s.batch, p.kind ≠ .json) :
    ∀ p ∈ s.batch, Direct p := by
  intro p there
  have framed := (s.batch_genuine p there).kind_ne_bad
  have unrelayed := unrelayed p there
  unfold Direct
  cases kind : p.kind with
  | bad => exact absurd kind framed
  | json => exact absurd kind unrelayed
  | sirf => exact .inl rfl
  | nmea => exact .inr rfl

/-- Frames come from the receiver itself, and at a sentence the panel stays with it. -/
theorem target_sirf {s : Session} {d : Desk} (on : d.active = some sirfPanel)
    (direct : Direct s.framer.last) (frames : s.framer.kind = .sirf → s.device = some .sirf) :
    d.target s = .sirf := by
  unfold Desk.target
  rw [on]
  dsimp only
  obtain frame | sentence := direct
  · have other : ¬ (decide (s.framer.kind = .nmea) && sirfPanel.receiver.sticky) = true := by
      rw [show s.framer.kind = .sirf from frame]
      decide
    rw [if_neg other, frames frame]
    rfl
  · have sentence : s.framer.kind = .nmea := sentence
    rw [sentence]
    rfl

theorem claims_direct : Claims Direct (fun _ => True) sirfPanel where
  talker _ _ _ := trivial
  calls := by
    intro device _ s d direct noted on
    apply target_sirf on direct
    intro frame
    rw [noted]
    unfold Session.identify
    rw [show s.framer.last.kind = .sirf from frame]

theorem Settled.occupied (settled : m.Settled) (on : m.desk.active = some h) :
    Occupied (fun _ => True) h m where
  talker := trivial
  found := by
    rw [settled.desk.registry]
    exact Registry.resolve_name h (settled.desk.active h on)
  on := on

theorem sends_sirf : ∀ r ∈ Receiver.all, r.Sends .sirf → r = .sirf := by decide

theorem sends_bad : ∀ r ∈ Receiver.all, ¬ r.Sends .bad := by decide

/-- Whatever the hook is called with, only a packet of a relay has the panel replaced. -/
theorem hookCalls_keepPanel (settled : m.Settled) : ∀ call ∈ m.hookCalls,
    call.desk.active = some sirfPanel → call.session.framer.kind ≠ .json →
      (Desk.takePacket call.session call.desk).state.active = some sirfPanel := by
  intro call there on unrelayed
  obtain ⟨settled, handled⟩ := hookCalls_settled settled call there
  obtain ⟨r, talks, sends⟩ := handled.sender
  have called : call.desk.target call.session = .sirf := by
    cases kind : call.session.framer.kind with
    | json => exact absurd kind unrelayed
    | bad => exact absurd (kind ▸ sends) (sends_bad r sends.1)
    | nmea => exact target_sirf on (.inr kind) (by simp [kind])
    | sirf =>
      apply target_sirf on (.inl kind)
      rw [talks, sends_sirf r sends.1 (kind ▸ sends)]
      exact fun _ => rfl
  have kept : Obeys Desk.KeepsHandler call.desk (Desk.takePacket call.session) :=
    Desk.takePacket_keepsHandler on (settled.occupied on).found called
  exact kept.active.trans on

/-- **A sticky receiver keeps its panel.** With the built-in handlers, once the panel of the SiRF
receiver is on display it stays there as long as only frames and sentences come in, whatever
receivers the sentences tell of, unless one is forced. Where another handler comes on, the device
has been read, and the packet that it came on with is one of a relay. -/
theorem sirf_panel_stays {start on : Monitor} (fresh : Fresh start) (reached : Reachable start on)
    (active : on.desk.active = some sirfPanel) :
    (∀ m, Fed Direct on m → m.desk.active = some sirfPanel) ∧
      (∀ m h, Unforced on m → (∀ line, h.Says line → IsUnforcing line) →
        m.desk.active = some sirfPanel → (meet h m).state.desk.active ≠ some sirfPanel →
          h.Reads ∧ ∃ p ∈ m.session.batch, p.kind = .json) ∧
      ∀ m, Unforced on m → ∀ call ∈ m.hookCalls, call.desk.active = some sirfPanel →
        (Desk.takePacket call.session call.desk).state.active ≠ some sirfPanel →
          call.session.framer.kind = .json := by
  have settled := reached.settled fresh
  refine ⟨?_, ?_, ?_⟩
  · intro m run
    exact (run.occupied claims_direct (settled.occupied active)).on
  · intro m h run unforcing active changed
    have settled := run.reachable.stays_settled settled
    by_contra unrelayed
    have comes : h.Reads → ∀ p ∈ m.session.batch, Direct p := by
      intro reads
      apply direct_of_batch
      intro p there kind
      exact unrelayed ⟨reads, p, there, kind⟩
    have met : Fed Direct m (meet h m).state := .meet h unforcing comes .start
    exact changed (met.occupied claims_direct (settled.occupied active)).on
  · intro m run call there on changed
    by_contra unrelayed
    have settled := run.reachable.stays_settled settled
    exact changed (hookCalls_keepPanel settled call there on unrelayed)

/-- A sentence that only an Ashtech receiver sends comes in behind a frame, and then an object. -/
theorem sirf_panel_stays_of_ashtech :
    let start : Monitor := (Session.opened (.serial "/dev/ttyS0"), { hostname := "localhost" })
    let on := reading [0xa0, 0xa2, 0, 0, 0, 0, 0xb0, 0xb3] start
    let m := reading (Bytes.ofString "$PASHR,RID,1*36\n") on
    let told := arriving (Bytes.ofString "\x7b\x7d\n") m
    Fresh start ∧ Reachable start on ∧ on.desk.active = some sirfPanel ∧ Fed Direct on m ∧
      m.session.device = some .ashtech ∧ m.desk.active = some sirfPanel ∧
      told.hookCalls.map (·.desk.active) = [some sirfPanel] ∧
      (∀ call ∈ told.hookCalls, call.session.framer.kind = .json) ∧
      (reading (Bytes.ofString "\x7b\x7d\n") m).desk.active = some { receiver := .relay } := by
  intro start on m told
  have fresh : Fresh start := ⟨rfl, rfl, rfl, rfl⟩
  have reached : Reachable start on := .meet _ (.meet _ .start)
  have active : on.desk.active = some sirfPanel := by decide +kernel
  have run : Fed Direct on m := Fed.start.reads _ (by decide +kernel)
  obtain ⟨stays, _, only⟩ := sirf_panel_stays fresh reached active
  have calls : Unforced on told := run.unforced.passes _ nofun
  have shown : told.hookCalls.map (·.desk.active) = [some sirfPanel] := by decide +kernel
  refine ⟨fresh, reached, active, run, by decide +kernel, stays m run, shown, ?_, by decide +kernel⟩
  intro call there
  have on : call.desk.active = some sirfPanel := by
    have there := List.mem_map_of_mem (f := fun call : Monitor => call.desk.active) there
    rw [shown] at there
    exact List.mem_singleton.mp there
  have changed : ∀ call ∈ told.hookCalls,
      (Desk.takePacket call.session call.desk).state.active ≠ some sirfPanel := by decide +kernel
  exact only told calls call there on (changed call there)

end Monitor
end GnssMonitor
