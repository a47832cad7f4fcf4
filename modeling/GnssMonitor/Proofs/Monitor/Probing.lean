import GnssMonitor.Proofs.Command.Probing
import GnssMonitor.Proofs.Monitor.Runs

/-! When receivers are asked who they are: after the first packet since the operator turned probing
on, and never else. Histories have the latest first. -/

namespace GnssMonitor.Monitor

open Act (Obeys)

/-- What a run has to do with probing. -/
inductive Moment
  /-- A packet has been framed, and the session has taken note of it. -/
  | packet (s : Session)
  /-- A line has been run: whether probing is enabled after it, and whether it was put down with a
  fault. -/
  | command (line : String) (probing failed : Bool)

namespace Moment

def isPacket : Moment → Bool
  | packet _ => true
  | command .. => false

/-- The command i has left probing enabled. -/
def turnsOn : Moment → Bool
  | packet _ => false
  | command line probing _ => (Command.read? line).any (·.verb = 'i') && probing

def failed : Moment → Bool
  | packet _ => false
  | command _ _ failed => failed

/-- The packet is followed by the probes. -/
def asks : Moment → Bool
  | packet s => decide s.Asks
  | command .. => false

end Moment

/-- Probing has been turned on, and no packet has been framed since. -/
def due : List Moment → Bool
  | [] => false
  | x :: earlier => !x.isPacket && (x.turnsOn || due earlier)

/-- How many packets have been framed since probing was last turned on without a fault, or in all
if it never was. -/
def framedSince : List Moment → Nat
  | [] => 0
  | x :: earlier =>
    if x.isPacket then framedSince earlier + 1
    else if x.turnsOn && !x.failed then 0
    else framedSince earlier

/-- Where no command failed that turned probing on, the count tells whether the probes are due. -/
theorem framedSince_eq_zero {history : List Moment}
    (heard : ∀ x ∈ history, x.turnsOn = true → x.failed = false)
    (turned : ∃ x ∈ history, x.turnsOn = true) :
    framedSince history = 0 ↔ due history = true := by
  induction history with
  | nil => simp at turned
  | cons x earlier ih =>
    unfold framedSince due
    cases packet : x.isPacket with
    | true => simp
    | false =>
      cases on : x.turnsOn with
      | true => simp [heard x List.mem_cons_self on]
      | false =>
        have before : ∃ x ∈ earlier, x.turnsOn = true := by
          obtain ⟨y, there, turned⟩ := turned
          obtain rfl | there := List.mem_cons.mp there
          · rw [on] at turned
            contradiction
          · exact ⟨y, there, turned⟩
        simpa using ih (fun y hy => heard y (List.mem_cons_of_mem _ hy)) before

/-- Such a history leaves probing disabled or not, and the framer at such a count. -/
inductive Tallied : List Moment → Bool → Nat → Prop
  | start : Tallied [] true 0
  | packet {history : List Moment} {readonly : Bool} {count : Nat} {s : Session}
      (t : Tallied history readonly count) (policy : s.readonly = readonly)
      (counted : s.framer.count = count + 1) : Tallied (.packet s :: history) readonly (count + 1)
  | idle {history : List Moment} {readonly readonly' : Bool} {count : Nat} {x : Moment}
      (t : Tallied history readonly count) (command : x.isPacket = false)
      (off : x.turnsOn = false) (stays : readonly' = false → readonly = false) :
      Tallied (x :: history) readonly' count
  | on {history : List Moment} {readonly : Bool} {count : Nat} {x : Moment}
      (t : Tallied history readonly count) (command : x.isPacket = false)
      (on : x.turnsOn = true) (heard : x.failed = false) : Tallied (x :: history) false 0
  | unnoted {history : List Moment} {readonly : Bool} {count : Nat} {x : Moment}
      (t : Tallied history readonly count) (command : x.isPacket = false)
      (on : x.turnsOn = true) (failed : x.failed = true) : Tallied (x :: history) false count

namespace Tallied

variable {history : List Moment} {readonly : Bool} {count : Nat}

theorem count_eq (t : Tallied history readonly count) : count = framedSince history := by
  induction t with
  | start => rfl
  | packet t policy counted ih => simp [framedSince, Moment.isPacket, ih]
  | idle t command off stays ih => simp [framedSince, command, off, ih]
  | on t command on heard ih => simp [framedSince, command, on, heard]
  | unnoted t command on failed ih => simp [framedSince, command, failed, ih]

/-- Probing is enabled only where it has been turned on. -/
theorem turned (t : Tallied history readonly count) (probing : readonly = false) :
    ∃ x ∈ history, x.turnsOn = true := by
  induction t with
  | start => contradiction
  | packet t policy counted ih =>
    obtain ⟨x, there, turned⟩ := ih probing
    exact ⟨x, List.mem_cons_of_mem _ there, turned⟩
  | idle t command off stays ih =>
    obtain ⟨x, there, turned⟩ := ih (stays probing)
    exact ⟨x, List.mem_cons_of_mem _ there, turned⟩
  | on t command on heard ih => exact ⟨_, List.mem_cons_self, on⟩
  | unnoted t command on failed ih => exact ⟨_, List.mem_cons_self, on⟩

theorem earlier {later : List Moment} (t : Tallied (later ++ history) readonly count) :
    ∃ readonly' count', Tallied history readonly' count' := by
  induction later generalizing readonly count with
  | nil => exact ⟨_, _, t⟩
  | cons x later ih =>
    rw [List.cons_append] at t
    cases t with
    | packet t _ _ => exact ih t
    | idle t _ _ _ => exact ih t
    | on t _ _ _ => exact ih t
    | unnoted t _ _ _ => exact ih t

/-- What the session was like when a packet had been framed. -/
theorem at_packet {later before : List Moment} {s : Session}
    (t : Tallied (later ++ .packet s :: before) readonly count) :
    s.framer.count = framedSince before + 1 ∧ Tallied before s.readonly (framedSince before) := by
  obtain ⟨_, _, t⟩ := t.earlier
  cases t with
  | packet t policy counted =>
    obtain rfl := t.count_eq
    rw [policy]
    exact ⟨counted, t⟩
  | idle _ command _ _ => cases command
  | on _ command _ _ => cases command
  | unnoted _ command _ _ => cases command

/-- Each packet that is followed by the probes has its command, and one more is left over where
the next packet is going to be followed by them. -/
theorem asks_le (t : Tallied history readonly count) :
    history.countP Moment.asks + (if readonly = false ∧ count = 0 then 1 else 0) ≤
      history.countP Moment.turnsOn := by
  have silent : ∀ x : Moment, x.isPacket = false → x.asks = false := by
    intro x command
    cases x with
    | packet s => cases command
    | command => rfl
  induction t with
  | start => simp
  | @packet history readonly count s t policy counted ih =>
    have first : (count : Int) + 1 = 1 ↔ count = 0 := by omega
    have asks : s.Asks ↔ readonly = false ∧ count = 0 := by
      unfold Session.Asks
      rw [policy, counted, first]
    have asks : Moment.asks (.packet s) = decide (readonly = false ∧ count = 0) :=
      decide_eq_decide.mpr asks
    rw [List.countP_cons, List.countP_cons, asks]
    simpa [Moment.turnsOn] using ih
  | idle t command off stays ih =>
    rw [List.countP_cons, List.countP_cons, silent _ command, off]
    grind
  | on t command on heard ih =>
    rw [List.countP_cons, List.countP_cons, silent _ command, on]
    grind
  | unnoted t command on failed ih =>
    rw [List.countP_cons, List.countP_cons, silent _ command, on]
    grind

/-- The packets of one intake. -/
theorem framed {calls : List Monitor} (t : Tallied history readonly count)
    (policy : ∀ call ∈ calls, call.1.readonly = readonly)
    (counted : Framer.CountOn count (calls.map (·.1.framer))) :
    Tallied ((calls.map fun call => .packet call.session).reverse ++ history) readonly
      (count + calls.length) := by
  induction calls generalizing history count with
  | nil => exact t
  | cons call rest ih =>
    obtain ⟨first, others⟩ := counted
    have next := t.packet (policy call List.mem_cons_self) first
    have further := ih next (fun c hc => policy c (List.mem_cons_of_mem _ hc)) others
    rw [List.map_cons, List.reverse_cons, List.append_assoc, List.length_cons]
    rw [Nat.add_right_comm, Nat.add_assoc] at further
    exact further

/-- The command that turns probing on and off. -/
theorem toggled {s s' : Session} (t : Tallied history s.readonly count)
    {answer : Except Fault Unit} (toggled : Toggled s answer s')
    (granted : s.readonly = false → Probeable s) (counted : s.framer.count = count) {x : Moment}
    (command : x.isPacket = false) (on : x.turnsOn = !s'.readonly)
    (failed : x.failed = true ↔ ∃ e, answer = .error e) :
    (s'.readonly = false → Probeable s') ∧
      ∃ count' : Nat, s'.framer.count = count' ∧ Tallied (x :: history) s'.readonly count' := by
  cases toggled with
  | refused forbidden =>
    have passive : s.readonly = true := by
      cases probing : s.readonly with
      | true => rfl
      | false => exact absurd (granted probing) forbidden
    rw [passive] at on
    exact ⟨granted, count, counted, t.idle command on id⟩
  | off h => exact ⟨fun _ => h, count, counted, t.idle command on nofun⟩
  | on h =>
    have heard : x.failed = false := by simpa using failed
    exact ⟨fun _ => h, 0, rfl, t.on command on heard⟩
  | unnoted h readonly e =>
    refine ⟨fun _ => h, count, counted, ?_⟩
    cases readonly with
    | true => exact t.idle command on nofun
    | false => exact t.unnoted command on (failed.mpr ⟨e, rfl⟩)

end Tallied

/-- The packets of the next intake, the latest first. -/
def framed (m : Monitor) : List Moment :=
  (m.hookCalls.map fun call => .packet call.session).reverse

/-- What the line comes to. -/
def heard (line : String) (m : Monitor) : Moment :=
  .command line (!(execute line m).state.session.readonly) (fails line m)

/-- The monitor has come to be this one through intakes that nothing stopped and lines of the
operator, whatever else happened in between, and this is the history. -/
inductive Recorded (start : Monitor) : List Moment → Monitor → Prop
  | start : Recorded start [] start
  | reads {history : List Moment} {m : Monitor} {status : IntakeStatus}
      (earlier : Recorded start history m) (calm : (intake m).value = .ok status) :
      Recorded start (m.framed ++ history) (intake m).state
  | runs {history : List Moment} {m : Monitor} (line : String)
      (earlier : Recorded start history m) :
      Recorded start (m.heard line :: history) (execute line m).state
  | passes {history : List Moment} {m : Monitor} (h : Happening)
      (earlier : Recorded start history m) (idle : ∀ wait, h ≠ .turn wait) :
      Recorded start history (meet h m).state

/-- All is settled, probing is enabled only where it may be, and the history tells how it stands
with probing. -/
structure Followed (history : List Moment) (m : Monitor) : Prop where
  settled : m.Settled
  granted : m.session.readonly = false → Probeable m.session
  tallied : ∃ count : Nat, m.session.framer.count = count ∧
    Tallied history m.session.readonly count

/-- What leaves probing alone leaves the history as it is. -/
theorem Followed.left {history : List Moment} {m m' : Monitor} {es : List Effect}
    (followed : Followed history m) (settled : m'.Settled) (left : LeavesProbing m es m') :
    Followed history m' := by
  obtain ⟨framer, kept⟩ := left
  obtain ⟨count, counted, tallied⟩ := followed.tallied
  refine ⟨settled, ?_, count, ?_, ?_⟩
  · intro probing
    obtain ⟨known, serial⟩ := followed.granted (kept.readonly.symm.trans probing)
    exact ⟨kept.device known, (congrArg Source.isSerial kept.source).trans serial⟩
  · rw [framer]
    exact counted
  · rw [kept.readonly]
    exact tallied

theorem intake_followed {history : List Moment} {m : Monitor} (followed : Followed history m)
    {status : IntakeStatus} (calm : (intake m).value = .ok status) :
    Followed (m.framed ++ history) (intake m).state ∧
      onLine (intake m).effects = m.hookCalls.flatMap (·.session.asked) := by
  let r := Session.intake .line (Session.recording Desk.takePacket) (m.1, m.2, [])
  have same : intake m = ⟨r.value, Session.withoutCalls r.state, r.effects⟩ :=
    Session.intake_recording Effect.line Desk.takePacket (m.1, m.2, [])
  have answered : r.value = .ok status := by
    rw [same] at calm
    exact calm
  have heard := Session.intake_heard Desk.takePacket_keepsOff answered
  have settled := (intake_settles m followed.settled).1
  obtain ⟨count, counted, tallied⟩ := followed.tallied
  have counting : m.1.framer.count = count := counted
  have numbered := heard.counted
  have total := heard.total
  rw [counting] at numbered total
  rw [same] at settled ⊢
  refine ⟨⟨settled, ?_, count + m.hookCalls.length, ?_, ?_⟩, heard.written⟩
  · intro probing
    obtain ⟨known, serial⟩ := followed.granted (heard.kept.readonly.symm.trans probing)
    refine ⟨heard.kept.device known, ?_⟩
    exact (congrArg Source.isSerial heard.kept.source).trans serial
  · rw [Int.natCast_add]
    exact total
  · have policy : r.state.1.readonly = m.session.readonly := heard.kept.readonly
    show Tallied (m.framed ++ history) r.state.1.readonly _
    rw [policy]
    exact tallied.framed heard.policy numbered

theorem execute_followed {history : List Moment} {m : Monitor} (followed : Followed history m)
    (line : String) : Followed (m.heard line :: history) (execute line m).state := by
  have settled := (serves_settles.executes m line trivial followed.settled).1
  obtain ⟨count, counted, tallied⟩ := followed.tallied
  by_cases toggles : (Command.read? line).any (·.verb = 'i') = true
  · obtain ⟨c, read, verb⟩ : ∃ c, Command.read? line = some c ∧ c.verb = 'i' := by
      simpa [Option.any_eq_true] using toggles
    obtain ⟨answer, toggled, failing⟩ := execute_toggles followed.settled.desk.active read verb
    have on : (m.heard line).turnsOn = !(execute line m).state.session.readonly := by
      unfold Moment.turnsOn heard
      simp [toggles]
    obtain ⟨granted, tallied⟩ := tallied.toggled toggled followed.granted counted rfl on failing
    exact ⟨settled, granted, tallied⟩
  · have other : ∀ c ∈ Command.read? line, c.verb ≠ 'i' := by
      intro c read verb
      rw [Option.mem_def.mp read] at toggles
      simp [verb] at toggles
    have off : (m.heard line).turnsOn = false := by
      unfold Moment.turnsOn heard
      simp [toggles]
    obtain ⟨_, granted, count, counted, tallied⟩ := followed.left settled (execute_leaves other m)
    exact ⟨settled, granted, count, counted, tallied.idle rfl off id⟩

theorem passes_leaves : Passes LeavesProbing where
  reaches _ _ _ := ⟨rfl, rfl, rfl, id⟩
  surrounds _ _ _ _ _ _ := leaves_of_desk
  pulses _ _ _ := leaves_of_desk

theorem Recorded.followed {start m : Monitor} {history : List Moment} (fresh : Fresh start)
    (passive : start.session.readonly = true) (unread : start.session.framer.count = 0)
    (run : Recorded start history m) : Followed history m := by
  induction run with
  | start =>
    refine ⟨fresh.settled, ?_, 0, unread, ?_⟩
    · intro probing
      rw [passive] at probing
      contradiction
    · rw [passive]
      exact .start
  | reads _ calm ih => exact (intake_followed ih calm).1
  | runs line _ ih => exact execute_followed ih line
  | passes h _ idle ih => exact ih.left (meet_settles h _ ih.settled).1 (passes_leaves.meet idle _)

/-- **When receivers are asked who they are.** An intake that nothing stops writes what is asked
after its packets and nothing else. Nothing is asked unless probing is enabled, and then it is
asked after the first packet since a command enabled it without a fault. So, where no command
failed that turned probing on, the probes are sent after a packet exactly when probing is enabled
and the packet is the first since the latest of those commands. In any run there are no more bursts
of probes than such commands. -/
theorem asked_when_due {start m : Monitor} {history : List Moment} (fresh : Fresh start)
    (passive : start.session.readonly = true) (unread : start.session.framer.count = 0)
    (run : Recorded start history m) :
    (∀ later s earlier, history = later ++ .packet s :: earlier →
      (s.asked = if s.readonly = false ∧ framedSince earlier = 0 then s.burst else []) ∧
      ((∀ x ∈ earlier, x.turnsOn = true → x.failed = false) →
        s.asked = if s.readonly = false ∧ due earlier = true then s.burst else [])) ∧
    history.countP Moment.asks ≤ history.countP Moment.turnsOn ∧
    ∀ status, (intake m).value = .ok status →
      onLine (intake m).effects = m.hookCalls.flatMap (·.session.asked) := by
  have followed := run.followed fresh passive unread
  obtain ⟨count, counted, tallied⟩ := followed.tallied
  refine ⟨?_, ?_, fun status calm => (intake_followed followed calm).2⟩
  · rintro later s earlier rfl
    obtain ⟨counted, before⟩ := tallied.at_packet
    have first : s.framer.count = 1 ↔ framedSince earlier = 0 := by
      rw [counted]
      omega
    have exact_rule : s.asked =
        if s.readonly = false ∧ framedSince earlier = 0 then s.burst else [] := by
      unfold Session.asked
      simp only [Session.Asks, first]
    refine ⟨exact_rule, ?_⟩
    intro heard
    have same : s.readonly = false ∧ framedSince earlier = 0 ↔
        s.readonly = false ∧ due earlier = true := by
      apply and_congr_right
      intro probing
      rw [probing] at before
      exact framedSince_eq_zero heard (before.turned rfl)
    rw [exact_rule]
    simp only [same]
  · have bound := tallied.asks_le
    omega

/-- A sentence that any receiver of sentences may send. -/
def plainSentence : Bytes := Bytes.ofString "$GPGGA,1*4B\n"

def serialStart : Monitor :=
  (Session.opened (.serial "/dev/ttyS0"), { hostname := "localhost" })

/-- A plain sentence comes in. -/
def hears (m : Monitor) : Monitor := (meet (.arrives (.bytes plainSentence)) m).state

def commanded (line : String) (m : Monitor) : Monitor := (execute line m).state

theorem Recorded.hears {start m : Monitor} {history : List Moment}
    (run : Recorded start history m) : Recorded start history m.hears := .passes _ run nofun

theorem Recorded.read {start m : Monitor} {history : List Moment} (run : Recorded start history m)
    (calm : (intake m).value.isOk = true) :
    Recorded start (m.framed ++ history) (intake m).state := by
  cases answered : (intake m).value with
  | ok status => exact .reads run answered
  | error e => simp [answered, Except.isOk, Except.toBool] at calm

theorem Recorded.read_one {start m : Monitor} {history : List Moment} {p : Session → Bool}
    (run : Recorded start history m) (calm : (intake m).value.isOk = true)
    (one : m.hookCalls.map (p ·.session) = [true]) :
    ∃ s, p s = true ∧ Recorded start (.packet s :: history) (intake m).state := by
  obtain ⟨call, called, holds⟩ := List.map_eq_singleton_iff.mp one
  have framed : m.framed = [.packet call.session] := by
    unfold framed
    rw [called]
    rfl
  have next := run.read calm
  rw [framed] at next
  exact ⟨call.session, holds, next⟩

/-- A sentence, the command to turn probing on, and another sentence. -/
theorem asked_when_due_of_command :
    let m := (commanded "i1" (intake serialStart.hears).state).hears
    ∃ s earlier, Fresh serialStart ∧ serialStart.session.readonly = true ∧
      serialStart.session.framer.count = 0 ∧
      Recorded serialStart (.packet s :: earlier) (intake m).state ∧
      s.asked = s.burst ∧ s.burst ≠ [] := by
  have fresh : Fresh serialStart := ⟨rfl, rfl, rfl, rfl⟩
  have begun : Recorded serialStart [] serialStart := .start
  have first := begun.hears.read (by decide +kernel)
  obtain ⟨s, found, run⟩ := (first.runs "i1").hears.read_one
    (p := fun s => decide (s.readonly = false ∧ s.burst ≠ []))
    (by decide +kernel) (by decide +kernel)
  obtain ⟨enabled, sent⟩ := of_decide_eq_true found
  have rule := ((asked_when_due fresh rfl rfl run).1 [] s _ rfl).1
  refine ⟨s, _, fresh, rfl, rfl, run, ?_, sent⟩
  rw [rule, if_pos ⟨enabled, by decide +kernel⟩]

/-- The log is a device that never has room, and is given up when it is closed. The command to turn
probing on then fails, with probing enabled and the count as it was, so that the next packet is not
followed by the probes although it is the first one since that command. -/
theorem unasked_after_lost_log :
    let lost := commanded "l" (commanded "i0" (commanded "l /dev/full"
      (intake serialStart.hears).state))
    let m := (commanded "l" (commanded "i1" lost)).hears
    ∃ s earlier, Fresh serialStart ∧ Recorded serialStart (.packet s :: earlier) (intake m).state ∧
      s.readonly = false ∧ due earlier = true ∧ s.asked = [] ∧ s.burst ≠ [] := by
  have fresh : Fresh serialStart := ⟨rfl, rfl, rfl, rfl⟩
  have begun : Recorded serialStart [] serialStart := .start
  have first := begun.hears.read (by decide +kernel)
  have lost := ((first.runs "l /dev/full").runs "i0").runs "l"
  obtain ⟨s, found, run⟩ := ((lost.runs "i1").runs "l").hears.read_one
    (p := fun s => decide (s.readonly = false ∧ s.asked = [] ∧ s.burst ≠ []))
    (by decide +kernel) (by decide +kernel)
  obtain ⟨enabled, unasked, sent⟩ := of_decide_eq_true found
  exact ⟨s, _, fresh, run, enabled, by decide +kernel, unasked, sent⟩

end GnssMonitor.Monitor
