import GnssMonitor.Proofs.Desk.Settled
import GnssMonitor.Proofs.Logbook
import GnssMonitor.Proofs.Packet.Rendering

/-! What the operator and the log are told of a packet: a line with the packet, or what a relay's
report of time comes to, and the packet itself. -/

namespace GnssMonitor

/-- The line that the effect adds to the display, if it does. -/
def Effect.appended? : Effect → Option String
  | .append text => some text
  | _ => none

/-- The lines that are added to the display, in order. -/
def appended (es : List Effect) : List String := es.filterMap Effect.appended?

@[simp] theorem appended_append (es es' : List Effect) :
    appended (es ++ es') = appended es ++ appended es' := List.filterMap_append

@[simp] theorem appended_map_line (es : List LineEffect) : appended (es.map .line) = [] :=
  List.filterMap_eq_nil_iff.mpr (by simp [Effect.appended?])

namespace Packet

/-- The report of time that a relay passes on, if the packet is one. -/
def timeReport? (serial : Bool) (p : Packet) : Option TimeReportKind :=
  if serial || p.kind != .json then none
  else if Desk.toffLeader.isPrefixOf p.bytes then some .toff
  else if Desk.ppsLeader.isPrefixOf p.bytes then some .pps
  else none

/-- What a sample of the kind is told as. -/
def telling (kind : TimeReportKind) (s : TimeSample) : String :=
  match kind with
  | .toff => s!"TOFF={s.clock.fixed 9} real={s.real.fixed 9} offset={s.offset.fixed 9}\n"
  | .pps => s!"------------------- PPS offset: {s.offset.fixed 9} ------\n"

/-- What a report of the kind is told as. Of an ill-formed one it is nothing. -/
def toldAs (kind : TimeReportKind) (bs : Bytes) : List String :=
  match TimeReport.read bs with
  | .ok s => [telling kind s]
  | .error _ => []

/-- What the operator sees of a packet. -/
def shown (serial : Bool) (p : Packet) : List String :=
  match p.timeReport? serial with
  | none => [Rendering.packetLine p.bytes p.kind.isTextual Rendering.defaultBound]
  | some kind => toldAs kind p.bytes

/-- What goes into the log: what is seen, and behind it the packet, unless that is a TOFF report
that a relay passes on. -/
def logged (serial : Bool) (p : Packet) : List Bytes :=
  (p.shown serial).map Text.encodeAsciiLossy ++
    if p.timeReport? serial = some .toff then [] else [p.bytes]

theorem plain_telling (kind : TimeReportKind) (s : TimeSample) :
    Text.Plain (telling kind s).toList := by
  have plain (x : Binary64) := x.plain_fixed 9
  cases kind with
  | toff =>
    have parts : telling .toff s = "TOFF=" ++ s.clock.fixed 9 ++ " real=" ++ s.real.fixed 9 ++
        " offset=" ++ s.offset.fixed 9 ++ "\n" := rfl
    simp only [parts, String.toList_append, Text.plain_append, plain, and_true]
    decide
  | pps =>
    have parts : telling .pps s =
        "------------------- PPS offset: " ++ s.offset.fixed 9 ++ " ------\n" := rfl
    simp only [parts, String.toList_append, Text.plain_append, plain, and_true]
    decide

/-- All that is seen can be written down as it is. -/
theorem plain_shown (serial : Bool) (p : Packet) : ∀ text ∈ p.shown serial,
    Text.encodeAscii text = .ok (Text.encodeAsciiLossy text) := by
  intro text seen
  apply Text.encodeAscii_of_plain
  unfold shown at seen
  split at seen
  · obtain rfl := List.mem_singleton.mp seen
    exact Rendering.plain_packetLine _ _ _
  · unfold toldAs at seen
    split at seen
    · obtain rfl := List.mem_singleton.mp seen
      exact plain_telling _ _
    · contradiction

end Packet

namespace Desk

open Act (Obeys)

/-- These lines are shown, and this is added to the log. -/
def Tells (lines : List String) (writes : List Bytes) (d : Desk) (es : List Effect) (d' : Desk) :
    Prop :=
  appended es = lines ∧ d'.log = d.log.adds writes

section

variable {α β : Type} {lines lines' : List String} {writes writes' : List Bytes} {d : Desk}
  {x : Do α} {f : α → Do β}

theorem Tells.bind {a : α} (first : Obeys (Tells lines writes) d x)
    (answered : (x d).value = .ok a)
    (then_ : Obeys (Tells lines' writes') (x d).state (f a)) :
    Obeys (Tells (lines ++ lines') (writes ++ writes')) d (x >>= f) := by
  unfold Obeys
  rw [Act.bind_ok answered]
  constructor
  · rw [appended_append, first.1, then_.1]
  · rw [then_.2, first.2, Logbook.adds_append]

theorem writeLog_tells {bs : Bytes} (written : (writeLog bs d).value = .ok ()) :
    Obeys (Tells [] [bs]) d (writeLog bs) :=
  ⟨rfl, Logbook.write_ok written⟩

theorem report_tells {text : String} (written : (report text d).value = .ok ()) :
    Obeys (Tells [text] [Text.encodeAsciiLossy text]) d (report text) := by
  have appends : Obeys (Tells [text] []) d (Act.emit (.append text)) := ⟨rfl, rfl⟩
  exact Tells.bind appends rfl (writeLog_tells written)

theorem logRaw_tells {bs : Bytes} (nonempty : bs ≠ []) (written : (logRaw bs d).value = .ok ()) :
    Obeys (Tells [] [bs]) d (logRaw bs) := by
  have there : logRaw bs = writeLog bs := if_neg (by simpa using nonempty)
  rw [there] at written ⊢
  exact writeLog_tells written

theorem latch_tells (fixTime : Binary64) (d : Desk) : Obeys (Tells [] []) d (latch fixTime) := by
  unfold Obeys latch
  rw [Act.get_bind]
  cases d.tracker.afterPacket fixTime with
  | ok answer => exact ⟨rfl, rfl⟩
  | error e => exact ⟨rfl, rfl⟩

/-- A well-formed report is told, an ill-formed one only complained of. -/
theorem takeReport_tells {kind : TimeReportKind} {bs : Bytes}
    (calm : (takeReport kind bs d).value = .ok ()) :
    Obeys (Tells (Packet.toldAs kind bs) ((Packet.toldAs kind bs).map Text.encodeAsciiLossy)) d
      (takeReport kind bs) := by
  unfold takeReport at calm ⊢
  rw [Act.get_bind] at calm
  unfold Obeys
  rw [Act.get_bind]
  unfold Tracker.handle Packet.toldAs at *
  cases read : TimeReport.read bs with
  | ok s =>
    have told : (d.tracker.take kind s).2 = .report (Packet.telling kind s) := by
      cases kind <;> rfl
    simp only [read, Act.lift_ok_bind, Act.modify_bind, told, tell] at calm ⊢
    exact report_tells calm
  | error e =>
    simp only [read] at calm ⊢
    by_cases complaint : TimeReport.isComplaint e
    · simp only [complaint, if_true, Act.lift_ok_bind]
      exact ⟨rfl, rfl⟩
    · simp [complaint] at calm

/-- A change of handlers is neither told nor logged. -/
theorem OnlySwitches.tells {r : Receiver} {d' : Desk} {es : List Effect}
    (h : OnlySwitches r d es d') : Tells [] [] d es d' := by
  obtain ⟨⟨_, _, _, _, rfl, _⟩, heard⟩ := h
  refine ⟨List.filterMap_eq_nil_iff.mpr fun e he => ?_, rfl⟩
  cases heard e he with
  | shown shown => cases e <;> simp_all [Effect.appended?, isShown]
  | notStarted | noRoom | unmatched => rfl

theorem record_tells {s : Session} (nonempty : s.framer.packet ≠ [])
    (calm : (record s d).value = .ok ()) :
    Obeys (Tells [] [s.framer.packet]) d (record s) := by
  unfold record at calm ⊢
  obtain ⟨_, logged, _⟩ := Act.bind_value_ok.mp calm
  exact Tells.bind (logRaw_tells nonempty logged) logged (latch_tells s.fixTime _)

/-- **One packet.** Where a handler is selected for it, a packet that nothing stops is told to the
operator and to the log as it should be. -/
theorem takePacket_tells {s : Session} (idle : d.pending = none)
    (selected : timeReport? s = none → (select s d).value = .ok true)
    (nonempty : s.framer.packet ≠ []) (calm : (takePacket s d).value = .ok ()) :
    Obeys (Tells (s.framer.last.shown s.source.isSerial) (s.framer.last.logged s.source.isSerial)) d
      (takePacket s) := by
  unfold takePacket at calm ⊢
  unfold Obeys
  simp only [Act.get_bind, idle, Option.isSome_none, Bool.false_eq_true, if_false] at calm ⊢
  unfold Packet.logged Packet.shown
  cases report : s.framer.last.timeReport? s.source.isSerial with
  | none =>
    have other : timeReport? s = none := report
    have selected := selected other
    simp only [other, Act.bind_ok selected] at calm
    obtain ⟨_, reported, recorded⟩ := Act.bind_value_ok.mp calm
    rw [other]
    exact Tells.bind (select_switches s d).tells selected
      (Tells.bind (report_tells reported) reported (record_tells nonempty recorded))
  | some kind =>
    have passed : timeReport? s = some kind := report
    rw [passed] at calm ⊢
    cases kind with
    | toff =>
      rw [if_pos rfl, List.append_nil]
      exact takeReport_tells calm
    | pps =>
      obtain ⟨_, reported, recorded⟩ := Act.bind_value_ok.mp calm
      have told := Tells.bind (f := fun _ => record s) (takeReport_tells reported) reported
        (record_tells nonempty recorded)
      rwa [List.append_nil] at told

end

end Desk
end GnssMonitor
