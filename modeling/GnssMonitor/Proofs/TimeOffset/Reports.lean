import GnssMonitor.Proofs.Binary64
import GnssMonitor.Proofs.Packet.Rendering
import GnssMonitor.TimeOffset

/-! What becomes of a time report. It is taken if it tells two times, and else complained of and
dropped, unless it goes beyond what can be read or reckoned with. -/

namespace GnssMonitor

namespace Json

/-- A number or a truth value that a time can be worked out from. -/
inductive Countable : Json → Prop
  | bool (b : Bool) : Countable (.bool b)
  | int {n : Int} (small : n.natAbs < Binary64.integerBound) : Countable (.int n)
  | number (x : Binary64) : Countable (.number x)

/-- An integer beyond the range of floating-point numbers. -/
inductive Huge : Json → Prop
  | int {n : Int} (large : Binary64.integerBound ≤ n.natAbs) : Huge (.int n)

theorem Countable.not_huge {v : Json} (countable : v.Countable) : ¬ v.Huge := by
  rintro ⟨large⟩
  cases countable with
  | int small => omega

end Json

namespace TimeReport

/-- The nanoseconds of a time; none are as good as zero. -/
def nanos (name : String) (report : Json) : Json :=
  (report.field? (name ++ "_nsec")).getD (.int 0)

/-- Seconds and nanoseconds can be counted with. -/
def Timed (name : String) (report : Json) : Prop :=
  ∃ seconds, report.field? (name ++ "_sec") = some seconds ∧
    seconds.Countable ∧ (nanos name report).Countable

/-- One of the two is found to be beyond the range, the nanoseconds being looked at first. -/
def Overflows (name : String) (report : Json) : Prop :=
  ∃ seconds, report.field? (name ++ "_sec") = some seconds ∧
    ((nanos name report).Huge ∨ (nanos name report).Countable ∧ seconds.Huge)

/-- A report of two times. -/
def WellFormed (payload : Bytes) : Prop :=
  ∃ report, Json.read payload = .ok report ∧ Timed "clock" report ∧ Timed "real" report

/-- A report that is nested too deep, or of which a time is beyond the range, the local clock
being looked at first; and the fault that this is. -/
inductive Exceeds (payload : Bytes) : Fault → Prop
  | depth {c : Json.Container} (nested : Json.read payload = .error (.tooDeep c)) :
      Exceeds payload (.json (.tooDeep c))
  | clock {report : Json} (read : Json.read payload = .ok report)
      (vast : Overflows "clock" report) : Exceeds payload .integerTooLarge
  | real {report : Json} (read : Json.read payload = .ok report) (timed : Timed "clock" report)
      (vast : Overflows "real" report) : Exceeds payload .integerTooLarge

/-- How something is worked out: well, beyond the range, or not for want of a number. -/
inductive Ends (well vast : Prop) : Except Fault Binary64 → Prop
  | well (x : Binary64) (good : well) (within : ¬ vast) : Ends well vast (.ok x)
  | vast (bad : ¬ well) (beyond : vast) : Ends well vast (.error .integerTooLarge)
  | ill (reason : String) (bad : ¬ well) (within : ¬ vast) :
      Ends well vast (.error (.badTimeField reason))

theorem ofInteger_ends (n : Int) :
    Ends (Json.int n).Countable (Json.int n).Huge (ofInteger n) := by
  unfold ofInteger
  cases number : Binary64.ofInt? n with
  | none =>
    have large := Binary64.ofInt?_eq_none_iff.mp number
    have huge : (Json.int n).Huge := .int large
    exact .vast (fun countable => countable.not_huge huge) huge
  | some x =>
    have small : ¬ Binary64.integerBound ≤ n.natAbs := by
      rw [← Binary64.ofInt?_eq_none_iff, number]
      simp
    have countable : (Json.int n).Countable := .int (not_le.mp small)
    exact .well x countable countable.not_huge

/-- What is made of a value depends on the value alone, whatever is done with the number. -/
theorem asNumber?_ends (v : Json) (f : Binary64 → Binary64) {x : Except Fault Binary64}
    (known : ∀ y, asNumber? v = some y → x = y.map f)
    (unknown : asNumber? v = none → ∃ reason, x = .error (.badTimeField reason)) :
    Ends v.Countable v.Huge x := by
  cases v with
  | bool b =>
    rw [known _ rfl]
    exact .well _ (.bool b) (Json.Countable.bool b).not_huge
  | number y =>
    rw [known _ rfl]
    exact .well _ (.number y) (Json.Countable.number y).not_huge
  | int n =>
    have ends := ofInteger_ends n
    rw [known _ rfl]
    generalize ofInteger n = number at ends
    cases ends with
    | well y good within => exact .well (f y) good within
    | vast bad beyond => exact .vast bad beyond
    | ill reason bad within => exact .ill reason bad within
  | null | text | array | object =>
    obtain ⟨reason, rfl⟩ := unknown rfl
    refine .ill reason ?_ ?_
    · rintro ⟨⟩
    · rintro ⟨⟩

theorem fraction_ends (v : Json) : Ends v.Countable v.Huge (fraction v) := by
  apply asNumber?_ends v (· / nanosPerSecond)
  · intro y h
    simp only [fraction, h]
  · intro h
    simp only [fraction, h]
    exact ⟨_, rfl⟩

theorem addSeconds_ends (v : Json) (x : Binary64) :
    Ends v.Countable v.Huge (addSeconds v x) := by
  apply asNumber?_ends v (· + x)
  · intro y h
    simp only [addSeconds, h]
  · intro h
    simp only [addSeconds, h]
    split <;> exact ⟨_, rfl⟩

theorem require_of_field {key : String} {report v : Json} (given : report.field? key = some v) :
    require key report = .ok v := by
  cases report with
  | object fields => simp only [require, given]
  | _ => simp [Json.field?] at given

theorem require_of_no_field {key : String} {report : Json} (missing : report.field? key = none) :
    ∃ reason, require key report = .error (.badTimeField reason) := by
  cases report with
  | object fields =>
    simp only [require, missing]
    exact ⟨_, rfl⟩
  | _ => exact ⟨_, rfl⟩

/-- With the seconds there, all depends on the two values. -/
theorem timed_iff {name : String} {report seconds : Json}
    (given : report.field? (name ++ "_sec") = some seconds) :
    Timed name report ↔ seconds.Countable ∧ (nanos name report).Countable := by
  simp [Timed, given]

theorem overflows_iff {name : String} {report seconds : Json}
    (given : report.field? (name ++ "_sec") = some seconds) : Overflows name report ↔
      (nanos name report).Huge ∨ (nanos name report).Countable ∧ seconds.Huge := by
  simp [Overflows, given]

theorem time_ends (name : String) (report : Json) :
    Ends (Timed name report) (Overflows name report) (time name report) := by
  cases given : report.field? (name ++ "_sec") with
  | none =>
    obtain ⟨reason, required⟩ := require_of_no_field given
    have missing : time name report = .error (.badTimeField reason) := by
      rw [time, required]
      rfl
    rw [missing]
    exact .ill reason (by simp [Timed, given]) (by simp [Overflows, given])
  | some seconds =>
    have worked : time name report = (fraction (nanos name report)).bind (addSeconds seconds) := by
      rw [time, require_of_field given]
      rfl
    rw [worked, timed_iff given, overflows_iff given]
    have first := fraction_ends (nanos name report)
    generalize fraction (nanos name report) = part at first
    cases first with
    | vast bad beyond => exact .vast (fun both => bad both.2) (.inl beyond)
    | ill reason bad within =>
      refine .ill reason (fun both => bad both.2) ?_
      rintro (huge | ⟨countable, _⟩)
      · exact within huge
      · exact bad countable
    | well x good within =>
      show Ends _ _ (addSeconds seconds x)
      have bounded (within' : ¬ seconds.Huge) :
          ¬ ((nanos name report).Huge ∨ (nanos name report).Countable ∧ seconds.Huge) := by
        rintro (huge | ⟨_, huge⟩)
        · exact within huge
        · exact within' huge
      have second := addSeconds_ends seconds x
      generalize addSeconds seconds x = sum at second
      cases second with
      | well y good' within' => exact .well y ⟨good', good⟩ (bounded within')
      | vast bad beyond => exact .vast (fun both => bad both.1) (.inr ⟨good, beyond⟩)
      | ill reason bad within' => exact .ill reason (fun both => bad both.1) (bounded within')

/-- What reading a report comes to: two times, a report beyond measure, or an ill-formed one. -/
inductive Reads (payload : Bytes) : Except Fault TimeSample → Prop
  | well (s : TimeSample) (good : WellFormed payload) (within : ∀ e, ¬ Exceeds payload e) :
      Reads payload (.ok s)
  | vast {e : Fault} (severe : isComplaint e = false) (bad : ¬ WellFormed payload)
      (beyond : ∀ e', Exceeds payload e' ↔ e' = e) : Reads payload (.error e)
  | ill {e : Fault} (mild : isComplaint e = true) (bad : ¬ WellFormed payload)
      (within : ∀ e, ¬ Exceeds payload e) : Reads payload (.error e)

section

variable {payload : Bytes} {report : Json} {e : Json.ReadFault}

theorem not_wellFormed (read : Json.read payload = .error e) : ¬ WellFormed payload := by
  simp [WellFormed, read]

theorem exceeds_of_fault (read : Json.read payload = .error e) {f : Fault} :
    Exceeds payload f ↔ ∃ c, e = .tooDeep c ∧ f = .json (.tooDeep c) := by
  constructor
  · rintro (⟨nested⟩ | ⟨h, _⟩ | ⟨h, _⟩)
    · rw [read] at nested
      exact ⟨_, Except.error.inj nested, rfl⟩
    · simp [read] at h
    · simp [read] at h
  · rintro ⟨c, rfl, rfl⟩
    exact .depth read

theorem exceeds_of_report (read : Json.read payload = .ok report) {f : Fault} :
    Exceeds payload f ↔ f = .integerTooLarge ∧
      (Overflows "clock" report ∨ Timed "clock" report ∧ Overflows "real" report) := by
  constructor
  · rintro (⟨nested⟩ | ⟨h, vast⟩ | ⟨h, timed, vast⟩)
    · simp [read] at nested
    · obtain rfl := Except.ok.inj (read.symm.trans h)
      exact ⟨rfl, .inl vast⟩
    · obtain rfl := Except.ok.inj (read.symm.trans h)
      exact ⟨rfl, .inr ⟨timed, vast⟩⟩
  · rintro ⟨rfl, vast | ⟨timed, vast⟩⟩
    · exact .clock read vast
    · exact .real read timed vast

theorem wellFormed_of_report (read : Json.read payload = .ok report) :
    WellFormed payload ↔ Timed "clock" report ∧ Timed "real" report := by
  simp [WellFormed, read]

theorem reads_of_report (told : Json.read payload = .ok report) :
    Reads payload (read payload) := by
  have worked : read payload = (time "clock" report).bind fun clock =>
      (time "real" report).bind fun real => .ok ⟨clock, real⟩ := by
    rw [read, told]
    rfl
  have good := wellFormed_of_report told
  have beyond := fun e => exceeds_of_report told (f := e)
  have clockEnds := time_ends "clock" report
  have realEnds := time_ends "real" report
  rw [worked]
  generalize time "clock" report = clock at clockEnds
  generalize time "real" report = real at realEnds
  cases clockEnds with
  | vast bad vast =>
    refine .vast rfl (fun whole => bad (good.mp whole).1) fun e => ?_
    rw [beyond]
    exact and_iff_left (.inl vast)
  | ill reason bad within =>
    refine .ill rfl (fun whole => bad (good.mp whole).1) fun e => ?_
    rw [beyond]
    rintro ⟨_, vast | ⟨timed, _⟩⟩
    · exact within vast
    · exact bad timed
  | well x timed within =>
    show Reads payload (real.bind fun real => .ok ⟨x, real⟩)
    have bounded (within' : ¬ Overflows "real" report) (e : Fault) : ¬ Exceeds payload e := by
      rw [beyond]
      rintro ⟨_, vast | ⟨_, vast⟩⟩
      · exact within vast
      · exact within' vast
    cases realEnds with
    | well y timed' within' => exact .well _ (good.mpr ⟨timed, timed'⟩) (bounded within')
    | vast bad vast =>
      refine .vast rfl (fun whole => bad (good.mp whole).2) fun e => ?_
      rw [beyond]
      exact and_iff_left (.inr ⟨timed, vast⟩)
    | ill reason bad within' =>
      exact .ill rfl (fun whole => bad (good.mp whole).2) (bounded within')

end

theorem read_reads (payload : Bytes) : Reads payload (read payload) := by
  cases told : Json.read payload with
  | ok report => exact reads_of_report told
  | error e =>
    have failed : read payload = .error (.json e) := by
      rw [read, told]
      rfl
    have bad := not_wellFormed told
    have beyond := fun f => exceeds_of_fault told (f := f)
    rw [failed]
    cases e with
    | tooDeep c => exact .vast rfl bad fun f => by simp [beyond]
    | undecodable | malformed | tooManyDigits => exact .ill rfl bad fun f => by simp [beyond]

end TimeReport

namespace Tracker

open TimeReport (WellFormed Exceeds)

/-- One line of text. -/
def IsLine (text : String) : Prop := ∃ body, '\n' ∉ body ∧ text.toList = body ++ ['\n']

/-- A sample is kept as the latest of its kind, with one line about it, and pulses are counted. -/
inductive Taken (t : Tracker) : TimeReportKind → Tracker × Notice × Option TimeSample → Prop
  | toff (s : TimeSample) {text : String} (line : IsLine text) :
      Taken t .toff ({ t with report := some s }, .report text, some s)
  | pps (s : TimeSample) {text : String} (line : IsLine text) :
      Taken t .pps
        ({ t with pulse := some s, pulseCount := t.pulseCount + 1 }, .report text, some s)

/-- There is one complaint and no sample, and the tracker stays as it was. -/
inductive Dropped (t : Tracker) : Tracker × Notice × Option TimeSample → Prop
  | complaint (text : String) : Dropped t (t, .complain text, none)

theorem take_taken (kind : TimeReportKind) (s : TimeSample) (t : Tracker) :
    Taken t kind ((t.take kind s).1, (t.take kind s).2, some s) := by
  have number (x : Binary64) : '\n' ∉ (seconds x).toList := x.fixed_oneLine 9
  cases kind with
  | toff =>
    refine .toff s ⟨"TOFF=".toList ++ (seconds s.clock).toList ++ " real=".toList ++
      (seconds s.real).toList ++ " offset=".toList ++ (seconds s.offset).toList, ?_, ?_⟩
    · simp [number]
    · simp [toString]
  | pps =>
    refine .pps s ⟨"------------------- PPS offset: ".toList ++ (seconds s.offset).toList ++
      " ------".toList, ?_, ?_⟩
    · simp [number]
    · simp [toString]

section

variable {kind : TimeReportKind} {payload : Bytes} {s : TimeSample} {e : Fault} {t : Tracker}
  {r : Tracker × Notice × Option TimeSample}

theorem Taken.isSome (taken : Taken t kind r) : r.2.2.isSome = true := by
  cases taken <;> rfl

theorem Dropped.isNone (dropped : Dropped t r) : r.2.2 = none := by
  cases dropped
  rfl

theorem handle_of_sample (told : TimeReport.read payload = .ok s) :
    t.handle kind payload = .ok ((t.take kind s).1, (t.take kind s).2, some s) := by
  rw [handle, told]

theorem handle_of_ill (told : TimeReport.read payload = .error e)
    (mild : TimeReport.isComplaint e = true) : t.handle kind payload =
      .ok (t, .complain s!"Ill-formed {kind.name} packet: {e.message}", none) := by
  simp only [handle, told, mild, if_true]

theorem handle_of_severe (told : TimeReport.read payload = .error e)
    (severe : TimeReport.isComplaint e = false) : t.handle kind payload = .error e := by
  simp [handle, told, severe]

end

/-- **What becomes of a time report.** One of two times is taken, one beyond measure is a fault,
and any other is complained of and dropped. -/
theorem reports_taken_or_dropped (kind : TimeReportKind) (payload : Bytes) (t : Tracker) :
    ((∃ r, t.handle kind payload = .ok r ∧ Taken t kind r) ↔ WellFormed payload) ∧
      ((∃ r, t.handle kind payload = .ok r ∧ Dropped t r) ↔
        ¬ WellFormed payload ∧ ∀ e, ¬ Exceeds payload e) ∧
      ∀ e, t.handle kind payload = .error e ↔ Exceeds payload e := by
  have reads := TimeReport.read_reads payload
  generalize told : TimeReport.read payload = result at reads
  cases reads with
  | well s good within =>
    have taken := take_taken kind s t
    have kept : ¬ Dropped t ((t.take kind s).1, (t.take kind s).2, some s) := by
      intro dropped
      simpa using dropped.isNone
    simp [handle_of_sample told, good, within, taken, kept]
  | vast severe bad beyond =>
    simp [handle_of_severe told severe, bad, beyond, eq_comm]
  | @ill e mild bad within =>
    have dropped := Dropped.complaint (t := t) s!"Ill-formed {kind.name} packet: {e.message}"
    have untaken (text : String) : ¬ Taken t kind (t, .complain text, none) := by
      intro taken
      simpa using taken.isSome
    simp only [handle_of_ill told mild, bad, within]
    simp [untaken, dropped]

/-- A report whose time is 1 with so many zeros behind it. -/
def ofMagnitude (zeros : Nat) : Bytes :=
  Bytes.ofString "\x7b\"clock_sec\":1" ++ List.replicate zeros 0x30 ++
    Bytes.ofString ",\"real_sec\":0\x7d"

/-- An integer that no floating-point number comes near gets past the handling of ill-formed
reports. -/
theorem report_escapes :
    ({} : Tracker).handle .toff (ofMagnitude 309) = .error .integerTooLarge ∧
      ({} : Tracker).handle .pps (ofMagnitude 309) = .error .integerTooLarge := by
  constructor <;> decide +kernel

end Tracker

end GnssMonitor
