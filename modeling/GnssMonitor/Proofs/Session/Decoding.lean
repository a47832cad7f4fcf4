import GnssMonitor.Proofs.Act
import GnssMonitor.Session

/-! What a session makes of what is said. Whether a packet upsets it depends on nothing but the
packet. -/

namespace GnssMonitor

/-- A packet that stops the intake, and the fault with which it does: a vendor's sentence cut
short, an object that is no text, has an integer of too many digits or is nested too deep, and a
position report whose time is neither text nor blank. -/
inductive Packet.Upsets : Packet → Fault → Prop
  | sentence {bs : Bytes} (h : Sentence.read (Text.trim Text.isBlank (Text.decodeAsciiLossy bs)) =
      .error .tooFewFields) : Upsets ⟨.nmea, bs⟩ .tooFewFields
  | object {bs : Bytes} {e : Json.ReadFault} (h : Json.read bs = .error e)
      (severe : ∀ what place, e ≠ .malformed what place) : Upsets ⟨.json, bs⟩ (.json e)
  | time {bs : Bytes} {report v : Json} (h : Json.read bs = .ok report)
      (fix : Session.isPositionReport report = true) (given : report.field? "time" = some v)
      (there : v.isBlank = false) (other : ∀ cs, v ≠ .text cs) :
      Upsets ⟨.json, bs⟩ (.notText v.kindName)

namespace Session

theorem noteFix_apply (time : Option Binary64) (s : Session) :
    noteFix time s = ⟨.ok (), { s with fixTime := time.getD s.fixTime }, []⟩ := by
  cases time <;> rfl

theorem reportTime_error_iff {report : Json} {f : Fault} :
    reportTime report = .error f ↔ ∃ v, report.field? "time" = some v ∧ v.isBlank = false ∧
      (∀ cs, v ≠ .text cs) ∧ f = .notText v.kindName := by
  unfold reportTime
  cases given : report.field? "time" with
  | none => simp [Json.isBlank]
  | some v =>
    cases v <;> simp only [Option.getD_some, reduceCtorEq, Option.some.injEq] <;>
      grind [Json.isBlank]

theorem decodeSentence_error_iff {bs : Bytes} {s : Session} {f : Fault} :
    (decodeSentence bs s).value = .error f ↔ Packet.Upsets ⟨.nmea, bs⟩ f := by
  unfold decodeSentence
  rw [Act.modify_bind]
  cases read : Sentence.read (Text.trim Text.isBlank (Text.decodeAsciiLossy bs)) with
  | ok sentence =>
    simp only [Act.modify_bind, noteFix_apply]
    constructor
    · simp
    · rintro ⟨h⟩
      simp [read] at h
  | error e =>
    cases e with
    | unreadable =>
      constructor
      · simp
      · rintro ⟨h⟩
        simp [read] at h
    | tooFewFields =>
      constructor
      · intro h
        obtain rfl := Except.error.inj h
        exact .sentence read
      · rintro ⟨h⟩
        rfl

theorem upsets_of_fault {bs : Bytes} {e : Json.ReadFault} (read : Json.read bs = .error e)
    {f : Fault} : Packet.Upsets ⟨.json, bs⟩ f ↔
      (∀ what place, e ≠ .malformed what place) ∧ f = .json e := by
  constructor
  · rintro (_ | ⟨h, severe⟩ | ⟨h, _, _, _, _⟩)
    · obtain rfl := Except.error.inj (read.symm.trans h)
      exact ⟨severe, rfl⟩
    · simp [read] at h
  · rintro ⟨severe, rfl⟩
    exact .object read severe

theorem upsets_of_report {bs : Bytes} {report : Json} (read : Json.read bs = .ok report)
    {f : Fault} : Packet.Upsets ⟨.json, bs⟩ f ↔
      isPositionReport report = true ∧ reportTime report = .error f := by
  rw [reportTime_error_iff]
  constructor
  · rintro (_ | ⟨h, _⟩ | ⟨h, fix, given, there, other⟩)
    · simp [read] at h
    · obtain rfl := Except.ok.inj (read.symm.trans h)
      exact ⟨fix, _, given, there, other, rfl⟩
  · rintro ⟨fix, v, given, there, other, rfl⟩
    exact .time read fix given there other

theorem decodeReport_error_iff {bs : Bytes} {s : Session} {f : Fault} :
    (decodeReport bs s).value = .error f ↔ Packet.Upsets ⟨.json, bs⟩ f := by
  unfold decodeReport
  cases read : Json.read bs with
  | ok report =>
    rw [upsets_of_report read]
    simp only [Act.modify_bind]
    by_cases fix : isPositionReport report = true
    · cases time : reportTime report with
      | ok t => simp [fix, noteFix_apply]
      | error e => simp [fix]
    · simp [fix]
  | error e =>
    rw [upsets_of_fault read]
    cases e with
    | malformed what place => simp
    | undecodable e => simp [eq_comm]
    | tooManyDigits n => simp [eq_comm]
    | tooDeep c => simp [eq_comm]

/-- What becomes of a packet does not depend on the session it comes in. -/
theorem decode_error_iff {p : Packet} {s : Session} {f : Fault} :
    (decode p s).value = .error f ↔ p.Upsets f := by
  obtain ⟨kind, bs⟩ := p
  cases kind with
  | nmea => exact decodeSentence_error_iff
  | json => exact decodeReport_error_iff
  | sirf | bad =>
    constructor
    · intro h
      contradiction
    · rintro ⟨⟩

/-- What was said last and the time of the latest fix are all that decoding changes. -/
theorem decode_state (p : Packet) (s : Session) : ∃ fixTime sentence fields report,
    (decode p s).state = { s with fixTime, sentence, fields, report } ∧
      (decode p s).effects = [] := by
  obtain ⟨kind, bs⟩ := p
  cases kind with
  | nmea =>
    simp only [decode, decodeSentence, Act.modify_bind]
    cases Sentence.read (Text.trim Text.isBlank (Text.decodeAsciiLossy bs)) with
    | ok sentence =>
      simp only [Act.modify_bind, noteFix_apply]
      exact ⟨_, _, _, _, rfl, trivial⟩
    | error e => cases e <;> exact ⟨_, _, _, _, rfl, rfl⟩
  | json =>
    simp only [decode, decodeReport]
    cases Json.read bs with
    | ok report =>
      simp only [Act.modify_bind]
      split
      · cases reportTime report with
        | ok t =>
          simp only [Act.lift_ok_bind, noteFix_apply]
          exact ⟨_, _, _, _, rfl, trivial⟩
        | error e => exact ⟨_, _, _, _, rfl, rfl⟩
      · exact ⟨_, _, _, _, rfl, rfl⟩
    | error e => cases e <;> exact ⟨_, _, _, _, rfl, rfl⟩
  | sirf | bad => exact ⟨_, _, _, _, rfl, rfl⟩

theorem decode_kept {p : Packet} {s s' : Session} {answer : Except Fault Unit}
    {es : List LineEffect} (h : decode p s = ⟨answer, s', es⟩) :
    s'.endpoint = s.endpoint ∧ s'.readonly = s.readonly := by
  obtain ⟨_, _, _, _, said, _⟩ := decode_state p s
  rw [h] at said
  rw [show s' = _ from said]
  exact ⟨rfl, rfl⟩

end Session
end GnssMonitor
