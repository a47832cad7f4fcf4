import GnssMonitor.Panel
import GnssMonitor.Proofs.Instant
import GnssMonitor.Proofs.Session.Decoding
import GnssMonitor.Proofs.Timestamp

/-! The time of a fix comes by two ways: from a sentence, and as text in a report of the relay. Both
give the same time, also before 1970 and to the microsecond. -/

namespace GnssMonitor

open Text (CodePoints)

namespace Text

theorem digit?_le (c : Char) : (digit? c).getD 0 ≤ 9 := by
  unfold digit?
  cases digitRanges.find? fun r => r.1 ≤ c.toNat && c.toNat ≤ r.2 with
  | none => simp
  | some r =>
    rw [Option.map_some, Option.getD_some]
    omega

theorem digitsValue_pair (a b : Char) : digitsValue [a, b] ≤ 99 := by
  have first := digit?_le a
  have second := digit?_le b
  simp only [digitsValue, List.foldl_cons, List.foldl_nil]
  omega

end Text

namespace Sentence

variable {s : Sentence} {i : Instant} {cs : List Char} {d : Date} {t : TimeOfDay}

theorem yearReadings_le {n : Nat} {rest : List Char} (there : (n, rest) ∈ yearReadings cs) :
    n ≤ 99 := by
  unfold yearReadings at there
  split at there
  · split at there
    · simp only [List.mem_singleton, Prod.mk.injEq] at there
      rw [there.1]
      exact Text.digitsValue_pair _ _
    · contradiction
  · contradiction

/-- A date of a sentence is in one of the hundred years from 1969 on. -/
theorem readDate_range (read : readDate cs = some d) :
    d.isValid = true ∧ 1969 ≤ d.year ∧ d.year ≤ 2068 := by
  unfold readDate at read
  obtain ⟨⟨date, rest⟩, first, checked⟩ := Option.bind_eq_some_iff.mp read
  have listed := List.mem_of_mem_head? first
  simp only [List.mem_flatMap, List.mem_map] at listed
  obtain ⟨⟨day, behind⟩, -, ⟨month, behind'⟩, -, ⟨year, behind''⟩, there, same⟩ := listed
  simp only [Prod.mk.injEq] at same
  obtain ⟨rfl, rfl⟩ := same
  have short := yearReadings_le there
  simp only [Option.ite_none_right_eq_some, Bool.and_eq_true, Option.some.injEq] at checked
  obtain ⟨⟨-, valid⟩, rfl⟩ := checked
  refine ⟨valid, ?_⟩
  simp only [fullYear]
  split <;> omega

theorem readTimeOfDay_isValid (read : readTimeOfDay cs = some t) : t.isValid = true := by
  unfold readTimeOfDay at read
  simp only [Option.bind_eq_bind, Option.bind_eq_some_iff] at read
  obtain ⟨micro, -, hour, -, minute, -, second, -, checked⟩ := read
  simp only [Option.ite_none_right_eq_some, Option.some.injEq] at checked
  obtain ⟨valid, rfl⟩ := checked
  exact valid

theorem convert_value {α : Type} {read : List Char → Option α} {text : String} {a : α}
    (converted : convert read text = .value a) : read text.toList = some a := by
  unfold convert at converted
  split at converted
  · contradiction
  · split at converted
    · rename_i found
      obtain rfl := Converted.value.inj converted
      exact found
    · contradiction

/-- When a fix can have been, as its date and time of day. -/
theorem fixInstant_civil (timed : s.fixInstant = some i) : s.kind = .rmc ∧ ∃ d t,
    i = Instant.ofCivil d t ∧ d.isValid = true ∧ t.isValid = true ∧
      1969 ≤ d.year ∧ d.year ≤ 2068 := by
  unfold fixInstant at timed
  split at timed
  · rename_i kind
    refine ⟨kind, ?_⟩
    split at timed
    · rename_i t d time date
      obtain ⟨valid, range⟩ := readDate_range (convert_value date)
      have time := readTimeOfDay_isValid (convert_value time)
      exact ⟨d, t, (Option.some.inj timed).symm, valid, time, range⟩
    · contradiction
  · contradiction

/-- The hundred years are near enough to 1970. -/
theorem fix_near (date : d.isValid = true) (time : t.isValid = true)
    (range : 1969 ≤ d.year ∧ d.year ≤ 2068) :
    (Instant.ofCivil d t).micros.natAbs ≤ Instant.nearSeconds * 1000000 := by
  have day := Date.number_bounds date
  have second := TimeOfDay.lt_day time
  simp only [Date.daysBefore] at day
  simp only [Instant.ofCivil, Instant.epochDay, Instant.microsPerDay, Instant.nearSeconds]
  omega

end Sentence

/-- The panel takes the text of the time, whatever else it takes of the sentence. -/
theorem Panel.noteSentence_time {s : Sentence} {text : String} (kind : s.kind = .rmc)
    (shown : s.fixText = some text) (p : Panel) :
    (p.noteSentence s).fix.time = some (.text text) := by
  unfold noteSentence
  rw [kind]
  change (noteRmc s p.fix).time = _
  unfold noteRmc
  rw [shown]
  rcases position s with _ | _ | ⟨x, y⟩ <;> rfl

namespace Session

variable {s : Sentence} {x : Binary64}

/-- A sentence packet with this in it. -/
def Carries (bs : Bytes) (s : Sentence) : Prop :=
  Sentence.read (Text.trim Text.isBlank (Text.decodeAsciiLossy bs)) = .ok s

/-- Whether a report gives its time in these words. -/
def tellsTime (time : String) (report : Json) : Bool :=
  match report.field? "time" with
  | some (.text cs) => cs = CodePoints.ofString time
  | _ => false

theorem field_of_tellsTime {time : String} {report : Json} (tells : tellsTime time report = true) :
    report.field? "time" = some (.text (CodePoints.ofString time)) := by
  unfold tellsTime at tells
  split at tells
  · rename_i cs given
    rw [given, of_decide_eq_true tells]
  · contradiction

/-- A report of a position with this as its time. -/
def Reports (bs : Bytes) (time : String) : Prop :=
  ∃ report, Json.read bs = .ok report ∧ (isPositionReport report && tellsTime time report) = true

/-- Whatever the session is, decoding the packet goes through and leaves this time. -/
def Leaves (p : Packet) (x : Binary64) : Prop :=
  ∀ session, (decode p session).value = .ok () ∧ (decode p session).state.fixTime = x

theorem Carries.leaves {bs : Bytes} (carries : Carries bs s) (timed : s.fixTime = some x) :
    Leaves ⟨.nmea, bs⟩ x := by
  intro session
  unfold Carries at carries
  simp only [decode, decodeSentence, Act.modify_bind, carries, noteFix_apply, timed,
    Option.getD_some, and_self]

theorem Reports.leaves {bs : Bytes} {time : String} (reports : Reports bs time)
    (read : (Timestamp.read (CodePoints.ofString time)).map Instant.toSeconds = some x) :
    Leaves ⟨.json, bs⟩ x := by
  intro session
  obtain ⟨report, parsed, fit⟩ := reports
  obtain ⟨position, tells⟩ := Bool.and_eq_true_iff.mp fit
  have given := field_of_tellsTime tells
  have told : reportTime report = .ok (some x) := by
    simp only [reportTime, given, Option.getD_some, read]
  simp [decode, decodeReport, parsed, Act.modify_bind, position, told, noteFix_apply]

/-- **A sentence and a report agree on the time of the fix.** The text that the panel shows for a
sentence is read as the time of the sentence itself, with its offset of zero, with a Z for it, or
without any. So the sentence and a report with this text leave the same time in a session. -/
theorem sentence_and_report_agree (timed : s.fixTime = some x) : ∃ stem,
    (s.fixText = some (stem ++ "+00:00") ∧
      ∀ p : Panel, (p.noteSentence s).fix.time = some (.text (stem ++ "+00:00"))) ∧
      ∀ ending ∈ ["+00:00", "Z", ""],
        (Timestamp.read (CodePoints.ofString (stem ++ ending))).map Instant.toSeconds = some x ∧
          ∀ told report, Carries told s → Reports report (stem ++ ending) →
            Leaves ⟨.nmea, told⟩ x ∧ Leaves ⟨.json, report⟩ x := by
  obtain ⟨i, made, rfl⟩ := Option.map_eq_some_iff.mp timed
  obtain ⟨kind, d, t, rfl, date, time, range⟩ := Sentence.fixInstant_civil made
  have shown : s.fixText = some (Instant.civilText d t ++ "+00:00") := by
    rw [Sentence.fixText, timed, Option.bind_some,
      Instant.ofSeconds_toSeconds (Sentence.fix_near date time range)]
    exact congrArg some (Instant.text_ofCivil date time)
  refine ⟨Instant.civilText d t, ⟨shown, Panel.noteSentence_time kind shown⟩,
    fun ending listed => ?_⟩
  have read : Timestamp.read (CodePoints.ofString (Instant.civilText d t ++ ending)) =
      some (Instant.ofCivil d t) := by
    simp only [List.mem_cons, List.not_mem_nil, or_false] at listed
    obtain rfl | rfl | rfl := listed
    · exact Timestamp.read_civilText date time (.inr rfl)
    · rw [Timestamp.read_zulu]
      exact Timestamp.read_civilText date time (.inr rfl)
    · exact Timestamp.read_civilText date time (.inl rfl)
  have same : (Timestamp.read (CodePoints.ofString (Instant.civilText d t ++ ending))).map
      Instant.toSeconds = some (Instant.ofCivil d t).toSeconds := by rw [read, Option.map_some]
  exact ⟨same, fun told report carries reports => ⟨carries.leaves timed, reports.leaves same⟩⟩

/-- A fraction of the last second before 1970, and a report with a Z behind the same time. -/
theorem sentence_and_report_agree_before_epoch :
    let s : Sentence := ⟨.rmc, ["235959.123456", "A", "", "", "", "", "", "", "311269"]⟩
    let x := Instant.toSeconds ⟨-876544⟩
    let told := Bytes.ofString "$GPRMC,235959.123456,A,,,,,,,311269"
    let report := Bytes.ofString
      "\x7b\"class\":\"TPV\",\"time\":\"1969-12-31T23:59:59.123456Z\"\x7d"
    s.fixTime = some x ∧ Carries told s ∧ Reports report "1969-12-31T23:59:59.123456Z" ∧
      Leaves ⟨.nmea, told⟩ x ∧ Leaves ⟨.json, report⟩ x := by
  intro s x told report
  have timed : s.fixTime = some x := by decide +kernel
  have carries : Carries told s := by
    obtain ⟨a, read, same⟩ := Act.exists_ok (p := (· == s)) (by decide +kernel : (Sentence.read
      (Text.trim Text.isBlank (Text.decodeAsciiLossy told))).toOption.any (· == s) = true)
    rwa [beq_iff_eq.mp same] at read
  have reports : Reports report "1969-12-31T23:59:59.123456Z" :=
    Act.exists_ok (by decide +kernel)
  obtain ⟨stem, ⟨shown, -⟩, agree⟩ := sentence_and_report_agree timed
  have written : stem = "1969-12-31T23:59:59.123456" := by
    have text : s.fixText = some ("1969-12-31T23:59:59.123456" ++ "+00:00") := by decide +kernel
    have same := congrArg String.toList (Option.some.inj (shown.symm.trans text))
    rw [String.toList_append, String.toList_append] at same
    exact String.toList_inj.mp (List.append_cancel_right same)
  obtain ⟨-, both⟩ := agree "Z" (by decide)
  rw [written] at both
  exact ⟨timed, carries, reports, both told report carries reports⟩

end Session

end GnssMonitor
