import GnssMonitor.Source

/-! How host, port and device are read from the argument that names a source. In brackets a host may
hold colons, but an empty port behind it is overlooked. -/

namespace GnssMonitor.Source

/-- A relay, with the standard host and port and no device where a part is empty. -/
def ofParts (host port device : String) : Source :=
  .relay (if host = "" then defaultHost else host) (if port = "" then defaultPort else port)
    (if device = "" then none else some device)

/-- The parts with colons between them. -/
def joined (host port device : String) : String := host ++ ":" ++ port ++ ":" ++ device

/-- The parts with colons between them, and the host in brackets. -/
def bracketed (host port device : String) : String := joined ("[" ++ host ++ "]") port device

theorem orDefault_toList (standard s : String) :
    orDefault standard s.toList = if s = "" then standard else s := by
  simp [orDefault, String.toList_eq_nil_iff]

/-- The relay of a host and of what is behind it. -/
def ofHost (host rest : List Char) : Source :=
  .relay (orDefault defaultHost host) (orDefault defaultPort (splitColon rest).1)
    (if (splitColon rest).2.isEmpty then none else some (String.ofList (splitColon rest).2))

theorem ofHost_toList {host rest : List Char} {port device : String}
    (split : splitColon rest = (port.toList, device.toList)) :
    ofHost host rest = ofParts (String.ofList host) port device := by
  have named := orDefault_toList defaultHost (String.ofList host)
  rw [String.toList_ofList] at named
  simp [ofHost, ofParts, split, named, orDefault_toList, String.toList_eq_nil_iff]

/-- Text up to the first character that does not pass. -/
theorem split_at {passes : Char → Bool} {front : List Char} {mark : Char}
    (passed : ∀ c ∈ front, passes c = true) (stopped : passes mark = false) (rest : List Char) :
    (front ++ mark :: rest).takeWhile passes = front ∧
      (front ++ mark :: rest).dropWhile passes = mark :: rest := by
  have other : ¬ passes mark = true := by simp [stopped]
  constructor
  · rw [List.takeWhile_append_of_pos passed, List.takeWhile_cons_of_neg other, List.append_nil]
  · rw [List.dropWhile_append_of_pos passed, List.dropWhile_cons_of_neg other]

theorem splitColon_append {front : List Char} (plain : ':' ∉ front) (rest : List Char) :
    splitColon (front ++ ':' :: rest) = (front, rest) := by
  have passed : ∀ c ∈ front, (!isColon c) = true := by
    intro c there
    simp only [isColon, Bool.not_eq_true', beq_eq_false_iff_ne]
    rintro rfl
    exact plain there
  have stopped : (!isColon ':') = false := rfl
  obtain ⟨taken, left⟩ := split_at passed stopped rest
  rw [splitColon, taken, left]
  rfl

/-- What is behind a colon is shorter than the text. -/
theorem splitColon_shorter {cs : List Char} (filled : cs ≠ []) :
    (splitColon cs).2.length < cs.length := by
  have dropped := (List.dropWhile_sublist (fun c => !isColon c) (l := cs)).length_le
  have positive := List.length_pos_iff.mpr filled
  simp only [splitColon, List.length_drop]
  omega

theorem splitBracketed_append {front : List Char} (unclosed : ']' ∉ front) (rest : List Char) :
    splitBracketed ('[' :: (front ++ ']' :: rest)) = (front, rest.dropWhile isColon) := by
  have passed : ∀ c ∈ front, (!isClosing c) = true := by
    intro c there
    simp only [isClosing, Bool.not_eq_true', beq_eq_false_iff_ne]
    rintro rfl
    exact unclosed there
  have stopped : (!isClosing ']') = false := rfl
  have closed : ('[' :: (front ++ ']' :: rest)).any isClosing = true := by
    simp [isClosing]
  obtain ⟨taken, left⟩ := split_at passed stopped rest
  simp only [splitBracketed, closed, if_true, List.drop_one, List.tail_cons, taken, left]

section Read

variable {host port device : String}

theorem ofHost_parts (whole : ':' ∉ port.toList) :
    ofHost host.toList (port.toList ++ ':' :: device.toList) = ofParts host port device := by
  rw [ofHost_toList (splitColon_append whole device.toList), String.ofList_toList]

/-- All colons behind the bracket are passed over. -/
theorem read_bracketed (unclosed : ']' ∉ host.toList) :
    ofArgument (some (bracketed host port device)) =
      ofHost host.toList ((':' :: (port.toList ++ ':' :: device.toList)).dropWhile isColon) := by
  have text : (bracketed host port device).toList =
      '[' :: (host.toList ++ ']' :: ':' :: (port.toList ++ ':' :: device.toList)) := by
    simp [bracketed, joined]
  have remote : "/dev".toList.isPrefixOf (bracketed host port device).toList = false := by
    rw [text]
    rfl
  have opened : (bracketed host port device).toList.head? = some '[' := by
    rw [text]
    rfl
  rw [ofArgument, read, remote, if_neg Bool.false_ne_true, if_pos opened, text,
    splitBracketed_append unclosed]
  rfl

/-- The part behind a host that names no device path goes on with a colon. -/
theorem not_prefix_joined (plain : ¬ "/dev".toList <+: host.toList) (rest : List Char) :
    "/dev".toList.isPrefixOf (host.toList ++ ':' :: rest) = false := by
  rw [← Bool.not_eq_true, List.isPrefixOf_iff_prefix]
  intro path
  obtain within | within := List.prefix_or_prefix_of_prefix path (List.prefix_append _ _)
  · exact plain within
  · obtain ⟨tail, whole⟩ := within
    rw [← whole, List.prefix_append_right_inj] at path
    cases tail with
    | nil =>
      have same : "/dev".toList = host.toList := by rw [← whole, List.append_nil]
      exact plain ⟨[], by rw [List.append_nil, same]⟩
    | cons c tail =>
      obtain rfl : c = ':' := (List.cons_prefix_cons.mp path).1
      have colon : ':' ∈ "/dev".toList := by
        rw [← whole]
        simp
      exact absurd colon (by decide)

theorem read_joined (unsplit : ':' ∉ host.toList) (unopened : host.toList.head? ≠ some '[')
    (remote : ¬ "/dev".toList <+: host.toList) :
    ofArgument (some (joined host port device)) =
      ofHost host.toList (port.toList ++ ':' :: device.toList) := by
  have text : (joined host port device).toList =
      host.toList ++ ':' :: (port.toList ++ ':' :: device.toList) := by
    simp [joined]
  have plain : (joined host port device).toList.head? ≠ some '[' := by
    rw [text]
    cases chars : host.toList with
    | nil => simp
    | cons c cs => simpa [chars] using unopened
  have other : "/dev".toList.isPrefixOf (joined host port device).toList = false := by
    rw [text]
    exact not_prefix_joined remote _
  rw [ofArgument, read, other, if_neg Bool.false_ne_true, if_neg plain, text,
    splitColon_append unsplit]
  rfl

/-- An empty port is passed over with its colons, and the device is read for port and device. -/
theorem read_bracketed_portless (unclosed : ']' ∉ host.toList) :
    ofArgument (some (bracketed host "" device)) =
      ofHost host.toList (device.toList.dropWhile isColon) := by
  rw [read_bracketed unclosed]
  rfl

theorem read_bracketed_port (unclosed : ']' ∉ host.toList) (whole : ':' ∉ port.toList)
    (given : port ≠ "") :
    ofArgument (some (bracketed host port device)) = ofParts host port device := by
  rw [read_bracketed unclosed]
  have passed : (':' :: (port.toList ++ ':' :: device.toList)).dropWhile isColon =
      port.toList ++ ':' :: device.toList := by
    cases chars : port.toList with
    | nil => exact absurd (String.toList_eq_nil_iff.mp chars) given
    | cons c cs =>
      have other : isColon c = false := by
        rw [chars] at whole
        exact beq_false_of_ne fun colon => whole (colon ▸ List.mem_cons_self)
      rw [List.dropWhile_cons_of_pos rfl, List.cons_append, List.dropWhile_cons, other]
      rfl
  rw [passed, ofHost_parts whole]

/-- No part of a device can be taken for the whole of it. -/
theorem ofHost_ne_ofParts {front rest : List Char} (given : device ≠ "")
    (shorter : (splitColon rest).2.length < device.toList.length) :
    ofHost front rest ≠ ofParts host port device := by
  intro same
  simp only [ofHost, ofParts, if_neg given, Source.relay.injEq] at same
  obtain ⟨-, -, same⟩ := same
  split at same
  · contradiction
  · rw [← Option.some.inj same, String.toList_ofList] at shorter
    exact Nat.lt_irrefl _ shorter

theorem splitColon_behind_colons {cs : List Char} (filled : cs ≠ []) :
    (splitColon (cs.dropWhile isColon)).2.length < cs.length := by
  by_cases only : cs.dropWhile isColon = []
  · rw [only]
    exact List.length_pos_iff.mpr filled
  · exact Nat.lt_of_lt_of_le (splitColon_shorter only) (List.dropWhile_sublist isColon).length_le

end Read

/-- **The parts of a source are read back.** Without brackets they always are, if the host is one
that may stand there. In brackets they are unless there is a device behind an empty port: then
port and device are read from what the device has behind its leading colons. -/
theorem parts_read_back_iff {host port device : String} (unclosed : ']' ∉ host.toList)
    (whole : ':' ∉ port.toList) :
    (ofArgument (some (bracketed host port device)) = ofParts host port device ↔
      port ≠ "" ∨ device = "") ∧
      ofArgument (some (bracketed host "" device)) =
        ofHost host.toList (device.toList.dropWhile isColon) ∧
      (':' ∉ host.toList → host.toList.head? ≠ some '[' → ¬ "/dev".toList <+: host.toList →
        ofArgument (some (joined host port device)) = ofParts host port device) := by
  refine ⟨?_, read_bracketed_portless unclosed, fun unsplit unopened remote => ?_⟩
  · by_cases given : port = ""
    · subst given
      rw [read_bracketed_portless unclosed]
      by_cases bare : device = ""
      · subst bare
        have parts : ofHost host.toList [] = ofParts (String.ofList host.toList) "" "" :=
          ofHost_toList rfl
        rw [String.ofList_toList] at parts
        simp [parts]
      · have filled : device.toList ≠ [] := mt String.toList_eq_nil_iff.mp bare
        simp [ofHost_ne_ofParts bare (splitColon_behind_colons filled), bare]
    · simp [read_bracketed_port unclosed whole given, given]
  · rw [read_joined unsplit unopened remote, ofHost_parts whole]

/-- A device with a colon in its name, either way. -/
theorem parts_read_back_of_device :
    let host := "gps"
    let port := "2948"
    let device := "/dev/a:b"
    ']' ∉ host.toList ∧ ':' ∉ port.toList ∧ port ≠ "" ∧ ':' ∉ host.toList ∧
      host.toList.head? ≠ some '[' ∧ ¬ "/dev".toList <+: host.toList ∧
      bracketed host port device = "[gps]:2948:/dev/a:b" ∧
      ofArgument (some "[gps]:2948:/dev/a:b") = .relay "gps" "2948" (some "/dev/a:b") ∧
      ofArgument (some "gps:2948:/dev/a:b") = .relay "gps" "2948" (some "/dev/a:b") := by
  intro host port device
  have unclosed : ']' ∉ host.toList := by decide
  have whole : ':' ∉ port.toList := by decide
  have unsplit : ':' ∉ host.toList := by decide
  have unopened : host.toList.head? ≠ some '[' := by decide
  have remote : ¬ "/dev".toList <+: host.toList := by decide
  have given : port ≠ "" := by decide
  obtain ⟨closed, -, plain⟩ := @parts_read_back_iff host port device unclosed whole
  have shown : bracketed host port device = "[gps]:2948:/dev/a:b" := by decide
  have shown' : joined host port device = "gps:2948:/dev/a:b" := by decide
  rw [shown, shown'] at *
  exact ⟨unclosed, whole, given, unsplit, unopened, remote, rfl, closed.mpr (.inl given),
    plain unsplit unopened remote⟩

/-- The device is taken for the port. -/
theorem parts_shifted_without_port :
    let source := bracketed "::1" "" "/dev/ttyS0"
    source = "[::1]::/dev/ttyS0" ∧ ofArgument (some source) = .relay "::1" "/dev/ttyS0" none ∧
      ofArgument (some source) ≠ ofParts "::1" "" "/dev/ttyS0" := by
  decide

end GnssMonitor.Source
