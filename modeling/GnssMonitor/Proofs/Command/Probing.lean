import GnssMonitor.Proofs.Command.Survival
import GnssMonitor.Proofs.Session.Framed

/-! What commands do to probing: one of them turns it on and off, the others leave it alone. -/

namespace GnssMonitor.Monitor

open Act (Obeys)
open Session (Kept)

/-- The framer stays as it is, and so does whether asking is allowed. -/
def LeavesProbing (m : Monitor) (_ : List Effect) (m' : Monitor) : Prop :=
  m'.session.framer = m.session.framer ∧ Kept m.session m'.session

instance : Act.Composes LeavesProbing where
  nothing _ := ⟨rfl, rfl, rfl, id⟩
  next := by
    rintro m m' m'' _ _ ⟨framer, kept⟩ ⟨framer', kept'⟩
    exact ⟨framer'.trans framer, kept.trans kept'⟩

theorem leaves_of_desk {s : Session} {d d' : Desk} {es : List Effect} :
    LeavesProbing (s, d) es (s, d') := ⟨rfl, rfl, rfl, id⟩

theorem permits_leaves : Permits (· ≠ 'i') LeavesProbing where
  complains _ _ _ := leaves_of_desk
  notes _ _ _ := leaves_of_desk
  logs _ _ _ _ := leaves_of_desk
  sends _ _ _ _ := leaves_of_desk
  settles _ _ := leaves_of_desk
  reboots _ := leaves_of_desk
  hooks _ _ _ := leaves_of_desk
  probes _ _ _ _ verb := absurd rfl verb
  recounts _ _ _ verb := absurd rfl verb
  remembers _ _ _ _ := leaves_of_desk
  relines m line _ _ := by
    obtain ⟨_, _, relined⟩ := setLine_state line m
    unfold Obeys
    rw [relined]
    exact ⟨rfl, rfl, rfl, id⟩
  switches _ _ _ _ _ := leaves_of_desk
  forces _ _ _ _ _ _ := ⟨rfl, rfl, rfl, fun _ => rfl⟩
  forgets _ _ _ := leaves_of_desk

/-- Commands but one leave probing as it is. -/
theorem execute_leaves {line : String} (other : ∀ c ∈ Command.read? line, c.verb ≠ 'i')
    (m : Monitor) : LeavesProbing m (execute line m).effects (execute line m).state :=
  execute_obeys permits_leaves other m

/-- Probing may be turned on and off. -/
def Probeable (s : Session) : Prop := s.device.isSome = true ∧ s.source.isSerial = true

/-- What comes of turning probing on or off. Once it is on, the next packet counts as the first,
unless the note of it could not be logged. -/
inductive Toggled (s : Session) : Except Fault Unit → Session → Prop
  | refused (h : ¬ Probeable s) : Toggled s (.ok ()) s
  | off (h : Probeable s) : Toggled s (.ok ()) { s with readonly := true }
  | on (h : Probeable s) : Toggled s (.ok ()) { s with readonly := false, framer.count := 0 }
  | unnoted (h : Probeable s) (readonly : Bool) (e : Fault) :
      Toggled s (.error e) { s with readonly }

theorem permit_value (text : String) (m : Monitor) :
    ∃ allowed, (permit (some text) m).value = .ok allowed ∧
      (allowed = true ↔ Probeable m.session) := by
  unfold permit Probeable
  simp only [Act.get_bind]
  cases m.session.device with
  | none => exact ⟨false, rfl, by simp⟩
  | some r =>
    cases m.session.source.isSerial with
    | true => exact ⟨true, rfl, by simp⟩
    | false => exact ⟨false, rfl, by simp⟩

theorem toggleProbing_toggles (arg : String) (m : Monitor) :
    Toggled m.session (toggleProbing arg m).value (toggleProbing arg m).state.session := by
  obtain ⟨s, d⟩ := m
  have toggled (h : Probeable s) (readonly : Bool) (text : String) :
      let r := (do
        onSession (modify fun s => { s with readonly })
        announce text
        if !readonly then onSession (modify fun s => { s with framer.count := 0 }) : Do Unit) (s, d)
      Toggled s r.value r.state.session := by
    intro r
    have begins : r = (announce text >>= fun _ =>
        if !readonly then onSession (modify fun s => { s with framer.count := 0 })
        else pure () : Do Unit) ({ s with readonly }, d) := rfl
    rw [begins]
    cases noted : (announce text ({ s with readonly }, d)).value with
    | error e =>
      rw [Act.bind_error noted]
      exact .unnoted h readonly e
    | ok u =>
      rw [Act.bind_ok noted]
      cases readonly with
      | true => exact .off h
      | false => exact .on h
  obtain ⟨allowed, permitted, allows⟩ := permit_value "No GPS type detected." (s, d)
  unfold toggleProbing
  rw [Act.bind_ok permitted, permit_state]
  cases allowed with
  | false =>
    exact .refused fun h => by simpa using allows.mpr h
  | true => exact toggled (allows.mp rfl) _ _

/-- The line is put down with a fault. -/
def fails (line : String) (m : Monitor) : Bool :=
  match Command.read? line with
  | none => false
  | some c =>
    match (dispatch c (Command.withoutLineEnd line.toList) m).value with
    | .ok _ => false
    | .error _ => true

theorem execute_state {line : String} {c : Command} (read : Command.read? line = some c)
    (m : Monitor) : (execute line m).state.session =
      (dispatch c (Command.withoutLineEnd line.toList) m).state.session := by
  unfold execute
  rw [read]
  dsimp only
  cases dispatched : (dispatch c (Command.withoutLineEnd line.toList) m).value with
  | ok result => rw [Act.tryCatch_ok dispatched]
  | error e =>
    rw [Act.tryCatch_error dispatched, recover]
    split <;> rfl

/-- What the command does that turns probing on and off. -/
theorem execute_toggles {m : Monitor} (builtIn : ∀ h ∈ m.desk.active, h ∈ Registry.builtIn)
    {line : String} {c : Command} (read : Command.read? line = some c) (verb : c.verb = 'i') :
    ∃ answer, Toggled m.session answer (execute line m).state.session ∧
      (fails line m = true ↔ ∃ e, answer = .error e) := by
  obtain ⟨_, argument⟩ := c
  obtain rfl := verb
  obtain ⟨rest, typed⟩ := read?_line read
  have other : ('i' :: rest).head? ≠ some 'N' ∧ ('i' :: rest).head? ≠ some 'R' := by simp
  obtain ⟨es, passed⟩ := privateCommand_other builtIn other
  have toggled := toggleProbing_toggles argument m
  have dispatched : dispatch ⟨'i', argument⟩ ('i' :: rest) m =
      let r := (toggleProbing argument >>= fun _ => pure .proceed : Do CommandResult) m
      ⟨r.value, r.state, es ++ r.effects⟩ := by
    unfold dispatch
    rw [Act.bind_ok (by rw [passed]), passed]
    rfl
  refine ⟨(toggleProbing argument m).value, ?_, ?_⟩
  · rw [execute_state read, typed, dispatched]
    cases answered : (toggleProbing argument m).value with
    | ok u =>
      rw [Act.bind_ok answered, ← answered]
      exact toggled
    | error e =>
      rw [Act.bind_error answered, ← answered]
      exact toggled
  · unfold fails
    rw [read]
    dsimp only
    rw [typed, dispatched]
    cases answered : (toggleProbing argument m).value with
    | ok u => simp [Act.bind_ok answered]
    | error e => simp [Act.bind_error answered]

end GnssMonitor.Monitor
