import GnssMonitor.Proofs.Desk.Heedless

/-! What an operator's command does has nothing to do with signals. -/

namespace GnssMonitor.Monitor

open Act (Blind)

/-- The monitor, as if a signal had come or not. -/
def withSignal (b : Bool) (m : Monitor) : Monitor := (m.session, m.desk.withSignal b)

/-- Whether a signal has come makes no difference. -/
abbrev Heedless (b : Bool) {α : Type} (x : Do α) : Prop := Blind (withSignal b) x

variable {b : Bool} {α : Type}

theorem onSession_heedless (x : Session.Do α) : Heedless b (onSession x) := fun _ => rfl

theorem onDesk_heedless {x : Desk.Do α} (heedless : Desk.Heedless b x) : Heedless b (onDesk x) := by
  intro m
  have same : x (m.desk.withSignal b) = _ := heedless m.desk
  show onDesk x (m.session, m.desk.withSignal b) = _
  unfold onDesk
  rw [Act.within_apply]
  simp only [same]
  rfl

theorem complain_heedless (text : String) : Heedless b (complain text) :=
  onDesk_heedless (Desk.complain_heedless text)

theorem announce_heedless (text : String) : Heedless b (announce text) :=
  onDesk_heedless (Desk.onLog_heedless _)

theorem modifyDesk_heedless {f : Desk → Desk}
    (same : ∀ d, f (d.withSignal b) = (f d).withSignal b) :
    Heedless b (modifyDesk f) :=
  Act.blind_modify fun m => congrArg (Prod.mk m.1) (same m.2)

theorem permit_heedless (missing : Option String) : Heedless b (permit missing) := by
  refine Act.blind_get_bind (fun _ => rfl) fun m => ?_
  have gate : Heedless b (do
      if m.session.source.isSerial then return true
      complain "Only available in low-level mode."
      return false) := by
    refine Act.blind_ite (Act.blind_pure true) ?_
    exact (complain_heedless _).bind fun _ => Act.blind_pure false
  cases missing with
  | none => exact gate
  | some text =>
    refine Act.blind_ite ?_ gate
    exact (complain_heedless text).bind fun _ => Act.blind_pure false

theorem chosen_heedless (c : Capability) (what : String) : Heedless b (chosen c what) := by
  refine Act.blind_get_bind (fun _ => rfl) fun m => Act.blind_ite (Act.blind_pure _) ?_
  exact (complain_heedless _).bind fun _ => Act.blind_pure none

theorem settle_heedless : Heedless b settle :=
  (onSession_heedless _).bind fun _ => Act.blind_emit _

/-- What is done once a command is permitted. -/
theorem permitted_heedless {missing : Option String} {x : Do Unit} (heedless : Heedless b x) :
    Heedless b (do
      if !(← permit missing) then return
      x) :=
  (permit_heedless missing).bind fun _ => Act.blind_ite (Act.blind_pure ()) heedless

/-- What is done with what a command needs, unless it is lacking. -/
theorem given_heedless {x : Do (Option α)} {f : Option α → Do Unit} (asked : Heedless b x)
    (lacking : f none = pure ()) (given : ∀ a, Heedless b (f (some a))) :
    Heedless b (x >>= f) := by
  refine asked.bind fun answer => ?_
  cases answer with
  | none => exact lacking ▸ Act.blind_pure ()
  | some a => exact given a

theorem changeRate_heedless (arg : String) : Heedless b (changeRate arg) := by
  refine permitted_heedless ?_
  cases (Text.readNumber arg.toList).filter (·.isFinite) with
  | none => exact complain_heedless _
  | some rate =>
    refine given_heedless (chosen_heedless _ _) rfl fun r => ?_
    refine (onSession_heedless _).bind fun taken => ?_
    exact Act.blind_ite (announce_heedless _) (complain_heedless _)

theorem toggleProbing_heedless (arg : String) : Heedless b (toggleProbing arg) := by
  refine permitted_heedless (Act.blind_get_bind (fun _ => rfl) fun m => ?_)
  refine (onSession_heedless _).bind fun _ => (announce_heedless _).bind fun _ => ?_
  exact Act.blind_ite (onSession_heedless _) (Act.blind_pure ())

theorem openLog_heedless (arg : String) : Heedless b (openLog arg) := by
  refine (onDesk_heedless (Desk.onLog_heedless _)).bind fun _ => ?_
  refine Act.blind_ite (Act.blind_pure ()) ?_
  refine (onDesk_heedless (Desk.openLog_heedless _ _)).bind fun opened => ?_
  exact Act.blind_ite (complain_heedless _) (Act.blind_pure ())

theorem changeMode_heedless (arg : String) : Heedless b (changeMode arg) := by
  refine Act.blind_get_bind (fun _ => rfl) fun m => permitted_heedless ?_
  refine given_heedless (chosen_heedless _ _) rfl fun r => ?_
  refine (announce_heedless _).bind fun _ => (onSession_heedless _).bind fun taken => ?_
  refine Act.blind_ite (settle_heedless.bind fun _ => ?_) (complain_heedless _)
  exact Act.blind_ite (modifyDesk_heedless fun _ => rfl) (Act.blind_pure ())

theorem changeSpeed_heedless (arg : String) : Heedless b (changeSpeed arg) := by
  refine permitted_heedless (Act.blind_get_bind (fun _ => rfl) fun m => ?_)
  cases readLine m.session.line arg.toList with
  | error text => exact complain_heedless text
  | ok line =>
    refine (Act.blind_lift _).bind fun line => ?_
    refine given_heedless (chosen_heedless _ _) rfl fun r => ?_
    refine (onSession_heedless _).bind fun taken => Act.blind_ite ?_ (complain_heedless _)
    refine (announce_heedless _).bind fun _ => settle_heedless.bind fun _ => ?_
    exact onSession_heedless _

theorem forceReceiver_heedless (arg : String) : Heedless b (forceReceiver arg) := by
  refine permitted_heedless (Act.blind_ite (Act.blind_pure ()) ?_)
  split
  · exact complain_heedless _
  · rename_i r _
    refine Act.blind_get_bind (fun _ => rfl) fun m => ?_
    refine (onDesk_heedless (Desk.switchTo_heedless r _)).bind fun changed => ?_
    refine Act.blind_ite ((onSession_heedless _).bind fun _ => ?_) (Act.blind_pure ())
    exact modifyDesk_heedless fun _ => rfl
  · exact complain_heedless _

theorem hexArgument_heedless (arg : String) : Heedless b (hexArgument arg) := by
  unfold hexArgument
  cases Hex.read arg with
  | ok payload => exact Act.blind_pure _
  | error e => exact (complain_heedless _).bind fun _ => Act.blind_pure none

theorem sendControl_heedless (arg : String) : Heedless b (sendControl arg) := by
  refine permitted_heedless (given_heedless (hexArgument_heedless arg) rfl fun payload => ?_)
  refine Act.blind_get_bind (fun _ => rfl) fun m => ?_
  dsimp only
  cases m.session.device.filter (·.has .control) with
  | none => exact complain_heedless _
  | some r =>
    refine (onSession_heedless _).bind fun n => ?_
    exact Act.blind_ite (complain_heedless _) (Act.blind_pure ())

theorem sendRaw_heedless (arg : String) : Heedless b (sendRaw arg) := by
  refine permitted_heedless (given_heedless (hexArgument_heedless arg) rfl fun payload => ?_)
  refine (onSession_heedless _).bind fun n => ?_
  exact Act.blind_ite (complain_heedless _) (Act.blind_pure ())

theorem perform_heedless (c : Command) : Heedless b (perform c) := by
  have proceeds : ∀ {x : Do Unit}, Heedless b x →
      Heedless b (do x; return CommandResult.proceed) :=
    fun heedless => heedless.bind fun _ => Act.blind_pure _
  unfold perform
  split
  · exact proceeds (changeRate_heedless _)
  · exact proceeds (toggleProbing_heedless _)
  · exact proceeds (openLog_heedless _)
  · exact proceeds (changeMode_heedless _)
  · exact Act.blind_pure _
  · exact proceeds (changeSpeed_heedless _)
  · exact proceeds (forceReceiver_heedless _)
  · exact proceeds (sendControl_heedless _)
  · exact proceeds (sendRaw_heedless _)
  · exact proceeds (complain_heedless _)

theorem sendSentences_heedless (sentences : List String) :
    Heedless b (sendSentences sentences) := by
  induction sentences with
  | nil => exact Act.blind_pure ()
  | cons sentence rest ih => exact (onSession_heedless _).bind fun _ => ih

theorem setUpAshtech_heedless (speedCode : Nat) (extra : List String) :
    Heedless b (setUpAshtech speedCode extra) := by
  refine (sendSentences_heedless _).bind fun _ => (sendSentences_heedless _).bind fun _ => ?_
  refine (Act.blind_emit _).bind fun _ => (sendSentences_heedless _).bind fun _ => ?_
  exact sendSentences_heedless extra

theorem tryPrivately_heedless (h : Handler) (line : List Char) :
    Heedless b (tryPrivately h line) := by
  unfold tryPrivately
  split
  · unfold ashtechCommand
    split
    · exact (setUpAshtech_heedless _ _).bind fun _ => Act.blind_pure _
    · exact (setUpAshtech_heedless _ _).bind fun _ => Act.blind_pure _
    · exact Act.blind_pure _
  · exact Act.blind_pure _
  · exact Act.blind_pure _

theorem privateCommand_heedless (line : List Char) : Heedless b (privateCommand line) := by
  refine Act.blind_get_bind (fun _ => rfl) fun m => ?_
  cases m.desk.active with
  | none => exact Act.blind_pure _
  | some h =>
    refine Act.blind_ite ?_ (tryPrivately_heedless h line)
    exact (Act.blind_emit _).bind fun _ => tryPrivately_heedless h line

/-- No command looks at whether a signal has come. -/
theorem execute_heedless (line : String) : Heedless b (execute line) := by
  unfold execute
  cases Command.read? line with
  | none => exact Act.blind_pure _
  | some c =>
    refine Act.Blind.caught ?_ fun e => ?_
    · refine (privateCommand_heedless _).bind fun status => ?_
      cases status with
      | terminate | matched => exact Act.blind_pure _
      | unknown => exact perform_heedless c
    · refine Act.blind_ite ?_ (Act.blind_throw e)
      exact (complain_heedless _).bind fun _ => Act.blind_pure _

end GnssMonitor.Monitor
