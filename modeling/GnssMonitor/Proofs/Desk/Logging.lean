import GnssMonitor.Desk
import GnssMonitor.Proofs.Act

/-! What goes into the log shows nowhere else. -/

namespace GnssMonitor.Desk

open Act (Obeys)

def OnlyLogs (d : Desk) (es : List Effect) (d' : Desk) : Prop :=
  (∃ log, d' = { d with log }) ∧ es = []

instance : Act.Composes OnlyLogs where
  nothing d := ⟨⟨d.log, rfl⟩, rfl⟩
  next := by
    rintro d _ _ _ _ ⟨⟨_, rfl⟩, rfl⟩ ⟨⟨_, rfl⟩, rfl⟩
    exact ⟨⟨_, rfl⟩, rfl⟩

theorem onLog_logs {α : Type} (f : Logbook → Except Fault α × Logbook) (d : Desk) :
    Obeys OnlyLogs d (onLog f) :=
  ⟨⟨_, rfl⟩, rfl⟩

theorem writeLog_logs (bs : Bytes) (d : Desk) : Obeys OnlyLogs d (writeLog bs) := onLog_logs _ d

theorem closeLog_logs (d : Desk) : Obeys OnlyLogs d closeLog := onLog_logs _ d

theorem logRaw_logs (bs : Bytes) (d : Desk) : Obeys OnlyLogs d (logRaw bs) := by
  unfold logRaw
  split
  · exact Act.obeys_pure ()
  · exact writeLog_logs bs d

theorem openLog_logs (path : String) (mode : OpenMode) (d : Desk) :
    Obeys OnlyLogs d (openLog path mode) := by
  refine (closeLog_logs d).bind fun _ _ => Act.obeys_ite (fun _ => Act.obeys_throw _) fun _ => ?_
  exact onLog_logs _ _

end GnssMonitor.Desk
