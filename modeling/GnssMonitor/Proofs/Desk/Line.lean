import GnssMonitor.Proofs.Desk.Reporting

/-! The desk has no hand on the line: whatever it shows, logs and tracks, nothing is done to the
endpoint. -/

namespace GnssMonitor

/-- What is done to the line, if the effect is anything of that. -/
def Effect.line? : Effect → Option LineEffect
  | .line e => some e
  | _ => none

/-- What is done to the line, in order. -/
def onLine (es : List Effect) : List LineEffect := es.filterMap Effect.line?

@[simp] theorem onLine_nil : onLine [] = [] := rfl

@[simp] theorem onLine_append (es es' : List Effect) :
    onLine (es ++ es') = onLine es ++ onLine es' := List.filterMap_append

@[simp] theorem onLine_map_line (es : List LineEffect) : onLine (es.map .line) = es := by
  induction es with
  | nil => rfl
  | cons e es ih =>
    have cut : onLine ((e :: es).map .line) = e :: onLine (es.map .line) := rfl
    rw [cut, ih]

theorem onLine_eq_nil {es : List Effect} : onLine es = [] ↔ ∀ e ∈ es, e.line? = none :=
  List.filterMap_eq_nil_iff

namespace Desk

open Act (Obeys)

/-- Nothing is done to the line. -/
def KeepsOff (_ : Desk) (es : List Effect) (_ : Desk) : Prop := onLine es = []

instance : Act.Composes KeepsOff where
  nothing _ := rfl
  next := by
    intro d d' d'' es es' off off'
    unfold KeepsOff
    rw [onLine_append, off, off', List.append_nil]

theorem OnlyLogs.keepsOff {d d' : Desk} {es : List Effect} (h : OnlyLogs d es d') :
    KeepsOff d es d' := by
  rw [h.2]
  exact rfl

theorem OnlySwitches.keepsOff {r : Receiver} {d d' : Desk} {es : List Effect}
    (h : OnlySwitches r d es d') : KeepsOff d es d' := by
  apply onLine_eq_nil.mpr
  intro e he
  cases h.2 e he with
  | shown shown => cases e <;> simp_all [Effect.line?, isShown]
  | notStarted | noRoom | unmatched => rfl

theorem reports_keepsOff : Reports KeepsOff where
  appends _ _ := rfl
  complains _ _ _ := rfl
  logs h := h.keepsOff
  tracks _ _ := rfl

theorem takePacket_keepsOff (s : Session) (d : Desk) : Obeys KeepsOff d (takePacket s) := by
  apply takePacket_obeys reports_keepsOff
  · exact (select_switches s d).keepsOff
  · intro _
    exact rfl

end Desk
end GnssMonitor
