import GnssMonitor.Proofs.Framing.Scan
import GnssMonitor.Proofs.Session.Intake

/-! What the hook of an intake is called with, and what can be said of a whole intake once it is
known of each packet. -/

namespace GnssMonitor.Session

open Act (Obeys Composes Mirrors)

variable {ε τ : Type} (embed : LineEffect → ε) (hook : Session → Act ε τ Unit)

/-- The hook, with a list of what it has been called with. -/
def recording (s : Session) : Act ε (τ × List (Session × τ)) Unit := fun w =>
  ⟨(hook s w.1).value, ((hook s w.1).state, w.2 ++ [(s, w.1)]), (hook s w.1).effects⟩

def withoutCalls (w : Session × τ × List (Session × τ)) : Session × τ := (w.1, w.2.1)

theorem takeInAll_recording (cuts : List Framer) (w : Session × τ × List (Session × τ)) :
    Mirrors withoutCalls w (takeInAll embed (recording hook) cuts)
      (takeInAll embed hook cuts) := by
  induction cuts generalizing w with
  | nil => rfl
  | cons f rest ih =>
    have taken : Mirrors withoutCalls w (takeIn embed (recording hook) f)
        (takeIn embed hook f) := by
      refine Mirrors.bind rfl fun _ => Mirrors.bind rfl fun _ => rfl
    exact taken.bind fun _ => ih _

/-- An intake goes the same way whether or not the calls are recorded. -/
theorem intake_recording (w : Session × τ × List (Session × τ)) :
    Mirrors withoutCalls w (intake embed (recording hook)) (intake embed hook) := by
  obtain ⟨s, t, calls⟩ := w
  cases present : s.endpoint with
  | none => simp [Mirrors, intake, withoutCalls, present]
  | some e =>
    unfold Mirrors
    rw [withoutCalls, intake_apply embed present, intake_apply embed present]
    obtain _ | _ | ⟨b, bs⟩ := e.receive.1
    · rfl
    · rfl
    · have taken : Mirrors withoutCalls ({ s with endpoint := some e.receive.2 }, t, calls)
          (takeInBytes embed (recording hook) (b :: bs)) (takeInBytes embed hook (b :: bs)) :=
        (takeInAll_recording embed hook _ _).bind fun _ => rfl
      exact taken.bind fun _ => rfl

theorem batch_genuine (s : Session) : ∀ p ∈ s.batch, p.Genuine := by
  cases present : s.endpoint with
  | none => simp [batch, present]
  | some e =>
    rcases data : e.receive.1 with _ | _ | ⟨b, bs⟩
    · simp [batch, arriving, present, data]
    · simp [batch, arriving, present, data]
    · rw [batch_of_read present data]
      exact Framer.packets_genuine _

section

variable {embed hook} {T : Session × τ → List ε → Session × τ → Prop} [Composes T]

theorem takeIn_obeys {f : Framer} {s : Session} {t : τ}
    (accepted : T (s, t) ((accept { s with framer := f }).effects.map embed)
      ((accept { s with framer := f }).state, t))
    (hooked : Obeys T ((accept { s with framer := f }).state, t) (runHook hook)) :
    Obeys T (s, t) (takeIn embed hook f) := by
  unfold Obeys at hooked ⊢
  match h : accept { s with framer := f } with
  | ⟨.ok (), s', es⟩ =>
    rw [h] at accepted hooked
    rw [runHook_apply] at hooked
    rw [takeIn_calm embed hook t h]
    exact Composes.next accepted hooked
  | ⟨.error e, s', es⟩ =>
    rw [h] at accepted
    rw [takeIn_upset embed t h]
    exact accepted

theorem takeInAll_obeys {cuts : List Framer}
    (each : ∀ f ∈ cuts, ∀ w, Obeys T w (takeIn embed hook f)) (w : Session × τ) :
    Obeys T w (takeInAll embed hook cuts) := by
  induction cuts generalizing w with
  | nil => exact Act.obeys_pure ()
  | cons f rest ih =>
    refine (each f List.mem_cons_self w).bind fun _ _ => ?_
    exact ih (fun g hg => each g (List.mem_cons_of_mem _ hg)) _

/-- What holds of reading the endpoint and of every packet that is read holds of an intake. -/
theorem intake_obeys {s : Session} {t : τ}
    (reads : ∀ s t e, s.endpoint = some e → T (s, t) [] ({ s with endpoint := e.receive.2 }, t))
    (reframes : ∀ s t framer, T (s, t) [] ({ s with framer }, t))
    (each : ∀ f : Framer, f.last ∈ s.batch → ∀ w, Obeys T w (takeIn embed hook f)) :
    Obeys T (s, t) (intake embed hook) := by
  cases present : s.endpoint with
  | none =>
    unfold Obeys
    simpa [intake, present] using Composes.nothing (s, t)
  | some e =>
    unfold Obeys
    rw [intake_apply embed present]
    rcases data : e.receive.1 with _ | _ | ⟨b, bs⟩
    · exact reads s t e present
    · exact reads s t e present
    · have batch : s.batch = (s.framer.feed (b :: bs)).packets := batch_of_read present data
      rw [batch] at each
      have taken : Obeys T ({ s with endpoint := some e.receive.2 }, t)
          (takeInBytes embed hook (b :: bs)) := by
        refine .get_bind ?_
        refine (takeInAll_obeys (fun f hf => each f (List.mem_map_of_mem hf)) _).bind fun _ _ => ?_
        exact reframes _ _ _
      exact Composes.next (reads s t e present) (taken.bind fun _ _ => Act.obeys_pure _)

end

end GnssMonitor.Session
