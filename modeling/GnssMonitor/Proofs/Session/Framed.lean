import GnssMonitor.Proofs.Desk.Line
import GnssMonitor.Proofs.Session.Hooks
import GnssMonitor.Proofs.Session.Probing

/-! The packets of one intake: how they are numbered, and that nothing is written but what is
asked after each of them. -/

namespace GnssMonitor

namespace Framer

/-- Each framer has taken one packet more than the one before it. -/
def CountOn (count : Int) : List Framer → Prop
  | [] => True
  | f :: rest => f.count = count + 1 ∧ CountOn (count + 1) rest

theorem next_count {f f' : Framer} (h : f.next = (true, f')) : f'.count = f.count + 1 := by
  unfold next at h
  split at h
  · simp only [Prod.mk.injEq, true_and] at h
    rw [← h]
  · simp at h

theorem next_end {f f' : Framer} (h : f.next = (false, f')) : f'.count = f.count := by
  unfold next at h
  split at h
  · simp at h
  · simp only [Prod.mk.injEq, true_and] at h
    rw [← h]

theorem run_count (fuel : Nat) (f : Framer) : CountOn f.count (run fuel f).1 ∧
    (run fuel f).2.count = f.count + (run fuel f).1.length := by
  induction fuel generalizing f with
  | zero => simp [run, CountOn]
  | succ fuel ih =>
    unfold run
    rcases taken : f.next with ⟨_ | _, f'⟩
    · have same := next_end taken
      simp [CountOn, same]
    · obtain ⟨counted, final⟩ := ih f'
      have step := next_count taken
      rw [step] at counted final
      refine ⟨⟨step, counted⟩, ?_⟩
      simp only [List.length_cons]
      omega

/-- The packets that are framed count on from those framed before. -/
theorem drain_count (f : Framer) : CountOn f.count f.drain.1 ∧
    f.drain.2.count = f.count + f.drain.1.length := run_count _ f

end Framer

namespace Session

theorem identify_isSome {current : Option Receiver} (known : current.isSome) (p : Packet) :
    (identify current p).isSome := by
  obtain ⟨kind, bs⟩ := p
  cases kind with
  | sirf | json | nmea => rfl
  | bad => exact known

/-- What an intake leaves of the session as it was. -/
structure Kept (s s' : Session) : Prop where
  source : s'.source = s.source
  readonly : s'.readonly = s.readonly
  device : s.device.isSome → s'.device.isSome

theorem Kept.trans {s s' s'' : Session} (h : Kept s s') (h' : Kept s' s'') : Kept s s'' where
  source := h'.source.trans h.source
  readonly := h'.readonly.trans h.readonly
  device known := h'.device (h.device known)

theorem accept_kept (s : Session) : Kept s (accept s).state := by
  obtain ⟨_, _, _, _, said⟩ := accept_state s
  rw [said]
  exact ⟨rfl, rfl, fun known => identify_isSome known _⟩

theorem accept_device (s : Session) :
    (accept s).state.device = identify s.device s.framer.last := by
  obtain ⟨_, _, _, _, said⟩ := accept_state s
  rw [said]

theorem accept_framer (s : Session) : (accept s).state.framer = s.framer := by
  obtain ⟨_, _, _, _, said⟩ := accept_state s
  rw [said]

variable {τ : Type}

/-- The packets that have been framed one after the other, each with what the hook was called
with. -/
structure Framed (s : Session) (cuts : List Framer) (calls : List (Session × τ)) (s' : Session) :
    Prop where
  kept : Kept s s'
  cut : calls.map (·.1.framer) = cuts
  policy : ∀ call ∈ calls, call.1.readonly = s.readonly

theorem Framed.nil (s : Session) : Framed s [] ([] : List (Session × τ)) s where
  kept := ⟨rfl, rfl, id⟩
  cut := rfl
  policy := by simp

/-- One packet before the others. -/
theorem Framed.cons {s s₁ s' : Session} {cut : Framer} {rest : List Framer}
    {calls : List (Session × τ)} (kept : Kept s s₁) (framer : s₁.framer = cut) (t : τ)
    (framed : Framed s₁ rest calls s') : Framed s (cut :: rest) ((s₁, t) :: calls) s' where
  kept := kept.trans framed.kept
  cut := by rw [List.map_cons, framed.cut, framer]
  policy := by
    rintro call (_ | ⟨_, later⟩)
    · exact kept.readonly
    · exact (framed.policy call later).trans kept.readonly

/-- Nothing is written but what is asked after the packets. -/
theorem takeInAll_framed {hook : Session → Act Effect τ Unit}
    (quiet : ∀ s t, onLine (hook s t).effects = []) {cuts : List Framer} {s : Session} {t : τ}
    {calls : List (Session × τ)} (present : s.endpoint.isSome)
    (answered : (takeInAll .line (recording hook) cuts (s, t, calls)).value = .ok ()) :
    ∃ s' t' new, (takeInAll .line (recording hook) cuts (s, t, calls)).state =
        (s', t', calls ++ new) ∧ Framed s cuts new s' ∧
      onLine (takeInAll .line (recording hook) cuts (s, t, calls)).effects =
        new.flatMap (·.1.asked) := by
  induction cuts generalizing s t calls with
  | nil =>
    refine ⟨s, t, [], ?_, .nil s, rfl⟩
    rw [List.append_nil]
    rfl
  | cons cut rest ih =>
    rw [takeInAll] at answered ⊢
    obtain ⟨_, stepped, answered⟩ := Act.bind_value_ok.mp answered
    rw [Act.bind_ok stepped]
    rcases accepted : accept { s with framer := cut } with ⟨e | ⟨⟩, s₁, es⟩
    · rw [takeIn_upset Effect.line (t, calls) accepted] at stepped
      contradiction
    · have kept := accept_kept { s with framer := cut }
      have framer := accept_framer { s with framer := cut }
      have there := accept_endpoint { s with framer := cut }
      have asked := accept_asks (s := { s with framer := cut }) present accepted
      rw [accepted] at kept framer there
      have kept : Kept s s₁ := ⟨kept.source, kept.readonly, kept.device⟩
      have present' : s₁.endpoint.isSome := by
        rw [show s₁.endpoint = s.endpoint from there]
        exact present
      rw [takeIn_calm Effect.line (recording hook) (t, calls) accepted] at answered ⊢
      obtain ⟨s', t', new, ended, framed, written⟩ := ih present' answered
      refine ⟨s', t', (s₁, t) :: new, ?_, .cons kept framer t framed, ?_⟩
      · rw [List.append_cons]
        exact ended
      · have silent : onLine (recording hook s₁ (t, calls)).effects = [] := quiet s₁ t
        rw [onLine_append, onLine_append, onLine_map_line, silent, List.append_nil, asked,
          List.flatMap_cons]
        exact congrArg _ written

/-- What comes of an intake that nothing stops, given what the hook was called with. -/
structure Heard (s : Session) (calls : List (Session × τ)) (s' : Session) (es : List Effect) :
    Prop where
  kept : Kept s s'
  policy : ∀ call ∈ calls, call.1.readonly = s.readonly
  counted : Framer.CountOn s.framer.count (calls.map (·.1.framer))
  total : s'.framer.count = s.framer.count + calls.length
  written : onLine es = calls.flatMap (·.1.asked)

theorem takeInBytes_heard {hook : Session → Act Effect τ Unit}
    (quiet : ∀ s t, onLine (hook s t).effects = []) {s : Session} {t : τ} {bs : Bytes}
    (present : s.endpoint.isSome)
    (answered : (takeInBytes .line (recording hook) bs (s, t, [])).value = .ok ()) :
    let r := takeInBytes .line (recording hook) bs (s, t, [])
    Heard s r.state.2.2 r.state.1 r.effects := by
  intro r
  obtain ⟨counted, total⟩ := (s.framer.feed bs).drain_count
  rw [takeInBytes_apply] at answered
  obtain ⟨_, taken, _⟩ := Act.bind_value_ok.mp answered
  obtain ⟨s', t', new, ended, framed, written⟩ := takeInAll_framed quiet present taken
  have made : r = ⟨.ok (), ({ s' with framer := (s.framer.feed bs).drain.2 }, t', new),
      (takeInAll .line (recording hook) (s.framer.feed bs).drain.1 (s, t, [])).effects⟩ := by
    refine (takeInBytes_apply ..).trans ?_
    rw [Act.bind_ok taken, ended]
    simp [onSession]
  rw [made]
  have number : new.length = (s.framer.feed bs).drain.1.length := by
    rw [← framed.cut, List.length_map]
  refine ⟨⟨framed.kept.source, framed.kept.readonly, framed.kept.device⟩, framed.policy, ?_, ?_,
    written⟩
  · rw [framed.cut]
    exact counted
  · rw [number]
    exact total

theorem intake_heard {hook : Session → Act Effect τ Unit}
    (quiet : ∀ s t, onLine (hook s t).effects = []) {s : Session} {t : τ} {status : IntakeStatus}
    (answered : (intake .line (recording hook) (s, t, [])).value = .ok status) :
    let r := intake .line (recording hook) (s, t, [])
    Heard s r.state.2.2 r.state.1 r.effects := by
  intro r
  cases present : s.endpoint with
  | none => simp [intake, present] at answered
  | some e =>
    have made : r = _ := intake_apply Effect.line present
    rw [intake_apply Effect.line present] at answered
    rw [made]
    have unread : Heard s ([] : List (Session × τ)) { s with endpoint := some e.receive.2 } [] :=
      ⟨⟨rfl, rfl, id⟩, by simp, trivial, by simp, rfl⟩
    rcases data : e.receive.1 with _ | _ | ⟨b, bs⟩
    · exact unread
    · exact unread
    · simp only [data] at answered
      obtain ⟨_, taken, _⟩ := Act.bind_value_ok.mp answered
      have heard := takeInBytes_heard quiet (s := { s with endpoint := some e.receive.2 }) rfl taken
      simp only [Act.bind_ok taken, Act.pure_apply, List.append_nil]
      exact ⟨⟨heard.kept.source, heard.kept.readonly, heard.kept.device⟩, heard.policy,
        heard.counted, heard.total, heard.written⟩

end Session
end GnssMonitor
