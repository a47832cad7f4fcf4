import GnssMonitor.Proofs.Session.Decoding
import GnssMonitor.Proofs.Session.Sending
import GnssMonitor.Session.Intake

/-! What an intake lives through: it answers unless one of the packets that it reads upsets
it. -/

namespace GnssMonitor

/-- The fault of the first packet that upsets the intake. -/
inductive Packet.FirstUpset : List Packet → Fault → Prop
  | here {p : Packet} {rest : List Packet} {f : Fault} (h : p.Upsets f) :
      FirstUpset (p :: rest) f
  | later {p : Packet} {rest : List Packet} {f : Fault} (calm : ∀ g, ¬ p.Upsets g)
      (h : FirstUpset rest f) : FirstUpset (p :: rest) f

namespace Endpoint

theorem gather_length (room : Nat) (queue : List Arrival) :
    (gather room queue).1.length ≤ room := by
  induction queue generalizing room with
  | nil => simp [gather]
  | cons a rest ih =>
    cases a with
    | ending => simp [gather]
    | bytes bs =>
      rw [gather]
      split
      · have more := ih (room - bs.length)
        simp only [List.length_append]
        omega
      · simp only [List.length_take]
        omega

/-- One read returns no more than so many bytes. -/
theorem receive_length {e : Endpoint} {bs : Bytes} (h : e.receive.1 = some bs) :
    bs.length ≤ readSize := by
  have bound := gather_length readSize e.queue
  unfold receive at h
  split at h
  · contradiction
  split at h
  · split at h <;> obtain rfl := Option.some.inj h
    · exact Nat.zero_le _
    · exact Nat.zero_le _
    · exact List.length_take_le ..
  · split at h
    · obtain rfl := Option.some.inj h
      simp
    · contradiction
    · rename_i gathered
      obtain rfl := Option.some.inj h
      rwa [gathered] at bound

end Endpoint

namespace Session

/-- The sender of the latest packet has been noted. -/
def identified (s : Session) : Session := { s with device := identify s.device s.framer.last }

/-- Whether the latest packet is followed by the probes. -/
def Asks (s : Session) : Prop := s.readonly = false ∧ s.framer.count = 1

instance (s : Session) : Decidable s.Asks :=
  inferInstanceAs (Decidable (s.readonly = false ∧ s.framer.count = 1))

variable {s s' : Session} {es : List LineEffect}

/-- With the sender noted, the packet is read, and the probes follow. -/
theorem accept_decodes (s : Session) : accept s = (decode s.framer.last >>= fun _ => do
    let s ← get
    if !s.readonly && s.framer.count == 1 then writeAll probes : Do Unit) s.identified := rfl

theorem accept_unread {e : Fault} (h : decode s.framer.last s.identified = ⟨.error e, s', es⟩) :
    accept s = ⟨.error e, s', []⟩ := by
  obtain ⟨_, _, _, _, _, quiet⟩ := decode_state s.framer.last s.identified
  rw [accept_decodes, Act.bind_error (by rw [h]), quiet, h]

/-- A packet that could be read is followed by the probes if it is the first. -/
theorem accept_read (h : decode s.framer.last s.identified = ⟨.ok (), s', es⟩) :
    accept s = if s'.Asks then writeAll probes s' else ⟨.ok (), s', []⟩ := by
  obtain ⟨_, _, _, _, _, quiet⟩ := decode_state s.framer.last s.identified
  rw [accept_decodes, Act.bind_ok (by rw [h]), quiet, h]
  simp only [Act.get_bind, List.nil_append]
  by_cases asks : s'.Asks
  · have allowed : (!s'.readonly && s'.framer.count == 1) = true := by simpa [Asks] using asks
    rw [if_pos asks, if_pos allowed]
  · have forbidden : ¬ (!s'.readonly && s'.framer.count == 1) = true := by
      simpa [Asks] using asks
    rw [if_neg asks, if_neg forbidden, Act.pure_apply]

/-- Who sent the packet, what it says and the time of the latest fix are all that changes. -/
theorem accept_state (s : Session) : ∃ fixTime sentence fields report,
    (accept s).state =
      { s with device := identify s.device s.framer.last, fixTime, sentence, fields, report } := by
  obtain ⟨fixTime, sentence, fields, report, said, -⟩ := decode_state s.framer.last s.identified
  refine ⟨fixTime, sentence, fields, report, ?_⟩
  match decoded : decode s.framer.last s.identified with
  | ⟨.error e, s', _⟩ =>
    rw [decoded] at said
    rw [accept_unread decoded]
    exact said
  | ⟨.ok (), s', _⟩ =>
    rw [decoded] at said
    rw [accept_read decoded]
    split
    · exact (writeAll_sends probes s').1.trans said
    · exact said

theorem accept_endpoint (s : Session) : (accept s).state.endpoint = s.endpoint := by
  obtain ⟨_, _, _, _, said⟩ := accept_state s
  rw [said]

theorem accept_error_iff (present : s.endpoint.isSome) {f : Fault} :
    (accept s).value = .error f ↔ s.framer.last.Upsets f := by
  rw [← decode_error_iff (s := s.identified)]
  match decoded : decode s.framer.last s.identified with
  | ⟨.error e, s', _⟩ => rw [accept_unread decoded]
  | ⟨.ok (), s', _⟩ =>
    have there : s'.endpoint.isSome := by
      rw [(decode_kept decoded).1]
      exact present
    rw [accept_read decoded]
    split
    · rw [writeAll_answers probes there]
    · rfl

variable {ε τ : Type} (embed : LineEffect → ε) {hook : Session → Act ε τ Unit}

theorem runHook_apply (hook : Session → Act ε τ Unit) (s : Session) (t : τ) : runHook hook (s, t) =
    ⟨(hook s t).value, (s, (hook s t).state), (hook s t).effects⟩ := by
  simp [runHook]

theorem takeIn_calm (hook : Session → Act ε τ Unit) {f : Framer} {s s' : Session}
    {es : List LineEffect} (t : τ) (h : accept { s with framer := f } = ⟨.ok (), s', es⟩) :
    takeIn embed hook f (s, t) =
      ⟨(hook s' t).value, (s', (hook s' t).state), es.map embed ++ (hook s' t).effects⟩ := by
  have accepted : onSession embed accept ({ s with framer := f }, t) =
      ⟨.ok (), (s', t), es.map embed⟩ := by
    simp only [onSession, Act.within_apply, h]
  have framed : onSession embed (modify fun s => { s with framer := f }) (s, t) =
      (⟨.ok (), ({ s with framer := f }, t), []⟩ : Outcome ε (Session × τ) Unit) := rfl
  rw [takeIn, Act.bind_ok (by rw [framed]), framed, Act.bind_ok (by rw [accepted]), accepted,
    runHook_apply]
  rfl

theorem takeIn_upset {f : Framer} {s s' : Session} {es : List LineEffect} {e : Fault} (t : τ)
    (h : accept { s with framer := f } = ⟨.error e, s', es⟩) :
    takeIn embed hook f (s, t) = ⟨.error e, (s', t), es.map embed⟩ := by
  have stopped : onSession embed accept ({ s with framer := f }, t) =
      ⟨.error e, (s', t), es.map embed⟩ := by
    simp only [onSession, Act.within_apply, h]
  have framed : onSession embed (modify fun s => { s with framer := f }) (s, t) =
      (⟨.ok (), ({ s with framer := f }, t), []⟩ : Outcome ε (Session × τ) Unit) := rfl
  rw [takeIn, Act.bind_ok (by rw [framed]), framed, Act.bind_error (by rw [stopped]), stopped]
  rfl

theorem takeInAll_error_iff (calm : ∀ s t, (hook s t).value = .ok ()) {cuts : List Framer}
    {s : Session} {t : τ} (present : s.endpoint.isSome) {f : Fault} :
    (takeInAll embed hook cuts (s, t)).value = .error f ↔
      Packet.FirstUpset (cuts.map Framer.last) f := by
  induction cuts generalizing s t with
  | nil =>
    constructor
    · intro h
      contradiction
    · rintro ⟨⟩
  | cons cut rest ih =>
    rw [takeInAll, List.map_cons]
    have upsets := @accept_error_iff { s with framer := cut } present
    have said := accept_endpoint { s with framer := cut }
    match h : accept { s with framer := cut } with
    | ⟨.ok (), s', es⟩ =>
      rw [h] at upsets said
      have quiet : ∀ g, ¬ cut.last.Upsets g := fun g hg => by simpa using upsets.mpr hg
      have taken := takeIn_calm embed hook t h
      rw [Act.bind_ok (a := ()) (by rw [taken]; exact calm s' t), taken]
      have there : s'.endpoint = s.endpoint := said
      rw [ih (by rw [there]; exact present)]
      constructor
      · exact .later quiet
      · rintro (⟨hg⟩ | ⟨_, hg⟩)
        · exact absurd hg (quiet f)
        · exact hg
    | ⟨.error e, s', es⟩ =>
      rw [h] at upsets
      rw [Act.bind_error (by rw [takeIn_upset embed t h])]
      constructor
      · intro same
        exact .here (upsets.mp same)
      · rintro (⟨hg⟩ | ⟨quiet, _⟩)
        · exact upsets.mpr hg
        · exact absurd (upsets.mp rfl) (quiet e)

/-- The packets that the next read of the endpoint brings. -/
def arriving (s : Session) (e : Endpoint) : List Packet :=
  match e.receive.1 with
  | none | some [] => []
  | some (b :: bs) => (s.framer.feed (b :: bs)).packets

/-- The packets that the next intake reads. -/
def batch (s : Session) : List Packet := s.endpoint.elim [] s.arriving

theorem batch_of_read {s : Session} {e : Endpoint} {b : UInt8} {bs : Bytes}
    (present : s.endpoint = some e) (data : e.receive.1 = some (b :: bs)) :
    s.batch = (s.framer.feed (b :: bs)).packets := by
  unfold batch arriving
  rw [present, Option.elim_some, data]

/-- The framer cuts everything there is before the first packet is taken in. -/
theorem takeInBytes_apply (hook : Session → Act ε τ Unit) (bs : Bytes) (s : Session) (t : τ) :
    takeInBytes embed hook bs (s, t) =
      (takeInAll embed hook (s.framer.feed bs).drain.1 >>= fun _ =>
        onSession embed (modify fun s' => { s' with framer := (s.framer.feed bs).drain.2 }))
          (s, t) := rfl

theorem takeInBytes_error_iff (calm : ∀ s t, (hook s t).value = .ok ()) (bs : Bytes) {s : Session}
    {t : τ} (present : s.endpoint.isSome) {f : Fault} :
    (takeInBytes embed hook bs (s, t)).value = .error f ↔
      Packet.FirstUpset (s.framer.feed bs).packets f := by
  rw [Framer.packets, ← takeInAll_error_iff embed calm (t := t) present, takeInBytes_apply]
  cases taken : (takeInAll embed hook (s.framer.feed bs).drain.1 (s, t)).value with
  | ok u => rw [Act.bind_ok taken]; rfl
  | error e => rw [Act.bind_error taken]

theorem intake_apply {s : Session} {t : τ} {e : Endpoint} (present : s.endpoint = some e) :
    let s' := { s with endpoint := some e.receive.2 }
    intake embed hook (s, t) =
      match e.receive.1 with
      | none => ⟨.ok .error, (s', t), []⟩
      | some [] => ⟨.ok (if s.source.isSerial then .unready else .eof), (s', t), []⟩
      | some (b :: bs) =>
        (takeInBytes embed hook (b :: bs) >>= fun _ => pure .ready : Act ε _ _) (s', t) := by
  unfold intake
  simp only [Act.get_bind, present]
  cases e.receive.1 with
  | none => rfl
  | some bs =>
    cases bs with
    | nil => cases s.source.isSerial <;> rfl
    | cons b bs => rfl

theorem intake_error_iff (calm : ∀ s t, (hook s t).value = .ok ()) {s : Session} {t : τ}
    {e : Endpoint} (present : s.endpoint = some e) {f : Fault} :
    (intake embed hook (s, t)).value = .error f ↔ Packet.FirstUpset (s.arriving e) f := by
  rw [intake_apply embed present]
  unfold arriving
  match e.receive.1 with
  | none | some [] =>
    constructor
    · intro h
      contradiction
    · rintro ⟨⟩
  | some (b :: bs) =>
    have stops := takeInBytes_error_iff embed calm (b :: bs)
      (s := { s with endpoint := some e.receive.2 }) (t := t) rfl (f := f)
    rw [← stops]
    cases taken : (takeInBytes embed hook (b :: bs)
        ({ s with endpoint := some e.receive.2 }, t)).value with
    | ok u => simp only [Act.bind_ok taken, Act.pure_apply, reduceCtorEq]
    | error e =>
      simp only [Act.bind_error taken]
      exact ⟨fun h => congrArg _ (Except.error.inj h), fun h => congrArg _ (Except.error.inj h)⟩

theorem firstUpset_iff {packets : List Packet} :
    (∃ f, Packet.FirstUpset packets f) ↔ ∃ p ∈ packets, ∃ f, p.Upsets f := by
  induction packets with
  | nil =>
    constructor
    · rintro ⟨f, ⟨⟩⟩
    · simp
  | cons p rest ih =>
    by_cases h : ∃ f, p.Upsets f
    · obtain ⟨f, hf⟩ := h
      exact ⟨fun _ => ⟨p, List.mem_cons_self, f, hf⟩, fun _ => ⟨f, .here hf⟩⟩
    · have calm : ∀ g, ¬ p.Upsets g := fun g hg => h ⟨g, hg⟩
      constructor
      · rintro ⟨f, hf | ⟨_, hf⟩⟩
        · exact absurd hf (calm f)
        · obtain ⟨q, hq, upset⟩ := ih.mp ⟨f, hf⟩
          exact ⟨q, List.mem_cons_of_mem _ hq, upset⟩
      · rintro ⟨q, hq, f, hf⟩
        obtain rfl | hq := List.mem_cons.mp hq
        · exact absurd hf (calm f)
        · obtain ⟨g, hg⟩ := ih.mpr ⟨q, hq, f, hf⟩
          exact ⟨g, .later calm hg⟩

/-- **What an intake lives through.** With a hook that raises nothing it answers unless a packet
that it reads upsets it, and only then. -/
theorem intake_answers_iff (calm : ∀ s t, (hook s t).value = .ok ()) (s : Session) (t : τ) :
    (∃ status, (intake embed hook (s, t)).value = .ok status) ↔
      ∃ e, s.endpoint = some e ∧ ∀ p ∈ s.arriving e, ∀ f, ¬ p.Upsets f := by
  cases present : s.endpoint with
  | none => simp [intake, present]
  | some e =>
    have stops := fun f => intake_error_iff embed calm (t := t) present (f := f)
    cases answer : (intake embed hook (s, t)).value with
    | ok status =>
      refine ⟨fun _ => ⟨e, rfl, fun p hp f hf => ?_⟩, fun _ => ⟨status, rfl⟩⟩
      obtain ⟨g, hg⟩ := firstUpset_iff.mpr ⟨p, hp, f, hf⟩
      have stopped := (stops g).mpr hg
      simp [answer] at stopped
    | error f =>
      constructor
      · simp
      · rintro ⟨e', same, quiet⟩
        obtain rfl := Option.some.inj same
        obtain ⟨p, hp, g, hg⟩ := firstUpset_iff.mp ⟨f, (stops f).mp answer⟩
        exact absurd hg (quiet p hp g)

/-- A relay that has so many bytes to read. -/
def socketWith (bs : Bytes) : Endpoint where
  medium := .socket
  queue := [.bytes bs]

def hearing (bs : Bytes) : Session where
  source := .relay Source.defaultHost Source.defaultPort none
  endpoint := some (socketWith bs)

def deaf : Session → Act LineEffect Unit Unit := fun _ => pure ()

theorem intake_answers_iff_of_empty_object :
    (∀ s t, (deaf s t).value = .ok ()) ∧
      ∃ status, (intake id deaf (hearing [0x7b, 0x7d, 0x0a], ())).value = .ok status := by
  refine ⟨fun _ _ => rfl, (intake_answers_iff id (fun _ _ => rfl) _ _).mpr ⟨_, rfl, ?_⟩⟩
  have framed : (hearing [0x7b, 0x7d, 0x0a]).arriving (socketWith [0x7b, 0x7d, 0x0a]) =
      [⟨.json, [0x7b, 0x7d, 0x0a]⟩] := by decide +kernel
  simp only [framed, List.mem_singleton, forall_eq]
  intro f upset
  have read : Json.read [0x7b, 0x7d, 0x0a] = .ok (.object []) := rfl
  exact absurd ((upsets_of_report read).mp upset).1 (by decide)

/-- A position report whose time is the number 5. -/
def misdated : Bytes :=
  [0x7b, 0x22, 0x63, 0x6c, 0x61, 0x73, 0x73, 0x22, 0x3a, 0x22, 0x54, 0x50, 0x56,
    0x22, 0x2c, 0x22, 0x74, 0x69, 0x6d, 0x65, 0x22, 0x3a, 0x35, 0x7d, 0x0a]

theorem intake_stopped_by_object :
    (intake id deaf (hearing [0x7b, 0xff, 0x7d, 0x0a], ())).value =
      .error (.json (.undecodable ⟨.utf8, 1, 0xff, 1, .invalidStart⟩)) ∧
    (intake id deaf (hearing misdated, ())).value = .error (.notText "int") := by
  have framed : (hearing [0x7b, 0xff, 0x7d, 0x0a]).arriving (socketWith [0x7b, 0xff, 0x7d, 0x0a]) =
      [⟨.json, [0x7b, 0xff, 0x7d, 0x0a]⟩] := by decide +kernel
  have framed' : (hearing misdated).arriving (socketWith misdated) = [⟨.json, misdated⟩] := by
    decide +kernel
  constructor
  · rw [intake_error_iff id (fun _ _ => rfl) rfl, framed]
    exact .here (.object rfl (by simp))
  · rw [intake_error_iff id (fun _ _ => rfl) rfl, framed']
    have read : Json.read misdated = .ok (.object
        [(.ofString "class", .text (.ofString "TPV")), (.ofString "time", .int 5)]) := rfl
    exact .here (.time read rfl rfl rfl (by simp))

end Session
end GnssMonitor
