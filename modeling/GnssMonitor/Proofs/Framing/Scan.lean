import GnssMonitor.Proofs.Framing.Packets

/-! The packets in a stream. Whatever the chunks in which it comes in, a framer that is drained
after each of them yields the same packets and ends the same. -/

namespace GnssMonitor

namespace Framing

theorem next_wait {bs : Bytes} (h : verdict bs = .wait) : next bs = (none, bs) := by
  rw [next, h]

theorem next_take {bs : Bytes} {kind : PacketKind} {n : Nat} (h : verdict bs = .take kind n) :
    next bs = (some ⟨kind, bs.take n⟩, bs.drop n) := by
  rw [next, h]

theorem next_drop {bs : Bytes} {n : Nat} (h : verdict bs = .drop n) :
    next bs = next (bs.drop n) := by
  have within := verdict_within bs
  rw [h] at within
  have present : bs ≠ [] := by
    rintro rfl
    simp only [Verdict.Within, List.length_nil] at within
    omega
  rw [next, h]
  exact dif_pos ⟨within.1, present⟩

/-- The packets in a stream, and the bytes left waiting behind them. -/
inductive Scans : Bytes → List Packet → Bytes → Prop
  | wait {bs : Bytes} (h : verdict bs = .wait) : Scans bs [] bs
  | drop {bs : Bytes} {n : Nat} {packets : List Packet} {rest : Bytes}
      (h : verdict bs = .drop n) (more : Scans (bs.drop n) packets rest) : Scans bs packets rest
  | take {bs : Bytes} {kind : PacketKind} {n : Nat} {packets : List Packet} {rest : Bytes}
      (h : verdict bs = .take kind n) (more : Scans (bs.drop n) packets rest) :
      Scans bs (⟨kind, bs.take n⟩ :: packets) rest

namespace Scans

variable {a b bs left rest : Bytes} {ps qs packets : List Packet}

theorem total (bs : Bytes) : ∃ packets rest, Scans bs packets rest := by
  induction size : bs.length using Nat.strongRecOn generalizing bs with
  | ind size ih =>
    have within := verdict_within bs
    cases h : verdict bs with
    | wait => exact ⟨[], bs, wait h⟩
    | drop n =>
      simp only [h, Verdict.Within] at within
      obtain ⟨packets, rest, more⟩ :=
        ih _ (by omega) (bs.drop n) List.length_drop
      exact ⟨packets, rest, drop h more⟩
    | take kind n =>
      simp only [h, Verdict.Within] at within
      obtain ⟨packets, rest, more⟩ :=
        ih _ (by omega) (bs.drop n) List.length_drop
      exact ⟨_, rest, take h more⟩

theorem unique (h : Scans bs ps left) (h' : Scans bs qs rest) : ps = qs ∧ left = rest := by
  induction h generalizing qs with
  | wait h =>
    cases h' with
    | wait => exact ⟨rfl, rfl⟩
    | drop h' | take h' => simp [h] at h'
  | drop h _ ih =>
    cases h' with
    | drop h' more =>
      obtain rfl := Verdict.drop.inj (h.symm.trans h')
      exact ih more
    | wait h' | take h' => simp [h] at h'
  | take h _ ih =>
    cases h' with
    | take h' more =>
      obtain ⟨rfl, rfl⟩ := Verdict.take.inj (h.symm.trans h')
      obtain ⟨rfl, same⟩ := ih more
      exact ⟨rfl, same⟩
    | wait h' | drop h' => simp [h] at h'

theorem rest_waits (h : Scans bs packets rest) : verdict rest = .wait := by
  induction h with
  | wait h => exact h
  | drop _ _ ih | take _ _ ih => exact ih

theorem genuine (h : Scans bs packets rest) : ∀ p ∈ packets, p.Genuine := by
  induction h with
  | wait => simp
  | drop _ _ ih => exact ih
  | take h _ ih => exact List.forall_mem_cons.mpr ⟨(verdict_take_iff.mp h).2, ih⟩

theorem length_le (h : Scans bs packets rest) : packets.length ≤ bs.length := by
  induction h with
  | wait => exact Nat.zero_le _
  | drop _ _ ih =>
    rw [List.length_drop] at ih
    omega
  | @take bs kind n packets rest h _ ih =>
    have within := verdict_within bs
    simp only [h, Verdict.Within] at within
    rw [List.length_drop] at ih
    rw [List.length_cons]
    omega

/-- What is left of a part goes before the rest of the stream. -/
theorem append (h : Scans a ps left) (h' : Scans (left ++ b) qs rest) :
    Scans (a ++ b) (ps ++ qs) rest := by
  induction h with
  | wait => exact h'
  | @drop bs n _ _ h _ ih =>
    have within := verdict_within bs
    simp only [h, Verdict.Within] at within
    refine .drop (n := n) ?_ ?_
    · rw [verdict_append b (by simp [h]), h]
    · rw [List.drop_append_of_le_length within.2]
      exact ih h'
  | @take bs kind n _ _ h _ ih =>
    have within := verdict_within bs
    simp only [h, Verdict.Within] at within
    have front : (bs ++ b).take n = bs.take n := List.take_append_of_le_length within.2
    rw [List.cons_append, ← front]
    refine .take ?_ ?_
    · rw [verdict_append b (by simp [h]), h]
    · rw [List.drop_append_of_le_length within.2]
      exact ih h'

end Scans
end Framing

namespace Framer

open Framing

variable {f : Framer} {packets more : List Packet} {rest left : Bytes}

/-- The framer once it has taken some packets. -/
def after (f : Framer) : List Packet → Bytes → Framer
  | [], rest => { f with pending := rest }
  | p :: packets, rest => after ⟨rest, p.kind, p.bytes, f.count + 1⟩ packets rest

theorem after_pending (f : Framer) (packets : List Packet) (rest : Bytes) :
    (f.after packets rest).pending = rest := by
  induction packets generalizing f with
  | nil => rfl
  | cons p packets ih => exact ih _

/-- What was pending before does not matter. -/
theorem after_refill (f : Framer) (bs : Bytes) (packets : List Packet) (rest : Bytes) :
    { f with pending := bs }.after packets rest = f.after packets rest := by
  cases packets <;> rfl

theorem after_after (f : Framer) (packets more : List Packet) (left rest : Bytes) :
    (f.after packets left).after more rest = f.after (packets ++ more) rest := by
  induction packets generalizing f with
  | nil => exact after_refill f left more rest
  | cons p packets ih =>
    rw [List.cons_append, after, after, ih]
    exact (after_refill ⟨left, p.kind, p.bytes, f.count + 1⟩ rest (packets ++ more) rest).symm

theorem next_take {kind : PacketKind} {n : Nat} (h : verdict f.pending = .take kind n) :
    f.next = (true, ⟨f.pending.drop n, kind, f.pending.take n, f.count + 1⟩) := by
  rw [next, Framing.next_take h]

theorem next_drop {n : Nat} (h : verdict f.pending = .drop n) :
    f.next = { f with pending := f.pending.drop n }.next := by
  rw [next, Framing.next_drop h, next]

theorem next_wait (h : verdict f.pending = .wait) : f.next = (false, f) := by
  rw [next, Framing.next_wait h]

theorem run_scans {bs : Bytes} (h : Scans bs packets rest) {fuel : Nat} (holds : f.pending = bs)
    (enough : packets.length < fuel) :
    (run fuel f).1.map last = packets ∧ (run fuel f).2 = f.after packets rest := by
  induction h generalizing f fuel with
  | wait h =>
    subst holds
    cases fuel with
    | zero => contradiction
    | succ fuel => simp [run, next_wait h, after]
  | @drop bs n packets rest h _ ih =>
    subst holds
    cases fuel with
    | zero => contradiction
    | succ fuel =>
      have skip : run (fuel + 1) f = run (fuel + 1) { f with pending := f.pending.drop n } := by
        rw [run, next_drop h, run]
      rw [skip, ← after_refill f (f.pending.drop n)]
      exact ih rfl enough
  | @take bs kind n packets rest h _ ih =>
    subst holds
    cases fuel with
    | zero => contradiction
    | succ fuel =>
      let g : Framer := ⟨f.pending.drop n, kind, f.pending.take n, f.count + 1⟩
      have taken : run (fuel + 1) f = (g :: (run fuel g).1, (run fuel g).2) := by
        rw [run, next_take h]
      obtain ⟨yielded, final⟩ := ih (f := g) rfl (Nat.lt_of_succ_lt_succ enough)
      rw [taken]
      exact ⟨by rw [List.map_cons, yielded]; rfl,
        final.trans (after_refill ⟨rest, kind, f.pending.take n, f.count + 1⟩ _ packets rest)⟩

/-- Draining takes the packets of what is pending, all of them. -/
theorem drain_scans (h : Scans f.pending packets rest) :
    f.packets = packets ∧ f.drain.2 = f.after packets rest :=
  run_scans h rfl (Nat.lt_succ_of_le h.length_le)

/-- All the packets in a stream. -/
def packetsIn (bs : Bytes) : List Packet := Framer.packets { pending := bs }

theorem packetsIn_of_scans {bs : Bytes} (h : Scans bs packets rest) : packetsIn bs = packets :=
  (drain_scans (f := { pending := bs }) h).1

/-- Nothing more can be taken. -/
def Drained (f : Framer) : Prop := f.drain = ([], f)

theorem drained_iff : f.Drained ↔ verdict f.pending = .wait := by
  constructor
  · intro drained
    obtain ⟨packets, rest, scans⟩ := Scans.total f.pending
    obtain ⟨yielded, final⟩ := drain_scans scans
    obtain rfl : packets = [] := by rw [← yielded, Framer.packets, drained]; rfl
    have same : f = { f with pending := rest } := by rw [drained] at final; exact final
    rw [congrArg pending same]
    exact scans.rest_waits
  · intro waits
    simp only [Drained, drain, run, next_wait waits]

theorem drain_drained (f : Framer) : f.drain.2.Drained := by
  obtain ⟨packets, rest, scans⟩ := Scans.total f.pending
  rw [drained_iff, (drain_scans scans).2, after_pending]
  exact scans.rest_waits

theorem packets_genuine (f : Framer) : ∀ p ∈ f.packets, p.Genuine := by
  obtain ⟨packets, rest, scans⟩ := Scans.total f.pending
  rw [(drain_scans scans).1]
  exact scans.genuine

theorem feed_small {chunk : Bytes} (waits : verdict f.pending = .wait)
    (small : chunk.length ≤ packetLimit) : (f.feed chunk).pending = f.pending ++ chunk := by
  have := verdict_wait waits
  simp only [feed]
  rw [if_neg]
  rw [List.length_append]
  omega

/-- Chunks fed one after the other, the framer drained after each: the packets, and the framer
in the end. -/
def receive (f : Framer) : List Bytes → List Packet × Framer
  | [] => ([], f)
  | chunk :: chunks =>
    let g := (f.feed chunk).drain.2
    ((f.feed chunk).packets ++ (g.receive chunks).1, (g.receive chunks).2)

theorem receive_genuine (f : Framer) (chunks : List Bytes) :
    ∀ p ∈ (f.receive chunks).1, p.Genuine := by
  induction chunks generalizing f with
  | nil => simp [receive]
  | cons chunk chunks ih =>
    rw [receive]
    exact List.forall_mem_append.mpr ⟨packets_genuine _, ih _⟩

theorem receive_scans {chunks : List Bytes} (waits : verdict f.pending = .wait)
    (small : ∀ chunk ∈ chunks, chunk.length ≤ packetLimit)
    (h : Scans (f.pending ++ chunks.flatten) packets rest) :
    f.receive chunks = (packets, f.after packets rest) := by
  induction chunks generalizing f packets with
  | nil =>
    rw [List.flatten_nil, List.append_nil] at h
    obtain ⟨rfl, rfl⟩ := h.unique (.wait waits)
    rfl
  | cons chunk chunks ih =>
    have fed := feed_small waits (small chunk List.mem_cons_self)
    obtain ⟨first, left, scans⟩ := Scans.total (f.pending ++ chunk)
    obtain ⟨others, final, scans'⟩ := Scans.total (left ++ chunks.flatten)
    have whole := scans.append scans'
    rw [List.append_assoc, ← List.flatten_cons] at whole
    obtain ⟨rfl, rfl⟩ := h.unique whole
    obtain ⟨yielded, next⟩ := drain_scans (f := f.feed chunk) (fed ▸ scans)
    have carried : (f.feed chunk).after first left = f.after first left :=
      after_refill f _ first left
    rw [carried] at next
    have tail := ih (f := f.after first left) (by rw [after_pending]; exact scans.rest_waits)
      (fun c hc => small c (List.mem_cons_of_mem _ hc)) (by rw [after_pending]; exact scans')
    rw [receive]
    simp only [yielded, next, tail, after_after]

/-- **Framing does not depend on how the stream is cut.** -/
theorem receive_ignores_cuts (drained : f.Drained) {chunks pieces : List Bytes}
    (small : ∀ chunk ∈ chunks, chunk.length ≤ packetLimit)
    (small' : ∀ piece ∈ pieces, piece.length ≤ packetLimit)
    (same : chunks.flatten = pieces.flatten) : f.receive chunks = f.receive pieces := by
  have waits := drained_iff.mp drained
  obtain ⟨packets, rest, scans⟩ := Scans.total (f.pending ++ chunks.flatten)
  rw [receive_scans waits small scans, receive_scans waits small' (same ▸ scans)]

/-- A frame without payload behind a lone first byte. -/
theorem receive_ignores_cuts_of_frame :
    let f : Framer := { pending := [0xa0] }
    f.Drained ∧ f.receive [[0xa2], [0, 0, 0], [0, 0xb0, 0xb3]] =
      f.receive [[0xa2, 0, 0], [], [0, 0, 0xb0, 0xb3]] :=
  have drained : Framer.Drained { pending := [0xa0] } := drained_iff.mpr rfl
  ⟨drained, receive_ignores_cuts drained (by decide) (by decide) rfl⟩

end Framer
end GnssMonitor
