import GnssMonitor.Panel

/-! The order in which satellites are shown. It is told by three things that fix it: the used ones
come first, numbers do not fall within either part, and what has one number stays as it was sent. -/

namespace GnssMonitor.Panel

variable {used : List Nat} {sent sent' shown shown' : List Satellite}

/-- What is sent of the satellites with this number, in order. -/
def numbered (n : Nat) (sats : List Satellite) : List Satellite := sats.filter (·.prn == n)

/-- The same satellites, each as often, and those with one number in the same order. -/
def Matches (shown sent : List Satellite) : Prop := ∀ n, numbered n shown = numbered n sent

structure Arranges (used : List Nat) (sent shown : List Satellite) : Prop where
  usedFirst : shown.Pairwise fun a b => b.prn ∈ used → a.prn ∈ used
  rising : shown.Pairwise fun a b => (a.prn ∈ used ↔ b.prn ∈ used) → a.prn ≤ b.prn
  sent : Matches shown sent

theorem Matches.refl (sats : List Satellite) : Matches sats sats := fun _ => rfl

theorem Matches.trans {sats : List Satellite} (h : Matches sats shown) (h' : Matches shown sent) :
    Matches sats sent := fun n => (h n).trans (h' n)

theorem Matches.append {more more' : List Satellite} (h : Matches shown sent)
    (h' : Matches more more') : Matches (shown ++ more) (sent ++ more') := by
  intro n
  have first := h n
  have second := h' n
  simp only [numbered] at first second ⊢
  rw [List.filter_append, List.filter_append, first, second]

theorem mem_numbered {n : Nat} {a : Satellite} {sats : List Satellite} :
    a ∈ numbered n sats ↔ a ∈ sats ∧ a.prn = n := by
  simp [numbered]

theorem Matches.mem_iff (h : Matches shown sent) (a : Satellite) : a ∈ shown ↔ a ∈ sent := by
  have same : a ∈ numbered a.prn shown ↔ a ∈ numbered a.prn sent := by rw [h a.prn]
  simpa [mem_numbered] using same

/-- A satellite that leads both of two matching lists leaves matching lists behind it. -/
theorem Matches.tail {a : Satellite} (h : Matches (a :: shown) (a :: sent)) :
    Matches shown sent := by
  intro n
  have same := h n
  by_cases own : a.prn = n
  · simpa [numbered, own] using same
  · simpa [numbered, own] using same

theorem before_iff {a b : Satellite} : before used a b = true ↔
    (b.prn ∈ used → a.prn ∈ used) ∧ ((a.prn ∈ used ↔ b.prn ∈ used) → a.prn ≤ b.prn) := by
  unfold before
  by_cases ha : a.prn ∈ used <;> by_cases hb : b.prn ∈ used <;> simp [ha, hb]

theorem before_trans (a b c : Satellite) (hab : before used a b = true)
    (hbc : before used b c = true) : before used a c = true := by
  rw [before_iff] at hab hbc ⊢
  refine ⟨fun hc => hab.1 (hbc.1 hc), fun same => ?_⟩
  -- the one in the middle is in the part of the two around it
  have left : a.prn ∈ used ↔ b.prn ∈ used := ⟨fun ha => hbc.1 (same.mp ha), hab.1⟩
  exact Nat.le_trans (hab.2 left) (hbc.2 (left.symm.trans same))

theorem before_total (used : List Nat) (a b : Satellite) :
    (before used a b || before used b a) = true := by
  rw [Bool.or_eq_true, before_iff, before_iff]
  by_cases ha : a.prn ∈ used <;> by_cases hb : b.prn ∈ used <;> simp [ha, hb, Nat.le_total]

/-- Of two satellites with different numbers only one comes before the other. -/
theorem prn_eq_of_before {a b : Satellite} (hab : before used a b = true)
    (hba : before used b a = true) : a.prn = b.prn := by
  rw [before_iff] at hab hba
  have part : a.prn ∈ used ↔ b.prn ∈ used := ⟨hba.1, hab.1⟩
  exact Nat.le_antisymm (hab.2 part) (hba.2 part.symm)

theorem arranges_iff : Arranges used sent shown ↔
    shown.Pairwise (fun a b => before used a b = true) ∧ Matches shown sent := by
  simp only [before_iff, List.pairwise_and_iff]
  exact ⟨fun h => ⟨⟨h.usedFirst, h.rising⟩, h.sent⟩, fun h => ⟨h.1.1, h.1.2, h.2⟩⟩

theorem before_of_mem {a b : Satellite}
    (sorted : (a :: shown).Pairwise fun a b => before used a b = true) (there : b ∈ a :: shown) :
    before used a b = true := by
  obtain rfl | later := List.mem_cons.mp there
  · simpa using before_total used b b
  · exact List.rel_of_pairwise_cons sorted later

/-- There is one arrangement only: the first of either list comes before all of the other, so both
have one number, and with that number both lists begin alike. -/
theorem eq_of_matches (sorted : shown.Pairwise fun a b => before used a b = true)
    (sorted' : shown'.Pairwise fun a b => before used a b = true) (same : Matches shown shown') :
    shown = shown' := by
  induction shown generalizing shown' with
  | nil =>
    refine (List.eq_nil_iff_forall_not_mem.mpr fun a there => ?_).symm
    simpa using (same.mem_iff a).mpr there
  | cons a rest ih =>
    cases shown' with
    | nil => simpa using (same.mem_iff a).mp List.mem_cons_self
    | cons b rest' =>
      have hba := before_of_mem sorted' ((same.mem_iff a).mp List.mem_cons_self)
      have hab := before_of_mem sorted ((same.mem_iff b).mpr List.mem_cons_self)
      have prn : b.prn = a.prn := prn_eq_of_before hba hab
      have heads := same a.prn
      simp only [numbered, List.filter_cons, prn, BEq.rfl, if_true, List.cons.injEq] at heads
      obtain ⟨rfl, -⟩ := heads
      rw [ih sorted.of_cons sorted'.of_cons same.tail]

/-- Only numbers that occur in either list can tell the two apart. -/
theorem matches_iff : Matches shown sent ↔
    ∀ a ∈ shown ++ sent, numbered a.prn shown = numbered a.prn sent := by
  refine ⟨fun same a _ => same a.prn, fun same n => ?_⟩
  by_cases there : ∃ a ∈ shown ++ sent, a.prn = n
  · obtain ⟨a, listed, rfl⟩ := there
    exact same a listed
  · have none (sats : List Satellite) (listed : sats ⊆ shown ++ sent) : numbered n sats = [] :=
      List.filter_eq_nil_iff.mpr fun a ha number =>
        there ⟨a, listed ha, beq_iff_eq.mp number⟩
    rw [none shown (List.subset_append_left _ _), none sent (List.subset_append_right _ _)]

instance : Decidable (Matches shown sent) := decidable_of_iff _ matches_iff.symm

instance : Decidable (Arranges used sent shown) := decidable_of_iff _ arranges_iff.symm

/-- The satellites with one number come one after another as they were sent: they may stay so. -/
theorem sortSatellites_matches (used : List Nat) (sats : List Satellite) :
    Matches (sortSatellites used sats) sats := by
  intro n
  have alike : (numbered n sats).Pairwise fun a b => before used a b = true := by
    refine List.pairwise_of_forall_mem_list fun a ha b hb => ?_
    have same : a.prn = b.prn := (mem_numbered.mp ha).2.trans (mem_numbered.mp hb).2.symm
    simp [before_iff, same]
  have kept : (numbered n sats).Sublist (sats.mergeSort (before used)) :=
    List.sublist_mergeSort before_trans (before_total _) alike List.filter_sublist
  have within := kept.filter (·.prn == n)
  rw [numbered, List.filter_filter] at within
  simp only [Bool.and_self] at within
  have count := ((List.mergeSort_perm sats (before used)).filter (·.prn == n)).length_eq
  exact (within.eq_of_length count.symm).symm

theorem sortSatellites_arranges (used : List Nat) (sats : List Satellite) :
    Arranges used sats (sortSatellites used sats) :=
  arranges_iff.mpr ⟨List.pairwise_mergeSort before_trans (before_total _) sats,
    sortSatellites_matches used sats⟩

/-- The order that satellites are put in is the one arrangement of them. -/
theorem sortSatellites_eq (arranged : Arranges used sent shown) :
    sortSatellites used sent = shown := by
  obtain ⟨sorted, same⟩ := arranges_iff.mp arranged
  refine eq_of_matches (List.pairwise_mergeSort before_trans (before_total _) sent) sorted ?_
  exact fun n => (sortSatellites_matches used sent n).trans (same n).symm

/-- What matches is arranged alike, whatever order it is in. -/
theorem sortSatellites_congr (used : List Nat) (same : Matches sent sent') :
    sortSatellites used sent = sortSatellites used sent' := by
  obtain ⟨usedFirst, rising, kept⟩ := sortSatellites_arranges used sent'
  exact sortSatellites_eq ⟨usedFirst, rising, fun n => (kept n).trans (same n).symm⟩

end GnssMonitor.Panel
