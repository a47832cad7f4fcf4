import GnssMonitor.Logbook

/-! What writing does to the log: it stays open where it is open, and a file that is open grows at
its end. -/

namespace GnssMonitor.Logbook

/-- What is written to, however much of it waits to be put there. -/
def place (l : Logbook) : Option LogTarget :=
  l.current.map fun
    | .full _ => .full 0
    | target => target

/-- The log once notes have been written to it; those that it refuses are lost. -/
def noted (notes : List Bytes) (l : Logbook) : Logbook :=
  notes.foldl (fun l bs => (l.write bs).2) l

theorem noted_noted (notes notes' : List Bytes) (l : Logbook) :
    (l.noted notes).noted notes' = l.noted (notes ++ notes') := by
  simp [noted, List.foldl_append]

theorem place_write (l : Logbook) (bs : Bytes) : (l.write bs).2.place = l.place := by
  unfold write
  cases l.writeRefusal? bs with
  | some e => rfl
  | none =>
    unfold place add
    cases h : l.current with
    | none => simp [h]
    | some target => cases target <;> simp [h]

@[simp] theorem exists_noted_self (l : Logbook) : ∃ notes, l = l.noted notes := ⟨[], rfl⟩

/-- Notes leave open what is open. -/
theorem place_noted (notes : List Bytes) (l : Logbook) : (l.noted notes).place = l.place := by
  induction notes generalizing l with
  | nil => rfl
  | cons bs rest ih => exact (ih _).trans (place_write l bs)

/-- The log with all of this added to it, one after the other. -/
def adds (writes : List Bytes) (l : Logbook) : Logbook := writes.foldl (fun l bs => l.add bs) l

theorem adds_append (writes writes' : List Bytes) (l : Logbook) :
    l.adds (writes ++ writes') = (l.adds writes).adds writes' := by
  simp [adds, List.foldl_append]

theorem write_ok {l : Logbook} {bs : Bytes} (written : (l.write bs).1 = .ok ()) :
    (l.write bs).2 = l.add bs := by
  unfold write at written ⊢
  cases refusal : l.writeRefusal? bs with
  | none => rfl
  | some e => simp [refusal] at written

/-- What is written to, and what the files hold. -/
def holding (l : Logbook) : Option LogTarget × List (String × Bytes) := (l.current, l.files)

/-- What is added does not depend on how the file system takes it. -/
theorem holding_adds {l l' : Logbook} (same : l'.holding = l.holding) (writes : List Bytes) :
    (l'.adds writes).holding = (l.adds writes).holding := by
  induction writes generalizing l l' with
  | nil => exact same
  | cons bs rest ih =>
    have added : (l'.add bs).holding = (l.add bs).holding := by
      obtain ⟨current, files⟩ := Prod.mk.inj same
      unfold add
      rw [current, files]
      split <;> simp_all [holding]
    exact ih added

theorem content_setContent (name : String) (bs : Bytes) (files : List (String × Bytes)) :
    content (setContent name bs files) name = some bs := by
  have same : ((·.1 == name) ∘ fun f : String × Bytes => if f.1 == name then (name, bs) else f) =
      (·.1 == name) := by
    funext f
    by_cases named : f.1 = name <;> simp [named]
  unfold setContent content
  cases found : files.find? (·.1 == name) with
  | none => simp [found, List.find?_append]
  | some f =>
    have named : f.1 = name := by simpa using List.find?_some found
    rw [Option.map_some, Option.isSome_some, if_pos rfl, List.find?_map, same, found]
    simp [named]

/-- A file that is open holds what it held, with all of this at its end. -/
theorem content_adds {l : Logbook} {name : String} {held : Bytes}
    (current : l.current = some (.file name)) (holds : content l.files name = some held)
    (writes : List Bytes) : (l.adds writes).current = some (.file name) ∧
      content (l.adds writes).files name = some (held ++ writes.flatten) := by
  induction writes generalizing l held with
  | nil => simpa using ⟨current, holds⟩
  | cons bs rest ih =>
    have added : l.add bs = { l with files := setContent name (held ++ bs) l.files } := by
      simp [add, current, holds]
    have grown : content (l.add bs).files name = some (held ++ bs) := by
      rw [added]
      exact content_setContent name (held ++ bs) l.files
    have still : (l.add bs).current = some (.file name) := by rw [added, ← current]
    rw [List.flatten_cons, ← List.append_assoc]
    exact ih still grown

end GnssMonitor.Logbook
