import GnssMonitor.Act

/-! How actions run one after another, and what can be said of a whole run once it is known of
each step. -/

namespace GnssMonitor.Act

variable {ε δ σ τ α β : Type} {x : Act ε σ α} {f : α → Act ε σ β} {s : σ}

@[simp] theorem pure_apply (a : α) (s : σ) : (pure a : Act ε σ α) s = ⟨.ok a, s, []⟩ := rfl

@[simp] theorem get_apply (s : σ) : (get : Act ε σ σ) s = ⟨.ok s, s, []⟩ := rfl

@[simp] theorem modify_apply (g : σ → σ) (s : σ) :
    (modify g : Act ε σ PUnit) s = ⟨.ok ⟨⟩, g s, []⟩ := rfl

@[simp] theorem throw_apply (e : Fault) (s : σ) :
    (throw e : Act ε σ α) s = ⟨.error e, s, []⟩ := rfl

@[simp] theorem emit_apply (e : ε) (s : σ) : (emit e : Act ε σ Unit) s = ⟨.ok (), s, [e]⟩ := rfl

@[simp] theorem lift_apply (v : Except Fault α) (s : σ) :
    (lift v : Act ε σ α) s = ⟨v, s, []⟩ := rfl

@[simp] theorem within_apply (view : σ → τ) (put : τ → σ → σ) (embed : δ → ε) (y : Act δ τ α)
    (s : σ) : within view put embed y s =
      ⟨(y (view s)).value, put (y (view s)).state s, (y (view s)).effects.map embed⟩ := rfl

theorem bind_ok {a : α} (h : (x s).value = .ok a) :
    (x >>= f) s = ⟨(f a (x s).state).value, (f a (x s).state).state,
      (x s).effects ++ (f a (x s).state).effects⟩ := by
  simp only [bind, h]

theorem bind_error {e : Fault} (h : (x s).value = .error e) :
    (x >>= f) s = ⟨.error e, (x s).state, (x s).effects⟩ := by
  simp only [bind, h]

/-- What is done after an action of which all is known. -/
theorem bind_of {a : α} {s' : σ} {es : List ε} (h : x s = ⟨.ok a, s', es⟩) :
    (x >>= f) s = ⟨(f a s').value, (f a s').state, es ++ (f a s').effects⟩ := by
  rw [bind_ok (by rw [h]), h]

theorem bind_silent {a : α} {s' : σ} (h : x s = ⟨.ok a, s', []⟩) : (x >>= f) s = f a s' := by
  rw [bind_of h, List.nil_append]

theorem tryCatch_ok {handle : Fault → Act ε σ α} {a : α} (h : (x s).value = .ok a) :
    (tryCatch x handle : Act ε σ α) s = ⟨.ok a, (x s).state, (x s).effects⟩ := by
  simp only [tryCatch, tryCatchThe, MonadExceptOf.tryCatch, h]

theorem tryCatch_error {handle : Fault → Act ε σ α} {e : Fault} (h : (x s).value = .error e) :
    (tryCatch x handle : Act ε σ α) s = ⟨(handle e (x s).state).value,
      (handle e (x s).state).state, (x s).effects ++ (handle e (x s).state).effects⟩ := by
  simp only [tryCatch, tryCatchThe, MonadExceptOf.tryCatch, h]

@[simp] theorem get_bind (f : σ → Act ε σ β) (s : σ) : (get >>= f) s = f s s := rfl

@[simp] theorem modify_bind (g : σ → σ) (f : PUnit → Act ε σ β) (s : σ) :
    (modify g >>= f) s = f ⟨⟩ (g s) := rfl

@[simp] theorem throw_bind (e : Fault) (f : α → Act ε σ β) (s : σ) :
    (throw e >>= f : Act ε σ β) s = ⟨.error e, s, []⟩ := rfl

@[simp] theorem lift_ok_bind (a : α) (f : α → Act ε σ β) (s : σ) :
    (lift (.ok a) >>= f) s = f a s := rfl

@[simp] theorem lift_error_bind (e : Fault) (f : α → Act ε σ β) (s : σ) :
    (lift (.error e) >>= f) s = ⟨.error e, s, []⟩ := rfl

@[simp] theorem emit_bind (e : ε) (f : Unit → Act ε σ β) (s : σ) :
    (emit e >>= f) s = ⟨(f () s).value, (f () s).state, e :: (f () s).effects⟩ := rfl

@[simp] theorem attempt_bind (x : Act ε σ α) (f : Except Fault α → Act ε σ β) (s : σ) :
    (attempt x >>= f) s = ⟨(f (x s).value (x s).state).value, (f (x s).value (x s).state).state,
      (x s).effects ++ (f (x s).value (x s).state).effects⟩ := rfl

theorem bind_pure (x : Act ε σ α) (s : σ) : (x >>= pure) s = x s := by
  cases h : (x s).value with
  | error e => rw [bind_error h, ← h]
  | ok a => rw [bind_ok h, pure_apply, List.append_nil, ← h]

/-- An action of which only the answer is changed. -/
theorem bind_pure_map (x : Act ε σ α) (g : α → β) (s : σ) : (x >>= fun a => pure (g a)) s =
    ⟨(x s).value.map g, (x s).state, (x s).effects⟩ := by
  cases h : (x s).value with
  | error e =>
    rw [bind_error h]
    rfl
  | ok a =>
    rw [bind_ok h, pure_apply, List.append_nil]
    rfl

theorem bind_pure_const (x : Act ε σ α) (b : β) (s : σ) : (x >>= fun _ => pure b) s =
    ⟨(x s).value.map fun _ => b, (x s).state, (x s).effects⟩ := bind_pure_map x _ s

theorem bind_assoc {γ : Type} (x : Act ε σ α) (f : α → Act ε σ β) (g : β → Act ε σ γ) (s : σ) :
    ((x >>= f) >>= g) s = (x >>= fun a => f a >>= g) s := by
  cases h : (x s).value with
  | error e => rw [bind_error h, bind_error (by rw [bind_error h]), bind_error h]
  | ok a =>
    rw [bind_ok h]
    cases h' : (f a (x s).state).value with
    | error e => rw [bind_error (by rw [bind_ok h]; exact h'), bind_error h', bind_ok h]
    | ok b =>
      rw [bind_ok (by rw [bind_ok h]; exact h'), bind_ok h', bind_ok h]
      simp only [List.append_assoc]

theorem bind_value_ok {b : β} : ((x >>= f) s).value = .ok b ↔
    ∃ a, (x s).value = .ok a ∧ (f a (x s).state).value = .ok b := by
  cases h : (x s).value with
  | ok a => simp [bind_ok h]
  | error e => simp [bind_error h]

/-- An outcome that passes a test is one. -/
theorem exists_ok {κ : Type} {outcome : Except κ α} {p : α → Bool}
    (passes : outcome.toOption.any p = true) : ∃ a, outcome = .ok a ∧ p a = true := by
  cases outcome with
  | error e => contradiction
  | ok a => exact ⟨a, rfl, passes⟩

/-- Nothing stops the action. -/
def Answers (x : Act ε σ α) : Prop := ∀ s, ∃ a, (x s).value = .ok a

theorem answers_pure (a : α) : Answers (pure a : Act ε σ α) := fun _ => ⟨a, rfl⟩

theorem answers_get : Answers (get : Act ε σ σ) := fun s => ⟨s, rfl⟩

theorem answers_modify (g : σ → σ) : Answers (modify g : Act ε σ PUnit) := fun _ => ⟨⟨⟩, rfl⟩

theorem answers_emit (e : ε) : Answers (emit e : Act ε σ Unit) := fun _ => ⟨(), rfl⟩

theorem Answers.bind (hx : Answers x) (hf : ∀ a, Answers (f a)) : Answers (x >>= f) := by
  intro s
  obtain ⟨a, h⟩ := hx s
  rw [bind_ok h]
  exact hf a _

/-- A relation between a state, what is done in it and the state it leaves, which holds of doing
nothing and of one thing done after another. -/
class Composes (T : σ → List ε → σ → Prop) : Prop where
  nothing : ∀ s, T s [] s
  next : ∀ {s s' s'' es es'}, T s es s' → T s' es' s'' → T s (es ++ es') s''

/-- What holds of the state still holds of it afterwards, and everything done is allowed. -/
def Keeps (P : σ → Prop) (allowed : ε → Prop) (s : σ) (es : List ε) (s' : σ) : Prop :=
  P s → P s' ∧ ∀ e ∈ es, allowed e

instance (P : σ → Prop) (allowed : ε → Prop) : Composes (Keeps P allowed) where
  nothing s := fun holds => ⟨holds, by simp⟩
  next := by
    intro s s' s'' es es' first second holds
    obtain ⟨holds', there⟩ := first holds
    obtain ⟨holds'', there'⟩ := second holds'
    exact ⟨holds'', fun e he => (List.mem_append.mp he).elim (there e) (there' e)⟩

/-- Everything done is allowed, whatever becomes of the state. -/
def Only (allowed : ε → Prop) (_ : σ) (es : List ε) (_ : σ) : Prop := ∀ e ∈ es, allowed e

instance (allowed : ε → Prop) : Composes (Only allowed : σ → List ε → σ → Prop) where
  nothing _ := by simp [Only]
  next := fun first second e he => (List.mem_append.mp he).elim (first e) (second e)

theorem Only.mono {allowed allowed' : ε → Prop} {s s' : σ} {es : List ε}
    (h : Only allowed s es s') (weaker : ∀ e, allowed e → allowed' e) : Only allowed' s es s' :=
  fun e he => weaker e (h e he)

/-- What the action does in this state, and the state it leaves, are as the relation has it. -/
def Obeys (T : σ → List ε → σ → Prop) (s : σ) (x : Act ε σ α) : Prop :=
  T s (x s).effects (x s).state

theorem Obeys.get_bind {T : σ → List ε → σ → Prop} {f : σ → Act ε σ β} (hf : Obeys T s (f s)) :
    Obeys T s (get >>= f) := hf

theorem obeys_ite {T : σ → List ε → σ → Prop} {c : Prop} [Decidable c] {x y : Act ε σ α}
    (hx : c → Obeys T s x) (hy : ¬ c → Obeys T s y) : Obeys T s (if c then x else y) := by
  split
  · exact hx ‹c›
  · exact hy ‹¬ c›

section Obeys

variable {T : σ → List ε → σ → Prop} [Composes T]

theorem Obeys.bind (hx : Obeys T s x)
    (hf : ∀ a, (x s).value = .ok a → Obeys T (x s).state (f a)) : Obeys T s (x >>= f) := by
  unfold Obeys
  cases h : (x s).value with
  | ok a =>
    rw [bind_ok h]
    exact Composes.next hx (hf a h)
  | error e =>
    rw [bind_error h]
    exact hx

/-- Where the first action leaves the state alone, the second starts from it as well. -/
theorem Obeys.bind_same (hx : Obeys T s x) (same : (x s).state = s)
    (hf : ∀ a, (x s).value = .ok a → Obeys T s (f a)) : Obeys T s (x >>= f) :=
  hx.bind fun a h => by rw [same]; exact hf a h

theorem obeys_pure (a : α) : Obeys T s (pure a : Act ε σ α) := Composes.nothing s

theorem obeys_throw (e : Fault) : Obeys T s (throw e : Act ε σ α) := Composes.nothing s

theorem obeys_lift (v : Except Fault α) : Obeys T s (lift v : Act ε σ α) := Composes.nothing s

/-- What stops here does nothing more. -/
theorem obeys_unless {c : Prop} [Decidable c] {e : Fault} {f : PUnit → Act ε σ β}
    (hf : Obeys T s (f ⟨⟩)) : Obeys T s (if c then throw e >>= f else f ⟨⟩) :=
  obeys_ite (fun _ => Composes.nothing s) fun _ => hf

theorem Obeys.caught {handle : Fault → Act ε σ α} (hx : Obeys T s x)
    (hh : ∀ e, (x s).value = .error e → Obeys T (x s).state (handle e)) :
    Obeys T s (tryCatch x handle) := by
  unfold Obeys
  cases h : (x s).value with
  | ok a =>
    rw [tryCatch_ok h]
    exact hx
  | error e =>
    rw [tryCatch_error h]
    exact Composes.next hx (hh e h)

theorem Composes.each {es : List ε} (h : ∀ e ∈ es, T s [e] s) : T s es s := by
  induction es with
  | nil => exact nothing s
  | cons e es ih =>
    exact next (h e List.mem_cons_self) (ih fun e' he => h e' (List.mem_cons_of_mem _ he))

end Obeys

/-- What holds of the state still holds of it afterwards, and only such faults stop the action. -/
def Survives (P : σ → Prop) (mild : Fault → Prop) (x : Act ε σ α) : Prop :=
  ∀ s, P s → P (x s).state ∧ ∀ e, (x s).value = .error e → mild e

section Survives

variable {P : σ → Prop} {mild : Fault → Prop}

theorem survives_pure (a : α) : Survives P mild (pure a : Act ε σ α) :=
  fun _ holds => ⟨holds, nofun⟩

theorem survives_emit (e : ε) : Survives P mild (emit e : Act ε σ Unit) :=
  fun _ holds => ⟨holds, nofun⟩

theorem survives_modify {g : σ → σ} (kept : ∀ s, P s → P (g s)) :
    Survives P mild (modify g : Act ε σ PUnit) :=
  fun s holds => ⟨kept s holds, nofun⟩

theorem survives_throw {e : Fault} (h : mild e) : Survives P mild (throw e : Act ε σ α) := by
  intro s holds
  refine ⟨holds, ?_⟩
  rintro _ ⟨⟩
  exact h

theorem survives_lift {v : Except Fault α} (h : ∀ e, v = .error e → mild e) :
    Survives P mild (lift v : Act ε σ α) :=
  fun _ holds => ⟨holds, h⟩

theorem Survives.bind (hx : Survives P mild x) (hf : ∀ a, Survives P mild (f a)) :
    Survives P mild (x >>= f) := by
  intro s holds
  obtain ⟨holds', stops⟩ := hx s holds
  cases h : (x s).value with
  | ok a =>
    rw [bind_ok h]
    exact hf a _ holds'
  | error e =>
    rw [bind_error h]
    refine ⟨holds', ?_⟩
    rintro _ ⟨⟩
    exact stops e h

theorem Survives.caught {handle : Fault → Act ε σ α} (hx : Survives P mild x)
    (hh : ∀ e, mild e → Survives P mild (handle e)) : Survives P mild (tryCatch x handle) := by
  intro s holds
  obtain ⟨holds', stops⟩ := hx s holds
  cases h : (x s).value with
  | ok a =>
    rw [tryCatch_ok h]
    exact ⟨holds', nofun⟩
  | error e =>
    rw [tryCatch_error h]
    exact hh e (stops e h) _ holds'

/-- What follows may rely on what holds of the state that was looked at. -/
theorem survives_get_bind {f : σ → Act ε σ β} (hf : ∀ s, P s → Survives P mild (f s)) :
    Survives P mild (get >>= f) :=
  fun s holds => hf s holds s holds

theorem survives_ite {c : Prop} [Decidable c] {x y : Act ε σ α} (hx : c → Survives P mild x)
    (hy : ¬ c → Survives P mild y) : Survives P mild (if c then x else y) := by
  split
  · exact hx ‹c›
  · exact hy ‹¬ c›

/-- What stops here stops with a mild fault or not at all. -/
theorem survives_unless {c : Prop} [Decidable c] {e : Fault} {f : PUnit → Act ε σ β}
    (h : c → mild e) (hf : Survives P mild (f ⟨⟩)) :
    Survives P mild (if c then throw e >>= f else f ⟨⟩) :=
  survives_ite (fun there => survives_throw (h there)) fun _ => hf

end Survives

/-- One action, as far as the view shows, does what the other does. -/
def Mirrors (view : σ → τ) (s : σ) (x : Act ε σ α) (y : Act ε τ α) : Prop :=
  y (view s) = ⟨(x s).value, view (x s).state, (x s).effects⟩

theorem Mirrors.bind {view : σ → τ} {y : Act ε τ α} {g : α → Act ε τ β} (hx : Mirrors view s x y)
    (hf : ∀ a, Mirrors view (x s).state (f a) (g a)) : Mirrors view s (x >>= f) (y >>= g) := by
  unfold Mirrors at hx hf ⊢
  cases h : (x s).value with
  | ok a => rw [bind_ok h, bind_ok (by rw [hx]; exact h), hx, hf a]
  | error e => rw [bind_error h, bind_error (by rw [hx]; exact h), hx]

/-- What the view passes over has no part in what is done, and is passed over afterwards too. -/
def Blind (view : σ → σ) (x : Act ε σ α) : Prop := ∀ s, Mirrors view s x x

section Blind

variable {view : σ → σ}

theorem blind_pure (a : α) : Blind view (pure a : Act ε σ α) := fun _ => rfl

theorem blind_emit (e : ε) : Blind view (emit e : Act ε σ Unit) := fun _ => rfl

theorem blind_throw (e : Fault) : Blind view (throw e : Act ε σ α) := fun _ => rfl

theorem blind_lift (v : Except Fault α) : Blind view (lift v : Act ε σ α) := fun _ => rfl

theorem blind_modify {g : σ → σ} (same : ∀ s, g (view s) = view (g s)) :
    Blind view (modify g : Act ε σ PUnit) := by
  intro s
  simp [Mirrors, same]

theorem Blind.bind (hx : Blind view x) (hf : ∀ a, Blind view (f a)) : Blind view (x >>= f) :=
  fun s => (hx s).bind fun a => hf a _

/-- What is looked at is none of what is passed over. -/
theorem blind_get_bind {f : σ → Act ε σ β} (same : ∀ s, f (view s) = f s)
    (hf : ∀ s, Blind view (f s)) : Blind view (get >>= f) := by
  intro s
  unfold Mirrors
  rw [get_bind, get_bind, same]
  exact hf s s

theorem blind_ite {c : Prop} [Decidable c] {x y : Act ε σ α} (hx : Blind view x)
    (hy : Blind view y) : Blind view (if c then x else y) := by
  split
  · exact hx
  · exact hy

theorem Blind.attempt (hx : Blind view x) : Blind view (attempt x) := by
  intro s
  have same : x (view s) = _ := hx s
  unfold Mirrors Act.attempt
  rw [same]

theorem Blind.caught {handle : Fault → Act ε σ α} (hx : Blind view x)
    (hh : ∀ e, Blind view (handle e)) : Blind view (tryCatch x handle) := by
  intro s
  have same := hx s
  unfold Mirrors at same ⊢
  cases h : (x s).value with
  | ok a => rw [tryCatch_ok h, tryCatch_ok (by rw [same]; exact h), same]
  | error e => rw [tryCatch_error h, tryCatch_error (by rw [same]; exact h), same, hh e _]

end Blind

end GnssMonitor.Act
