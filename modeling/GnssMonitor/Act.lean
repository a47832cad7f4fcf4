import GnssMonitor.Fault

/-! Actions on a state: what they return or stop with, the state they leave, and what they do to
the outside, in order. One that stops keeps what it changed and did before. -/

namespace GnssMonitor

structure Outcome (ε σ α : Type) where
  value : Except Fault α
  state : σ
  effects : List ε

def Act (ε σ α : Type) : Type := σ → Outcome ε σ α

namespace Act

variable {ε δ σ τ α β : Type}

def run (x : Act ε σ α) (s : σ) : Outcome ε σ α := x s

instance : Monad (Act ε σ) where
  pure a := fun s => ⟨.ok a, s, []⟩
  bind x f := fun s =>
    let r := x s
    match r.value with
    | .ok a =>
      let r' := f a r.state
      ⟨r'.value, r'.state, r.effects ++ r'.effects⟩
    | .error e => ⟨.error e, r.state, r.effects⟩

instance : MonadStateOf σ (Act ε σ) where
  get := fun s => ⟨.ok s, s, []⟩
  set s := fun _ => ⟨.ok (), s, []⟩
  modifyGet f := fun s => let (a, s) := f s; ⟨.ok a, s, []⟩

instance : MonadExceptOf Fault (Act ε σ) where
  throw e := fun s => ⟨.error e, s, []⟩
  tryCatch x handle := fun s =>
    let r := x s
    match r.value with
    | .ok a => ⟨.ok a, r.state, r.effects⟩
    | .error e =>
      let r' := handle e r.state
      ⟨r'.value, r'.state, r.effects ++ r'.effects⟩

def emit (e : ε) : Act ε σ Unit := fun s => ⟨.ok (), s, [e]⟩

def emitAll (es : List ε) : Act ε σ Unit := fun s => ⟨.ok (), s, es⟩

def lift (x : Except Fault α) : Act ε σ α := fun s => ⟨x, s, []⟩

/-- What an action stops with becomes its answer. -/
def attempt (x : Act ε σ α) : Act ε σ (Except Fault α) := fun s =>
  let r := x s
  ⟨.ok r.value, r.state, r.effects⟩

/-- An action on a part of the state; its effects are among those of the whole. -/
def within (view : σ → τ) (put : τ → σ → σ) (embed : δ → ε) (x : Act δ τ α) : Act ε σ α :=
  fun s =>
    let r := x (view s)
    ⟨r.value, put r.state s, r.effects.map embed⟩

end Act
end GnssMonitor
