import Mathlib.Logic.Basic

/-!
# Python Calls

The part of Python's semantics that `distributed_c10d.py` is written against.

A function of the module reads and writes module globals, and may raise at any
point. A raise does not undo the writes made before it: `_new_process_group_helper`
advances `_group_count` and only then checks the name, so a call that fails there
still leaves the counter moved. `Outcome` therefore keeps the state a call reached
whether it returned or raised, and `Py σ α` is a function from the state before to
that outcome. The same monad, over a different state, records the requests the
collective dispatcher hands to a transport.

The monad laws are needed only in the forms the models unfold into, and each of
those is true by `rfl`; they are tagged `@[simp]` so that a model's body evaluates
by `simp only` without unfolding the instances. A guard `if cond: raise e` is the
one call `raiseIf`, rather than an `if` inside the `do` block, which would copy the
rest of the block into both of its branches.

## Main definitions

* `Error`: The exceptions the module raises, or lets through.
* `Outcome`: The state a call reached, and what it returned or raised.
* `Py`: A call over a state.
* `Py.raiseIf`: `if cond: raise e`.
* `Py.ReadOnly`: A call that writes nothing.

## Theorems

* `bind_apply`, `pure_apply`, `get_apply`, `set_apply`, `modify_apply`,
  `throw_apply`, `map_apply`, `lift_apply`: Running each primitive.
* `readOnly_bind`: Calls that write nothing compose into one.
-/

namespace DistributedC10d

/-- The exceptions a call can end in. Messages are those the source writes; the
    exceptions raised by what the module calls into carry none. -/
inductive Error where
  /-- `RuntimeError(msg)`. -/
  | runtime (msg : String)
  /-- `ValueError(msg)`. -/
  | value (msg : String)
  /-- A failed `assert`, with its message, or `""` where it has none. -/
  | assertion (msg : String)
  /-- `KeyError` from a dictionary subscript or `del`. -/
  | key
  /-- `IndexError` from a list subscript. -/
  | index
  /-- `TypeError`: a binding given `None` for an integer, or a string called. -/
  | type
  /-- `AttributeError`: a method looked up on the `NON_GROUP_MEMBER` sentinel. -/
  | attribute
  /-- `NameError`: a class the build does not have, or a name never bound. -/
  | name
  /-- Whatever a transport raises; the module does not look inside it. -/
  | transport
  deriving DecidableEq, Repr

-- Results can be compared, so a call on given inputs can be checked by evaluation.
instance instDecidableEqExcept {ε α : Type} [DecidableEq ε] [DecidableEq α] :
    DecidableEq (Except ε α)
  | .ok a, .ok b => decidable_of_iff (a = b) ⟨congrArg _, Except.ok.inj⟩
  | .error a, .error b => decidable_of_iff (a = b) ⟨congrArg _, Except.error.inj⟩
  | .ok _, .error _ => isFalse fun h => Except.noConfusion h
  | .error _, .ok _ => isFalse fun h => Except.noConfusion h

/-- Where a call leaves things: the state it reached, and the value it returned or the
    exception it raised. -/
structure Outcome (σ α : Type) where
  state : σ
  result : Except Error α
  deriving DecidableEq

/-- A Python call over a state `σ`. -/
def Py (σ α : Type) : Type := σ → Outcome σ α

namespace Py

variable {σ : Type}

instance : Monad (Py σ) where
  pure a := fun s => ⟨s, .ok a⟩
  bind x f := fun s => match x s with
    | ⟨s', .ok a⟩ => f a s'
    | ⟨s', .error e⟩ => ⟨s', .error e⟩

instance : MonadStateOf σ (Py σ) where
  get := fun s => ⟨s, .ok s⟩
  set s' := fun _ => ⟨s', .ok ⟨⟩⟩
  modifyGet f := fun s => ⟨(f s).2, .ok (f s).1⟩

instance : MonadExceptOf Error (Py σ) where
  throw e := fun s => ⟨s, .error e⟩
  tryCatch x h := fun s => match x s with
    | ⟨s', .ok a⟩ => ⟨s', .ok a⟩
    | ⟨s', .error e⟩ => h e s'

/-- A pure computation that may raise runs without touching the state. -/
instance : MonadLift (Except Error) (Py σ) where
  monadLift x := fun s => ⟨s, x⟩

@[simp] theorem bind_apply {α β : Type} (x : Py σ α) (f : α → Py σ β) (s : σ) :
    (x >>= f) s = match x s with
      | ⟨s', .ok a⟩ => f a s'
      | ⟨s', .error e⟩ => ⟨s', .error e⟩ := rfl

@[simp] theorem pure_apply {α : Type} (a : α) (s : σ) : (pure a : Py σ α) s = ⟨s, .ok a⟩ :=
  rfl

@[simp] theorem get_apply (s : σ) : (get : Py σ σ) s = ⟨s, .ok s⟩ := rfl

@[simp] theorem set_apply (s s' : σ) : (set s' : Py σ PUnit) s = ⟨s', .ok ⟨⟩⟩ := rfl

@[simp] theorem modify_apply (f : σ → σ) (s : σ) : (modify f : Py σ PUnit) s = ⟨f s, .ok ⟨⟩⟩ :=
  rfl

@[simp] theorem throw_apply {α : Type} (e : Error) (s : σ) :
    (throw e : Py σ α) s = ⟨s, .error e⟩ := rfl

@[simp] theorem map_apply {α β : Type} (f : α → β) (x : Py σ α) (s : σ) :
    (f <$> x) s = match x s with
      | ⟨s', .ok a⟩ => ⟨s', .ok (f a)⟩
      | ⟨s', .error e⟩ => ⟨s', .error e⟩ := rfl

@[simp] theorem lift_apply {α : Type} (x : Except Error α) (s : σ) :
    (monadLift x : Py σ α) s = ⟨s, x⟩ := rfl

@[simp] theorem pure_bind {α β : Type} (a : α) (f : α → Py σ β) : (pure a >>= f) = f a := rfl

/-- A step that may raise, followed by the rest of the call: the rest runs on its value,
    or the exception propagates with the state untouched. -/
@[simp] theorem lift_bind_apply {α β : Type} (x : Except Error α) (f : α → Py σ β) (s : σ) :
    ((liftM x : Py σ α) >>= f) s = match x with
      | .ok a => f a s
      | .error e => ⟨s, .error e⟩ := by
  cases x <;> rfl

/-- The same, under a map of the call's result. -/
@[simp] theorem map_lift_bind_apply {α β γ : Type} (f : β → γ) (x : Except Error α)
    (k : α → Py σ β) (s : σ) :
    (f <$> ((liftM x : Py σ α) >>= k)) s = match x with
      | .ok a => (f <$> k a) s
      | .error e => ⟨s, .error e⟩ := by
  cases x <;> rfl

/-- `if cond: raise e`. -/
def raiseIf (cond : Prop) [Decidable cond] (e : Error) : Py σ Unit :=
  if cond then throw e else pure ()

@[simp] theorem raiseIf_apply (cond : Prop) [Decidable cond] (e : Error) (s : σ) :
    (raiseIf cond e : Py σ Unit) s = if cond then ⟨s, .error e⟩ else ⟨s, .ok ()⟩ := by
  unfold raiseIf
  split <;> rfl

/-- A call that leaves the state as it found it, however it ends. -/
def ReadOnly {α : Type} (x : Py σ α) : Prop := ∀ s, (x s).state = s

theorem readOnly_pure {α : Type} (a : α) : ReadOnly (pure a : Py σ α) := fun _ => rfl

theorem readOnly_throw {α : Type} (e : Error) : ReadOnly (throw e : Py σ α) := fun _ => rfl

theorem readOnly_get : ReadOnly (get : Py σ σ) := fun _ => rfl

theorem readOnly_lift {α : Type} (x : Except Error α) : ReadOnly (monadLift x : Py σ α) :=
  fun _ => rfl

theorem readOnly_bind {α β : Type} {x : Py σ α} {f : α → Py σ β} (hx : ReadOnly x)
    (hf : ∀ a, ReadOnly (f a)) : ReadOnly (x >>= f) := by
  intro s
  have h := hx s
  rw [bind_apply]
  rcases hxs : x s with ⟨s', r⟩
  rw [hxs] at h
  subst h
  cases r with
  | ok a => exact hf a _
  | error e => rfl

end Py

namespace Except

variable {α β : Type}

theorem bind_eq_ok_iff {x : Except Error α} {f : α → Except Error β} {b : β} :
    x >>= f = .ok b ↔ ∃ a, x = .ok a ∧ f a = .ok b := by
  cases x <;> simp [bind, Except.bind]

theorem map_eq_ok_iff {f : α → β} {x : Except Error α} {b : β} :
    f <$> x = .ok b ↔ ∃ a, x = .ok a ∧ f a = b := by
  cases x <;> simp [Functor.map, Except.map]

theorem map_eq_error {f : α → β} {r : Except Error α} {e : Error}
    (h : r.map f = .error e) : r = .error e := by
  cases r <;> simp_all [Except.map]

end Except

end DistributedC10d
