import AccountSecurity.Error.Failure

/-!
# Operations that change a state

An `Action σ α` turns a state into a result or a failure, and into a new state in both cases: what was
done before a failure stays done.

* `Action.refuse`, `Action.fail` : end with a failure;
* `Action.within` : an action on a part of the state;
* `Action.runOn`, with its halves `Action.outcome` and `Action.after` : running an action; one lemma says what
  it does for each kind of action, `runOn_bind` for one after the other.
-/

namespace AccountSecurity

/-- An operation that may fail and keeps its effects when it does. -/
abbrev Action (σ α : Type) := ExceptT Failure (StateM σ) α

namespace Action
variable {σ τ α : Type}

/-- Ends with a refusal. -/
def refuse (e : SecurityError) : Action σ α := throw (.refused e)

/-- Ends with a fault. -/
def fail (f : Fault) : Action σ α := throw (.fault f)

/-- The value of a computation without effects. -/
def ofExcept (r : Except Failure α) : Action σ α :=
  match r with
  | .ok a => pure a
  | .error e => throw e

/-- The value of an option, or a failure. -/
def orFail (f : Fault) : Option α → Action σ α
  | some a => pure a
  | none => fail f

/-- Runs an action. -/
def runOn (a : Action σ α) (s : σ) : Except Failure α × σ := (ExceptT.run a).run s

/-- What an action gives in a state. -/
def outcome (a : Action σ α) (s : σ) : Except Failure α := (a.runOn s).1

/-- The state after an action. -/
def after (a : Action σ α) (s : σ) : σ := (a.runOn s).2

/-- An action on a part of the state. -/
def within (part : σ → τ) (replace : τ → σ → σ) (a : Action τ α) : Action σ α :=
  ExceptT.mk fun s =>
    let (r, t) := a.runOn (part s)
    (r, replace t s)

/-! ## Running each kind of action -/

variable {β : Type}

@[simp] theorem runOn_pure (a : α) (s : σ) : (pure a : Action σ α).runOn s = (.ok a, s) := rfl

/-- The second action starts where the first ended, unless the first failed. -/
theorem runOn_bind (x : Action σ α) (f : α → Action σ β) (s : σ) :
    (x >>= f).runOn s =
      match x.runOn s with
      | (.ok a, t) => (f a).runOn t
      | (.error e, t) => (.error e, t) := by
  simp only [runOn, ExceptT.run_bind, StateT.run_bind]
  rcases (ExceptT.run x).run s with ⟨⟨⟩ | ⟨⟩, t⟩ <;> rfl

/-- A bind whose first action succeeds. -/
theorem runOn_bind_of_ok {x : Action σ α} {f : α → Action σ β} {s t : σ} {a : α}
    (h : x.runOn s = (.ok a, t)) : (x >>= f).runOn s = (f a).runOn t := by
  rw [runOn_bind, h]

/-- A bind whose first action fails. -/
theorem runOn_bind_of_error {x : Action σ α} {f : α → Action σ β} {s t : σ} {e : Failure}
    (h : x.runOn s = (.error e, t)) : (x >>= f).runOn s = (.error e, t) := by
  rw [runOn_bind, h]

theorem runOn_map (f : α → β) (x : Action σ α) (s : σ) :
    (f <$> x).runOn s = ((x.runOn s).1.map f, (x.runOn s).2) := by
  rw [← bind_pure_comp, runOn_bind]
  rcases x.runOn s with ⟨⟨⟩ | ⟨⟩, t⟩ <;> rfl

theorem snd_runOn_map (f : α → β) (x : Action σ α) (s : σ) : ((f <$> x).runOn s).2 = (x.runOn s).2 := by
  rw [runOn_map]

@[simp] theorem runOn_get (s : σ) : (get : Action σ σ).runOn s = (.ok s, s) := rfl

@[simp] theorem runOn_set (t s : σ) : (set t : Action σ PUnit).runOn s = (.ok ⟨⟩, t) := rfl

@[simp] theorem runOn_modify (f : σ → σ) (s : σ) :
    (modify f : Action σ PUnit).runOn s = (.ok ⟨⟩, f s) := rfl

@[simp] theorem runOn_refuse (e : SecurityError) (s : σ) :
    (refuse e : Action σ α).runOn s = (.error (.refused e), s) := rfl

@[simp] theorem runOn_fail (f : Fault) (s : σ) :
    (fail f : Action σ α).runOn s = (.error (.fault f), s) := rfl

@[simp] theorem runOn_ofExcept (r : Except Failure α) (s : σ) : (ofExcept r).runOn s = (r, s) := by
  cases r <;> rfl

@[simp] theorem runOn_orFail_some (f : Fault) (a : α) (s : σ) :
    (orFail f (some a)).runOn s = (.ok a, s) := rfl

@[simp] theorem runOn_orFail_none (f : Fault) (s : σ) :
    (orFail f (none : Option α)).runOn s = (.error (.fault f), s) := rfl

/-- An action on a part gives what it gives there, and changes only that part. -/
@[simp] theorem runOn_within (part : σ → τ) (replace : τ → σ → σ) (a : Action τ α) (s : σ) :
    (within part replace a).runOn s =
      ((a.runOn (part s)).1, replace (a.runOn (part s)).2 s) := rfl

end Action

end AccountSecurity
