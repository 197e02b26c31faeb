import Mathlib.Tactic

/-!
# Programs with state that may raise

A method of a mutable object reads and writes its state and may raise; what it
wrote before raising stays written.  Such a method is a program of `EStateM`.
`Ensures` states what holds after a program has returned and after it has
raised, and has one rule for each way of building a program.
-/

namespace ManyAlerts

variable {ε σ α β : Type}

/-- Raise when the condition holds. -/
def refuse (condition : Prop) [Decidable condition] (error : ε) : EStateM ε σ Unit :=
  if condition then throw error else pure ()

/-- The value of an option; its absence raises. -/
def orRaise (error : ε) : Option α → EStateM ε σ α
  | none => throw error
  | some value => pure value

/-- The result of a computation without state. -/
def orThrow : Except ε α → EStateM ε σ α
  | .error error => throw error
  | .ok value => pure value

/-- Starting from a state, the program ends as described: returning, or raising. -/
def Ensures (program : EStateM ε σ α) (state : σ) (returns : α → σ → Prop)
    (raises : ε → σ → Prop) : Prop :=
  match program.run state with
  | .ok value next => returns value next
  | .error error next => raises error next

/-- How a program ends: its result, and the state it leaves. -/
def outcome (program : EStateM ε σ α) (state : σ) : Except ε α × σ :=
  match program.run state with
  | .ok value next => (.ok value, next)
  | .error error next => (.error error, next)

section Rules

variable {state : σ} {returns : α → σ → Prop} {raises : ε → σ → Prop}

@[simp] theorem ensures_pure {value : α} :
    Ensures (pure value : EStateM ε σ α) state returns raises ↔ returns value state := Iff.rfl

@[simp] theorem ensures_throw {error : ε} :
    Ensures (throw error : EStateM ε σ α) state returns raises ↔ raises error state := Iff.rfl

@[simp] theorem ensures_get {returns : σ → σ → Prop} :
    Ensures (get : EStateM ε σ σ) state returns raises ↔ returns state state := Iff.rfl

@[simp] theorem ensures_set {after : σ} {returns : PUnit → σ → Prop} :
    Ensures (set after : EStateM ε σ PUnit) state returns raises ↔ returns .unit after := Iff.rfl

@[simp] theorem ensures_modify {change : σ → σ} {returns : PUnit → σ → Prop} :
    Ensures (modify change : EStateM ε σ PUnit) state returns raises ↔
      returns .unit (change state) := Iff.rfl

@[simp] theorem ensures_bind {program : EStateM ε σ β} {next : β → EStateM ε σ α} :
    Ensures (program >>= next) state returns raises ↔
      Ensures program state (fun value after => Ensures (next value) after returns raises)
        raises := by
  unfold Ensures
  simp only [EStateM.run, bind, EStateM.bind]
  cases program state <;> rfl

@[simp] theorem ensures_map {program : EStateM ε σ β} {change : β → α} :
    Ensures (change <$> program) state returns raises ↔
      Ensures program state (fun value => returns (change value)) raises := by
  unfold Ensures
  simp only [EStateM.run, Functor.map, EStateM.map]
  cases program state <;> rfl

@[simp] theorem ensures_refuse {condition : Prop} [Decidable condition] {error : ε}
    {returns : Unit → σ → Prop} :
    Ensures (refuse condition error : EStateM ε σ Unit) state returns raises ↔
      (condition → raises error state) ∧ (¬condition → returns () state) := by
  unfold refuse
  split_ifs with holds <;> simp [holds]

@[simp] theorem ensures_orRaise {error : ε} {option : Option α} :
    Ensures (orRaise error option : EStateM ε σ α) state returns raises ↔
      (option = none → raises error state) ∧ ∀ value, option = some value →
      returns value state := by
  cases option <;> simp [orRaise]

@[simp] theorem ensures_orThrow {result : Except ε α} :
    Ensures (orThrow result : EStateM ε σ α) state returns raises ↔
      (∀ error, result = .error error → raises error state) ∧
        ∀ value, result = .ok value → returns value state := by
  cases result <;> simp [orThrow]

@[simp] theorem ensures_ite {condition : Prop} [Decidable condition]
    {yes no : EStateM ε σ α} :
    Ensures (if condition then yes else no) state returns raises ↔
      (condition → Ensures yes state returns raises) ∧
        (¬condition → Ensures no state returns raises) := by
  split_ifs with holds <;> simp [holds]

/-- A handler runs in the state in which the program raised. -/
@[simp] theorem ensures_tryCatch {program : EStateM ε σ α} {handler : ε → EStateM ε σ α} :
    Ensures (tryCatch program handler) state returns raises ↔
      Ensures program state returns
        (fun error after => Ensures (handler error) after returns raises) := by
  unfold Ensures
  simp only [EStateM.run, tryCatch, tryCatchThe, MonadExceptOf.tryCatch, EStateM.tryCatch]
  cases program state <;> rfl

theorem Ensures.mono {program : EStateM ε σ α} {returns' : α → σ → Prop} {raises' : ε → σ → Prop}
    (ensures : Ensures program state returns raises)
    (onReturn : ∀ value next, returns value next → returns' value next)
    (onRaise : ∀ error next, raises error next → raises' error next) :
    Ensures program state returns' raises' := by
  unfold Ensures at *
  cases ended : program.run state with
  | ok value next =>
      rw [ended] at ensures
      exact onReturn value next ensures
  | error error next =>
      rw [ended] at ensures
      exact onRaise error next ensures

/-- What is ensured of both ways to end holds of the way the program did end. -/
theorem Ensures.of_outcome {program : EStateM ε σ α} {ending : Except ε α → σ → Prop}
    {result : Except ε α} {next : σ}
    (ensures : Ensures program state (fun value => ending (.ok value))
      fun error => ending (.error error))
    (ended : outcome program state = (result, next)) : ending result next := by
  unfold Ensures at ensures
  unfold outcome at ended
  cases run : program.run state with
  | ok | error =>
      simp only [run, Prod.mk.injEq] at ensures ended
      rw [← ended.1, ← ended.2]
      exact ensures

end Rules

end ManyAlerts
