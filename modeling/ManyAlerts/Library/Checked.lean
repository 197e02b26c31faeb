import Mathlib.Tactic

/-!
# Checked computations

Code that validates its input raises at the first check that fails and goes on
otherwise.  It is written here in `Except` with `failIf` for one check,
`checkAll` for a loop of checks and `collect` for a loop of results; the lemmas
turn "this computation returned" into the conjunction of everything it checked.
-/

namespace ManyAlerts

variable {ε α β : Type}

/-- Raise when the condition holds. -/
def failIf (condition : Prop) [Decidable condition] (error : ε) : Except ε Unit :=
  if condition then .error error else .ok ()

/-- The value of an option, or an error in its absence. -/
def orFail (error : ε) : Option α → Except ε α
  | none => .error error
  | some value => .ok value

/-- Run a check over a list, stopping at the first failure. -/
def checkAll (check : α → Except ε Unit) : List α → Except ε Unit
  | [] => .ok ()
  | item :: items => do
      check item
      checkAll check items

/-- All results, or the first error. -/
def collect : List (Except ε α) → Except ε (List α)
  | [] => .ok []
  | result :: results => do
      let value ← result
      let values ← collect results
      return value :: values

@[simp] theorem failIf_eq_ok {condition : Prop} [Decidable condition] {error : ε} {done : Unit} :
    failIf condition error = .ok done ↔ ¬condition := by
  unfold failIf
  split_ifs with holds <;> simp [holds]

@[simp] theorem orFail_eq_ok {error : ε} {option : Option α} {value : α} :
    orFail error option = .ok value ↔ option = some value := by
  cases option <;> simp [orFail]

theorem toOption_eq_some {result : Except ε α} {value : α} :
    result.toOption = some value ↔ result = .ok value := by
  cases result <;> simp [Except.toOption]

@[simp] theorem bind_eq_ok {computation : Except ε α} {next : α → Except ε β} {result : β} :
    (computation >>= next) = .ok result ↔
      ∃ value, computation = .ok value ∧ next value = .ok result := by
  cases computation with
  | error error => simp [bind, Except.bind]
  | ok value => simp [bind, Except.bind]

@[simp] theorem exists_unit {property : Unit → Prop} :
    (∃ value, property value) ↔ property () :=
  Unique.exists_iff

@[simp] theorem pure_eq_ok {value result : α} :
    (pure value : Except ε α) = .ok result ↔ value = result := by
  simp [pure, Except.pure]

theorem failIf_eq_error {condition : Prop} [Decidable condition] {error raised : ε} :
    failIf condition error = .error raised ↔ condition ∧ error = raised := by
  unfold failIf
  split_ifs with holds <;> simp [holds]

theorem orFail_eq_error {error raised : ε} {option : Option α} :
    orFail error option = .error raised ↔ option = none ∧ error = raised := by
  cases option <;> simp [orFail]

/-- A computation of two parts fails in the first or in the second. -/
theorem bind_eq_error {computation : Except ε α} {next : α → Except ε β} {raised : ε} :
    (computation >>= next) = .error raised ↔
      computation = .error raised ∨
        ∃ value, computation = .ok value ∧ next value = .error raised := by
  cases computation with
  | error error => simp [bind, Except.bind]
  | ok value => simp [bind, Except.bind]

theorem failIf_of_not {condition : Prop} [Decidable condition] {error : ε}
    (holds : ¬condition) : failIf condition error = .ok () := by
  simp [holds]

theorem failIf_of {condition : Prop} [Decidable condition] {error : ε} (holds : condition) :
    failIf condition error = .error error := by
  rw [failIf, if_pos holds]

@[simp] theorem ok_bind (value : α) (next : α → Except ε β) :
    (Except.ok value >>= next) = next value := rfl

@[simp] theorem error_bind (error : ε) (next : α → Except ε β) :
    ((Except.error error : Except ε α) >>= next) = .error error := rfl

theorem checkAll_eq_ok {check : α → Except ε Unit} {items : List α} :
    checkAll check items = .ok () ↔ ∀ item ∈ items, check item = .ok () := by
  induction items with
  | nil => simp [checkAll]
  | cons item items induction => simp [checkAll, induction]

/-- A loop whose steps return exactly `value item` when `Good item` holds. -/
theorem collect_map_eq_ok {step : α → Except ε β} {value : α → β} {Good : α → Prop}
    {items : List α} {results : List β}
    (spec : ∀ item ∈ items, ∀ result,
      step item = .ok result ↔ Good item ∧ result = value item) :
    collect (items.map step) = .ok results ↔
      (∀ item ∈ items, Good item) ∧ results = items.map value := by
  induction items generalizing results with
  | nil => simp [collect, eq_comm]
  | cons item items induction =>
      have first := spec item (by simp)
      have rest (results : List β) :
          collect (items.map step) = .ok results ↔
            (∀ item ∈ items, Good item) ∧ results = items.map value :=
        induction fun later member => spec later (by simp [member])
      simp only [List.map_cons, collect, bind_eq_ok, pure_eq_ok, first, rest, List.mem_cons,
        forall_eq_or_imp]
      constructor
      · rintro ⟨_, ⟨good, rfl⟩, _, ⟨others, rfl⟩, rfl⟩
        exact ⟨⟨good, others⟩, rfl⟩
      · rintro ⟨⟨good, others⟩, rfl⟩
        exact ⟨_, ⟨good, rfl⟩, _, ⟨others, rfl⟩, rfl⟩

/-! ## Runs -/

section Runs

variable {σ : Type} {step : σ → α → Except ε σ} {start finish : σ} {items : List α}

/-- What every step of a run preserves holds at its end. -/
theorem foldlM_preserves {Holds : σ → Prop}
    (preserved : ∀ state item next, Holds state → step state item = .ok next → Holds next)
    (initial : Holds start) (run : items.foldlM step start = .ok finish) : Holds finish := by
  induction items generalizing start with
  | nil =>
      obtain rfl := pure_eq_ok.mp run
      exact initial
  | cons item items induction =>
      rw [List.foldlM_cons, bind_eq_ok] at run
      obtain ⟨next, first, rest⟩ := run
      exact induction (preserved start item next initial first) rest

/-- A relation between the items a run has taken and the state it has reached. -/
theorem foldlM_history {History : List α → σ → Prop}
    (preserved : ∀ done state item next,
      History done state → step state item = .ok next → History (done ++ [item]) next)
    (initial : History [] start) (run : items.foldlM step start = .ok finish) :
    History items finish := by
  induction items using List.reverseRecOn generalizing finish with
  | nil =>
      obtain rfl := pure_eq_ok.mp run
      exact initial
  | append_singleton items item induction =>
      rw [List.foldlM_append, bind_eq_ok] at run
      obtain ⟨state, before, last⟩ := run
      rw [List.foldlM_cons, bind_eq_ok] at last
      obtain ⟨next, stepped, rest⟩ := last
      obtain rfl := pure_eq_ok.mp rest
      exact preserved items state item next (induction before) stepped

end Runs

end ManyAlerts
