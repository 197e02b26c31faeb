import Mathlib.Tactic

/-!
# Runs of a machine that takes turns

A machine is a relation `step state turn next`.  A `Run` makes turns one after
another; its last turn is at the end of the list, so an invariant that mentions the
turns made so far is proved by one step.
-/

namespace ManyAlerts

variable {σ τ : Type} {step : σ → τ → σ → Prop}

/-- The turns that lead from one state to another. -/
inductive Run (step : σ → τ → σ → Prop) (state : σ) : List τ → σ → Prop where
  | start : Run step state [] state
  | turn {turns : List τ} {reached next : σ} {turn : τ} (run : Run step state turns reached)
      (last : step reached turn next) : Run step state (turns ++ [turn]) next

namespace Run

variable {state reached next : σ} {turns : List τ} {turn : τ}

theorem of_nil (run : Run step state [] next) : next = state := by
  generalize empty : ([] : List τ) = whole at run
  cases run with
  | start => rfl
  | turn run last => simp at empty

theorem of_snoc (run : Run step state (turns ++ [turn]) next) :
    ∃ reached, Run step state turns reached ∧ step reached turn next := by
  generalize parts : turns ++ [turn] = whole at run
  cases run with
  | start => simp at parts
  | turn run last =>
      obtain ⟨rfl, same⟩ := List.append_inj' parts rfl
      obtain rfl := List.singleton_inj.mp same
      exact ⟨_, run, last⟩

theorem append {more : List τ} (run : Run step state turns reached)
    (rest : Run step reached more next) : Run step state (turns ++ more) next := by
  induction rest with
  | start => rwa [List.append_nil]
  | turn rest last induction =>
      rw [← List.append_assoc]
      exact induction.turn last

theorem of_append {more : List τ} (run : Run step state (turns ++ more) next) :
    ∃ reached, Run step state turns reached ∧ Run step reached more next := by
  induction more using List.reverseRecOn generalizing next with
  | nil =>
      rw [List.append_nil] at run
      exact ⟨next, run, .start⟩
  | append_singleton more turn induction =>
      rw [← List.append_assoc] at run
      obtain ⟨middle, before, last⟩ := run.of_snoc
      obtain ⟨reached, first, rest⟩ := induction before
      exact ⟨reached, first, rest.turn last⟩

theorem of_cons {more : List τ} (run : Run step state (turn :: more) next) :
    ∃ reached, step state turn reached ∧ Run step reached more next := by
  have whole : Run step state ([turn] ++ more) next := run
  obtain ⟨reached, first, rest⟩ := whole.of_append
  have single : Run step state ([] ++ [turn]) reached := first
  obtain ⟨start, nothing, only⟩ := single.of_snoc
  rw [nothing.of_nil] at only
  exact ⟨reached, only, rest⟩

/-- A turn of a run, between what came before and after it. -/
theorem of_split {before after : List τ} (run : Run step state (before ++ turn :: after) next) :
    ∃ reached middle, Run step state before reached ∧ step reached turn middle ∧
      Run step middle after next := by
  obtain ⟨reached, first, rest⟩ := run.of_append
  obtain ⟨middle, single, last⟩ := rest.of_cons
  exact ⟨reached, middle, first, single, last⟩

/-- Where every turn is determined, so is what a run reaches. -/
theorem unique (determined : ∀ state turn left right, step state turn left →
      step state turn right → left = right) {left right : σ} (first : Run step state turns left)
    (second : Run step state turns right) : left = right := by
  induction turns using List.reverseRecOn generalizing left right with
  | nil => rw [first.of_nil, second.of_nil]
  | append_singleton turns turn induction =>
      obtain ⟨before, firstRun, firstLast⟩ := first.of_snoc
      obtain ⟨other, secondRun, secondLast⟩ := second.of_snoc
      obtain rfl := induction firstRun secondRun
      exact determined _ _ _ _ firstLast secondLast

end Run

/-- Play some calls one after another: the turns they make, and the state they leave. -/
def takeTurns {κ : Type} (play : σ → κ → τ × σ) (state : σ) : List κ → List τ × σ
  | [] => ([], state)
  | call :: calls =>
      let played := play state call
      let rest := takeTurns play played.2 calls
      (played.1 :: rest.1, rest.2)

theorem run_takeTurns {κ : Type} {play : σ → κ → τ × σ}
    (plays : ∀ state call, step state (play state call).1 (play state call).2) (state : σ)
    (calls : List κ) :
    Run step state (takeTurns play state calls).1 (takeTurns play state calls).2 := by
  induction calls generalizing state with
  | nil => exact .start
  | cons call calls induction =>
      have first : Run step state ([] ++ [(play state call).1]) (play state call).2 :=
        Run.start.turn (plays state call)
      exact first.append (induction (play state call).2)

end ManyAlerts
