import ManyAlerts.Library.Runs

/-!
# Threads that share a state

A system of threads has a shared state and, for every thread, the place it has
reached.  In one turn one thread moves: it changes the shared state and its own
place, and leaves the places of the others.  A run of turns is an interleaving.

Safety is proved move by move.  It is enough that a move keeps what holds of the
shared state, reaches a safe place, and leaves the places of the other threads
safe.
-/

namespace ManyAlerts

variable {τ σ π : Type} [DecidableEq τ] {move : τ → σ → π → σ → π → Prop}

structure Threads (τ σ π : Type) where
  shared : σ
  place : τ → π

/-- One thread moves. -/
inductive Turn (move : τ → σ → π → σ → π → Prop) (system : Threads τ σ π) (thread : τ) :
    Threads τ σ π → Prop where
  | moved {shared : σ} {place : π} (moves : move thread system.shared (system.place thread)
      shared place) : Turn move system thread ⟨shared, Function.update system.place thread place⟩

/-- Every interleaving of the moves. -/
abbrev Interleaving (move : τ → σ → π → σ → π → Prop) :
    Threads τ σ π → List τ → Threads τ σ π → Prop :=
  Run (Turn move)

/-- The next turn is `thread`'s. -/
theorem Interleaving.moved {start system : Threads τ σ π} {turns : List τ} {shared : σ} {place : π}
    (run : Interleaving move start turns system) (thread : τ)
    (moves : move thread system.shared (system.place thread) shared place) :
    Interleaving move start (turns ++ [thread])
      ⟨shared, Function.update system.place thread place⟩ :=
  run.turn (.moved moves)

/-- The shared state is safe, and so is the place of every thread under it. -/
structure Threads.Safe (sharedSafe : σ → Prop) (placeSafe : τ → σ → π → Prop)
    (system : Threads τ σ π) : Prop where
  shared : sharedSafe system.shared
  place : ∀ thread, placeSafe thread system.shared (system.place thread)

/-- What makes safety hold of every interleaving: the moving thread reaches a safe
place, and the places of the others stay safe. -/
structure Threads.Preserved (move : τ → σ → π → σ → π → Prop) (sharedSafe : σ → Prop)
    (placeSafe : τ → σ → π → Prop) : Prop where
  own : ∀ thread shared place shared' place', sharedSafe shared →
    placeSafe thread shared place → move thread shared place shared' place' →
    sharedSafe shared' ∧ placeSafe thread shared' place'
  others : ∀ thread other shared place shared' place' kept, other ≠ thread →
    sharedSafe shared → placeSafe thread shared place → placeSafe other shared kept →
    move thread shared place shared' place' → placeSafe other shared' kept

section Safe

variable {sharedSafe : σ → Prop} {placeSafe : τ → σ → π → Prop} {system next : Threads τ σ π}
  {thread : τ} {turns : List τ}

theorem Threads.Preserved.turn (preserved : Threads.Preserved move sharedSafe placeSafe)
    (safe : system.Safe sharedSafe placeSafe) (turn : Turn move system thread next) :
    next.Safe sharedSafe placeSafe := by
  cases turn with
  | moved moves =>
      obtain ⟨sharedAfter, placeAfter⟩ :=
        preserved.own _ _ _ _ _ safe.shared (safe.place thread) moves
      refine ⟨sharedAfter, fun other => ?_⟩
      by_cases same : other = thread
      · subst same
        simpa using placeAfter
      · have kept := preserved.others _ _ _ _ _ _ _ same safe.shared (safe.place thread)
          (safe.place other) moves
        simpa [Function.update_of_ne same] using kept

theorem Threads.Preserved.run (preserved : Threads.Preserved move sharedSafe placeSafe)
    (safe : system.Safe sharedSafe placeSafe) (run : Interleaving move system turns next) :
    next.Safe sharedSafe placeSafe := by
  induction run with
  | start => exact safe
  | turn run last induction => exact preserved.turn induction last

end Safe

/-- A quantity no turn increases is at most what it was. -/
theorem Run.nonincreasing {σ τ : Type} {step : σ → τ → σ → Prop} {holds : σ → Prop}
    {quantity : σ → Nat} {state next : σ} {turns : List τ} (initially : holds state)
    (preserved : ∀ reached turn next, holds reached → step reached turn next →
      holds next ∧ quantity next ≤ quantity reached)
    (run : Run step state turns next) : quantity next ≤ quantity state := by
  have both : holds next ∧ quantity next ≤ quantity state := by
    induction run with
    | start => exact ⟨initially, le_rfl⟩
    | turn run last induction =>
        obtain ⟨kept, smaller⟩ := preserved _ _ _ induction.1 last
        exact ⟨kept, smaller.trans induction.2⟩
  exact both.2

end ManyAlerts
