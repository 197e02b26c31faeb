import Mathlib.Order.Monotone.Basic

/-!
# Rounds until nothing changes

A loop replaces a value by what a function makes of it until the two agree.
A finished run is a derivation, so its existence is the termination of the loop.
For a monotone function that starts by going up, the loop reaches the least
fixed point above its start, whenever there is any bound to keep it.
-/

namespace ManyAlerts

variable {α : Type}

/-- A finished run of the loop. -/
inductive Settles (round : α → α) : α → α → Prop
  | stop {value : α} (fixed : round value = value) : Settles round value value
  | again {value last : α} (changed : round value ≠ value)
      (later : Settles round (round value) last) : Settles round value last

theorem Settles.fixed {round : α → α} {start last : α} (settles : Settles round start last) :
    round last = last := by
  induction settles with
  | stop fixed => exact fixed
  | again _ _ induction => exact induction

theorem Settles.unique {round : α → α} {start left right : α}
    (first : Settles round start left) (second : Settles round start right) : left = right := by
  induction first with
  | stop fixed =>
      cases second with
      | stop => rfl
      | again changed => exact absurd fixed changed
  | again changed _ induction =>
      cases second with
      | stop fixed => exact absurd fixed changed
      | again _ later => exact induction later

theorem Settles.le_of_fixed [Preorder α] {round : α → α} (mono : Monotone round)
    {start last bound : α} (settles : Settles round start last) (below : start ≤ bound)
    (fixed : round bound = bound) : last ≤ bound := by
  induction settles with
  | stop => exact below
  | again _ _ induction =>
      apply induction
      rw [← fixed]
      exact mono below

theorem Settles.start_le [Preorder α] {round : α → α} (mono : Monotone round)
    {start last : α} (settles : Settles round start last) (climbing : start ≤ round start) :
    start ≤ last := by
  induction settles with
  | stop => exact le_refl _
  | again _ _ induction => exact climbing.trans (induction (mono climbing))

/-- The loop for at most so many rounds. -/
def settleWithin [DecidableEq α] (round : α → α) : Nat → α → α
  | 0, value => value
  | rounds + 1, value =>
      if round value = value then round value else settleWithin round rounds (round value)

/-- Below a bound that is large enough for itself a climb ends within the distance. -/
theorem settles_settleWithin {round : Nat → Nat} (mono : Monotone round) {rounds start bound : Nat}
    (climbing : start ≤ round start) (below : start ≤ bound) (enough : round bound ≤ bound)
    (fuel : bound - start < rounds) :
    Settles round start (settleWithin round rounds start) ∧
      settleWithin round rounds start ≤ bound := by
  induction rounds generalizing start with
  | zero => omega
  | succ rounds induction =>
      rw [settleWithin]
      split_ifs with fixed
      · rw [fixed]
        exact ⟨.stop fixed, below⟩
      · have onward : round start ≤ bound := (mono below).trans enough
        obtain ⟨later, bounded⟩ := induction (mono climbing) onward (by omega)
        exact ⟨.again fixed later, bounded⟩

end ManyAlerts
