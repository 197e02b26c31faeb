import Mathlib.Data.List.Nodup

/-!
# Names and their roles

A use is a role together with a name.  A history of uses gives every name one
role if each addition repeats earlier uses or takes names that nothing used
before and that differ among themselves.
-/

namespace ManyAlerts

variable {R V : Type} {uses names more : List (R × V)}

/-- One name, one role. -/
def OneRole (uses : List (R × V)) : Prop :=
  ∀ first ∈ uses, ∀ second ∈ uses, first.2 = second.2 → first.1 = second.1

def Unused (uses : List (R × V)) (name : V) : Prop := ∀ use ∈ uses, use.2 ≠ name

/-- More uses that bring in `names` at most. -/
structure Naming (uses names more : List (R × V)) : Prop where
  distinct : (names.map Prod.snd).Nodup
  covered : ∀ use ∈ more, use ∈ uses ∨ use ∈ names ∧ Unused uses use.2

theorem eq_of_distinct (distinct : (names.map Prod.snd).Nodup) {first second : R × V}
    (isFirst : first ∈ names) (isSecond : second ∈ names) (same : first.2 = second.2) :
    first = second :=
  List.inj_on_of_nodup_map distinct isFirst isSecond same

theorem OneRole.append (one : OneRole uses) (naming : Naming uses names more) :
    OneRole (uses ++ more) := by
  have covered : ∀ use ∈ uses ++ more, use ∈ uses ∨ use ∈ names ∧ Unused uses use.2 := by
    intro use member
    rcases List.mem_append.mp member with before | after
    · exact .inl before
    · exact naming.covered use after
  intro first isFirst second isSecond same
  rcases covered first isFirst with firstKnown | ⟨firstNamed, firstUnused⟩
  · rcases covered second isSecond with secondKnown | ⟨-, secondUnused⟩
    · exact one first firstKnown second secondKnown same
    · exact absurd same (secondUnused first firstKnown)
  · rcases covered second isSecond with secondKnown | ⟨secondNamed, -⟩
    · exact absurd same.symm (firstUnused second secondKnown)
    · rw [eq_of_distinct naming.distinct firstNamed secondNamed same]

/-- A list without repetitions that is gathered from parts has each of its items
from one part only. -/
theorem exists_only_part {α β : Type} {parts : β → List α} {items : List β} {value : α}
    (nodup : (items.flatMap parts).Nodup) (member : value ∈ items.flatMap parts) :
    ∃ before item after, items = before ++ item :: after ∧ value ∈ parts item ∧
      ∀ other ∈ before ++ after, value ∉ parts other := by
  obtain ⟨item, isItem, own⟩ := List.mem_flatMap.mp member
  obtain ⟨before, after, rfl⟩ := List.append_of_mem isItem
  have apart := (List.nodup_flatMap.mp nodup).2
  rw [List.pairwise_append, List.pairwise_cons] at apart
  refine ⟨before, item, after, rfl, own, fun other isOther found => ?_⟩
  rcases List.mem_append.mp isOther with isBefore | isAfter
  · exact apart.2.2 other isBefore item (by simp) found own
  · exact apart.2.1.1 other isAfter own found

end ManyAlerts
