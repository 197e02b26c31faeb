import Mathlib.Data.List.Infix

/-!
# Splitting lists at separators

What `splitOn` does to a list that is put together from pieces: pieces without the
separator stay whole, so splitting the text of pieces splits the pieces.
-/

namespace ManyAlerts

variable {α β : Type}

theorem mem_of_mem_splitOnP {separates : α → Bool} {items part : List α} {item : α}
    (inside : part ∈ items.splitOnP separates) (here : item ∈ part) : item ∈ items := by
  induction items generalizing part with
  | nil =>
      rw [List.splitOnP_nil] at inside
      rw [List.mem_singleton.mp inside] at here
      cases here
  | cons first items induction =>
      rw [List.splitOnP_cons_eq_if_modifyHead] at inside
      split_ifs at inside with splits
      · rcases List.mem_cons.mp inside with rfl | later
        · cases here
        · exact List.mem_cons_of_mem _ (induction later here)
      · obtain ⟨head, parts, shape⟩ :=
          List.exists_cons_of_ne_nil (List.splitOnP_ne_nil separates items)
        rw [shape, List.modifyHead_cons] at inside
        rcases List.mem_cons.mp inside with rfl | later
        · rcases List.mem_cons.mp here with rfl | earlier
          · exact List.mem_cons_self
          · exact List.mem_cons_of_mem _ (induction (shape ▸ List.mem_cons_self) earlier)
        · exact List.mem_cons_of_mem _
            (induction (shape ▸ List.mem_cons_of_mem _ later) here)

section

variable [DecidableEq β]

theorem mem_splitOn_of_mem (separator : β) {item : β} {items : List β} (member : item ∈ items) :
    item = separator ∨ ∃ part ∈ items.splitOn separator, item ∈ part := by
  induction items with
  | nil => cases member
  | cons first items induction =>
      rw [List.splitOn_cons_eq_if_modifyHead]
      by_cases splits : (first == separator) = true
      · rw [if_pos splits]
        rcases List.mem_cons.mp member with rfl | later
        · exact .inl (eq_of_beq splits)
        · rcases induction later with isSeparator | ⟨part, inside, here⟩
          · exact .inl isSeparator
          · exact .inr ⟨part, List.mem_cons_of_mem _ inside, here⟩
      · rw [if_neg splits]
        obtain ⟨part, parts, shape⟩ :=
          List.exists_cons_of_ne_nil (List.splitOn_ne_nil separator items)
        rw [shape, List.modifyHead_cons]
        rcases List.mem_cons.mp member with rfl | later
        · exact .inr ⟨item :: part, List.mem_cons_self, List.mem_cons_self⟩
        · rcases induction later with isSeparator | ⟨other, inside, here⟩
          · exact .inl isSeparator
          · rw [shape] at inside
            rcases List.mem_cons.mp inside with rfl | elsewhere
            · exact .inr ⟨first :: other, List.mem_cons_self, List.mem_cons_of_mem _ here⟩
            · exact .inr ⟨other, List.mem_cons_of_mem _ elsewhere, here⟩

theorem splitOn_append_of_not_mem {separator : β} {front : List β} (absent : separator ∉ front)
    (rest : List β) :
    (front ++ rest).splitOn separator = (rest.splitOn separator).modifyHead (front ++ ·) := by
  induction front with
  | nil =>
      obtain ⟨part, parts, shape⟩ :=
        List.exists_cons_of_ne_nil (List.splitOn_ne_nil separator rest)
      rw [List.nil_append, shape]
      rfl
  | cons first front induction =>
      rw [List.mem_cons, not_or] at absent
      have differs : ¬(first == separator) = true := by
        intro same
        exact absent.1 (eq_of_beq same).symm
      rw [List.cons_append, List.splitOn_cons_eq_if_modifyHead, if_neg differs,
        induction absent.2, List.modifyHead_modifyHead]
      rfl

/-- Pieces that are the separator or do not hold it. -/
theorem splitOn_flatMap {separator : β} {text : α → List β} {separates : α → Bool}
    {items : List α} (single : ∀ item ∈ items, separates item = true → text item = [separator])
    (free : ∀ item ∈ items, separates item = false → separator ∉ text item) :
    (items.flatMap text).splitOn separator =
      (items.splitOnP separates).map fun part => part.flatMap text := by
  induction items with
  | nil => rfl
  | cons item items induction =>
      have rest := induction (fun other inside => single other (List.mem_cons_of_mem _ inside))
        fun other inside => free other (List.mem_cons_of_mem _ inside)
      rw [List.flatMap_cons, List.splitOnP_cons_eq_if_modifyHead]
      by_cases splits : separates item = true
      · rw [if_pos splits, single item List.mem_cons_self splits, List.singleton_append,
          List.splitOn_cons_eq_if_modifyHead, if_pos (beq_self_eq_true separator), rest]
        rfl
      · rw [if_neg splits, splitOn_append_of_not_mem
          (free item List.mem_cons_self (Bool.not_eq_true _ ▸ splits)), rest]
        obtain ⟨part, parts, shape⟩ :=
          List.exists_cons_of_ne_nil (List.splitOnP_ne_nil separates items)
        rw [shape]
        rfl

/-- Without two separators in a row only the first and the last part can be empty. -/
theorem splitOn_inner_ne_nil {separator : β} {items : List β}
    (apart : ¬ [separator, separator] <:+: items) :
    ∀ part ∈ (items.splitOn separator).tail.dropLast, part ≠ [] := by
  -- The first part is empty only before a leading separator, which carries the induction.
  suffices both : (∀ part ∈ (items.splitOn separator).tail.dropLast, part ≠ []) ∧
      (items.head? ≠ some separator → ∀ part ∈ (items.splitOn separator).dropLast, part ≠ []) from
    both.1
  induction items with
  | nil => simp
  | cons first items induction =>
      have inner := induction fun later => apart
        (later.trans (List.suffix_cons first items).isInfix)
      rw [List.splitOn_cons_eq_if_modifyHead]
      by_cases splits : (first == separator) = true
      · rw [if_pos splits]
        obtain rfl : first = separator := eq_of_beq splits
        refine ⟨?_, fun leading => absurd rfl leading⟩
        refine inner.2 fun doubled => apart ?_
        obtain ⟨rest, rfl⟩ : ∃ rest, items = first :: rest := by
          cases items with
          | nil => cases doubled
          | cons second rest => exact ⟨rest, by rw [Option.some.inj doubled]⟩
        exact ⟨[], rest, rfl⟩
      · rw [if_neg splits]
        obtain ⟨part, parts, shape⟩ :=
          List.exists_cons_of_ne_nil (List.splitOn_ne_nil separator items)
        rw [shape, List.tail_cons] at inner
        rw [shape, List.modifyHead_cons, List.tail_cons]
        refine ⟨inner.1, fun _ => ?_⟩
        cases parts with
        | nil => simp
        | cons second parts =>
            rw [List.dropLast_cons_cons]
            intro other inside
            rcases List.mem_cons.mp inside with rfl | later
            · exact List.cons_ne_nil _ _
            · exact inner.1 other later

end

end ManyAlerts
