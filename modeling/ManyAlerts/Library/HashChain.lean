import ManyAlerts.Library.Hashes

/-!
# Hash chains

In a hash chain every item states its place and the digest of the item before it, and both
can be read back from the body that is hashed.  The digest of the last item then commits
to the bodies of all, as far as SHA-256 tells them apart.
-/

namespace ManyAlerts

structure HashChain (α : Type) where
  tag : Bytes
  body : α → Bytes
  place : α → Nat
  previous : α → String
  /-- The predecessor that the first item names. -/
  zero : String
  readsBack : ∀ one other, body one = body other →
    place one = place other ∧ previous one = previous other

namespace HashChain

variable {α : Type} {item : α} {items left right : List α} (chain : HashChain α)

def text (item : α) : Bytes := chain.tag ++ 0x00 :: chain.body item

def head (items : List α) : String :=
  (items.getLast?.map fun item => sha256Hex (chain.text item)).getD chain.zero

inductive Linked : List α → Prop where
  | nil : Linked []
  | snoc {items : List α} {item : α} (linked : Linked items)
      (place : chain.place item = items.length + 1)
      (previous : chain.previous item = chain.head items) : Linked (items ++ [item])

variable {chain}

theorem head_snoc : chain.head (items ++ [item]) = sha256Hex (chain.text item) := by
  simp [head]

theorem Linked.of_append {front back : List α} (linked : chain.Linked (front ++ back)) :
    chain.Linked front := by
  generalize whole : front ++ back = items at linked
  induction linked generalizing back with
  | nil => exact (List.append_eq_nil_iff.mp whole).1 ▸ .nil
  | snoc linked place previous induction =>
      rcases List.eq_nil_or_concat back with rfl | ⟨rest, last, rfl⟩
      · rw [List.append_nil] at whole
        exact whole ▸ linked.snoc place previous
      · rw [List.concat_eq_append, ← List.append_assoc] at whole
        exact induction (List.append_inj' whole rfl).1

/-- Equal heads have equal histories. -/
theorem Linked.bodies_eq (leftLinked : chain.Linked left) (rightLinked : chain.Linked right)
    (apart : HashesApart ((left ++ right).map chain.text)) (empty : left = [] ↔ right = [])
    (same : chain.head left = chain.head right) :
    left.map chain.body = right.map chain.body := by
  induction leftLinked generalizing right with
  | nil => rw [empty.mp rfl]
  | @snoc items item linked place previous induction =>
      cases rightLinked with
      | nil => exact absurd (empty.mpr rfl) (by simp)
      | @snoc items' item' linked' place' previous' =>
          rw [head_snoc, head_snoc] at same
          have texts := apart.hex (by simp) (by simp) same
          have bodies : chain.body item = chain.body item' := by simpa [text] using texts
          obtain ⟨places, links⟩ := chain.readsBack item item' bodies
          have lengths : items.length = items'.length := by omega
          have front : items.map chain.body = items'.map chain.body := by
            apply induction linked' (apart.mono ?_)
            · rw [← List.length_eq_zero_iff, ← List.length_eq_zero_iff, lengths]
            · rw [← previous, ← previous', links]
            · intro text member
              simp only [List.map_append, List.mem_append] at member ⊢
              tauto
          simp [front, bodies]

end HashChain

end ManyAlerts
