import Mathlib.Data.List.Nodup
import Mathlib.Data.List.Perm.Basic
import Mathlib.Data.List.Sort
import Mathlib.Tactic

/-!
# Insertion-ordered dictionaries

A `Dict` is a finite map that remembers the order in which its keys were first
written: writing an existing key replaces its value in place, writing a new
key appends it.  That no key occurs twice is part of the type.
-/

namespace ManyAlerts

/-- Write one entry of an association list: in place, or at the end. -/
def setEntry {K V : Type} [DecidableEq K] (key : K) (value : V) :
    List (K × V) → List (K × V)
  | [] => [(key, value)]
  | entry :: entries =>
      if entry.1 = key then (key, value) :: entries
      else entry :: setEntry key value entries

def lookupEntry {K V : Type} [DecidableEq K] (key : K) : List (K × V) → Option V
  | [] => none
  | entry :: entries => if entry.1 = key then some entry.2 else lookupEntry key entries

section Entries

variable {K V : Type} [DecidableEq K]

theorem map_fst_setEntry_of_mem {key : K} {value : V} {entries : List (K × V)}
    (member : key ∈ entries.map Prod.fst) :
    (setEntry key value entries).map Prod.fst = entries.map Prod.fst := by
  induction entries with
  | nil => simp at member
  | cons entry entries induction =>
      rw [setEntry]
      split_ifs with found
      · simp [found]
      · have later : key ∈ entries.map Prod.fst := by
          simpa [Ne.symm found] using member
        simp [induction later]

theorem setEntry_of_not_mem {key : K} {value : V} {entries : List (K × V)}
    (absent : key ∉ entries.map Prod.fst) :
    setEntry key value entries = entries ++ [(key, value)] := by
  induction entries with
  | nil => rfl
  | cons entry entries induction =>
      simp only [List.map_cons, List.mem_cons, not_or] at absent
      rw [setEntry, if_neg (Ne.symm absent.1), induction absent.2, List.cons_append]

theorem lookupEntry_setEntry (key other : K) (value : V) (entries : List (K × V)) :
    lookupEntry other (setEntry key value entries) =
      if other = key then some value else lookupEntry other entries := by
  induction entries with
  | nil => simp [setEntry, lookupEntry, eq_comm]
  | cons entry entries induction =>
      by_cases found : entry.1 = key
      · subst found
        by_cases same : entry.1 = other
        · simp [setEntry, lookupEntry, same]
        · simp [setEntry, lookupEntry, same, Ne.symm same]
      · by_cases same : entry.1 = other
        · subst same
          simp [setEntry, lookupEntry, found]
        · simp [setEntry, lookupEntry, found, same, induction]

theorem lookupEntry_isSome_iff {key : K} {entries : List (K × V)} :
    (lookupEntry key entries).isSome ↔ key ∈ entries.map Prod.fst := by
  induction entries with
  | nil => simp [lookupEntry]
  | cons entry entries induction =>
      by_cases same : entry.1 = key
      · simp [lookupEntry, same]
      · rw [lookupEntry, if_neg same, induction, List.map_cons, List.mem_cons,
          or_iff_right (Ne.symm same)]

theorem lookupEntry_eq_some_iff {key : K} {value : V} {entries : List (K × V)}
    (nodup : (entries.map Prod.fst).Nodup) :
    lookupEntry key entries = some value ↔ (key, value) ∈ entries := by
  induction entries with
  | nil => simp [lookupEntry]
  | cons entry entries induction =>
      obtain ⟨fresh, rest⟩ := List.nodup_cons.mp nodup
      by_cases same : entry.1 = key
      · subst same
        have absent : (entry.1, value) ∉ entries := fun member =>
          fresh (List.mem_map.mpr ⟨_, member, rfl⟩)
        simp [lookupEntry, absent, Prod.ext_iff, eq_comm]
      · simp [lookupEntry, same, induction rest, Prod.ext_iff, Ne.symm same]

end Entries

/-- A dictionary in insertion order. -/
structure Dict (K V : Type) where
  entries : List (K × V)
  nodup : (entries.map Prod.fst).Nodup

namespace Dict

variable {K V : Type}

@[ext] theorem ext {left right : Dict K V} (same : left.entries = right.entries) :
    left = right := by
  cases left
  cases right
  cases same
  rfl

instance [DecidableEq K] [DecidableEq V] : DecidableEq (Dict K V) := fun left right =>
  decidable_of_iff (left.entries = right.entries) ⟨ext, fun same => same ▸ rfl⟩

def empty : Dict K V := ⟨[], List.nodup_nil⟩

def size (dict : Dict K V) : Nat := dict.entries.length

def isEmpty (dict : Dict K V) : Bool := dict.entries.isEmpty

def keys (dict : Dict K V) : List K := dict.entries.map Prod.fst

def values (dict : Dict K V) : List V := dict.entries.map Prod.snd

@[simp] theorem size_empty : (empty : Dict K V).size = 0 := rfl

@[simp] theorem isEmpty_empty : (empty : Dict K V).isEmpty = true := rfl

/-- Rewrite every value in place. -/
def mapValues (dict : Dict K V) (change : V → V) : Dict K V where
  entries := dict.entries.map fun entry => (entry.1, change entry.2)
  nodup := by
    rw [List.map_map]
    exact dict.nodup

/-- Keep the entries whose value is accepted. -/
def filterValues (dict : Dict K V) (keep : V → Bool) : Dict K V where
  entries := dict.entries.filter fun entry => keep entry.2
  nodup := dict.nodup.sublist (List.filter_sublist.map Prod.fst)

/-- The values' weights together. -/
def total (dict : Dict K V) (weight : V → Int) : Int := (dict.values.map weight).sum

theorem total_mapValues {dict : Dict K V} {change : V → V} {weight : V → Int}
    (same : ∀ value, weight (change value) = weight value) :
    (dict.mapValues change).total weight = dict.total weight := by
  rw [total, total, values, values, mapValues, List.map_map, List.map_map, List.map_map]
  exact congrArg List.sum (List.map_congr_left fun entry _ => same entry.2)

/-- What is kept and what is dropped make up the whole. -/
theorem total_filterValues (dict : Dict K V) (keep : V → Bool) (weight : V → Int) :
    (dict.filterValues keep).total weight +
      ((dict.values.filter fun value => !keep value).map weight).sum = dict.total weight := by
  have parts : ∀ entries : List (K × V),
      (((entries.filter fun entry => keep entry.2).map Prod.snd).map weight).sum +
        (((entries.map Prod.snd).filter fun value => !keep value).map weight).sum =
          ((entries.map Prod.snd).map weight).sum := by
    intro entries
    induction entries with
    | nil => rfl
    | cons entry entries induction =>
        cases kept : keep entry.2 <;> simp only [List.filter_cons, List.map_cons, List.sum_cons,
          kept, Bool.not_false, Bool.not_true, if_true, if_false, Bool.false_eq_true] <;> omega
  exact parts dict.entries

variable [DecidableEq K]

def get? (dict : Dict K V) (key : K) : Option V := lookupEntry key dict.entries

def contains (dict : Dict K V) (key : K) : Bool := (dict.get? key).isSome

def set (dict : Dict K V) (key : K) (value : V) : Dict K V where
  entries := setEntry key value dict.entries
  nodup := by
    by_cases member : key ∈ dict.entries.map Prod.fst
    · rw [map_fst_setEntry_of_mem member]
      exact dict.nodup
    · rw [setEntry_of_not_mem member, List.map_append]
      exact List.nodup_append.mpr ⟨dict.nodup, by simp, by
        rintro first firstMember second secondMember rfl
        simp only [List.map_cons, List.map_nil, List.mem_singleton] at secondMember
        exact member (secondMember ▸ firstMember)⟩

/-- Write entries one after another. -/
def setAll (dict : Dict K V) (entries : List (K × V)) : Dict K V :=
  entries.foldl (fun dict entry => dict.set entry.1 entry.2) dict

def erase (dict : Dict K V) (key : K) : Dict K V where
  entries := dict.entries.filter fun entry => entry.1 ≠ key
  nodup := dict.nodup.sublist (List.filter_sublist.map Prod.fst)

@[simp] theorem get?_empty (key : K) : (empty : Dict K V).get? key = none := rfl

theorem get?_set (dict : Dict K V) (key other : K) (value : V) :
    (dict.set key value).get? other = if other = key then some value else dict.get? other :=
  lookupEntry_setEntry key other value dict.entries

@[simp] theorem get?_set_self (dict : Dict K V) (key : K) (value : V) :
    (dict.set key value).get? key = some value := by
  rw [get?_set, if_pos rfl]

theorem get?_set_of_ne (dict : Dict K V) {key other : K} (value : V) (differs : other ≠ key) :
    (dict.set key value).get? other = dict.get? other := by
  rw [get?_set, if_neg differs]

theorem get?_erase (dict : Dict K V) (key other : K) :
    (dict.erase key).get? other = if other = key then none else dict.get? other := by
  apply Option.ext
  intro value
  rw [get?, lookupEntry_eq_some_iff (dict.erase key).nodup, erase, List.mem_filter]
  split_ifs with same
  · simp [same]
  · rw [get?, lookupEntry_eq_some_iff dict.nodup]
    simp [same]

theorem mem_keys_iff {dict : Dict K V} {key : K} :
    key ∈ dict.keys ↔ (dict.get? key).isSome :=
  lookupEntry_isSome_iff.symm

theorem get?_eq_some_iff {dict : Dict K V} {key : K} {value : V} :
    dict.get? key = some value ↔ (key, value) ∈ dict.entries :=
  lookupEntry_eq_some_iff dict.nodup

theorem get?_mapValues (dict : Dict K V) (change : V → V) (key : K) :
    (dict.mapValues change).get? key = (dict.get? key).map change := by
  apply Option.ext
  intro value
  rw [get?_eq_some_iff, Option.map_eq_some_iff, mapValues, List.mem_map]
  constructor
  · rintro ⟨entry, member, same⟩
    obtain ⟨rfl, rfl⟩ := Prod.mk.inj same
    exact ⟨entry.2, get?_eq_some_iff.mpr member, rfl⟩
  · rintro ⟨older, found, rfl⟩
    exact ⟨(key, older), get?_eq_some_iff.mp found, rfl⟩

theorem get?_filterValues (dict : Dict K V) (keep : V → Bool) (key : K) :
    (dict.filterValues keep).get? key = (dict.get? key).filter keep := by
  apply Option.ext
  intro value
  rw [get?_eq_some_iff, Option.filter_eq_some_iff, get?_eq_some_iff, filterValues, List.mem_filter]

theorem mem_values_iff {dict : Dict K V} {value : V} :
    value ∈ dict.values ↔ ∃ key, dict.get? key = some value := by
  rw [values, List.mem_map]
  constructor
  · rintro ⟨entry, member, rfl⟩
    exact ⟨entry.1, get?_eq_some_iff.mpr member⟩
  · rintro ⟨key, found⟩
    exact ⟨(key, value), get?_eq_some_iff.mp found, rfl⟩

theorem mapValues_eq_self {dict : Dict K V} {change : V → V}
    (fixed : ∀ key value, dict.get? key = some value → change value = value) :
    dict.mapValues change = dict := by
  apply ext
  rw [mapValues]
  conv_rhs => rw [← List.map_id dict.entries]
  refine List.map_congr_left fun entry member => ?_
  rw [fixed entry.1 entry.2 (get?_eq_some_iff.mpr member)]
  rfl

theorem filterValues_eq_self {dict : Dict K V} {keep : V → Bool}
    (kept : ∀ key value, dict.get? key = some value → keep value = true) :
    dict.filterValues keep = dict := by
  apply ext
  rw [filterValues]
  exact List.filter_eq_self.mpr fun entry member =>
    kept entry.1 entry.2 (get?_eq_some_iff.mpr member)

theorem contains_iff {dict : Dict K V} {key : K} :
    dict.contains key = true ↔ ∃ value, dict.get? key = some value := by
  rw [contains, Option.isSome_iff_exists]

theorem get?_eq_none_of_not_contains {dict : Dict K V} {key : K}
    (absent : dict.contains key = false) : dict.get? key = none := by
  simpa [contains] using absent

theorem size_set_of_contains {dict : Dict K V} {key : K} (value : V)
    (present : dict.contains key = true) : (dict.set key value).size = dict.size := by
  have member : key ∈ dict.entries.map Prod.fst := mem_keys_iff.mpr present
  calc
    (dict.set key value).size = ((setEntry key value dict.entries).map Prod.fst).length := by
      simp [size, set]
    _ = (dict.entries.map Prod.fst).length := by rw [map_fst_setEntry_of_mem member]
    _ = dict.size := by simp [size]

theorem size_set_of_not_contains {dict : Dict K V} {key : K} (value : V)
    (absent : dict.contains key = false) : (dict.set key value).size = dict.size + 1 := by
  have missing : key ∉ dict.entries.map Prod.fst := fun member => by
    have present : dict.contains key = true := mem_keys_iff.mp member
    rw [absent] at present
    cases present
  simp [size, set, setEntry_of_not_mem missing]

theorem size_set_le (dict : Dict K V) (key : K) (value : V) :
    (dict.set key value).size ≤ dict.size + 1 := by
  cases present : dict.contains key with
  | true => exact (size_set_of_contains value present).le.trans (Nat.le_succ _)
  | false => exact (size_set_of_not_contains value present).le

theorem contains_set (dict : Dict K V) (key other : K) (value : V) :
    (dict.set key value).contains other = (decide (other = key) || dict.contains other) := by
  by_cases same : other = key <;> simp [contains, get?_set, same]

@[simp] theorem setAll_nil (dict : Dict K V) : dict.setAll [] = dict := rfl

@[simp] theorem setAll_cons (dict : Dict K V) (entry : K × V) (entries : List (K × V)) :
    dict.setAll (entry :: entries) = (dict.set entry.1 entry.2).setAll entries := rfl

theorem get?_setAll_of_not_mem {dict : Dict K V} {entries : List (K × V)} {key : K}
    (absent : key ∉ entries.map Prod.fst) : (dict.setAll entries).get? key = dict.get? key := by
  induction entries generalizing dict with
  | nil => rfl
  | cons entry entries induction =>
      simp only [List.map_cons, List.mem_cons, not_or] at absent
      rw [setAll_cons, induction absent.2, get?_set_of_ne _ _ absent.1]

theorem get?_setAll_of_mem {dict : Dict K V} {entries : List (K × V)} {key : K} {value : V}
    (nodup : (entries.map Prod.fst).Nodup) (member : (key, value) ∈ entries) :
    (dict.setAll entries).get? key = some value := by
  induction entries generalizing dict with
  | nil => cases member
  | cons entry entries induction =>
      simp only [List.map_cons, List.nodup_cons] at nodup
      rcases List.mem_cons.mp member with rfl | later
      · rw [setAll_cons, get?_setAll_of_not_mem nodup.1, get?_set_self]
      · rw [setAll_cons, induction nodup.2 later]

/-- Writing new keys appends them in order. -/
theorem entries_setAll_of_fresh {dict : Dict K V} {entries : List (K × V)}
    (nodup : (entries.map Prod.fst).Nodup)
    (fresh : ∀ entry ∈ entries, dict.contains entry.1 = false) :
    (dict.setAll entries).entries = dict.entries ++ entries := by
  induction entries generalizing dict with
  | nil => simp
  | cons entry entries induction =>
      simp only [List.map_cons, List.nodup_cons, List.mem_map, not_exists, not_and] at nodup
      have missing : entry.1 ∉ dict.entries.map Prod.fst := fun found => by
        have present : dict.contains entry.1 = true := mem_keys_iff.mp found
        rw [fresh entry (by simp)] at present
        cases present
      have first : (dict.set entry.1 entry.2).entries = dict.entries ++ [entry] :=
        setEntry_of_not_mem missing
      have later : ∀ other ∈ entries, (dict.set entry.1 entry.2).contains other.1 = false := by
        intro other found
        rw [contains_set, fresh other (by simp [found]), Bool.or_false, decide_eq_false_iff_not]
        exact nodup.1 other found
      rw [setAll_cons, induction nodup.2 later, first, List.append_assoc, List.singleton_append]

theorem entries_setAll_of_nodup {entries : List (K × V)}
    (nodup : (entries.map Prod.fst).Nodup) :
    ((empty : Dict K V).setAll entries).entries = entries :=
  entries_setAll_of_fresh nodup fun _ _ => rfl

/-- Writing distinct keys adds exactly those that were not there. -/
theorem size_setAll (dict : Dict K V) {entries : List (K × V)}
    (nodup : (entries.map Prod.fst).Nodup) :
    (dict.setAll entries).size =
      dict.size + ((entries.map Prod.fst).filter fun key => !dict.contains key).length := by
  induction entries generalizing dict with
  | nil => simp
  | cons entry entries induction =>
      simp only [List.map_cons, List.nodup_cons] at nodup
      have same : ((entries.map Prod.fst).filter fun key =>
            !(dict.set entry.1 entry.2).contains key) =
          (entries.map Prod.fst).filter fun key => !dict.contains key := by
        refine List.filter_congr fun key member => ?_
        have differs : key ≠ entry.1 := fun equal => nodup.1 (equal ▸ member)
        simp [contains_set, differs]
      rw [setAll_cons, induction _ nodup.2, same, List.map_cons, List.filter_cons]
      cases present : dict.contains entry.1 with
      | true => simp [size_set_of_contains entry.2 present]
      | false =>
          rw [size_set_of_not_contains entry.2 present]
          simp only [Bool.not_false, if_true, List.length_cons]
          omega

/-! ### Sums over the values -/

theorem total_set {dict : Dict K V} {key : K} {older value : V} {weight : V → Int}
    (found : dict.get? key = some older) (same : weight value = weight older) :
    (dict.set key value).total weight = dict.total weight := by
  have unchanged : ∀ entries : List (K × V), lookupEntry key entries = some older →
      (setEntry key value entries).map (fun entry => weight entry.2) =
        entries.map fun entry => weight entry.2 := by
    intro entries stored
    induction entries with
    | nil => cases stored
    | cons entry entries induction =>
        rw [lookupEntry] at stored
        rw [setEntry]
        split_ifs at stored ⊢ with here
        · obtain rfl := Option.some.inj stored
          rw [List.map_cons, List.map_cons, same]
        · rw [List.map_cons, List.map_cons, induction stored]
  rw [total, total, values, values, List.map_map, List.map_map]
  exact congrArg List.sum (unchanged dict.entries found)

/-- Writing an entry adds at most what it weighs. -/
theorem total_set_le_add {dict : Dict K V} {key : K} {value : V} {weight : V → Int}
    (nonneg : ∀ value, 0 ≤ weight value) :
    (dict.set key value).total weight ≤ dict.total weight + weight value := by
  have entrywise : ∀ entries : List (K × V),
      ((setEntry key value entries).map fun entry => weight entry.2).sum ≤
        (entries.map fun entry => weight entry.2).sum + weight value := by
    intro entries
    induction entries with
    | nil => simp [setEntry]
    | cons entry entries induction =>
        have positive := nonneg entry.2
        rw [setEntry]
        split_ifs
        · simp only [List.map_cons, List.sum_cons]
          omega
        · simp only [List.map_cons, List.sum_cons]
          omega
  have bound := entrywise dict.entries
  rw [total, total, values, values, List.map_map, List.map_map]
  exact bound

theorem total_set_of_not_contains {dict : Dict K V} {key : K} (value : V) (weight : V → Int)
    (absent : dict.contains key = false) :
    (dict.set key value).total weight = dict.total weight + weight value := by
  have missing : key ∉ dict.entries.map Prod.fst := fun member => by
    have present : dict.contains key = true := mem_keys_iff.mp member
    rw [absent] at present
    cases present
  have appended : (dict.set key value).entries = dict.entries ++ [(key, value)] :=
    setEntry_of_not_mem missing
  rw [total, values, appended, total, values, List.map_append, List.map_append, List.sum_append]
  simp

theorem isEmpty_iff {dict : Dict K V} : dict.isEmpty = true ↔ ∀ key, dict.get? key = none := by
  constructor
  · intro empty key
    have none_left : dict.entries = [] := List.isEmpty_iff.mp empty
    rw [get?, none_left]
    rfl
  · intro nothing
    rw [isEmpty, List.isEmpty_iff]
    cases shape : dict.entries with
    | nil => rfl
    | cons entry entries =>
        have found : dict.get? entry.1 = some entry.2 := get?_eq_some_iff.mpr (by simp [shape])
        rw [nothing] at found
        cases found

theorem isEmpty_set (dict : Dict K V) (key : K) (value : V) :
    (dict.set key value).isEmpty = false := by
  rw [Bool.eq_false_iff]
  intro empty
  have none_left := isEmpty_iff.mp empty key
  simp at none_left

end Dict

/-- Sorting items whose keys are all different leaves the keys strictly increasing. -/
theorem pairwise_lt_insertionSort {α β : Type} [LinearOrder β] {key : α → β} {items : List α}
    {before : α → α → Prop} [DecidableRel before]
    (total : ∀ left right, before left right ∨ before right left)
    (trans : ∀ first second third, before first second → before second third →
      before first third)
    (ordered : ∀ left right, before left right → key left ≤ key right)
    (nodup : (items.map key).Nodup) :
    ((items.insertionSort before).map key).Pairwise (· < ·) := by
  have : Std.Total before := ⟨total⟩
  have : IsTrans α before := ⟨trans⟩
  have sorted : ((items.insertionSort before).map key).Pairwise (· ≤ ·) :=
    List.pairwise_map.mpr
      ((List.pairwise_insertionSort before items).imp fun {left right} => ordered left right)
  have apart : ((items.insertionSort before).map key).Nodup :=
    (((List.perm_insertionSort before items).map key).nodup_iff).mpr nodup
  exact (sorted.and apart).imp fun both => lt_of_le_of_ne both.1 both.2

end ManyAlerts
