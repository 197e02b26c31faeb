import ManyAlerts.Library.Json
import ManyAlerts.Library.Stateful

/-!
# A directory of files, and calls that fail

A directory maps names to contents.  A call that changes it may succeed, may be
reported as failed and may be the last thing the process does; in the last two cases
the change may have happened all the same.
-/

namespace ManyAlerts

/-- The files of one directory, by name. -/
abbrev Directory : Type := Dict String Bytes

namespace Directory

/-- `rename`; the target is replaced in one step. -/
def rename (directory : Directory) (source target : String) : Directory :=
  match directory.get? source with
  | none => directory
  | some content => (directory.erase source).set target content

/-- The total size of the files whose names are chosen. -/
def bytes (directory : Directory) (chosen : String → Bool) : Nat :=
  (directory.entries.map fun file => if chosen file.1 then file.2.length else 0).sum

variable {directory : Directory} {chosen : String → Bool} {name source target : String}
  {content : Bytes}

theorem bytes_set_of_not_contains (absent : directory.contains name = false) :
    bytes (directory.set name content) chosen =
      directory.bytes chosen + if chosen name then content.length else 0 := by
  have missing : name ∉ directory.entries.map Prod.fst := fun member => by
    have present : directory.contains name = true := Dict.mem_keys_iff.mp member
    rw [absent] at present
    cases present
  have appended : (directory.set name content).entries = directory.entries ++ [(name, content)] :=
    setEntry_of_not_mem missing
  simp [bytes, appended]

/-- A file that is not chosen weighs nothing. -/
theorem bytes_set_of_not_chosen (other : chosen name = false) :
    bytes (directory.set name content) chosen = directory.bytes chosen := by
  have same : ∀ files : List (String × Bytes),
      ((setEntry name content files).map fun file =>
        if chosen file.1 then file.2.length else 0).sum =
      (files.map fun file => if chosen file.1 then file.2.length else 0).sum := by
    intro files
    induction files with
    | nil => simp [setEntry, other]
    | cons file files induction =>
        rw [setEntry]
        split_ifs with here
        · simp [here, other]
        · simp [induction]
  exact same directory.entries

theorem bytes_erase_of_not_chosen (other : chosen name = false) :
    bytes (directory.erase name) chosen = directory.bytes chosen := by
  have same : ∀ files : List (String × Bytes),
      ((files.filter fun file => file.1 ≠ name).map fun file =>
        if chosen file.1 then file.2.length else 0).sum =
      (files.map fun file => if chosen file.1 then file.2.length else 0).sum := by
    intro files
    induction files with
    | nil => rfl
    | cons file files induction =>
        by_cases here : file.1 = name
        · simpa [here, other] using induction
        · simpa [here] using induction
  exact same directory.entries

theorem size_erase_of_contains (present : directory.contains name = true) :
    Dict.size (directory.erase name) + 1 = Dict.size directory := by
  have member : name ∈ directory.entries.map Prod.fst := Dict.mem_keys_iff.mpr present
  have keys : (directory.erase name).entries.map Prod.fst =
      (directory.entries.map Prod.fst).erase name := by
    rw [directory.nodup.erase_eq_filter, Dict.erase, List.filter_map]
    refine congrArg _ (List.filter_congr fun file _ => ?_)
    simp [bne, decide_not, BEq.beq]
  have shorter := List.length_erase_of_mem member
  have positive := List.length_pos_of_mem member
  rw [← keys] at shorter
  simp only [List.length_map] at shorter positive
  unfold Dict.size
  omega

theorem contains_erase_of_not_contains (absent : directory.contains target = false) :
    Dict.contains (directory.erase source) target = false := by
  rw [Dict.contains, Dict.get?_erase]
  split_ifs
  · rfl
  · exact absent

section Rename

variable (found : directory.get? source = some content)
include found

theorem rename_eq :
    directory.rename source target = (directory.erase source).set target content := by
  rw [rename, found]

theorem get?_rename (other : String) :
    Dict.get? (directory.rename source target) other =
      if other = target then some content
      else if other = source then none else directory.get? other := by
  rw [rename_eq found, Dict.get?_set, Dict.get?_erase]

theorem size_rename (absent : directory.contains target = false) :
    Dict.size (directory.rename source target) = Dict.size directory := by
  have present : directory.contains source = true := by simp [Dict.contains, found]
  rw [rename_eq found, Dict.size_set_of_not_contains _ (contains_erase_of_not_contains absent),
    size_erase_of_contains present]

/-- A file that is renamed to a chosen name begins to weigh. -/
theorem bytes_rename (absent : directory.contains target = false) (before : chosen source = false)
    (after : chosen target = true) :
    bytes (directory.rename source target) chosen = directory.bytes chosen + content.length := by
  rw [rename_eq found, bytes_set_of_not_contains (contains_erase_of_not_contains absent),
    bytes_erase_of_not_chosen before, if_pos after]

end Rename

end Directory

/-! ## Calls that fail -/

/-- What becomes of a call that changes something. -/
inductive CallFate where
  | done
  /-- It is reported as failed, whether or not the change happened. -/
  | failed (landed : Bool)
  /-- The process ends in it. -/
  | died (landed : Bool)
deriving DecidableEq

/-- What becomes of a call that only reads. -/
inductive ReadFate where
  | answers
  | fails
  | dies
deriving DecidableEq

section Calls

variable {ε σ : Type}

/-- Perform a change; whether the caller is told that it is done. -/
def attempt (died : ε) (change : σ → σ) : CallFate → EStateM ε σ Bool
  | .done => do
      modify change
      pure true
  | .failed landed => do
      if landed then modify change
      pure false
  | .died landed => do
      if landed then modify change
      throw died

variable {died : ε} {change : σ → σ} {fate : CallFate} {state : σ} {returns : Bool → σ → Prop}
  {raises : ε → σ → Prop}

/-- Whatever becomes of the call, the change happened or it did not. -/
theorem Ensures.attempt (done : returns true (change state))
    (failed : ∀ next, next = state ∨ next = change state → returns false next)
    (ends : ∀ next, next = state ∨ next = change state → raises died next) :
    Ensures (attempt died change fate) state returns raises := by
  cases fate with
  | done => exact done
  | failed landed =>
      cases landed with
      | false => exact failed state (.inl rfl)
      | true => exact failed (change state) (.inr rfl)
  | died landed =>
      cases landed with
      | false => exact ends state (.inl rfl)
      | true => exact ends (change state) (.inr rfl)

end Calls

end ManyAlerts
