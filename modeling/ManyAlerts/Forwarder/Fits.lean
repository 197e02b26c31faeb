import ManyAlerts.Forwarder.Json

/-!
# Bounds on canonical texts

`Fits depth size value` says that the encoder takes a value at a depth and
writes at most `size` bytes for it.  There is one rule per constructor, and the
bound of a composite value is computed from those of its parts, so the bound of
a record is read off a derivation that follows the record's shape.
-/

namespace ManyAlerts

variable {depth size rest : Nat} {value : Json}
  {members : List (String × Json)} {characters : List Char}

def Fits (depth size : Nat) (value : Json) : Prop :=
  Within true depth value ∧ value.textLength ≤ size

/-- The members of an object, each with its comma. -/
def FitsMembers (depth size : Nat) (members : List (String × Json)) : Prop :=
  WithinMembers true depth members ∧
    (members.map Json.memberLength).sum + members.length ≤ size

theorem plain_ofList (plain : characters.all isPlainChar = true) :
    Plain (String.ofList characters) := by
  simpa [Plain] using plain

/-! ## Leaves -/

theorem Fits.mono {larger : Nat} (fits : Fits depth size value) (le : size ≤ larger) :
    Fits depth larger value :=
  ⟨fits.1, fits.2.trans le⟩

theorem fits_plain {text : String} (plain : Plain text) (short : text.length ≤ size)
    (bound : size ≤ maxJsonStringBytes) : Fits depth (size + 2) (.str text) := by
  refine ⟨textWithin_of_plain plain (short.trans bound), ?_⟩
  rw [Json.textLength, Json.sortKeys_str, Json.encode, length_encodeString_of_plain plain]
  omega

/-- A text of the source itself, given by its characters. -/
theorem fits_literal (plain : (characters.all isPlainChar && characters.length ≤ 40) = true) :
    Fits depth 42 (.str (String.ofList characters)) := by
  rw [Bool.and_eq_true, decide_eq_true_eq] at plain
  exact fits_plain (plain_ofList plain.1) (by simpa using plain.2) (by decide)

theorem fits_nat {number : Nat} (safe : number ≤ maxSafeInteger) :
    Fits depth 16 (.nat number) := by
  refine ⟨by simpa [Within, Json.nat] using safe, ?_⟩
  have digits : (Nat.toDigits 10 number).length ≤ 16 := by
    rw [Nat.length_toDigits_le_iff (by decide) (by decide)]
    exact lt_of_le_of_lt safe (by decide)
  have positive : ¬(number : Int) < 0 := not_lt.mpr (Int.natCast_nonneg number)
  simpa [Json.textLength, Json.nat, Json.encode, encodeInt, encodeNat, positive] using digits

theorem fits_bool {flag : Bool} : Fits depth 5 (.bool flag) := by
  cases flag <;> exact ⟨trivial, by decide⟩

theorem fits_null : Fits depth 4 .null := ⟨trivial, by decide⟩

theorem fits_optional {α : Type} {write : α → Json} {option : Option α}
    (fits : ∀ item ∈ option, Fits depth size (write item)) (bound : 4 ≤ size) :
    Fits depth size (.optional write option) := by
  cases option with
  | none => exact fits_null.mono bound
  | some item => exact fits item rfl

/-! ## Objects and arrays -/

theorem fitsMembers_nil : FitsMembers depth 0 [] := ⟨trivial, le_rfl⟩

/-- The names of members here have at most 24 characters. -/
theorem fitsMembers_cons
    (key : (characters.all isPlainChar && characters.length ≤ 24) = true)
    (first : Fits depth size value) (others : FitsMembers depth rest members) :
    FitsMembers depth (28 + size + rest) ((String.ofList characters, value) :: members) := by
  rw [Bool.and_eq_true, decide_eq_true_eq] at key
  have plain := plain_ofList key.1
  have short : (String.ofList characters).length ≤ 24 := by simpa using key.2
  refine ⟨⟨textWithin_of_plain plain (short.trans (by decide)), first.1, others.1⟩, ?_⟩
  have firstLength := first.2
  have otherLength := others.2
  have keyLength := length_encodeString_of_plain plain
  simp only [List.map_cons, List.sum_cons, List.length_cons, Json.memberLength]
  omega

theorem fits_obj (shallow : depth ≤ maxJsonDepth) (fits : FitsMembers (depth + 1) size members) :
    Fits depth (size + 2) (.obj members) := by
  refine ⟨⟨shallow, fits.1⟩, ?_⟩
  have length := fits.2
  rw [Json.textLength_obj]
  omega

theorem fits_arr {α : Type} {write : α → Json} {items : List α} {count : Nat}
    (shallow : depth ≤ maxJsonDepth) (few : items.length ≤ count)
    (short : count ≤ maxJsonArrayItems)
    (fits : ∀ item ∈ items, Fits (depth + 1) size (write item)) :
    Fits depth (count * (size + 1) + 2) (.arr (items.map write)) := by
  refine ⟨⟨shallow, by simpa using few.trans short, withinItems_iff.mpr ?_⟩, ?_⟩
  · rw [List.forall_mem_map]
    exact fun item member => (fits item member).1
  · have lengths : ((items.map write).map Json.textLength).sum ≤ items.length * size := by
      have bound := List.sum_le_card_nsmul ((items.map write).map Json.textLength) size
        fun length member => by
          rw [List.map_map] at member
          obtain ⟨item, found, rfl⟩ := List.mem_map.mp member
          exact (fits item found).2
      simpa using bound
    have bound := Nat.mul_le_mul_right (size + 1) few
    rw [Json.textLength_arr, List.length_map]
    rw [Nat.mul_succ] at bound
    omega

/-- A value that fits at the root is encoded. -/
theorem Fits.encoded (fits : Fits 1 size value) :
    ∃ text, canonicalJson true value = .ok text ∧ text.length ≤ size :=
  ⟨_, canonicalJson_eq_ok.mpr ⟨fits.1, rfl⟩, fits.2⟩

end ManyAlerts
