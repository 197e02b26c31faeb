import ManyAlerts.Journal.Sealing
import ManyAlerts.Library.JsonReading
import ManyAlerts.Library.Settling

/-!
# The size of metadata

The registry of leases and the ledger of receipts bound the compact text of what they
keep.  The size of an object is the sum of its members' sizes whatever their order, so a
bound on each value bounds the object.  The size that a snapshot reports of itself is a
fixed point, and the loop that looks for it finds it.
-/

namespace ManyAlerts

/-! ## Compact texts -/

/-- The escape of one UTF-16 unit. -/
def escapeUnit (unit : Nat) : Bytes :=
  [0x5c, 0x75, hexDigit (unit / 4096), hexDigit (unit / 256 % 16), hexDigit (unit / 16 % 16),
    hexDigit (unit % 16)]

/-- A character as `json.dumps` writes it: what is not printable ASCII is escaped. -/
def dumpChar (character : Char) : Bytes :=
  (escapeChar character).getD
    (if character.toNat < 0x7f then [UInt8.ofNat character.toNat]
    else (utf16Units character).flatMap escapeUnit)

/-- A text as `json.dumps` writes it. -/
def dumpString (text : String) : Bytes :=
  0x22 :: ((characters text).flatMap dumpChar ++ [0x22])

def codePoints (text : String) : List Nat := (characters text).map Char.toNat

/-- An object of encoded values as `json.dumps` writes it, keys sorted by code points. -/
def dumpObject (members : List (String × Bytes)) : Bytes :=
  0x7b :: (joinComma ((members.insertionSort fun left right =>
    codePoints left.1 ≤ codePoints right.1).map fun member =>
      dumpString member.1 ++ 0x3a :: member.2) ++ [0x7d])

def dumpOptional {α : Type} (write : α → Bytes) : Option α → Bytes
  | none => ascii "null"
  | some value => write value

/-- `_canonical_bytes`. -/
def canonicalBytes (members : List (String × Bytes)) : Nat :=
  (dumpObject members).length

/-- The loop of `_fixed_point_bytes`, for at most so many rounds. -/
def settleBytes (payload : List (String × Bytes)) : Nat → Nat → Nat
  | 0, current => current
  | rounds + 1, current =>
      let updated := canonicalBytes (payload ++ [("metadata_bytes", encodeNat current)])
      if updated = current then updated else settleBytes payload rounds updated

/-- `_fixed_point_bytes`. -/
def fixedPointBytes (payload : List (String × Bytes)) : Nat :=
  settleBytes payload 64 (canonicalBytes payload)

/-- How instants are written: those that are not negative take at most 23 characters. -/
def ShortTimes (timeText : ℚ → Bytes) : Prop :=
  ∀ time, 0 ≤ time → (timeText time).length ≤ 23

/-! ## Objects and arrays -/

theorem length_dumpString_of_plain {text : String} (plain : Plain text) :
    (dumpString text).length = text.length + 2 := by
  rw [dumpString, characters_eq_toList, List.length_cons, List.length_append, List.length_flatMap,
    ← String.length_toList]
  have single (character : Char) (member : character ∈ text.toList) :
      (dumpChar character).length = 1 := by
    have literal := escapeChar_of_plain (plain character member)
    have printable := plain character member
    simp only [isPlainChar, Bool.and_eq_true, decide_eq_true_eq] at printable
    rw [dumpChar, literal, Option.getD_none, if_pos (by omega)]
    rfl
  rw [List.map_congr_left single]
  simp

def memberBytes (member : String × Bytes) : Nat :=
  (dumpString member.1).length + 1 + member.2.length

theorem canonicalBytes_eq (members : List (String × Bytes)) :
    canonicalBytes members = (members.map memberBytes).sum + (members.length - 1) + 2 := by
  have sorted := List.perm_insertionSort
    (fun left right : String × Bytes => codePoints left.1 ≤ codePoints right.1) members
  rw [canonicalBytes, dumpObject, List.length_cons, List.length_append, length_joinComma,
    List.map_map, List.length_map, sorted.length_eq, (sorted.map _).sum_eq]
  have lengths : (List.length ∘ fun member : String × Bytes =>
      dumpString member.1 ++ 0x3a :: member.2) = memberBytes := by
    funext member
    simp only [Function.comp_apply, List.length_append, List.length_cons, memberBytes]
    omega
  rw [lengths]
  rfl

theorem length_dumpOptional_le {α : Type} {write : α → Bytes} {option : Option α} {size : Nat}
    (room : 4 ≤ size) (each : ∀ value ∈ option, (write value).length ≤ size) :
    (dumpOptional write option).length ≤ size := by
  cases option with
  | none => exact room
  | some value => exact each value rfl

/-! ## The size of a snapshot in the snapshot -/

theorem length_encodeNat_mono {low high : Nat} (order : low ≤ high) :
    (encodeNat low).length ≤ (encodeNat high).length := by
  have positive : 0 < (encodeNat high).length := by
    rw [encodeNat, List.length_map]
    exact Nat.length_toDigits_pos
  refine length_encodeNat_le positive (order.trans_lt ?_)
  have bound : (Nat.toDigits 10 high).length ≤ (encodeNat high).length := by
    rw [encodeNat, List.length_map]
  exact (Nat.length_toDigits_le_iff (by decide) positive).mp bound

/-- The payload with a size in it. -/
def sizedBytes (payload : List (String × Bytes)) (size : Nat) : Nat :=
  canonicalBytes (payload ++ [("metadata_bytes", encodeNat size)])

/-- The field takes its key and its digits, and a comma unless it is alone. -/
theorem sizedBytes_eq (payload : List (String × Bytes)) (size : Nat) :
    sizedBytes payload size =
      canonicalBytes payload + (if payload = [] then 17 else 18) + (encodeNat size).length := by
  have key : (dumpString "metadata_bytes").length = 16 := by decide
  simp only [sizedBytes, canonicalBytes_eq, List.map_append, List.sum_append, List.length_append,
    List.map_singleton, List.sum_singleton, List.length_singleton, memberBytes, key]
  split_ifs with empty
  · subst empty
    simp
    omega
  · have present : 1 ≤ payload.length := List.length_pos_iff.mpr empty
    omega

theorem sizedBytes_mono (payload : List (String × Bytes)) : Monotone (sizedBytes payload) := by
  intro low high order
  rw [sizedBytes_eq, sizedBytes_eq]
  exact Nat.add_le_add_left (length_encodeNat_mono order) _

theorem canonicalBytes_le_sizedBytes (payload : List (String × Bytes)) (size : Nat) :
    canonicalBytes payload ≤ sizedBytes payload size := by
  rw [sizedBytes_eq, Nat.add_assoc]
  exact Nat.le_add_right _ _

theorem settleBytes_eq (payload : List (String × Bytes)) (rounds current : Nat) :
    settleBytes payload rounds current = settleWithin (sizedBytes payload) rounds current := by
  induction rounds generalizing current with
  | zero => rfl
  | succ rounds induction =>
      rw [settleBytes, settleWithin]
      simp only [induction]
      rfl

/-- A payload whose size has few enough digits is settled within the rounds. -/
theorem fixedPointBytes_settles {payload : List (String × Bytes)} {digits : Nat}
    (small : canonicalBytes payload < 10 ^ digits) (some : 1 ≤ digits) (few : digits ≤ 40) :
    Settles (sizedBytes payload) (canonicalBytes payload) (fixedPointBytes payload) ∧
      fixedPointBytes payload ≤ canonicalBytes payload + (19 + digits) := by
  have enough : sizedBytes payload (canonicalBytes payload + (19 + digits)) ≤
      canonicalBytes payload + (19 + digits) := by
    have room : canonicalBytes payload + (19 + digits) < 10 ^ (digits + 1) := by
      have ten : 10 ^ 1 ≤ 10 ^ digits := Nat.pow_le_pow_right (by decide) some
      have above : digits < 10 ^ digits := Nat.lt_pow_self (by decide)
      rw [Nat.pow_succ]
      omega
    have length := length_encodeNat_le (Nat.succ_pos digits) room
    rw [sizedBytes_eq]
    split_ifs <;> omega
  rw [fixedPointBytes, settleBytes_eq]
  exact settles_settleWithin (sizedBytes_mono payload) (canonicalBytes_le_sizedBytes payload _)
    (Nat.le_add_right _ _) enough (by omega)

/-! ## The loop on a dictionary -/

/-- One round of `_fixed_point_bytes`: a copy of the payload with the size set in it. -/
def probeBytes (payload : Dict String Bytes) (current : Nat) : Nat :=
  canonicalBytes (payload.set "metadata_bytes" (encodeNat current)).entries

theorem probeBytes_eq {payload : Dict String Bytes}
    (absent : payload.contains "metadata_bytes" = false) :
    probeBytes payload = sizedBytes payload.entries := by
  funext current
  have fresh : "metadata_bytes" ∉ payload.entries.map Prod.fst := by
    intro member
    have present : payload.contains "metadata_bytes" = true := Dict.mem_keys_iff.mp member
    rw [absent] at present
    cases present
  rw [probeBytes, sizedBytes, Dict.set]
  dsimp only
  rw [setEntry_of_not_mem fresh]

/-- The size a payload has with that size in it. -/
structure SelfSized (payload : Dict String Bytes) (size : Nat) : Prop where
  exact : canonicalBytes (payload.set "metadata_bytes" (encodeNat size)).entries = size
  atLeast : canonicalBytes payload.entries ≤ size
  least : ∀ other, canonicalBytes payload.entries ≤ other →
    canonicalBytes (payload.set "metadata_bytes" (encodeNat other)).entries = other → size ≤ other

/-- The loop that looks for the size of a payload with its own size in it ends, and
ends at the least such size that is not below the size without. -/
theorem fixed_point_bytes_exact (payload : Dict String Bytes)
    (absent : payload.contains "metadata_bytes" = false)
    (small : canonicalBytes payload.entries < 10 ^ 15) :
    Settles (probeBytes payload) (canonicalBytes payload.entries)
        (fixedPointBytes payload.entries) ∧
      (∀ size, Settles (probeBytes payload) (canonicalBytes payload.entries) size →
        size = fixedPointBytes payload.entries) ∧
      SelfSized payload (fixedPointBytes payload.entries) := by
  have settles := (fixedPointBytes_settles small (by decide) (by decide)).1
  have mono := sizedBytes_mono payload.entries
  have climbing := canonicalBytes_le_sizedBytes payload.entries (canonicalBytes payload.entries)
  have probed := probeBytes_eq absent
  rw [probed]
  refine ⟨settles, ?_, ?_, ?_, ?_⟩
  · intro size other
    exact other.unique settles
  · have fixed := settles.fixed
    rw [← probed] at fixed
    exact fixed
  · exact settles.start_le mono climbing
  · intro other above fixed
    change probeBytes payload other = other at fixed
    rw [probed] at fixed
    exact settles.le_of_fixed mono above fixed

/-- A payload with a key outside ASCII, which is written as an escape. -/
def samplePayload : Dict String Bytes :=
  (Dict.empty.set "é" (encodeNat 1)).set "leases" (ascii "[]")

theorem fixed_point_bytes_exact_sample :
    canonicalBytes samplePayload.entries = 24 ∧ fixedPointBytes samplePayload.entries = 44 ∧
      SelfSized samplePayload 44 :=
  have small : canonicalBytes samplePayload.entries = 24 := by decide
  have settled : fixedPointBytes samplePayload.entries = 44 := by decide
  ⟨small, settled, settled ▸ (fixed_point_bytes_exact samplePayload rfl
    (small.trans_lt (by decide))).2.2⟩

end ManyAlerts
