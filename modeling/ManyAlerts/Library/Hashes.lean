import ManyAlerts.Library.Sha256

/-!
# Hashes that tell texts apart

No hash function is injective, so a result about digests says which texts the hash has to
tell apart: those that were hashed.
-/

namespace ManyAlerts

theorem Sha256.hexChar_injective {left right : Nat} (leftBound : left < 16)
    (rightBound : right < 16) (same : Sha256.hexChar left = Sha256.hexChar right) :
    left = right := by
  interval_cases left <;> interval_cases right <;> first | rfl | (revert same; decide)

namespace Sha256

variable {left right : Nat}

@[simp] theorem length_hexWord (word : Nat) : (hexWord word).length = 8 := by simp [hexWord]

@[simp] theorem length_wordBytes (word : Nat) : (wordBytes word).length = 4 := by simp [wordBytes]

theorem hexWord_eq_iff : hexWord left = hexWord right ↔ left % 2 ^ 32 = right % 2 ^ 32 := by
  have digits : hexWord left = hexWord right ↔ ∀ index < 8,
      left / 2 ^ (4 * (7 - index)) % 16 = right / 2 ^ (4 * (7 - index)) % 16 := by
    simp only [hexWord, List.map_inj_left, List.mem_range, Nat.shiftRight_eq_div_pow]
    refine forall₂_congr fun index _ => ⟨fun same => ?_, congrArg hexChar⟩
    exact hexChar_injective (Nat.mod_lt _ (by decide)) (Nat.mod_lt _ (by decide)) same
  rw [digits]
  constructor
  · intro same
    have one := same 0 (by decide)
    have two := same 1 (by decide)
    have three := same 2 (by decide)
    have four := same 3 (by decide)
    have five := same 4 (by decide)
    have six := same 5 (by decide)
    have seven := same 6 (by decide)
    have eight := same 7 (by decide)
    norm_num at one two three four five six seven eight
    omega
  · intro same index bound
    interval_cases index <;> norm_num at same ⊢ <;> omega

theorem wordBytes_eq_iff : wordBytes left = wordBytes right ↔ left % 2 ^ 32 = right % 2 ^ 32 := by
  have bytes : wordBytes left = wordBytes right ↔ ∀ index < 4,
      left / 2 ^ (8 * (3 - index)) % 256 = right / 2 ^ (8 * (3 - index)) % 256 := by
    simp only [wordBytes, List.map_inj_left, List.mem_range, Nat.shiftRight_eq_div_pow]
    refine forall₂_congr fun index _ => ⟨fun same => ?_, congrArg UInt8.ofNat⟩
    simpa using congrArg UInt8.toNat same
  rw [bytes]
  constructor
  · intro same
    have one := same 0 (by decide)
    have two := same 1 (by decide)
    have three := same 2 (by decide)
    have four := same 3 (by decide)
    norm_num at one two three four
    omega
  · intro same index bound
    interval_cases index <;> norm_num at same ⊢ <;> omega

end Sha256

/-- The hexadecimal digest names the digest. -/
theorem sha256Hex_eq_iff {left right : Bytes} :
    sha256Hex left = sha256Hex right ↔ sha256 left = sha256 right := by
  have cut {α : Type} {one two three four : List α} (same : one.length = three.length) :
      one ++ two = three ++ four ↔ one = three ∧ two = four :=
    ⟨fun appended => List.append_inj appended same, fun both => by rw [both.1, both.2]⟩
  simp only [sha256Hex, String.ofList_inj, Sha256.hexChars, sha256, List.flatMap_cons,
    List.flatMap_nil, List.append_nil, List.append_assoc, cut, Sha256.length_hexWord,
    Sha256.length_wordBytes, Sha256.hexWord_eq_iff, Sha256.wordBytes_eq_iff]

/-- Texts that a hash tells apart. -/
def TellsApart (hash : Bytes → Bytes) (texts : List Bytes) : Prop :=
  ∀ left ∈ texts, ∀ right ∈ texts, hash left = hash right → left = right

/-- Texts that SHA-256 tells apart. -/
abbrev HashesApart : List Bytes → Prop := TellsApart sha256

theorem TellsApart.mono {hash : Bytes → Bytes} {texts more : List Bytes}
    (apart : TellsApart hash more) (subset : texts ⊆ more) : TellsApart hash texts :=
  fun left leftIn right rightIn => apart left (subset leftIn) right (subset rightIn)

theorem hashesApart_of_hex {texts : List Bytes} (distinct : (texts.map sha256Hex).Nodup) :
    HashesApart texts := by
  intro left leftIn right rightIn same
  exact List.inj_on_of_nodup_map distinct leftIn rightIn (sha256Hex_eq_iff.mpr same)

theorem TellsApart.hex {texts : List Bytes} (apart : HashesApart texts) {left right : Bytes}
    (leftIn : left ∈ texts) (rightIn : right ∈ texts)
    (same : sha256Hex left = sha256Hex right) : left = right :=
  apart left leftIn right rightIn (sha256Hex_eq_iff.mp same)

end ManyAlerts
