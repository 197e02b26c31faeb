import ManyAlerts.Library.Checked
import ManyAlerts.Library.Sha256

/-!
# The pinned canonical encoding

`canonicalJson` is the bounded RFC 8785 subset of `forwarder_json`: integers
only, object keys in UTF-16 order, and caps on depth, array length, string
length and integer size.  `taggedDigest` hashes it under a tag.

`canonicalJson_eq_ok` separates the two questions later modules ask: which
values are within the caps, and what text a value within them has.
-/

namespace ManyAlerts

def maxJsonDepth : Nat := 16
def maxJsonArrayItems : Nat := 256
def maxJsonStringBytes : Nat := 16384
def maxSafeInteger : Nat := 2 ^ 53 - 1
def maxJsonNumberChars : Nat := 32

/-- The codes of `JSONPolicyError` that encoding can raise. -/
inductive JsonErrorCode where
  | argument
  | unicode
  | stringTooLong
  | number
  | depth
  | arrayTooLong
deriving DecidableEq

def isPrintable (character : Char) : Bool :=
  0x20 ≤ character.toNat && character.toNat ≤ 0x7e

/-- `_check_string`.  A Lean string has no lone surrogates, so of the bad
characters only U+0000 is left to look for. -/
def checkString (asciiOnly : Bool) (value : String) : Except JsonErrorCode Unit := do
  failIf ((characters value).any (fun character => character.toNat = 0)) .unicode
  failIf (asciiOnly && (characters value).any (fun character => !isPrintable character)) .unicode
  failIf (maxJsonStringBytes < (utf8 value).length) .stringTooLong

mutual

/-- `_canonicalize`: keys are checked in the order the object has them, values
are encoded in sorted order. -/
def canonicalize (asciiOnly : Bool) (depth : Nat) : Json → Except JsonErrorCode Bytes
  | .bool true => .ok (ascii "true")
  | .bool false => .ok (ascii "false")
  | .num value =>
      if maxSafeInteger < value.natAbs then .error .number else .ok (encodeInt value)
  | .null => .ok (ascii "null")
  | .str value => do
      checkString asciiOnly value
      return encodeString value
  | .obj members => do
      failIf (maxJsonDepth < depth) .depth
      checkAll (fun member : String × Json => checkString asciiOnly member.1) members
      let parts ← collect
        ((sortMembers (canonicalizeMembers asciiOnly (depth + 1) members)).map
          fun member => member.2.map (encodeMember member.1))
      return 0x7b :: (joinComma parts ++ [0x7d])
  | .arr items => do
      failIf (maxJsonDepth < depth) .depth
      failIf (maxJsonArrayItems < items.length) .arrayTooLong
      let parts ← collect (canonicalizeItems asciiOnly (depth + 1) items)
      return 0x5b :: (joinComma parts ++ [0x5d])

def canonicalizeItems (asciiOnly : Bool) (depth : Nat) :
    List Json → List (Except JsonErrorCode Bytes)
  | [] => []
  | item :: items =>
      canonicalize asciiOnly depth item :: canonicalizeItems asciiOnly depth items

def canonicalizeMembers (asciiOnly : Bool) (depth : Nat) :
    List (String × Json) → List (String × Except JsonErrorCode Bytes)
  | [] => []
  | (key, value) :: members =>
      (key, canonicalize asciiOnly depth value) :: canonicalizeMembers asciiOnly depth members

end

def canonicalJson (asciiOnly : Bool) (value : Json) : Except JsonErrorCode Bytes :=
  canonicalize asciiOnly 1 value

def isTagChar (character : Char) : Bool :=
  character.isLower || character.isDigit || character = '.' || character = '-'

/-- The pattern `[a-z0-9][a-z0-9.-]{0,63}`. -/
def isTag (tag : String) : Bool :=
  match characters tag with
  | [] => false
  | first :: rest =>
      (first.isLower || first.isDigit) && rest.length ≤ 63 && rest.all isTagChar

def taggedDigest (tag : String) (value : Json) : Except JsonErrorCode String := do
  failIf (isTag tag = false) .argument
  let body ← canonicalJson true value
  return sha256Hex (ascii tag ++ 0x00 :: body)

/-! ## Values within the caps -/

/-- A string the encoder takes. -/
def TextWithin (asciiOnly : Bool) (value : String) : Prop :=
  (∀ character ∈ value.toList, character.toNat ≠ 0) ∧
    (asciiOnly = true → ∀ character ∈ value.toList, isPrintable character = true) ∧
    (utf8 value).length ≤ maxJsonStringBytes

theorem checkString_eq_ok {asciiOnly : Bool} {value : String} :
    checkString asciiOnly value = .ok () ↔ TextWithin asciiOnly value := by
  simp only [checkString, bind_eq_ok, failIf_eq_ok, exists_unit, TextWithin, characters_eq_toList,
    List.any_eq_true, Bool.and_eq_true, decide_eq_true_eq, Bool.not_eq_true', not_exists,
    not_and, not_lt,
    Bool.not_eq_false]

theorem textWithin_of_plain {asciiOnly : Bool} {value : String} (plain : Plain value)
    (short : value.length ≤ maxJsonStringBytes) : TextWithin asciiOnly value := by
  have bounds (character : Char) (member : character ∈ value.toList) :
      0x20 ≤ character.toNat ∧ character.toNat ≤ 0x7e := by
    have one := plain character member
    simp only [isPlainChar, Bool.and_eq_true, decide_eq_true_eq] at one
    exact one.1.1
  refine ⟨fun character member => ?_, fun _ character member => ?_, ?_⟩
  · have low := (bounds character member).1
    omega
  · simp [isPrintable, bounds character member]
  · rwa [length_utf8_of_plain plain]

mutual

/-- A value the encoder takes when its root is at this depth. -/
def Within (asciiOnly : Bool) (depth : Nat) : Json → Prop
  | .bool _ => True
  | .num value => value.natAbs ≤ maxSafeInteger
  | .null => True
  | .str value => TextWithin asciiOnly value
  | .obj members =>
      depth ≤ maxJsonDepth ∧ WithinMembers asciiOnly (depth + 1) members
  | .arr items =>
      depth ≤ maxJsonDepth ∧ items.length ≤ maxJsonArrayItems ∧
        WithinItems asciiOnly (depth + 1) items

def WithinItems (asciiOnly : Bool) (depth : Nat) : List Json → Prop
  | [] => True
  | item :: items => Within asciiOnly depth item ∧ WithinItems asciiOnly depth items

def WithinMembers (asciiOnly : Bool) (depth : Nat) : List (String × Json) → Prop
  | [] => True
  | (key, value) :: members =>
      TextWithin asciiOnly key ∧ Within asciiOnly depth value ∧
        WithinMembers asciiOnly depth members

end

theorem withinItems_iff {asciiOnly : Bool} {depth : Nat} {items : List Json} :
    WithinItems asciiOnly depth items ↔ ∀ item ∈ items, Within asciiOnly depth item := by
  induction items with
  | nil => simp [WithinItems]
  | cons item items induction => simp [WithinItems, induction]

theorem withinMembers_iff {asciiOnly : Bool} {depth : Nat} {members : List (String × Json)} :
    WithinMembers asciiOnly depth members ↔
      ∀ member ∈ members, TextWithin asciiOnly member.1 ∧ Within asciiOnly depth member.2 := by
  induction members with
  | nil => simp [WithinMembers]
  | cons member members induction =>
      obtain ⟨key, value⟩ := member
      simp [WithinMembers, induction, and_assoc]

theorem canonicalizeItems_eq_map (asciiOnly : Bool) (depth : Nat) (items : List Json) :
    canonicalizeItems asciiOnly depth items = items.map (canonicalize asciiOnly depth) := by
  induction items with
  | nil => rfl
  | cons item items induction => rw [canonicalizeItems, induction, List.map_cons]

theorem canonicalizeMembers_eq_map (asciiOnly : Bool) (depth : Nat)
    (members : List (String × Json)) :
    canonicalizeMembers asciiOnly depth members =
      members.map fun member => (member.1, canonicalize asciiOnly depth member.2) := by
  induction members with
  | nil => rfl
  | cons member members induction =>
      obtain ⟨key, value⟩ := member
      rw [canonicalizeMembers, induction, List.map_cons]

/-- The parts of an object in the order they are written. -/
theorem canonicalize_parts (asciiOnly : Bool) (depth : Nat) (members : List (String × Json)) :
    (sortMembers (canonicalizeMembers asciiOnly depth members)).map
        (fun member => member.2.map (encodeMember member.1)) =
      (sortMembers members).map fun member =>
        (canonicalize asciiOnly depth member.2).map (encodeMember member.1) := by
  rw [canonicalizeMembers_eq_map, sortMembers_map, List.map_map]
  rfl

mutual

/-- Encoding returns exactly on the values within the caps, and what it returns
is the compact text of the sorted value. -/
theorem canonicalize_eq_ok (asciiOnly : Bool) (depth : Nat) (value : Json) (text : Bytes) :
    canonicalize asciiOnly depth value = .ok text ↔
      Within asciiOnly depth value ∧ text = value.sortKeys.encode := by
  match value with
  | .null => simp [canonicalize, Within, Json.sortKeys, Json.encode, eq_comm]
  | .bool true => simp [canonicalize, Within, Json.sortKeys, Json.encode, eq_comm]
  | .bool false => simp [canonicalize, Within, Json.sortKeys, Json.encode, eq_comm]
  | .num value =>
      rw [canonicalize, Within, Json.sortKeys, Json.encode]
      split_ifs with large
      · simp [large]
      · simp [not_lt.mp large, eq_comm]
  | .str value =>
      simp only [canonicalize, bind_eq_ok, exists_unit, checkString_eq_ok, pure_eq_ok, Within,
        Json.sortKeys, Json.encode]
      exact and_congr_right fun _ => eq_comm
  | .arr items =>
      have spec := canonicalizeItems_spec asciiOnly (depth + 1) items
      simp only [canonicalize, canonicalizeItems_eq_map, bind_eq_ok, failIf_eq_ok, exists_unit,
        pure_eq_ok, collect_map_eq_ok spec, not_lt, Within, withinItems_iff, Json.sortKeys,
        Json.encode, Json.encodeItems_eq_map, Json.sortKeysItems_eq_map, List.map_map]
      constructor
      · rintro ⟨shallow, short, _, ⟨good, rfl⟩, rfl⟩
        exact ⟨⟨shallow, short, good⟩, rfl⟩
      · rintro ⟨⟨shallow, short, good⟩, rfl⟩
        exact ⟨shallow, short, _, ⟨good, rfl⟩, rfl⟩
  | .obj members =>
      have spec := canonicalizeMembers_spec asciiOnly (depth + 1) members
      have sortedSpec : ∀ member ∈ sortMembers members, ∀ result,
          (canonicalize asciiOnly (depth + 1) member.2).map (encodeMember member.1) =
              .ok result ↔
            Within asciiOnly (depth + 1) member.2 ∧
              result = encodeMember member.1 member.2.sortKeys.encode := by
        intro member sorted result
        have one := spec member ((sortMembers_perm members).mem_iff.mp sorted)
        cases encoded : canonicalize asciiOnly (depth + 1) member.2 with
        | error code =>
            simp only [encoded, reduceCtorEq, false_iff, not_and] at one
            simp only [Except.map, reduceCtorEq, false_iff, not_and]
            intro within
            exact absurd rfl (one _ within)
        | ok part =>
            simp only [encoded, Except.ok.injEq] at one
            obtain ⟨within, rfl⟩ := (one part).mp rfl
            simp [Except.map, within, eq_comm]
      simp only [canonicalize, canonicalize_parts, bind_eq_ok, failIf_eq_ok, exists_unit,
        pure_eq_ok, collect_map_eq_ok sortedSpec, checkAll_eq_ok, checkString_eq_ok, not_lt,
        Within, withinMembers_iff, Json.sortKeys, Json.encode, Json.encodeMembers_eq_map,
        Json.sortKeysMembers_eq_map, sortMembers_map, List.map_map,
        (sortMembers_perm members).mem_iff]
      constructor
      · rintro ⟨shallow, keys, _, ⟨good, rfl⟩, rfl⟩
        exact ⟨⟨shallow, fun member found => ⟨keys member found, good member found⟩⟩, rfl⟩
      · rintro ⟨⟨shallow, good⟩, rfl⟩
        exact ⟨shallow, fun member found => (good member found).1, _,
          ⟨fun member found => (good member found).2, rfl⟩, rfl⟩

theorem canonicalizeItems_spec (asciiOnly : Bool) (depth : Nat) (items : List Json) :
    ∀ item ∈ items, ∀ text, canonicalize asciiOnly depth item = .ok text ↔
      Within asciiOnly depth item ∧ text = item.sortKeys.encode := by
  match items with
  | [] =>
      intro item member
      cases member
  | first :: rest =>
      intro item member text
      rcases List.mem_cons.mp member with same | later
      · rw [same]
        exact canonicalize_eq_ok asciiOnly depth first text
      · exact canonicalizeItems_spec asciiOnly depth rest item later text

theorem canonicalizeMembers_spec (asciiOnly : Bool) (depth : Nat)
    (members : List (String × Json)) :
    ∀ member ∈ members, ∀ text, canonicalize asciiOnly depth member.2 = .ok text ↔
      Within asciiOnly depth member.2 ∧ text = member.2.sortKeys.encode := by
  match members with
  | [] =>
      intro member found
      cases found
  | (key, value) :: rest =>
      intro member found text
      rcases List.mem_cons.mp found with same | later
      · rw [same]
        exact canonicalize_eq_ok asciiOnly depth value text
      · exact canonicalizeMembers_spec asciiOnly depth rest member later text

end

theorem canonicalJson_eq_ok {asciiOnly : Bool} {value : Json} {text : Bytes} :
    canonicalJson asciiOnly value = .ok text ↔
      Within asciiOnly 1 value ∧ text = value.sortKeys.encode :=
  canonicalize_eq_ok asciiOnly 1 value text

/-- Equal canonical texts come from values that are equal up to member order. -/
theorem sortKeys_eq_of_canonicalJson {asciiOnly : Bool} {left right : Json} {text : Bytes}
    (leftText : canonicalJson asciiOnly left = .ok text)
    (rightText : canonicalJson asciiOnly right = .ok text) :
    left.sortKeys = right.sortKeys := by
  apply Json.encode_injective
  rw [← (canonicalJson_eq_ok.mp leftText).2, ← (canonicalJson_eq_ok.mp rightText).2]

mutual

/-- Whether a value is within the caps does not depend on the order of members. -/
theorem within_sortKeys (asciiOnly : Bool) (depth : Nat) (value : Json) :
    Within asciiOnly depth value.sortKeys ↔ Within asciiOnly depth value := by
  match value with
  | .null => rfl
  | .bool _ => rfl
  | .num _ => rfl
  | .str _ => rfl
  | .arr items =>
      have spec := within_sortKeysItems asciiOnly (depth + 1) items
      simp only [Json.sortKeys, Within, Json.sortKeysItems_eq_map, List.length_map,
        withinItems_iff, List.forall_mem_map]
      exact and_congr_right fun _ => and_congr_right fun _ =>
        forall₂_congr fun item member => spec item member
  | .obj members =>
      have spec := within_sortKeysMembers asciiOnly (depth + 1) members
      simp only [Json.sortKeys, Within, Json.sortKeysMembers_eq_map, withinMembers_iff,
        (sortMembers_perm _).mem_iff, List.forall_mem_map]
      exact and_congr_right fun _ => forall₂_congr fun member found =>
        and_congr_right fun _ => spec member found

theorem within_sortKeysItems (asciiOnly : Bool) (depth : Nat) (items : List Json) :
    ∀ item ∈ items, (Within asciiOnly depth item.sortKeys ↔ Within asciiOnly depth item) := by
  match items with
  | [] =>
      intro item member
      cases member
  | first :: rest =>
      intro item member
      rcases List.mem_cons.mp member with same | later
      · rw [same]
        exact within_sortKeys asciiOnly depth first
      · exact within_sortKeysItems asciiOnly depth rest item later

theorem within_sortKeysMembers (asciiOnly : Bool) (depth : Nat) (members : List (String × Json)) :
    ∀ member ∈ members,
      (Within asciiOnly depth member.2.sortKeys ↔ Within asciiOnly depth member.2) := by
  match members with
  | [] =>
      intro member found
      cases found
  | (key, value) :: rest =>
      intro member found
      rcases List.mem_cons.mp found with same | later
      · rw [same]
        exact within_sortKeys asciiOnly depth value
      · exact within_sortKeysMembers asciiOnly depth rest member later

end

/-- Values that are equal up to member order have the same canonical text. -/
theorem canonicalJson_congr {asciiOnly : Bool} {left right : Json} {text : Bytes}
    (same : left.sortKeys = right.sortKeys) (encoded : canonicalJson asciiOnly left = .ok text) :
    canonicalJson asciiOnly right = .ok text := by
  rw [canonicalJson_eq_ok, ← within_sortKeys, same, within_sortKeys, ← canonicalJson_eq_ok]
    at encoded
  exact encoded

theorem taggedDigest_congr {tag : String} {left right : Json} {digest : String}
    (same : left.sortKeys = right.sortKeys) (digested : taggedDigest tag left = .ok digest) :
    taggedDigest tag right = .ok digest := by
  simp only [taggedDigest, bind_eq_ok, failIf_eq_ok, exists_unit, pure_eq_ok] at digested ⊢
  obtain ⟨valid, text, encoded, rfl⟩ := digested
  exact ⟨valid, text, canonicalJson_congr same encoded, rfl⟩

/-- The text whose hash a tagged digest is. -/
def tagged (tag : String) (value : Json) : Bytes :=
  ascii tag ++ 0x00 :: value.sortKeys.encode

theorem taggedDigest_eq_ok {tag : String} {value : Json} {digest : String}
    (validTag : isTag tag = true) :
    taggedDigest tag value = .ok digest ↔
      Within true 1 value ∧ digest = sha256Hex (tagged tag value) := by
  simp only [taggedDigest, bind_eq_ok, failIf_eq_ok, exists_unit, pure_eq_ok,
    canonicalJson_eq_ok, validTag, Bool.true_eq_false, not_false_eq_true, true_and]
  constructor
  · rintro ⟨_, ⟨within, rfl⟩, rfl⟩
    exact ⟨within, rfl⟩
  · rintro ⟨within, rfl⟩
    exact ⟨_, ⟨within, rfl⟩, rfl⟩

end ManyAlerts
