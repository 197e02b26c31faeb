import ManyAlerts.Forwarder.Json
import ManyAlerts.Library.JsonText

/-!
# The strict parser

`parseJson` is `parse_json` in integer mode: caps on the document, the depth, the
arrays, the strings and the numbers around a reader of RFC 8259 text.  What it
takes is rebuilt by `postwalk`, which checks the caps again on the parsed value.

`parseJson_canonicalJson` is what the codecs rest on: canonical text is read back
as the value it was written for, with its members in canonical order.
-/

namespace ManyAlerts

def maxJsonDocumentBytes : Nat := 1048576

/-- The codes of `JSONPolicyError` that parsing can raise. -/
inductive JsonReadCode where
  | argument
  | tooLarge
  | encoding
  | syntaxError
  | unicode
  | duplicateKey
  | depth
  | arrayTooLong
  | stringTooLong
  | number
deriving DecidableEq

structure ParseOptions where
  maxBytes : Nat
  asciiOnly : Bool
  maxStringBytes : Nat

/-- The bounds that `parse_json` has by default. -/
def ParseOptions.ascii (maxBytes : Nat) : ParseOptions := ⟨maxBytes, true, maxJsonStringBytes⟩

/-- `data.decode("utf-8", "strict")`. -/
def decodeUtf8 (data : Bytes) : Option (List Char) :=
  data.toByteArray.utf8Decode?.map Array.toList

/-- `_prescan_depth`: the depth so far, whether a string is open, and the text ahead.
In a string the character behind a backslash is consumed, whatever it is. -/
def prescanDepth : Int → Bool → List Char → Except JsonReadCode Unit
  | _, _, [] => .ok ()
  | _, true, ['\\'] => .ok ()
  | depth, true, '\\' :: _ :: rest => prescanDepth depth true rest
  | depth, true, character :: rest => prescanDepth depth (character ≠ '"') rest
  | depth, false, character :: rest =>
      if character = '"' then prescanDepth depth true rest
      else if character = '[' ∨ character = '{' then
        if maxJsonDepth < depth + 1 then .error .depth else prescanDepth (depth + 1) false rest
      else if character = ']' ∨ character = '}' then prescanDepth (depth - 1) false rest
      else prescanDepth depth false rest

/-- `int` of a lexeme. -/
def lexemeValue : List Char → Int
  | '-' :: digits => -(Nat.ofDigitChars 10 digits 0 : Int)
  | digits => (Nat.ofDigitChars 10 digits 0 : Int)

/-- `parse_int`. -/
def parseInteger (lexeme : List Char) : Except JsonReadCode Int := do
  failIf (maxJsonNumberChars < lexeme.length) .number
  let value := lexemeValue lexeme
  failIf (maxSafeInteger < value.natAbs) .number
  return value

/-- The hooks of integer mode. -/
def integerHooks : JsonHooks JsonReadCode Int where
  syntaxError := .syntaxError
  integer := parseInteger
  fraction _ := .error .number
  constant _ := .error .number
  members members := failIf (¬(members.map Prod.fst).Nodup) .duplicateKey

/-- `_check_string` on the code points of a parsed text. -/
def checkPoints (options : ParseOptions) (points : List Nat) : Except JsonReadCode String := do
  failIf (points.any fun point => point = 0 || 0xd800 ≤ point && point < 0xe000) .unicode
  failIf (options.asciiOnly && points.any fun point => point < 0x20 || 0x7e < point) .unicode
  let text := String.ofList (points.map Char.ofNat)
  failIf (options.maxStringBytes < (utf8 text).length) .stringTooLong
  return text

mutual

/-- `_postwalk` at a depth. -/
def postwalk (options : ParseOptions) (depth : Nat) : JsonTree Int → Except JsonReadCode Json
  | .null => .ok .null
  | .bool value => .ok (.bool value)
  | .number value => .ok (.num value)
  | .text points => do
      let text ← checkPoints options points
      return .str text
  | .array items => do
      failIf (maxJsonDepth < depth) .depth
      failIf (maxJsonArrayItems < items.length) .arrayTooLong
      let items ← postwalkItems options (depth + 1) items
      return .arr items
  | .object members => do
      failIf (maxJsonDepth < depth) .depth
      let keys ← members.mapM fun member => checkPoints options member.1
      let values ← postwalkMembers options (depth + 1) members
      return .obj (keys.zip values)

def postwalkItems (options : ParseOptions) (depth : Nat) :
    List (JsonTree Int) → Except JsonReadCode (List Json)
  | [] => .ok []
  | item :: items => do
      let item ← postwalk options depth item
      let items ← postwalkItems options depth items
      return item :: items

def postwalkMembers (options : ParseOptions) (depth : Nat) :
    List (List Nat × JsonTree Int) → Except JsonReadCode (List Json)
  | [] => .ok []
  | (_, value) :: members => do
      let value ← postwalk options depth value
      let values ← postwalkMembers options depth members
      return value :: values

end

def byteOrderMark : Bytes := [0xef, 0xbb, 0xbf]

/-- `parse_json` with `numbers="integer"`. -/
def parseJson (options : ParseOptions) (data : Bytes) : Except JsonReadCode Json := do
  failIf (¬(1 ≤ options.maxBytes ∧ options.maxBytes ≤ maxJsonDocumentBytes ∧
    1 ≤ options.maxStringBytes ∧ options.maxStringBytes ≤ maxJsonDocumentBytes)) .argument
  failIf (options.maxBytes < data.length) .tooLarge
  failIf (data.take 3 = byteOrderMark) .encoding
  let text ← orFail .encoding (decodeUtf8 data)
  failIf (options.asciiOnly && data.any fun byte => byte < 0x20 || 0x7e < byte) .unicode
  prescanDepth 0 false text
  let tree ← readJson integerHooks text
  postwalk options 1 tree

/-! ## Canonical text -/

namespace Json

mutual

/-- No object has two members of one key. -/
def KeysDistinct : Json → Prop
  | .arr items => KeysDistinctItems items
  | .obj members => (members.map Prod.fst).Nodup ∧ KeysDistinctMembers members
  | _ => True

def KeysDistinctItems : List Json → Prop
  | [] => True
  | item :: items => KeysDistinct item ∧ KeysDistinctItems items

def KeysDistinctMembers : List (String × Json) → Prop
  | [] => True
  | (_, value) :: members => KeysDistinct value ∧ KeysDistinctMembers members

end

theorem keysDistinctItems_iff {items : List Json} :
    KeysDistinctItems items ↔ ∀ item ∈ items, item.KeysDistinct := by
  induction items with
  | nil => simp [KeysDistinctItems]
  | cons item items induction => simp [KeysDistinctItems, induction]

theorem keysDistinctMembers_iff {members : List (String × Json)} :
    KeysDistinctMembers members ↔ ∀ member ∈ members, member.2.KeysDistinct := by
  induction members with
  | nil => simp [KeysDistinctMembers]
  | cons member members induction =>
      obtain ⟨key, value⟩ := member
      simp [KeysDistinctMembers, induction]

mutual

theorem keysDistinct_sortKeys (value : Json) (distinct : value.KeysDistinct) :
    value.sortKeys.KeysDistinct := by
  match value with
  | .null | .bool _ | .num _ | .str _ => trivial
  | .arr items => exact keysDistinct_sortKeysItems items distinct
  | .obj members =>
      have inner := keysDistinct_sortKeysMembers members distinct.2
      have same := sortMembers_perm (sortKeysMembers members)
      refine ⟨?_, ?_⟩
      · rw [(same.map Prod.fst).nodup_iff, sortKeysMembers_eq_map, List.map_map]
        exact distinct.1
      · rw [keysDistinctMembers_iff] at inner ⊢
        intro member isMember
        exact inner member (same.mem_iff.mp isMember)

theorem keysDistinct_sortKeysItems (items : List Json) (distinct : KeysDistinctItems items) :
    KeysDistinctItems (sortKeysItems items) := by
  match items with
  | [] => trivial
  | item :: items =>
      exact ⟨keysDistinct_sortKeys item distinct.1, keysDistinct_sortKeysItems items distinct.2⟩

theorem keysDistinct_sortKeysMembers (members : List (String × Json))
    (distinct : KeysDistinctMembers members) : KeysDistinctMembers (sortKeysMembers members) := by
  match members with
  | [] => trivial
  | (_, value) :: members =>
      exact ⟨keysDistinct_sortKeys value distinct.1,
        keysDistinct_sortKeysMembers members distinct.2⟩

end

end Json

/-! ### Numbers and keys -/

theorem lexemeValue_intChars (value : Int) : lexemeValue (intChars value) = value := by
  unfold intChars
  split_ifs with negative
  · rw [lexemeValue, Nat.ofDigitChars_ten_toDigits]
    omega
  · rw [lexemeValue, Nat.ofDigitChars_ten_toDigits]
    · omega
    · intro tail same
      have starts := scanMinus_toDigits value.natAbs []
      rw [List.append_nil, same] at starts
      simp [scanMinus] at starts

theorem parseInteger_intChars {value : Int} (safe : value.natAbs ≤ maxSafeInteger) :
    parseInteger (intChars value) = .ok value := by
  have short : (intChars value).length ≤ maxJsonNumberChars := by
    have digits : (Nat.toDigits 10 value.natAbs).length ≤ 16 := by
      rw [Nat.length_toDigits_le_iff (by decide) (by decide)]
      exact lt_of_le_of_lt safe (by decide)
    unfold intChars maxJsonNumberChars
    split_ifs <;> simp <;> omega
  simp [parseInteger, lexemeValue_intChars, failIf, not_lt.mpr short, not_lt.mpr safe]

theorem pointsOf_injective {left right : String} (same : pointsOf left = pointsOf right) :
    left = right := by
  apply String.toList_inj.mp
  exact List.map_injective_iff.mpr (fun _ _ => Char.toNat_inj.mp) same

theorem treeMembers_keys {ν : Type} (number : Int → ν) (members : List (String × Json)) :
    (Json.treeMembers number members).map Prod.fst =
      members.map fun member => pointsOf member.1 := by
  induction members with
  | nil => rfl
  | cons member members induction =>
      rw [Json.treeMembers, List.map_cons, induction]
      rfl

mutual

theorem taken_of_within {asciiOnly : Bool} (depth : Nat) (value : Json)
    (within : Within asciiOnly depth value) (distinct : value.KeysDistinct) :
    value.Taken integerHooks id := by
  match value with
  | .null | .bool _ | .str _ => trivial
  | .num value => exact parseInteger_intChars within
  | .arr items => exact takenItems_of_within (depth + 1) items within.2.2 distinct
  | .obj members =>
      refine ⟨takenMembers_of_within (depth + 1) members within.2 distinct.2, ?_⟩
      have nodup : ((Json.treeMembers id members).map Prod.fst).Nodup := by
        rw [treeMembers_keys, ← Function.comp_def, ← List.map_map]
        exact distinct.1.map fun _ _ => pointsOf_injective
      exact failIf_of_not (not_not.mpr nodup)

theorem takenItems_of_within {asciiOnly : Bool} (depth : Nat) (items : List Json)
    (within : WithinItems asciiOnly depth items) (distinct : Json.KeysDistinctItems items) :
    Json.TakenItems integerHooks id items := by
  match items with
  | [] => trivial
  | item :: items =>
      exact ⟨taken_of_within depth item within.1 distinct.1,
        takenItems_of_within depth items within.2 distinct.2⟩

theorem takenMembers_of_within {asciiOnly : Bool} (depth : Nat) (members : List (String × Json))
    (within : WithinMembers asciiOnly depth members)
    (distinct : Json.KeysDistinctMembers members) :
    Json.TakenMembers integerHooks id members := by
  match members with
  | [] => trivial
  | (key, value) :: members =>
      exact ⟨taken_of_within depth value within.2.1 distinct.1,
        takenMembers_of_within depth members within.2.2 distinct.2⟩

end

/-! ### The walk over the parsed value -/

theorem checkPoints_pointsOf {asciiOnly : Bool} {maxBytes : Nat} {text : String}
    (within : TextWithin asciiOnly text) :
    checkPoints ⟨maxBytes, asciiOnly, maxJsonStringBytes⟩ (pointsOf text) = .ok text := by
  obtain ⟨noZero, printable, short⟩ := within
  have rebuilt : String.ofList ((pointsOf text).map Char.ofNat) = text := by
    simp [pointsOf, Function.comp_def]
  have good : ¬((pointsOf text).any fun point =>
      point = 0 || 0xd800 ≤ point && point < 0xe000) = true := by
    simp only [pointsOf, List.any_map, List.any_eq_true, not_exists, not_and, Function.comp_apply,
      Bool.or_eq_true, Bool.and_eq_true, decide_eq_true_eq, not_or, not_lt]
    intro character member
    have valid := character.valid
    unfold UInt32.isValidChar Nat.isValidChar at valid
    refine ⟨noZero character member, ?_⟩
    unfold Char.toNat
    omega
  have plain : ¬(asciiOnly && (pointsOf text).any fun point =>
      point < 0x20 || 0x7e < point) = true := by
    simp only [pointsOf, List.any_map, Bool.and_eq_true, List.any_eq_true, not_exists, not_and,
      Function.comp_apply, Bool.or_eq_true, decide_eq_true_eq, not_or, not_lt]
    intro isAscii character member
    simpa [isPrintable] using printable isAscii character member
  simp only [checkPoints, rebuilt, failIf_of_not good, failIf_of_not plain,
    failIf_of_not (not_lt.mpr short), ok_bind]
  rfl

theorem mapM_checkPoints {asciiOnly : Bool} {maxBytes : Nat} (members : List (String × Json))
    (within : ∀ member ∈ members, TextWithin asciiOnly member.1) :
    (Json.treeMembers id members).mapM
        (fun member => checkPoints ⟨maxBytes, asciiOnly, maxJsonStringBytes⟩ member.1) =
      .ok (members.map Prod.fst) := by
  induction members with
  | nil => rfl
  | cons member members induction =>
      obtain ⟨key, value⟩ := member
      rw [Json.treeMembers, List.mapM_cons, checkPoints_pointsOf (within (key, value) (by simp)),
        ok_bind, induction fun member isMember => within member (by simp [isMember])]
      rfl

theorem length_treeItems {ν : Type} (number : Int → ν) (items : List Json) :
    (Json.treeItems number items).length = items.length := by
  induction items with
  | nil => rfl
  | cons item items induction => rw [Json.treeItems, List.length_cons, induction, List.length_cons]

mutual

theorem postwalk_tree {asciiOnly : Bool} {maxBytes : Nat} (depth : Nat) (value : Json)
    (within : Within asciiOnly depth value) :
    postwalk ⟨maxBytes, asciiOnly, maxJsonStringBytes⟩ depth (value.tree id) = .ok value := by
  match value with
  | .null | .bool _ | .num _ => rfl
  | .str value =>
      rw [Json.tree, postwalk, checkPoints_pointsOf within]
      rfl
  | .arr items =>
      have short : ¬maxJsonArrayItems < (Json.treeItems id items).length := by
        rw [length_treeItems]
        exact not_lt.mpr within.2.1
      rw [Json.tree, postwalk, failIf_of_not (not_lt.mpr within.1), ok_bind, failIf_of_not short,
        ok_bind, postwalkItems_tree (depth + 1) items within.2.2]
      rfl
  | .obj members =>
      have keys := fun member isMember => (withinMembers_iff.mp within.2 member isMember).1
      rw [Json.tree, postwalk, failIf_of_not (not_lt.mpr within.1), ok_bind,
        mapM_checkPoints members keys, ok_bind, postwalkMembers_tree (depth + 1) members within.2,
        ok_bind]
      have zipped : (members.map Prod.fst).zip (members.map Prod.snd) = members := by
        simp [List.zip_map', List.map_id']
      rw [zipped]
      rfl

theorem postwalkItems_tree {asciiOnly : Bool} {maxBytes : Nat} (depth : Nat) (items : List Json)
    (within : WithinItems asciiOnly depth items) :
    postwalkItems ⟨maxBytes, asciiOnly, maxJsonStringBytes⟩ depth (Json.treeItems id items) =
      .ok items := by
  match items with
  | [] => rfl
  | item :: items =>
      rw [Json.treeItems, postwalkItems, postwalk_tree depth item within.1, ok_bind,
        postwalkItems_tree depth items within.2]
      rfl

theorem postwalkMembers_tree {asciiOnly : Bool} {maxBytes : Nat} (depth : Nat)
    (members : List (String × Json)) (within : WithinMembers asciiOnly depth members) :
    postwalkMembers ⟨maxBytes, asciiOnly, maxJsonStringBytes⟩ depth (Json.treeMembers id members) =
      .ok (members.map Prod.snd) := by
  match members with
  | [] => rfl
  | (key, value) :: members =>
      rw [Json.treeMembers, postwalkMembers, postwalk_tree depth value within.2.1, ok_bind,
        postwalkMembers_tree depth members within.2.2]
      rfl

end

/-! ### The depth of the text -/

/-- A character that the prescan passes over outside strings. -/
def isFlat (character : Char) : Bool :=
  character ≠ '"' && character ≠ '[' && character ≠ '{' && character ≠ ']' && character ≠ '}'

theorem prescanDepth_flat (depth : Int) {characters : List Char} (rest : List Char)
    (flat : characters.all isFlat = true) :
    prescanDepth depth false (characters ++ rest) = prescanDepth depth false rest := by
  induction characters with
  | nil => rfl
  | cons character characters induction =>
      rw [List.all_cons, Bool.and_eq_true] at flat
      obtain ⟨own, others⟩ := flat
      simp only [isFlat, Bool.and_eq_true, decide_eq_true_eq] at own
      obtain ⟨⟨⟨⟨quote, bracket⟩, brace⟩, closeBracket⟩, closeBrace⟩ := own
      rw [List.cons_append, prescanDepth, if_neg quote, if_neg (by simp [bracket, brace]),
        if_neg (by simp [closeBracket, closeBrace])]
      exact induction others

theorem prescanDepth_literal (depth : Int) {character : Char} (rest : List Char)
    (quote : character ≠ '"') (backslash : character ≠ '\\') :
    prescanDepth depth true (character :: rest) = prescanDepth depth true rest := by
  rw [prescanDepth]
  · rw [decide_eq_true quote]
  · rintro rfl
    exact absurd rfl backslash
  · rintro other tail rfl
    exact absurd rfl backslash

theorem prescanDepth_escapeText (depth : Int) (character : Char) (rest : List Char) :
    prescanDepth depth true (escapeText character ++ rest) = prescanDepth depth true rest := by
  unfold escapeText
  split_ifs with quote backslash newline return_ tab feed back control
  case pos | pos | pos | pos | pos | pos | pos => simp [prescanDepth]
  · have literal : ∀ digit < 16, hexChar digit ≠ '"' ∧ hexChar digit ≠ '\\' := by decide
    obtain ⟨highQuote, highBackslash⟩ := literal (character.toNat / 16) (by omega)
    obtain ⟨lowQuote, lowBackslash⟩ := literal (character.toNat % 16) (by omega)
    simp only [List.cons_append, List.nil_append, prescanDepth]
    rw [prescanDepth_literal depth _ (by decide) (by decide),
      prescanDepth_literal depth _ (by decide) (by decide),
      prescanDepth_literal depth _ highQuote highBackslash,
      prescanDepth_literal depth _ lowQuote lowBackslash]
  · exact prescanDepth_literal depth rest quote backslash

theorem prescanDepth_textChars (depth : Int) (text : String) (rest : List Char) :
    prescanDepth depth false (textChars text ++ rest) = prescanDepth depth false rest := by
  have inside : ∀ characters : List Char,
      prescanDepth depth true (characters.flatMap escapeText ++ '"' :: rest) =
        prescanDepth depth false rest := by
    intro characters
    induction characters with
    | nil => simp [prescanDepth]
    | cons character characters induction =>
        rw [List.flatMap_cons, List.append_assoc, prescanDepth_escapeText, induction]
  rw [textChars, List.cons_append, List.append_assoc, prescanDepth, if_pos rfl]
  exact inside text.toList

theorem flat_intChars (value : Int) : (intChars value).all isFlat = true := by
  have digits : ∀ digit ∈ Nat.toDigits 10 value.natAbs, isFlat digit = true := by
    intro digit member
    have decimal := isDecimal_of_mem_toDigits member
    simp only [isFlat, Bool.and_eq_true, decide_eq_true_eq]
    refine ⟨⟨⟨⟨?_, ?_⟩, ?_⟩, ?_⟩, ?_⟩ <;>
    · rintro rfl
      exact absurd decimal (by decide)
  unfold intChars
  split_ifs
  · rw [List.all_cons, Bool.and_eq_true]
    exact ⟨by decide, List.all_eq_true.mpr digits⟩
  · exact List.all_eq_true.mpr digits

/-- Commas do not matter to the prescan. -/
theorem prescanDepth_joinChars (depth : Int) (parts : List (List Char)) (rest : List Char)
    (each : ∀ part ∈ parts, ∀ rest,
      prescanDepth depth false (part ++ rest) = prescanDepth depth false rest) :
    prescanDepth depth false (joinChars parts ++ rest) = prescanDepth depth false rest := by
  have tail : ∀ parts : List (List Char), (∀ part ∈ parts, ∀ rest,
        prescanDepth depth false (part ++ rest) = prescanDepth depth false rest) →
      prescanDepth depth false ((parts.flatMap fun part => ',' :: part) ++ rest) =
        prescanDepth depth false rest := by
    intro parts each
    induction parts with
    | nil => rfl
    | cons part parts induction =>
        rw [List.flatMap_cons, List.append_assoc, ← List.singleton_append, List.append_assoc,
          prescanDepth_flat depth _ (by decide), each part (by simp)]
        exact induction fun other member => each other (by simp [member])
  cases parts with
  | nil => rfl
  | cons part parts =>
      rw [joinChars, List.append_assoc, each part (by simp)]
      exact tail parts fun other member => each other (by simp [member])

theorem prescanDepth_open {depth : Int} (character : Char) (rest : List Char)
    (opens : character = '[' ∨ character = '{') (shallow : depth + 1 ≤ maxJsonDepth) :
    prescanDepth depth false (character :: rest) = prescanDepth (depth + 1) false rest := by
  have quote : character ≠ '"' := by
    rcases opens with rfl | rfl <;> decide
  rw [prescanDepth, if_neg quote, if_pos opens, if_neg (not_lt.mpr shallow)]

theorem prescanDepth_close {depth : Int} (character : Char) (rest : List Char)
    (closes : character = ']' ∨ character = '}') :
    prescanDepth (depth + 1) false (character :: rest) = prescanDepth depth false rest := by
  have quote : character ≠ '"' := by
    rcases closes with rfl | rfl <;> decide
  have opens : ¬(character = '[' ∨ character = '{') := by
    rcases closes with rfl | rfl <;> decide
  rw [prescanDepth, if_neg quote, if_neg opens, if_pos closes, add_sub_cancel_right]

mutual

theorem prescanDepth_chars {asciiOnly : Bool} (depth : Nat) (value : Json)
    (within : Within asciiOnly (depth + 1) value) (rest : List Char) :
    prescanDepth depth false (value.chars ++ rest) = prescanDepth depth false rest := by
  match value with
  | .null => exact prescanDepth_flat depth rest (by decide)
  | .bool true => exact prescanDepth_flat depth rest (by decide)
  | .bool false => exact prescanDepth_flat depth rest (by decide)
  | .num value => exact prescanDepth_flat depth rest (flat_intChars value)
  | .str value => exact prescanDepth_textChars depth value rest
  | .arr items =>
      have shallow : (depth : Int) + 1 ≤ maxJsonDepth := by exact_mod_cast within.1
      rw [Json.chars, List.cons_append, List.append_assoc,
        prescanDepth_open '[' _ (by simp) shallow]
      have inner := prescanDepth_joinChars ((depth : Int) + 1) (Json.itemChars items)
        ([']'] ++ rest) (fun part member rest => by
          exact_mod_cast prescanDepth_itemChars (depth + 1) items within.2.2 part member rest)
      rw [inner]
      exact prescanDepth_close ']' rest (by simp)
  | .obj members =>
      have shallow : (depth : Int) + 1 ≤ maxJsonDepth := by exact_mod_cast within.1
      rw [Json.chars, List.cons_append, List.append_assoc,
        prescanDepth_open '{' _ (by simp) shallow]
      have inner := prescanDepth_joinChars ((depth : Int) + 1) (Json.memberChars members)
        (['}'] ++ rest) (fun part member rest => by
          exact_mod_cast prescanDepth_memberChars (depth + 1) members within.2 part member rest)
      rw [inner]
      exact prescanDepth_close '}' rest (by simp)

theorem prescanDepth_itemChars {asciiOnly : Bool} (depth : Nat) (items : List Json)
    (within : WithinItems asciiOnly (depth + 1) items) :
    ∀ part ∈ Json.itemChars items, ∀ rest,
      prescanDepth depth false (part ++ rest) = prescanDepth depth false rest := by
  match items with
  | [] => simp [Json.itemChars]
  | item :: items =>
      intro part member rest
      rw [Json.itemChars, List.mem_cons] at member
      rcases member with rfl | later
      · exact prescanDepth_chars depth item within.1 rest
      · exact prescanDepth_itemChars depth items within.2 part later rest

theorem prescanDepth_memberChars {asciiOnly : Bool} (depth : Nat) (members : List (String × Json))
    (within : WithinMembers asciiOnly (depth + 1) members) :
    ∀ part ∈ Json.memberChars members, ∀ rest,
      prescanDepth depth false (part ++ rest) = prescanDepth depth false rest := by
  match members with
  | [] => simp [Json.memberChars]
  | (key, value) :: members =>
      intro part member rest
      rw [Json.memberChars, List.mem_cons] at member
      rcases member with rfl | later
      · rw [List.append_assoc, prescanDepth_textChars, List.cons_append, ← List.singleton_append,
          prescanDepth_flat depth _ (by decide)]
        exact prescanDepth_chars depth value within.2.1 rest
      · exact prescanDepth_memberChars depth members within.2.2 part later rest

end

/-! ### Bytes -/

theorem decodeUtf8_encode (value : Json) : decodeUtf8 value.encode = some value.chars := by
  have encoded : value.encode.toByteArray = value.chars.utf8Encode := by
    rw [← value.utf8Bytes_chars]
    rfl
  rw [decodeUtf8, encoded, List.utf8Decode?_utf8Encode]
  simp

theorem encode_take_ne_mark (value : Json) : value.encode.take 3 ≠ byteOrderMark := by
  obtain ⟨byte, rest, shape, lead⟩ := value.encode_head
  intro same
  rw [shape, List.take_succ_cons, byteOrderMark] at same
  obtain rfl : byte = 0xef := (List.cons.inj same).1
  have outside : Json.leadOf 0xef = 7 := by decide
  rw [outside] at lead
  cases value with
  | bool value => cases value <;> cases lead
  | null | num | str | arr | obj => cases lead

theorem printable_escapeText {character : Char} (printable : isPrintable character = true) :
    ∀ other ∈ escapeText character, isPrintable other = true := by
  have low : ¬character.toNat < 32 := by
    simp only [isPrintable, Bool.and_eq_true, decide_eq_true_eq] at printable
    omega
  unfold escapeText
  split_ifs with quote backslash newline return_ tab feed back
  · exact List.all_eq_true.mp rfl
  · exact List.all_eq_true.mp rfl
  · exact List.all_eq_true.mp rfl
  · exact List.all_eq_true.mp rfl
  · exact List.all_eq_true.mp rfl
  · exact List.all_eq_true.mp rfl
  · exact List.all_eq_true.mp rfl
  · intro other member
    obtain rfl := List.mem_singleton.mp member
    exact printable

theorem printable_textChars {text : String} (within : TextWithin true text) :
    ∀ character ∈ textChars text, isPrintable character = true := by
  intro character member
  simp only [textChars, List.mem_cons, List.mem_append, List.mem_flatMap, List.not_mem_nil,
    or_false] at member
  rcases member with rfl | ⟨source, isSource, escaped⟩ | rfl
  · decide
  · exact printable_escapeText (within.2.1 rfl source isSource) character escaped
  · decide

theorem printable_intChars (value : Int) :
    ∀ character ∈ intChars value, isPrintable character = true := by
  have digits : ∀ digit ∈ Nat.toDigits 10 value.natAbs, isPrintable digit = true := by
    intro digit member
    have bounds : 48 ≤ digit.toNat ∧ digit.toNat ≤ 57 := by
      simpa [Char.isDigit, UInt32.le_iff_toNat_le] using
        Nat.isDigit_of_mem_toDigits (by decide) (by decide) member
    simp only [isPrintable, Bool.and_eq_true, decide_eq_true_eq]
    omega
  unfold intChars
  split_ifs
  · intro character member
    rcases List.mem_cons.mp member with rfl | isDigit
    · decide
    · exact digits character isDigit
  · exact digits

theorem printable_joinChars {parts : List (List Char)}
    (each : ∀ part ∈ parts, ∀ character ∈ part, isPrintable character = true) :
    ∀ character ∈ joinChars parts, isPrintable character = true := by
  intro character member
  cases parts with
  | nil => cases member
  | cons part parts =>
      simp only [joinChars, List.mem_append, List.mem_flatMap, List.mem_cons] at member
      rcases member with own | ⟨other, isOther, rfl | inside⟩
      · exact each part (by simp) character own
      · decide
      · exact each other (by simp [isOther]) character inside

mutual

theorem printable_chars (depth : Nat) (value : Json) (within : Within true depth value) :
    ∀ character ∈ value.chars, isPrintable character = true := by
  match value with
  | .null => exact List.all_eq_true.mp rfl
  | .bool true => exact List.all_eq_true.mp rfl
  | .bool false => exact List.all_eq_true.mp rfl
  | .num value => exact printable_intChars value
  | .str value => exact printable_textChars within
  | .arr items =>
      intro character member
      simp only [Json.chars, List.mem_cons, List.mem_append, List.not_mem_nil, or_false] at member
      rcases member with rfl | inside | rfl
      · decide
      · exact printable_joinChars (printable_itemChars (depth + 1) items within.2.2) _ inside
      · decide
  | .obj members =>
      intro character member
      simp only [Json.chars, List.mem_cons, List.mem_append, List.not_mem_nil, or_false] at member
      rcases member with rfl | inside | rfl
      · decide
      · exact printable_joinChars (printable_memberChars (depth + 1) members within.2) _ inside
      · decide

theorem printable_itemChars (depth : Nat) (items : List Json)
    (within : WithinItems true depth items) :
    ∀ part ∈ Json.itemChars items, ∀ character ∈ part, isPrintable character = true := by
  match items with
  | [] => simp [Json.itemChars]
  | item :: items =>
      intro part member
      rw [Json.itemChars, List.mem_cons] at member
      rcases member with rfl | later
      · exact printable_chars depth item within.1
      · exact printable_itemChars depth items within.2 part later

theorem printable_memberChars (depth : Nat) (members : List (String × Json))
    (within : WithinMembers true depth members) :
    ∀ part ∈ Json.memberChars members, ∀ character ∈ part, isPrintable character = true := by
  match members with
  | [] => simp [Json.memberChars]
  | (key, value) :: members =>
      intro part member
      rw [Json.memberChars, List.mem_cons] at member
      rcases member with rfl | later
      · intro character inside
        simp only [List.mem_append, List.mem_cons] at inside
        rcases inside with ofKey | rfl | ofValue
        · exact printable_textChars within.1 character ofKey
        · decide
        · exact printable_chars depth value within.2.1 character ofValue
      · exact printable_memberChars depth members within.2.2 part later

end

theorem printable_encode {depth : Nat} {value : Json} (within : Within true depth value) :
    (value.encode.any fun byte => byte < 0x20 || 0x7e < byte) = false := by
  rw [← value.utf8Bytes_chars, List.any_eq_false]
  intro byte member
  obtain ⟨character, isCharacter, ofCharacter⟩ := List.mem_flatMap.mp member
  have printable := printable_chars depth value within character isCharacter
  simp only [isPrintable, Bool.and_eq_true, decide_eq_true_eq] at printable
  obtain ⟨low, high⟩ := printable
  rw [← Char.ofNat_toNat character] at ofCharacter
  generalize character.toNat = code at low high ofCharacter
  interval_cases code <;>
  · obtain rfl := List.mem_singleton.mp ofCharacter
    decide

/-- Canonical text is read back as the value it was written for. -/
theorem parseJson_canonicalJson {asciiOnly : Bool} {maxBytes : Nat} {value : Json} {raw : Bytes}
    (encoded : canonicalJson asciiOnly value = .ok raw) (distinct : value.KeysDistinct)
    (positive : 1 ≤ maxBytes) (bounded : maxBytes ≤ maxJsonDocumentBytes)
    (short : raw.length ≤ maxBytes) :
    parseJson ⟨maxBytes, asciiOnly, maxJsonStringBytes⟩ raw = .ok value.sortKeys := by
  obtain ⟨within, rfl⟩ := canonicalJson_eq_ok.mp encoded
  have within := (within_sortKeys asciiOnly 1 value).mpr within
  have distinct := value.keysDistinct_sortKeys distinct
  generalize value.sortKeys = value at *
  have ascii : ¬(asciiOnly && value.encode.any fun byte => byte < 0x20 || 0x7e < byte) = true := by
    cases asciiOnly with
    | false => simp
    | true => simp [printable_encode within]
  have shallow : prescanDepth 0 false value.chars = .ok () := by
    have scanned := prescanDepth_chars 0 value within []
    rw [List.append_nil] at scanned
    exact scanned
  have options : 1 ≤ maxBytes ∧ maxBytes ≤ maxJsonDocumentBytes ∧
      1 ≤ maxJsonStringBytes ∧ maxJsonStringBytes ≤ maxJsonDocumentBytes :=
    ⟨positive, bounded, by decide, by decide⟩
  rw [parseJson, failIf_of_not (not_not.mpr options), ok_bind,
    failIf_of_not (not_lt.mpr short), ok_bind, failIf_of_not (encode_take_ne_mark value), ok_bind,
    decodeUtf8_encode, orFail, ok_bind, failIf_of_not ascii, ok_bind, shallow, ok_bind,
    readJson_chars value (taken_of_within 1 value within distinct), ok_bind]
  exact postwalk_tree 1 value within

end ManyAlerts
