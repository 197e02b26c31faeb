import ManyAlerts.Forwarder.ParseJson
import ManyAlerts.Library.JsonReading

/-!
# The strict codec

Parser and encoder have the same caps, so what one takes the other takes: canonical text is
read back as the value it was written for, and whatever the parser accepts can be written in
canonical form, which is never longer than the document.  `Json.Same` is equality of values
up to the order of object members, and canonical text is the same exactly for such values.
-/

namespace ManyAlerts

/-! ## What the hooks and the walk establish -/

theorem ofDigitChars_lt {digits : List Char} (decimal : ∀ digit ∈ digits, isDecimal digit = true) :
    Nat.ofDigitChars 10 digits 0 < 10 ^ digits.length := by
  induction digits using List.reverseRecOn with
  | nil => simp
  | append_singleton digits digit induction =>
      have bounds : 48 ≤ digit.toNat ∧ digit.toNat ≤ 57 := by
        have one := decimal digit (by simp)
        simp only [isDecimal, Bool.and_eq_true, decide_eq_true_eq, Char.le_def,
          UInt32.le_iff_toNat_le] at one
        exact one
      have before := induction fun other member => decimal other (by simp [member])
      rw [Nat.ofDigitChars_append, Nat.ofDigitChars_cons, Nat.ofDigitChars_nil,
        List.length_append, List.length_singleton, Nat.pow_succ]
      have zero : '0'.toNat = 48 := by decide
      omega

/-- A number is written no longer than it was read. -/
theorem length_encodeInt_lexemeValue {lexeme : List Char} (shape : IntegerLexeme lexeme) :
    (encodeInt (lexemeValue lexeme)).length ≤ lexeme.length := by
  obtain ⟨minus, digits, rfl, sign, notEmpty, decimal⟩ := shape
  have short := length_encodeNat_le (List.length_pos_iff.mpr notEmpty) (ofDigitChars_lt decimal)
  rcases sign with rfl | rfl
  · have value : lexemeValue digits = (Nat.ofDigitChars 10 digits 0 : Int) := by
      unfold lexemeValue
      split
      · exact absurd (decimal '-' (by simp)) (by decide)
      · rfl
    rw [List.nil_append, value, encodeInt, if_neg (by omega), Int.natAbs_natCast]
    exact short
  · rw [List.singleton_append, lexemeValue, encodeInt, Int.natAbs_neg, Int.natAbs_natCast,
      List.length_cons]
    split_ifs
    · simpa using short
    · omega

def integerCost (value : Int) : Nat := (encodeInt value).length

/-- A tree that the reader of integer mode returns. -/
abbrev IntegerTree (tree : JsonTree Int) : Prop :=
  tree.Sound (fun value => value.natAbs ≤ maxSafeInteger)
    fun members => (members.map Prod.fst).Nodup

theorem integerHooks_sound :
    HooksSound integerHooks integerCost (fun value => value.natAbs ≤ maxSafeInteger)
      fun members => (members.map Prod.fst).Nodup := by
  constructor
  case integer =>
    intro lexeme value shape parsed
    simp only [integerHooks, parseInteger, bind_eq_ok, failIf_eq_ok, exists_unit, pure_eq_ok,
      not_lt] at parsed
    obtain ⟨_, safe, rfl⟩ := parsed
    exact ⟨safe, length_encodeInt_lexemeValue shape⟩
  case fraction =>
    intro lexeme value parsed
    cases parsed
  case constant =>
    intro word value parsed
    cases parsed
  case members =>
    intro members checked
    simpa [integerHooks] using checked

section Walk

variable {options : ParseOptions} {points : List Nat} {text : String}

/-- Code points that are the characters of a text. -/
structure TextRead (options : ParseOptions) (points : List Nat) (text : String) : Prop where
  characters : points = pointsOf text
  within : options.maxStringBytes = maxJsonStringBytes → TextWithin options.asciiOnly text
  cost : textCost points = (encodeString text).length

theorem toNat_ofNat_of_valid {point : Nat} (valid : point.isValidChar) :
    (Char.ofNat point).toNat = point := by
  rw [Char.ofNat, dif_pos valid]
  rfl

theorem textRead_of_checkPoints (bounded : ∀ point ∈ points, point < 0x110000)
    (checked : checkPoints options points = .ok text) : TextRead options points text := by
  simp only [checkPoints, bind_eq_ok, failIf_eq_ok, exists_unit, pure_eq_ok] at checked
  obtain ⟨valid, ascii, short, rfl⟩ := checked
  have isCharacter : ∀ point ∈ points, point ≠ 0 ∧ (Char.ofNat point).toNat = point := by
    intro point member
    have outside : ¬(point = 0 ∨ 0xd800 ≤ point ∧ point < 0xe000) := by
      intro excluded
      apply valid
      exact List.any_eq_true.mpr ⟨point, member, by simpa using excluded⟩
    have small := bounded point member
    refine ⟨fun zero => outside (.inl zero), toNat_ofNat_of_valid ?_⟩
    unfold Nat.isValidChar
    omega
  constructor
  case characters =>
    rw [pointsOf, String.toList_ofList, List.map_map]
    conv_lhs => rw [← List.map_id points]
    exact List.map_congr_left fun point member => (isCharacter point member).2.symm
  case within =>
    intro sameCap
    refine ⟨?_, ?_, ?_⟩
    · intro character member
      rw [String.toList_ofList] at member
      obtain ⟨point, isPoint, rfl⟩ := List.mem_map.mp member
      rw [(isCharacter point isPoint).2]
      exact (isCharacter point isPoint).1
    · intro asciiOnly character member
      rw [String.toList_ofList] at member
      obtain ⟨point, isPoint, rfl⟩ := List.mem_map.mp member
      have printable : ¬(point < 0x20 ∨ 0x7e < point) := by
        intro excluded
        apply ascii
        rw [asciiOnly, Bool.true_and]
        exact List.any_eq_true.mpr ⟨point, isPoint, by simpa using excluded⟩
      simp only [isPrintable, (isCharacter point isPoint).2, Bool.and_eq_true, decide_eq_true_eq]
      omega
    · rw [← sameCap]
      exact Nat.le_of_not_lt short
  case cost =>
    simp only [textCost, pointsCost, encodeString, encodeChars, characters_eq_toList,
      String.toList_ofList,
      List.length_cons, List.length_append, List.length_nil, List.length_flatMap, List.map_map]
    rfl

/-- What the walk makes of a tree. -/
structure WalkedJson (options : ParseOptions) (depth : Nat) (tree : JsonTree Int) (value : Json) :
    Prop where
  within : options.maxStringBytes = maxJsonStringBytes → Within options.asciiOnly depth value
  distinct : value.KeysDistinct
  cost : value.textLength = tree.cost integerCost

theorem keys_of_mapM {members : List (List Nat × JsonTree Int)} {keys : List String}
    (bounded : ∀ member ∈ members, ∀ point ∈ member.1, point < 0x110000)
    (checked : (members.mapM fun member => checkPoints options member.1) = .ok keys) :
    List.Forall₂ (fun member key => TextRead options member.1 key) members keys := by
  induction members generalizing keys with
  | nil =>
      obtain rfl : [] = keys := by simpa using checked
      exact .nil
  | cons member members induction =>
      simp only [List.mapM_cons, bind_eq_ok, pure_eq_ok] at checked
      obtain ⟨key, isKey, others, isOthers, rfl⟩ := checked
      refine .cons (textRead_of_checkPoints (bounded member (by simp)) isKey) ?_
      exact induction (fun other found => bounded other (by simp [found])) isOthers

theorem points_of_read {members : List (List Nat × JsonTree Int)} {keys : List String}
    (read : List.Forall₂ (fun member key => TextRead options member.1 key) members keys) :
    members.map Prod.fst = keys.map pointsOf := by
  induction read with
  | nil => rfl
  | cons isKey _ induction => rw [List.map_cons, List.map_cons, induction, isKey.characters]

theorem soundMembers_iff {Number : Int → Prop}
    {Members : List (List Nat × JsonTree Int) → Prop} {members : List (List Nat × JsonTree Int)} :
    JsonTree.SoundMembers Number Members members ↔ ∀ member ∈ members,
      (∀ point ∈ member.1, point < 0x110000) ∧ member.2.Sound Number Members := by
  induction members with
  | nil => simp [JsonTree.SoundMembers]
  | cons member members induction => simp [JsonTree.SoundMembers, induction, and_assoc]

mutual

theorem postwalk_walked (depth : Nat) (tree : JsonTree Int) {value : Json}
    (sound : IntegerTree tree) (walked : postwalk options depth tree = .ok value) :
    WalkedJson options depth tree value := by
  match tree with
  | .null =>
      cases walked
      exact ⟨fun _ => trivial, trivial, rfl⟩
  | .bool flag =>
      cases walked
      exact ⟨fun _ => trivial, trivial, by cases flag <;> rfl⟩
  | .number number =>
      cases walked
      exact ⟨fun _ => sound, trivial, rfl⟩
  | .text points =>
      simp only [postwalk, bind_eq_ok, pure_eq_ok] at walked
      obtain ⟨text, checked, rfl⟩ := walked
      have read := textRead_of_checkPoints sound checked
      exact ⟨read.within, trivial, read.cost.symm⟩
  | .array items =>
      simp only [postwalk, bind_eq_ok, failIf_eq_ok, exists_unit, pure_eq_ok, not_lt] at walked
      obtain ⟨shallow, few, values, isValues, rfl⟩ := walked
      obtain ⟨within, distinct, cost, count⟩ :=
        postwalkItems_walked (depth + 1) items sound isValues
      refine ⟨fun same => ⟨shallow, by omega, within same⟩, distinct, ?_⟩
      rw [Json.textLength_arr, JsonTree.cost, cost, count]
  | .object members =>
      simp only [postwalk, bind_eq_ok, failIf_eq_ok, exists_unit, pure_eq_ok, not_lt] at walked
      obtain ⟨shallow, keys, isKeys, values, isValues, rfl⟩ := walked
      have bounded : ∀ member ∈ members, ∀ point ∈ member.1, point < 0x110000 :=
        fun member found => (soundMembers_iff.mp sound.2 member found).1
      have read := keys_of_mapM bounded isKeys
      obtain ⟨within, distinct, cost, same⟩ :=
        postwalkMembers_walked (depth + 1) members sound.2 read isValues
      have keysDistinct : keys.Nodup := by
        have points : (members.map Prod.fst).Nodup := sound.1
        rw [points_of_read read] at points
        exact points.of_map
      have count : (keys.zip values).length = members.length := by
        have sameLength := congrArg List.length same
        rw [List.length_map] at sameLength
        rw [sameLength, ← read.length_eq]
      refine ⟨fun cap => ⟨shallow, within cap⟩, ⟨?_, distinct⟩, ?_⟩
      · rw [same]
        exact keysDistinct
      · rw [Json.textLength_obj, JsonTree.cost, cost, count]

theorem postwalkItems_walked (depth : Nat) (items : List (JsonTree Int)) {values : List Json}
    (sound : JsonTree.SoundItems (fun value => value.natAbs ≤ maxSafeInteger)
      (fun members => (members.map Prod.fst).Nodup) items)
    (walked : postwalkItems options depth items = .ok values) :
    (options.maxStringBytes = maxJsonStringBytes →
        WithinItems options.asciiOnly depth values) ∧
      Json.KeysDistinctItems values ∧
      (values.map Json.textLength).sum = JsonTree.itemsCost integerCost items ∧
      values.length = items.length := by
  match items with
  | [] =>
      cases walked
      exact ⟨fun _ => trivial, trivial, rfl, rfl⟩
  | item :: items =>
      simp only [postwalkItems, bind_eq_ok, pure_eq_ok] at walked
      obtain ⟨value, isValue, others, isOthers, rfl⟩ := walked
      have first := postwalk_walked depth item sound.1 isValue
      obtain ⟨within, distinct, cost, count⟩ := postwalkItems_walked depth items sound.2 isOthers
      refine ⟨fun same => ⟨first.within same, within same⟩, ⟨first.distinct, distinct⟩, ?_, ?_⟩
      · rw [List.map_cons, List.sum_cons, first.cost, cost, JsonTree.itemsCost]
      · rw [List.length_cons, List.length_cons, count]

theorem postwalkMembers_walked (depth : Nat) (members : List (List Nat × JsonTree Int))
    {keys : List String} {values : List Json}
    (sound : JsonTree.SoundMembers (fun value => value.natAbs ≤ maxSafeInteger)
      (fun members => (members.map Prod.fst).Nodup) members)
    (read : List.Forall₂ (fun member key => TextRead options member.1 key) members keys)
    (walked : postwalkMembers options depth members = .ok values) :
    (options.maxStringBytes = maxJsonStringBytes →
        WithinMembers options.asciiOnly depth (keys.zip values)) ∧
      Json.KeysDistinctMembers (keys.zip values) ∧
      ((keys.zip values).map Json.memberLength).sum =
        JsonTree.membersCost integerCost members ∧
      (keys.zip values).map Prod.fst = keys := by
  match members, keys, read with
  | [], [], .nil =>
      cases walked
      exact ⟨fun _ => trivial, trivial, rfl, rfl⟩
  | (points, tree) :: members, key :: keys, .cons isKey read =>
      simp only [postwalkMembers, bind_eq_ok, pure_eq_ok] at walked
      obtain ⟨value, isValue, others, isOthers, rfl⟩ := walked
      have first := postwalk_walked depth tree sound.2.1 isValue
      obtain ⟨within, distinct, cost, same⟩ :=
        postwalkMembers_walked depth members sound.2.2 read isOthers
      refine ⟨fun cap => ⟨isKey.within cap, first.within cap, within cap⟩,
        ⟨first.distinct, distinct⟩, ?_, ?_⟩
      · rw [List.zip_cons_cons, List.map_cons, List.sum_cons, cost, JsonTree.membersCost,
          Json.memberLength, first.cost, isKey.cost]
      · rw [List.zip_cons_cons, List.map_cons, same]

end

end Walk

/-- What `parse_json` has established of the value it returns. -/
theorem parseJson_spec {options : ParseOptions} {data : Bytes} {value : Json}
    (parsed : parseJson options data = .ok value) :
    1 ≤ options.maxBytes ∧ options.maxBytes ≤ maxJsonDocumentBytes ∧
      data.length ≤ options.maxBytes ∧ value.KeysDistinct ∧ value.textLength ≤ data.length ∧
      (options.maxStringBytes = maxJsonStringBytes → Within options.asciiOnly 1 value) := by
  simp only [parseJson, bind_eq_ok, failIf_eq_ok, exists_unit, orFail_eq_ok, not_not,
    not_lt] at parsed
  obtain ⟨caps, short, _, text, decoded, _, _, tree, read, walked⟩ := parsed
  obtain ⟨compact, sound⟩ := integerHooks_sound.readJson read
  have done := postwalk_walked 1 tree sound walked
  have bytes : byteLength text = data.length := by
    obtain ⟨characters, isCharacters, rfl⟩ := Option.map_eq_some_iff.mp decoded
    have encoded := ByteArray.utf8Encode_get_utf8Decode? (b := data.toByteArray)
      (h := by rw [isCharacters]; rfl)
    simp only [isCharacters, Option.get_some] at encoded
    have sizes : (utf8Bytes characters.toList).toByteArray.size = data.toByteArray.size :=
      congrArg ByteArray.size encoded
    rwa [List.size_toByteArray, List.size_toByteArray] at sizes
  refine ⟨caps.1, caps.2.1, short, done.distinct, ?_, done.within⟩
  rw [done.cost, ← bytes]
  exact compact

/-! ## Equality up to the order of members -/

namespace Json

mutual

/-- Values that differ at most in the order of object members. -/
inductive Same : Json → Json → Prop
  | null : Same .null .null
  | bool (value : Bool) : Same (.bool value) (.bool value)
  | num (value : Int) : Same (.num value) (.num value)
  | str (value : String) : Same (.str value) (.str value)
  | arr {items others : List Json} (each : SameItems items others) :
      Same (.arr items) (.arr others)
  | obj {members middle others : List (String × Json)} (order : members.Perm middle)
      (each : SameMembers middle others) : Same (.obj members) (.obj others)

inductive SameItems : List Json → List Json → Prop
  | nil : SameItems [] []
  | cons {item other : Json} {items others : List Json} (first : Same item other)
      (rest : SameItems items others) : SameItems (item :: items) (other :: others)

inductive SameMembers : List (String × Json) → List (String × Json) → Prop
  | nil : SameMembers [] []
  | cons (key : String) {value other : Json} {members others : List (String × Json)}
      (first : Same value other) (rest : SameMembers members others) :
      SameMembers ((key, value) :: members) ((key, other) :: others)

end

mutual

theorem Same.sortKeys_eq {left right : Json} (same : Same left right)
    (distinct : left.KeysDistinct) : left.sortKeys = right.sortKeys := by
  match same with
  | .null | .bool _ | .num _ | .str _ => rfl
  | .arr each => rw [sortKeys, sortKeys, each.sortKeys_eq distinct]
  | .obj order each =>
      have distinctMiddle := keysDistinctMembers_iff.mpr fun member found =>
        keysDistinctMembers_iff.mp distinct.2 member (order.mem_iff.mpr found)
      rw [sortKeys, sortKeys, ← each.sortKeys_eq distinctMiddle, sortKeysMembers_eq_map,
        sortKeysMembers_eq_map]
      congr 1
      apply sortMembers_eq_of_perm _ (order.map _)
      rw [List.map_map]
      exact distinct.1

theorem SameItems.sortKeys_eq {left right : List Json} (same : SameItems left right)
    (distinct : KeysDistinctItems left) : sortKeysItems left = sortKeysItems right := by
  match same with
  | .nil => rfl
  | .cons first rest =>
      rw [sortKeysItems, sortKeysItems, first.sortKeys_eq distinct.1, rest.sortKeys_eq distinct.2]

theorem SameMembers.sortKeys_eq {left right : List (String × Json)}
    (same : SameMembers left right) (distinct : KeysDistinctMembers left) :
    sortKeysMembers left = sortKeysMembers right := by
  match same with
  | .nil => rfl
  | .cons key first rest =>
      rw [sortKeysMembers, sortKeysMembers, first.sortKeys_eq distinct.1,
        rest.sortKeys_eq distinct.2]

end

/-- A list whose image is a permutation of another image can be permuted to have that image. -/
theorem exists_perm_of_map_perm {α β : Type} {function : α → β} {left right : List α}
    (permuted : (left.map function).Perm (right.map function)) :
    ∃ middle, left.Perm middle ∧ middle.map function = right.map function := by
  have swapped := congrFun₂ (List.eq_map_comp_perm function) (right.map function) left
  obtain ⟨middle, same, order⟩ := swapped.mpr permuted.symm
  exact ⟨middle, order.symm, same.symm⟩

theorem sameMembers_of_map_eq {left right : List (String × Json)}
    (same : left.map (fun member => (member.1, member.2.sortKeys)) =
      right.map fun member => (member.1, member.2.sortKeys))
    (each : ∀ member ∈ left, ∀ other : Json, member.2.sortKeys = other.sortKeys →
      Same member.2 other) : SameMembers left right := by
  induction left generalizing right with
  | nil =>
      obtain rfl := List.map_eq_nil_iff.mp same.symm
      exact .nil
  | cons member left induction =>
      obtain ⟨other, others, rfl, first, rest⟩ := List.map_eq_cons_iff.mp same.symm
      obtain ⟨key, value⟩ := member
      obtain ⟨otherKey, otherValue⟩ := other
      simp only [Prod.mk.injEq] at first
      obtain ⟨rfl, sorted⟩ := first
      have isSame := each (otherKey, value) (by simp) otherValue sorted.symm
      refine .cons _ isSame (induction rest.symm ?_)
      exact fun member found => each member (by simp [found])

mutual

/-- Values that are the same once sorted differ at most in the order of members. -/
theorem same_of_sortKeys_eq (left : Json) {right : Json}
    (sorted : left.sortKeys = right.sortKeys) : Same left right := by
  match left, right with
  | .null, .null => exact .null
  | .bool value, .bool other =>
      cases sorted
      exact .bool value
  | .num value, .num other =>
      cases sorted
      exact .num value
  | .str value, .str other =>
      cases sorted
      exact .str value
  | .arr items, .arr others =>
      rw [sortKeys, sortKeys, arr.injEq] at sorted
      exact .arr (sameItems_of_sortKeys_eq items sorted)
  | .obj members, .obj others =>
      simp only [sortKeys, sortKeysMembers_eq_map, obj.injEq] at sorted
      -- The members of one side, put into the order of the other side.
      have permuted : (members.map fun member => (member.1, member.2.sortKeys)).Perm
          (others.map fun member => (member.1, member.2.sortKeys)) := by
        rw [← (sortMembers_perm _).congr_left, sorted]
        exact sortMembers_perm _
      obtain ⟨middle, order, each⟩ := exists_perm_of_map_perm permuted
      refine .obj order (sameMembers_of_map_eq each fun member found other => ?_)
      exact same_of_member_sortKeys_eq members member (order.mem_iff.mpr found)

theorem sameItems_of_sortKeys_eq (left : List Json) {right : List Json}
    (sorted : sortKeysItems left = sortKeysItems right) : SameItems left right := by
  match left, right with
  | [], [] => exact .nil
  | item :: items, other :: others =>
      rw [sortKeysItems, sortKeysItems, List.cons.injEq] at sorted
      exact .cons (same_of_sortKeys_eq item sorted.1) (sameItems_of_sortKeys_eq items sorted.2)

theorem same_of_member_sortKeys_eq (members : List (String × Json)) :
    ∀ member ∈ members, ∀ {other : Json}, member.2.sortKeys = other.sortKeys →
      Same member.2 other := by
  match members with
  | [] =>
      intro member found
      cases found
  | (key, value) :: members =>
      intro member found other sorted
      rcases List.mem_cons.mp found with rfl | later
      · exact same_of_sortKeys_eq value sorted
      · exact same_of_member_sortKeys_eq members member later sorted

end

end Json

/-! ## Both directions -/

mutual

/-- A value of printable texts is within the wider caps as well. -/
theorem within_of_ascii (depth : Nat) (value : Json) (within : Within true depth value) :
    Within false depth value := by
  match value with
  | .null => trivial
  | .bool _ => trivial
  | .num _ => exact within
  | .str _ => exact ⟨within.1, by simp, within.2.2⟩
  | .arr items =>
      exact ⟨within.1, within.2.1, withinItems_of_ascii (depth + 1) items within.2.2⟩
  | .obj members => exact ⟨within.1, withinMembers_of_ascii (depth + 1) members within.2⟩

theorem withinItems_of_ascii (depth : Nat) (items : List Json)
    (within : WithinItems true depth items) : WithinItems false depth items := by
  match items with
  | [] => trivial
  | item :: items =>
      exact ⟨within_of_ascii depth item within.1, withinItems_of_ascii depth items within.2⟩

theorem withinMembers_of_ascii (depth : Nat) (members : List (String × Json))
    (within : WithinMembers true depth members) : WithinMembers false depth members := by
  match members with
  | [] => trivial
  | (_, value) :: members =>
      exact ⟨⟨within.1.1, by simp, within.1.2.2⟩, within_of_ascii depth value within.2.1,
        withinMembers_of_ascii depth members within.2.2⟩

end

/-- What the two halves of the codec promise each other.  Values are as dictionaries hold
them: no object has two members of one key. -/
structure CodecExact : Prop where
  /-- Canonical text is read back as the value it was written for. -/
  readsBack : ∀ asciiOnly value raw maxBytes, value.KeysDistinct →
    canonicalJson asciiOnly value = .ok raw → 1 ≤ maxBytes → maxBytes ≤ maxJsonDocumentBytes →
    raw.length ≤ maxBytes →
    ∃ read, parseJson ⟨maxBytes, asciiOnly, maxJsonStringBytes⟩ raw = .ok read ∧
      value.Same read
  /-- What is accepted has a canonical text, and that is accepted for the same value. -/
  writesBack : ∀ options data value, options.maxStringBytes = maxJsonStringBytes →
    parseJson options data = .ok value → value.KeysDistinct ∧
    ∃ raw again, canonicalJson false value = .ok raw ∧
      canonicalJson options.asciiOnly value = .ok raw ∧
      parseJson options raw = .ok again ∧ value.Same again
  /-- Acceptance and text do not depend on the order of members. -/
  orderFree : ∀ asciiOnly left right raw, left.KeysDistinct → left.Same right →
    (canonicalJson asciiOnly left = .ok raw ↔ canonicalJson asciiOnly right = .ok raw)
  /-- The text determines the value. -/
  injective : ∀ leftAscii rightAscii left right raw, canonicalJson leftAscii left = .ok raw →
    canonicalJson rightAscii right = .ok raw → left.Same right

/-- The codec is exact in both directions. -/
theorem json_codec_exact : CodecExact := by
  constructor
  case readsBack =>
    intro asciiOnly value raw maxBytes distinct encoded positive bounded short
    refine ⟨value.sortKeys, parseJson_canonicalJson encoded distinct positive bounded short, ?_⟩
    exact Json.same_of_sortKeys_eq value value.sortKeys_sortKeys.symm
  case writesBack =>
    intro options data value sameCap parsed
    obtain ⟨positive, bounded, short, distinct, compact, within⟩ := parseJson_spec parsed
    have encoded : canonicalJson options.asciiOnly value = .ok value.sortKeys.encode :=
      canonicalJson_eq_ok.mpr ⟨within sameCap, rfl⟩
    have wider : Within false 1 value := by
      cases isAscii : options.asciiOnly with
      | false => exact isAscii ▸ within sameCap
      | true => exact within_of_ascii 1 value (isAscii ▸ within sameCap)
    have again := parseJson_canonicalJson encoded distinct positive bounded (compact.trans short)
    refine ⟨distinct, _, _, canonicalJson_eq_ok.mpr ⟨wider, rfl⟩, encoded, ?_,
      Json.same_of_sortKeys_eq value value.sortKeys_sortKeys.symm⟩
    rw [← again, ← sameCap]
  case orderFree =>
    intro asciiOnly left right raw distinct same
    have sorted := same.sortKeys_eq distinct
    exact ⟨canonicalJson_congr sorted, canonicalJson_congr sorted.symm⟩
  case injective =>
    intro leftAscii rightAscii left right raw leftText rightText
    apply Json.same_of_sortKeys_eq
    apply Json.encode_injective
    rw [← (canonicalJson_eq_ok.mp leftText).2, ← (canonicalJson_eq_ok.mp rightText).2]

/-- A key with a bad character. -/
def nullKey : String := String.ofList [Char.ofNat 0]

/-- A key of so many bytes. -/
def longKey (size : Nat) : String := String.ofList (List.replicate size 'a')

theorem checkString_nullKey : checkString false nullKey = .error .unicode := by decide

theorem eq_of_mem_longKey {size : Nat} {character : Char}
    (member : character ∈ (longKey size).toList) : character = 'a' := by
  rw [longKey, String.toList_ofList] at member
  exact List.eq_of_mem_replicate member

theorem checkString_longKey {size : Nat} (long : maxJsonStringBytes < size) :
    checkString false (longKey size) = .error .stringTooLong := by
  have noZero : ¬((longKey size).toList.any fun character => character.toNat = 0) = true := by
    rw [List.any_eq_true]
    rintro ⟨character, member, zero⟩
    rw [eq_of_mem_longKey member] at zero
    exact absurd zero (by decide)
  have plain : Plain (longKey size) := by
    intro character member
    rw [eq_of_mem_longKey member]
    decide
  have bytes : (utf8 (longKey size)).length = size := by
    rw [length_utf8_of_plain plain, longKey, String.length_ofList, List.length_replicate]
  rw [checkString, characters_eq_toList, failIf_of_not noZero, ok_bind,
    failIf_of_not (by simp), ok_bind,
    failIf_of (by rwa [bytes])]

/-- An object is rejected for the first of its keys that is bad. -/
theorem canonicalJson_bad_key {key : String} {value : Json} {members : List (String × Json)}
    {code : JsonErrorCode} (bad : checkString false key = .error code) :
    canonicalJson false (.obj ((key, value) :: members)) = .error code := by
  rw [canonicalJson, canonicalize, failIf_of_not (by decide), ok_bind, checkAll, bad]
  rfl

/-- The code of a rejection is that of the first bad key, so it does depend on the order. -/
theorem rejection_code_depends_on_order :
    (Json.obj [(nullKey, .null), (longKey 16385, .null)]).Same
        (.obj [(longKey 16385, .null), (nullKey, .null)]) ∧
      (Json.obj [(nullKey, .null), (longKey 16385, .null)]).KeysDistinct ∧
      canonicalJson false (.obj [(nullKey, .null), (longKey 16385, .null)]) = .error .unicode ∧
      canonicalJson false (.obj [(longKey 16385, .null), (nullKey, .null)]) =
        .error .stringTooLong := by
  have long := checkString_longKey (show maxJsonStringBytes < 16385 by decide)
  have apart : nullKey ≠ longKey 16385 := by
    intro same
    rw [← same, checkString_nullKey] at long
    cases long
  refine ⟨.obj (.swap _ _ _) (.cons _ .null (.cons _ .null .nil)), ?_,
    canonicalJson_bad_key checkString_nullKey, canonicalJson_bad_key long⟩
  refine ⟨?_, trivial, trivial, trivial⟩
  rw [List.map_cons, List.map_cons, List.map_nil, List.nodup_cons, List.mem_singleton]
  exact ⟨apart, List.nodup_singleton _⟩

end ManyAlerts
