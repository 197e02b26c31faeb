import Mathlib.Data.List.TakeWhile
import ManyAlerts.Library.JsonText

/-!
# What a reader of JSON text returns

Every tree that the reader returns is no longer in compact text than the characters it was
read from: blanks and escapes only ever add to a text.  Along with the length go the facts
that the hooks establish about numbers and about the members of objects, and that no text
holds a code point outside Unicode.
-/

namespace ManyAlerts

theorem length_encodeNat_le {value size : Nat} (positive : 0 < size) (small : value < 10 ^ size) :
    (encodeNat value).length ≤ size := by
  rw [encodeNat, List.length_map]
  exact (Nat.length_toDigits_le_iff (by decide) positive).mpr small

/-- Bytes of a text in UTF-8. -/
def byteLength (text : List Char) : Nat := (utf8Bytes text).length

@[simp] theorem byteLength_nil : byteLength [] = 0 := rfl

@[simp] theorem byteLength_cons (character : Char) (text : List Char) :
    byteLength (character :: text) =
      (String.utf8EncodeChar character).length + byteLength text := by
  simp [byteLength]

@[simp] theorem byteLength_append (left right : List Char) :
    byteLength (left ++ right) = byteLength left + byteLength right := by
  simp [byteLength]

theorem one_le_length_utf8EncodeChar (character : Char) :
    1 ≤ (String.utf8EncodeChar character).length := by
  rw [String.length_utf8EncodeChar]
  exact character.utf8Size_pos

theorem length_utf8EncodeChar_le (character : Char) :
    (String.utf8EncodeChar character).length ≤ 4 := by
  rw [String.length_utf8EncodeChar]
  exact character.utf8Size_le_four

theorem length_le_byteLength (text : List Char) : text.length ≤ byteLength text := by
  induction text with
  | nil => simp
  | cons character text induction =>
      have := one_le_length_utf8EncodeChar character
      simp only [List.length_cons, byteLength_cons]
      omega

theorem byteLength_skipBlank_le (text : List Char) :
    byteLength (skipBlank text) ≤ byteLength text := by
  rw [skipBlank]
  nth_rewrite 2 [← List.takeWhile_append_dropWhile (p := isBlank) (l := text)]
  rw [byteLength_append]
  exact Nat.le_add_left _ _

/-! ## Lengths in compact text -/

/-- Bytes of a code point in compact text.  What is no character counts as the escape that
names it. -/
def pointCost (point : Nat) : Nat := (encodeChar (Char.ofNat point)).length

def pointsCost (points : List Nat) : Nat := (points.map pointCost).sum

def textCost (points : List Nat) : Nat := pointsCost points + 2

theorem pointCost_le (point : Nat) : pointCost point ≤ 6 := by
  have short := length_utf8EncodeChar_le (Char.ofNat point)
  unfold pointCost encodeChar escapeChar
  split_ifs <;> simp only [Option.getD_some, Option.getD_none, List.length_cons,
    List.length_nil] <;> omega

theorem encodeChar_of_literal {character : Char} (quote : character ≠ '"')
    (backslash : character ≠ '\\') (printable : 0x20 ≤ character.toNat) :
    encodeChar character = String.utf8EncodeChar character := by
  have newline : character ≠ '\n' := by
    rintro rfl
    exact absurd printable (by decide)
  have return_ : character ≠ '\r' := by
    rintro rfl
    exact absurd printable (by decide)
  have tab : character ≠ '\t' := by
    rintro rfl
    exact absurd printable (by decide)
  rw [encodeChar, escapeChar, if_neg quote, if_neg backslash, if_neg newline, if_neg return_,
    if_neg tab, if_neg (by omega), if_neg (by omega), if_neg (by omega)]
  rfl

theorem simpleEscape_cost {escape : Char} {unit : Nat} (named : simpleEscape escape = some unit) :
    pointCost unit ≤ 2 ∧ unit < 0x110000 := by
  unfold simpleEscape at named
  split_ifs at named with itself
  · simp only [Bool.or_eq_true, decide_eq_true_eq, Option.some.injEq] at itself named
    subst named
    rcases itself with (rfl | rfl) | rfl <;> decide
  all_goals
    obtain rfl := Option.some.inj named
    decide

theorem hexValue_lt {character : Char} {value : Nat} (named : hexValue character = some value) :
    value < 16 := by
  unfold hexValue at named
  simp only [Bool.and_eq_true, decide_eq_true_eq, Char.le_def, UInt32.le_iff_toNat_le] at named
  split_ifs at named with digit lower upper
  all_goals
    obtain rfl := Option.some.inj named
    simp only [Char.toNat] at *
    simp at *
    omega

theorem hexUnit_lt {first second third fourth : Char} {unit : Nat}
    (named : hexUnit first second third fourth = some unit) : unit < 0x10000 := by
  simp only [hexUnit, Option.bind_eq_bind, Option.bind_eq_some_iff, Option.pure_def,
    Option.some.injEq] at named
  obtain ⟨one, isOne, two, isTwo, three, isThree, four, isFour, rfl⟩ := named
  have := hexValue_lt isOne
  have := hexValue_lt isTwo
  have := hexValue_lt isThree
  have := hexValue_lt isFour
  omega

@[simp] theorem pointsCost_cons (point : Nat) (points : List Nat) :
    pointsCost (point :: points) = pointCost point + pointsCost points := by
  simp [pointsCost]

theorem toNat_lt_unicode (character : Char) : character.toNat < 0x110000 := by
  have valid := character.valid
  unfold UInt32.isValidChar Nat.isValidChar at valid
  unfold Char.toNat
  omega

/-- Half of a surrogate pair is no character. -/
theorem pointCost_surrogate {unit : Nat} (surrogate : isHighSurrogate unit = true) :
    pointCost unit = 6 := by
  simp only [isHighSurrogate, Bool.and_eq_true, decide_eq_true_eq] at surrogate
  have invalid : ¬unit.isValidChar := by
    unfold Nat.isValidChar
    omega
  rw [pointCost, Char.ofNat, dif_neg invalid]
  rfl

/-- A text up to its closing quote is not shorter than its units. -/
theorem scanText_cost {text rest : List Char} {units : List Nat}
    (scanned : scanText text = some (units, rest)) :
    pointsCost units + 1 + byteLength rest ≤ byteLength text ∧
      ∀ unit ∈ units, unit < 0x110000 := by
  fun_induction scanText text generalizing units rest with
  | case1 => cases scanned
  | case2 rest =>
      cases scanned
      have quote := one_le_length_utf8EncodeChar '"'
      simp only [pointsCost, List.map_nil, List.sum_nil, byteLength_cons, List.not_mem_nil,
        false_implies, implies_true, and_true]
      omega
  | case3 first second third fourth text induction =>
      simp only [Option.bind_eq_bind, Option.bind_eq_some_iff, Option.pure_def,
        Option.some.injEq, Prod.exists, Prod.mk.injEq] at scanned
      obtain ⟨unit, named, more, after, scanned, rfl, rfl⟩ := scanned
      obtain ⟨bound, points⟩ := induction scanned
      have short := pointCost_le unit
      have unitBound := hexUnit_lt named
      have hex := length_le_byteLength [first, second, third, fourth]
      constructor
      · simp only [byteLength_cons, byteLength_nil, List.length_cons, List.length_nil,
          pointsCost_cons] at hex ⊢
        have backslash : (String.utf8EncodeChar '\\').length = 1 := by decide
        have letter : (String.utf8EncodeChar 'u').length = 1 := by decide
        omega
      · simpa [Nat.lt_trans unitBound] using points
  | case4 escape text _ induction =>
      simp only [Option.bind_eq_bind, Option.bind_eq_some_iff, Option.pure_def,
        Option.some.injEq, Prod.exists, Prod.mk.injEq] at scanned
      obtain ⟨unit, named, more, after, scanned, rfl, rfl⟩ := scanned
      obtain ⟨bound, points⟩ := induction scanned
      obtain ⟨short, unitBound⟩ := simpleEscape_cost named
      constructor
      · have backslash := one_le_length_utf8EncodeChar '\\'
        have letter := one_le_length_utf8EncodeChar escape
        simp only [byteLength_cons, pointsCost_cons]
        omega
      · simpa [unitBound] using points
  | case5 character text quote _ backslash induction =>
      have printable : 0x20 ≤ character.toNat := by
        by_contra control
        simp [guard, control] at scanned
      simp only [guard, printable, if_pos, Option.bind_eq_bind, Option.bind_eq_some_iff,
        Option.pure_def, Option.bind_some, Option.some.injEq, Prod.exists, Prod.mk.injEq]
        at scanned
      obtain ⟨more, after, scanned, rfl, rfl⟩ := scanned
      obtain ⟨bound, points⟩ := induction scanned
      -- A backslash at the very end has no closing quote behind it.
      have notBackslash : character ≠ '\\' := by
        intro same
        cases text with
        | nil => simp [scanText] at scanned
        | cons escape text => exact backslash escape text same rfl
      constructor
      · simp only [byteLength_cons, pointsCost_cons, pointCost, Char.ofNat_toNat,
          encodeChar_of_literal quote notBackslash printable]
        omega
      · simpa [toNat_lt_unicode character] using points

theorem joinSurrogates_cost {units : List Nat} (bounded : ∀ unit ∈ units, unit < 0x110000) :
    pointsCost (joinSurrogates units) ≤ pointsCost units ∧
      ∀ point ∈ joinSurrogates units, point < 0x110000 := by
  fun_induction joinSurrogates units with
  | case1 => exact ⟨le_refl _, bounded⟩
  | case2 unit => exact ⟨le_refl _, bounded⟩
  | case3 high low units pair induction =>
      simp only [List.mem_cons, forall_eq_or_imp] at bounded
      obtain ⟨short, points⟩ := induction bounded.2.2
      rw [Bool.and_eq_true] at pair
      have named := pointCost_surrogate pair.1
      have joined := pointCost_le (0x10000 + (high - 0xd800) * 0x400 + (low - 0xdc00))
      simp only [isHighSurrogate, isLowSurrogate, Bool.and_eq_true, decide_eq_true_eq] at pair
      simp only [pointsCost_cons, List.mem_cons, forall_eq_or_imp]
      exact ⟨by omega, by omega, points⟩
  | case4 high low units other induction =>
      simp only [List.mem_cons, forall_eq_or_imp] at bounded induction ⊢
      obtain ⟨short, points⟩ := induction bounded.2
      exact ⟨by simpa using short, bounded.1, points⟩

/-- A text with its closing quote. -/
theorem readText_cost {ε ν : Type} {hooks : JsonHooks ε ν} {text rest : List Char}
    {points : List Nat} (read : readText hooks text = .ok (points, rest)) :
    pointsCost points + 1 + byteLength rest ≤ byteLength text ∧
      ∀ point ∈ points, point < 0x110000 := by
  simp only [readText, bind_eq_ok, orFail_eq_ok, pure_eq_ok, Prod.exists, Prod.mk.injEq] at read
  obtain ⟨units, after, scanned, rfl, rfl⟩ := read
  obtain ⟨bound, bounded⟩ := scanText_cost scanned
  obtain ⟨short, points⟩ := joinSurrogates_cost bounded
  exact ⟨by omega, points⟩

/-! ## Numbers -/

/-- The text of an integer: perhaps a minus, and digits. -/
structure IntegerLexeme (lexeme : List Char) : Prop where
  shape : ∃ minus digits, lexeme = minus ++ digits ∧ (minus = [] ∨ minus = ['-']) ∧
    digits ≠ [] ∧ ∀ digit ∈ digits, isDecimal digit = true

theorem scanDigits_shape {text digits rest : List Char}
    (scanned : scanDigits text = some (digits, rest)) :
    text = digits ++ rest ∧ digits ≠ [] ∧ ∀ digit ∈ digits, isDecimal digit = true := by
  unfold scanDigits at scanned
  dsimp only at scanned
  split_ifs at scanned with none
  simp only [Option.some.injEq, Prod.mk.injEq] at scanned
  obtain ⟨rfl, rfl⟩ := scanned
  refine ⟨List.takeWhile_append_dropWhile.symm, none, ?_⟩
  intro digit member
  exact List.mem_takeWhile_imp member

theorem scanWhole_shape {text digits rest : List Char}
    (scanned : scanWhole text = some (digits, rest)) :
    text = digits ++ rest ∧ digits ≠ [] ∧ ∀ digit ∈ digits, isDecimal digit = true := by
  unfold scanWhole at scanned
  split at scanned
  · cases scanned
    refine ⟨rfl, by simp, ?_⟩
    intro digit member
    rw [List.mem_singleton.mp member]
    rfl
  · exact scanDigits_shape scanned

theorem scanMinus_shape (text : List Char) :
    text = (scanMinus text).1 ++ (scanMinus text).2 ∧
      ((scanMinus text).1 = [] ∨ (scanMinus text).1 = ['-']) := by
  unfold scanMinus
  split
  · exact ⟨rfl, .inr rfl⟩
  · exact ⟨rfl, .inl rfl⟩

theorem scanSign_shape (text : List Char) : text = (scanSign text).1 ++ (scanSign text).2 := by
  unfold scanSign
  split <;> rfl

theorem scanFraction_shape (text : List Char) :
    text = ((scanFraction text).getD ([], text)).1 ++ ((scanFraction text).getD ([], text)).2 := by
  unfold scanFraction
  split
  · next rest =>
      cases scanned : scanDigits rest with
      | none => simp
      | some found => simp [(scanDigits_shape scanned).1]
  · rfl

theorem scanExponent_shape (text : List Char) :
    text = ((scanExponent text).getD ([], text)).1 ++ ((scanExponent text).getD ([], text)).2 := by
  unfold scanExponent
  split
  · next character rest =>
      by_cases letter : character = 'e' ∨ character = 'E'
      · cases scanned : scanDigits (scanSign rest).2 with
        | none => simp [letter, scanned]
        | some found =>
            have sign := scanSign_shape rest
            rw [(scanDigits_shape scanned).1] at sign
            simpa [letter, scanned] using sign
      · simp [letter]
  · rfl

theorem scanNumber_shape {text lexeme rest : List Char} {isInteger : Bool}
    (scanned : scanNumber text = some (lexeme, isInteger, rest)) :
    text = lexeme ++ rest ∧ (isInteger = true → IntegerLexeme lexeme) := by
  simp only [scanNumber, Option.bind_eq_bind, Option.bind_eq_some_iff, Option.pure_def,
    Option.some.injEq, Prod.exists, Prod.mk.injEq] at scanned
  obtain ⟨whole, after, scannedWhole, rfl, rfl, rfl⟩ := scanned
  obtain ⟨isUnsigned, notEmpty, decimal⟩ := scanWhole_shape scannedWhole
  obtain ⟨isText, minus⟩ := scanMinus_shape text
  have fraction := scanFraction_shape after
  generalize (scanFraction after).getD ([], after) = scannedFraction at *
  have exponent := scanExponent_shape scannedFraction.2
  generalize (scanExponent scannedFraction.2).getD ([], scannedFraction.2) = scannedExponent at *
  constructor
  · calc
      text = (scanMinus text).1 ++ (scanMinus text).2 := isText
      _ = (scanMinus text).1 ++ (whole ++
          (scannedFraction.1 ++ (scannedExponent.1 ++ scannedExponent.2))) := by
        rw [isUnsigned, fraction, exponent]
      _ = _ := by simp only [List.append_assoc]
  · intro isInteger
    simp only [Bool.and_eq_true, decide_eq_true_eq] at isInteger
    refine ⟨(scanMinus text).1, whole, ?_, minus, notEmpty, decimal⟩
    rw [isInteger.1, isInteger.2, List.append_nil, List.append_nil]

/-! ## Trees -/

namespace JsonTree

section Cost

variable {ν : Type} (number : ν → Nat)

mutual

/-- The length of a tree in compact text, given the lengths of its numbers. -/
def cost : JsonTree ν → Nat
  | .null => 4
  | .bool true => 4
  | .bool false => 5
  | .number value => number value
  | .text points => textCost points
  | .array items => itemsCost items + (items.length - 1) + 2
  | .object members => membersCost members + (members.length - 1) + 2

def itemsCost : List (JsonTree ν) → Nat
  | [] => 0
  | item :: items => cost item + itemsCost items

def membersCost : List (List Nat × JsonTree ν) → Nat
  | [] => 0
  | (key, value) :: members => textCost key + 1 + cost value + membersCost members

end

end Cost

section Sound

variable {ν : Type} (Number : ν → Prop) (Members : List (List Nat × JsonTree ν) → Prop)

mutual

/-- A tree whose numbers and objects satisfy what is asked of them, with code points only. -/
def Sound : JsonTree ν → Prop
  | .number value => Number value
  | .text points => ∀ point ∈ points, point < 0x110000
  | .array items => SoundItems items
  | .object members => Members members ∧ SoundMembers members
  | _ => True

def SoundItems : List (JsonTree ν) → Prop
  | [] => True
  | item :: items => Sound item ∧ SoundItems items

def SoundMembers : List (List Nat × JsonTree ν) → Prop
  | [] => True
  | (key, value) :: members =>
      (∀ point ∈ key, point < 0x110000) ∧ Sound value ∧ SoundMembers members

end

end Sound

end JsonTree

/-- Hooks that return only what is asked for, at most as long as the text it stands for. -/
structure HooksSound {ε ν : Type} (hooks : JsonHooks ε ν) (number : ν → Nat)
    (Number : ν → Prop) (Members : List (List Nat × JsonTree ν) → Prop) : Prop where
  integer : ∀ lexeme value, IntegerLexeme lexeme → hooks.integer lexeme = .ok value →
    Number value ∧ number value ≤ lexeme.length
  fraction : ∀ lexeme value, hooks.fraction lexeme = .ok value →
    Number value ∧ number value ≤ lexeme.length
  constant : ∀ word value, hooks.constant word = .ok value →
    Number value ∧ number value ≤ word.length
  members : ∀ members, hooks.members members = .ok () → Members members

section Reading

variable {ε ν : Type} {hooks : JsonHooks ε ν} {number : ν → Nat} {Number : ν → Prop}
  {Members : List (List Nat × JsonTree ν) → Prop}

theorem afterWord_shape {word text rest : List Char} (after : afterWord word text = some rest) :
    text = word ++ rest := by
  unfold afterWord at after
  split_ifs at after with leads
  obtain ⟨rest', rfl⟩ := List.isPrefixOf_iff_prefix.mp leads
  simpa using after

theorem byteLength_afterWord {word text rest : List Char}
    (after : afterWord word text = some rest) :
    word.length + byteLength rest ≤ byteLength text := by
  rw [afterWord_shape after, byteLength_append]
  exact Nat.add_le_add_right (length_le_byteLength word) _

theorem HooksSound.readNumber (sound : HooksSound hooks number Number Members)
    {text rest : List Char} {tree : JsonTree ν}
    (read : ManyAlerts.readNumber hooks text = .ok (tree, rest)) :
    tree.cost number + byteLength rest ≤ byteLength text ∧ tree.Sound Number Members := by
  simp only [ManyAlerts.readNumber, bind_eq_ok, orFail_eq_ok, Prod.exists] at read
  obtain ⟨lexeme, isInteger, after, scanned, read⟩ := read
  obtain ⟨rfl, shape⟩ := scanNumber_shape scanned
  have long := length_le_byteLength lexeme
  obtain ⟨value, good, short, isRead⟩ : ∃ value, Number value ∧ number value ≤ lexeme.length ∧
      (JsonTree.number value, after) = (tree, rest) := by
    cases isInteger with
    | true =>
        obtain ⟨value, hooked, isRead⟩ := bind_eq_ok.mp read
        obtain ⟨good, short⟩ := sound.integer lexeme value (shape rfl) hooked
        exact ⟨value, good, short, pure_eq_ok.mp isRead⟩
    | false =>
        obtain ⟨value, hooked, isRead⟩ := bind_eq_ok.mp read
        obtain ⟨good, short⟩ := sound.fraction lexeme value hooked
        exact ⟨value, good, short, pure_eq_ok.mp isRead⟩
  cases isRead
  rw [JsonTree.cost, byteLength_append]
  exact ⟨by omega, good⟩

theorem HooksSound.readConstant (sound : HooksSound hooks number Number Members)
    {word text rest behind : List Char} {tree : JsonTree ν}
    (after : afterWord word text = some rest)
    (read : (hooks.constant word).map (fun value => (JsonTree.number value, rest)) =
      .ok (tree, behind)) :
    tree.cost number + byteLength behind ≤ byteLength text ∧ tree.Sound Number Members := by
  cases hooked : hooks.constant word with
  | error error =>
      rw [hooked] at read
      cases read
  | ok value =>
      rw [hooked] at read
      cases read
      obtain ⟨good, short⟩ := sound.constant word value hooked
      have long := byteLength_afterWord after
      exact ⟨by rw [JsonTree.cost]; omega, good⟩

theorem HooksSound.readScalar (sound : HooksSound hooks number Number Members)
    {text rest : List Char} {tree : JsonTree ν}
    (read : ManyAlerts.readScalar hooks text = .ok (tree, rest)) :
    tree.cost number + byteLength rest ≤ byteLength text ∧ tree.Sound Number Members := by
  unfold ManyAlerts.readScalar at read
  split at read
  · next after =>
      cases read
      exact ⟨byteLength_afterWord after, trivial⟩
  split at read
  · next after =>
      cases read
      exact ⟨byteLength_afterWord after, trivial⟩
  split at read
  · next after =>
      cases read
      exact ⟨byteLength_afterWord after, trivial⟩
  split at read
  · next after => exact sound.readConstant after read
  split at read
  · next after => exact sound.readConstant after read
  split at read
  · next after => exact sound.readConstant after read
  exact sound.readNumber read

/-- The closing character and the blanks before it. -/
theorem byteLength_of_skipBlank {text rest : List Char} {character : Char}
    (blank : skipBlank text = character :: rest) : 1 + byteLength rest ≤ byteLength text := by
  have short := byteLength_skipBlank_le text
  have one := one_le_length_utf8EncodeChar character
  rw [blank, byteLength_cons] at short
  omega

mutual

theorem HooksSound.readValue (sound : HooksSound hooks number Number Members) (fuel : Nat)
    {text rest : List Char} {tree : JsonTree ν}
    (read : ManyAlerts.readValue hooks fuel text = .ok (tree, rest)) :
    tree.cost number + byteLength rest ≤ byteLength text ∧ tree.Sound Number Members := by
  match fuel with
  | 0 => cases read
  | fuel + 1 =>
      unfold ManyAlerts.readValue at read
      split at read
      · cases ‹_ = 0›
      · next text _ =>
          simp only [bind_eq_ok, Prod.exists, pure_eq_ok, Prod.mk.injEq] at read
          obtain ⟨points, after, isText, rfl, rfl⟩ := read
          obtain ⟨short, points⟩ := readText_cost isText
          have quote := one_le_length_utf8EncodeChar '"'
          rw [JsonTree.cost, textCost, byteLength_cons]
          exact ⟨by omega, points⟩
      · next text same =>
          cases same
          have opened := one_le_length_utf8EncodeChar '['
          split at read
          · next close =>
              cases read
              have closed := byteLength_of_skipBlank close
              simp only [JsonTree.cost, JsonTree.itemsCost, List.length_nil, byteLength_cons]
              exact ⟨by omega, trivial⟩
          · simp only [bind_eq_ok, Prod.exists, pure_eq_ok, Prod.mk.injEq] at read
            obtain ⟨items, after, isItems, rfl, rfl⟩ := read
            obtain ⟨short, some, goods⟩ := HooksSound.readItems sound fuel isItems
            have skipped := byteLength_skipBlank_le text
            have count := List.length_pos_iff.mpr some
            simp only [JsonTree.cost, byteLength_cons]
            exact ⟨by omega, goods⟩
      · next text same =>
          cases same
          have opened := one_le_length_utf8EncodeChar '{'
          split at read
          · next close =>
              simp only [bind_eq_ok, exists_unit, pure_eq_ok, Prod.mk.injEq] at read
              obtain ⟨hooked, rfl, rfl⟩ := read
              have closed := byteLength_of_skipBlank close
              simp only [JsonTree.cost, JsonTree.membersCost, List.length_nil, byteLength_cons]
              exact ⟨by omega, sound.members _ hooked, trivial⟩
          · simp only [bind_eq_ok, Prod.exists, exists_unit, pure_eq_ok, Prod.mk.injEq] at read
            obtain ⟨members, after, isMembers, hooked, rfl, rfl⟩ := read
            obtain ⟨short, some, goods⟩ := HooksSound.readMembers sound fuel isMembers
            have skipped := byteLength_skipBlank_le text
            have count := List.length_pos_iff.mpr some
            simp only [JsonTree.cost, byteLength_cons]
            exact ⟨by omega, sound.members _ hooked, goods⟩
      · exact sound.readScalar read

theorem HooksSound.readItems (sound : HooksSound hooks number Number Members) (fuel : Nat)
    {text rest : List Char} {items : List (JsonTree ν)}
    (read : ManyAlerts.readItems hooks fuel text = .ok (items, rest)) :
    JsonTree.itemsCost number items + items.length + byteLength rest ≤ byteLength text ∧
      items ≠ [] ∧ JsonTree.SoundItems Number Members items := by
  match fuel with
  | 0 => cases read
  | fuel + 1 =>
      rw [ManyAlerts.readItems, bind_eq_ok] at read
      obtain ⟨⟨item, after⟩, isItem, read⟩ := read
      obtain ⟨short, good⟩ := HooksSound.readValue sound fuel isItem
      dsimp only at read
      split at read
      · next close =>
          cases read
          have closed := byteLength_of_skipBlank close
          simp only [JsonTree.itemsCost, List.length_cons, List.length_nil]
          exact ⟨by omega, by simp, good, trivial⟩
      · next behind comma =>
          simp only [bind_eq_ok, Prod.exists, pure_eq_ok, Prod.mk.injEq] at read
          obtain ⟨others, final, isItems, rfl, rfl⟩ := read
          obtain ⟨shorter, _, goods⟩ := HooksSound.readItems sound fuel isItems
          have separated := byteLength_of_skipBlank comma
          have skipped := byteLength_skipBlank_le behind
          simp only [JsonTree.itemsCost, List.length_cons]
          exact ⟨by omega, by simp, good, goods⟩
      · cases read

theorem HooksSound.readMembers (sound : HooksSound hooks number Number Members) (fuel : Nat)
    {text rest : List Char} {members : List (List Nat × JsonTree ν)}
    (read : ManyAlerts.readMembers hooks fuel text = .ok (members, rest)) :
    JsonTree.membersCost number members + members.length + byteLength rest ≤ byteLength text ∧
      members ≠ [] ∧ JsonTree.SoundMembers Number Members members := by
  match fuel with
  | 0 => cases read
  | fuel + 1 =>
      unfold ManyAlerts.readMembers at read
      split at read
      · cases ‹_ = 0›
      · next text same =>
          cases same
          have quote := one_le_length_utf8EncodeChar '"'
          rw [bind_eq_ok] at read
          obtain ⟨⟨key, after⟩, isKey, read⟩ := read
          obtain ⟨keyShort, points⟩ := readText_cost isKey
          dsimp only at read
          split at read
          · next named colon =>
              rw [bind_eq_ok] at read
              obtain ⟨⟨value, behind⟩, isValue, read⟩ := read
              obtain ⟨short, good⟩ := HooksSound.readValue sound fuel isValue
              have separated := byteLength_of_skipBlank colon
              have skipped := byteLength_skipBlank_le named
              dsimp only at read
              split at read
              · next close =>
                  cases read
                  have closed := byteLength_of_skipBlank close
                  simp only [JsonTree.membersCost, textCost, List.length_cons, List.length_nil,
                    byteLength_cons]
                  exact ⟨by omega, by simp, points, good, trivial⟩
              · next later comma =>
                  simp only [bind_eq_ok, Prod.exists, pure_eq_ok, Prod.mk.injEq] at read
                  obtain ⟨others, final, isMembers, rfl, rfl⟩ := read
                  obtain ⟨shorter, _, goods⟩ := HooksSound.readMembers sound fuel isMembers
                  have continued := byteLength_of_skipBlank comma
                  have skippedAgain := byteLength_skipBlank_le later
                  simp only [JsonTree.membersCost, textCost, List.length_cons, byteLength_cons]
                  exact ⟨by omega, by simp, points, good, goods⟩
              · cases read
          · cases read
      · cases read

end

/-- A whole text is at least as long as the compact text of its tree. -/
theorem HooksSound.readJson (sound : HooksSound hooks number Number Members) {text : List Char}
    {tree : JsonTree ν} (read : ManyAlerts.readJson hooks text = .ok tree) :
    tree.cost number ≤ byteLength text ∧ tree.Sound Number Members := by
  simp only [ManyAlerts.readJson, bind_eq_ok, Prod.exists, failIf_eq_ok, exists_unit,
    pure_eq_ok] at read
  obtain ⟨tree, rest, isRead, _, rfl⟩ := read
  obtain ⟨short, good⟩ := sound.readValue _ isRead
  have skipped := byteLength_skipBlank_le text
  exact ⟨by omega, good⟩

end Reading

end ManyAlerts
