import ManyAlerts.Library.Checked
import ManyAlerts.Library.Json

/-!
# Reading JSON text

A recursive descent reader of RFC 8259 text over characters.  What a number, a
constant outside the grammar or the members of an object become is left to hooks,
which may refuse; texts are lists of code points, since an escape can name half of
a surrogate pair.

`Json.chars` is the compact text of a value as characters, and `readJson_chars`
says that the reader takes it back to the value.
-/

namespace ManyAlerts

inductive JsonTree (ν : Type) where
  | null
  | bool (value : Bool)
  | number (value : ν)
  | text (points : List Nat)
  | array (items : List (JsonTree ν))
  | object (members : List (List Nat × JsonTree ν))

/-- What a reader does with the parts of a text that the grammar leaves open. -/
structure JsonHooks (ε ν : Type) where
  syntaxError : ε
  integer : List Char → Except ε ν
  fraction : List Char → Except ε ν
  constant : List Char → Except ε ν
  members : List (List Nat × JsonTree ν) → Except ε Unit

/-! ## Tokens -/

def isBlank (character : Char) : Bool :=
  character = ' ' || character = '\t' || character = '\n' || character = '\r'

def skipBlank (text : List Char) : List Char := text.dropWhile isBlank

def hexValue (character : Char) : Option Nat :=
  if '0' ≤ character && character ≤ '9' then some (character.toNat - 48)
  else if 'a' ≤ character && character ≤ 'f' then some (character.toNat - 87)
  else if 'A' ≤ character && character ≤ 'F' then some (character.toNat - 55)
  else none

def hexUnit (first second third fourth : Char) : Option Nat := do
  let first ← hexValue first
  let second ← hexValue second
  let third ← hexValue third
  let fourth ← hexValue fourth
  return ((first * 16 + second) * 16 + third) * 16 + fourth

/-- The character behind a backslash, except for `u`. -/
def simpleEscape (character : Char) : Option Nat :=
  if character = '"' || character = '\\' || character = '/' then some character.toNat
  else if character = 'b' then some 8
  else if character = 'f' then some 12
  else if character = 'n' then some 10
  else if character = 'r' then some 13
  else if character = 't' then some 9
  else none

/-- The units of a string up to its closing quote, and the text behind it. -/
def scanText : List Char → Option (List Nat × List Char)
  | [] => none
  | '"' :: rest => some ([], rest)
  | '\\' :: 'u' :: first :: second :: third :: fourth :: rest => do
      let unit ← hexUnit first second third fourth
      let (units, rest) ← scanText rest
      return (unit :: units, rest)
  | '\\' :: escape :: rest => do
      let unit ← simpleEscape escape
      let (units, rest) ← scanText rest
      return (unit :: units, rest)
  | character :: rest => do
      guard (0x20 ≤ character.toNat)
      let (units, rest) ← scanText rest
      return (character.toNat :: units, rest)

def isHighSurrogate (unit : Nat) : Bool := 0xd800 ≤ unit && unit < 0xdc00
def isLowSurrogate (unit : Nat) : Bool := 0xdc00 ≤ unit && unit < 0xe000

/-- A high surrogate and a low one right behind it are one code point.  Only
escapes name surrogates. -/
def joinSurrogates : List Nat → List Nat
  | [] => []
  | [unit] => [unit]
  | high :: low :: units =>
      if isHighSurrogate high && isLowSurrogate low then
        (0x10000 + (high - 0xd800) * 0x400 + (low - 0xdc00)) :: joinSurrogates units
      else high :: joinSurrogates (low :: units)

def isDecimal (character : Char) : Bool := '0' ≤ character && character ≤ '9'

/-- One or more digits. -/
def scanDigits (text : List Char) : Option (List Char × List Char) :=
  let digits := text.takeWhile isDecimal
  if digits = [] then none else some (digits, text.dropWhile isDecimal)

/-- The digits before a fraction: a zero stands alone. -/
def scanWhole : List Char → Option (List Char × List Char)
  | '0' :: rest => some (['0'], rest)
  | text => scanDigits text

def scanFraction : List Char → Option (List Char × List Char)
  | '.' :: rest => do
      let (digits, rest) ← scanDigits rest
      return ('.' :: digits, rest)
  | _ => none

def scanSign : List Char → List Char × List Char
  | '+' :: rest => (['+'], rest)
  | '-' :: rest => (['-'], rest)
  | rest => ([], rest)

def scanExponent : List Char → Option (List Char × List Char)
  | character :: rest => do
      guard (character = 'e' ∨ character = 'E')
      let (sign, rest) := scanSign rest
      let (digits, rest) ← scanDigits rest
      return (character :: sign ++ digits, rest)
  | [] => none

def scanMinus : List Char → List Char × List Char
  | '-' :: rest => (['-'], rest)
  | text => ([], text)

/-- The text of a number, whether it is an integer, and the text behind it. -/
def scanNumber (text : List Char) : Option (List Char × Bool × List Char) := do
  let (minus, unsigned) := scanMinus text
  let (whole, rest) ← scanWhole unsigned
  let (fraction, rest) := (scanFraction rest).getD ([], rest)
  let (exponent, rest) := (scanExponent rest).getD ([], rest)
  return (minus ++ whole ++ fraction ++ exponent, fraction = [] && exponent = [], rest)

/-- The text behind a word that the text starts with. -/
def afterWord (word text : List Char) : Option (List Char) :=
  if word.isPrefixOf text then some (text.drop word.length) else none

/-! ## Values -/

section Reader

variable {ε ν : Type} (hooks : JsonHooks ε ν)

def readText (text : List Char) : Except ε (List Nat × List Char) := do
  let (units, rest) ← orFail hooks.syntaxError (scanText text)
  return (joinSurrogates units, rest)

def readNumber (text : List Char) : Except ε (JsonTree ν × List Char) := do
  let (lexeme, isInteger, rest) ← orFail hooks.syntaxError (scanNumber text)
  let value ← if isInteger then hooks.integer lexeme else hooks.fraction lexeme
  return (.number value, rest)

def notANumber : List Char := ['N', 'a', 'N']
def infinity : List Char := ['I', 'n', 'f', 'i', 'n', 'i', 't', 'y']

/-- A word of the grammar, a constant beside it, or a number. -/
def readScalar (text : List Char) : Except ε (JsonTree ν × List Char) :=
  match afterWord ['n', 'u', 'l', 'l'] text with
  | some rest => .ok (.null, rest)
  | none => match afterWord ['t', 'r', 'u', 'e'] text with
  | some rest => .ok (.bool true, rest)
  | none => match afterWord ['f', 'a', 'l', 's', 'e'] text with
  | some rest => .ok (.bool false, rest)
  | none => match afterWord notANumber text with
  | some rest => (hooks.constant notANumber).map fun value => (.number value, rest)
  | none => match afterWord infinity text with
  | some rest => (hooks.constant infinity).map fun value => (.number value, rest)
  | none => match afterWord ('-' :: infinity) text with
  | some rest => (hooks.constant ('-' :: infinity)).map fun value => (.number value, rest)
  | none => readNumber hooks text

mutual

/-- A value at the start of a text, and the text behind it. -/
def readValue : Nat → List Char → Except ε (JsonTree ν × List Char)
  | 0, _ => .error hooks.syntaxError
  | _ + 1, '"' :: rest => do
      let (points, rest) ← readText hooks rest
      return (.text points, rest)
  | fuel + 1, '[' :: rest =>
      match skipBlank rest with
      | ']' :: rest => .ok (.array [], rest)
      | rest => do
          let (items, rest) ← readItems fuel rest
          return (.array items, rest)
  | fuel + 1, '{' :: rest =>
      match skipBlank rest with
      | '}' :: rest => do
          hooks.members []
          return (.object [], rest)
      | rest => do
          let (members, rest) ← readMembers fuel rest
          hooks.members members
          return (.object members, rest)
  | _ + 1, text => readScalar hooks text

/-- The items up to the closing bracket. -/
def readItems : Nat → List Char → Except ε (List (JsonTree ν) × List Char)
  | 0, _ => .error hooks.syntaxError
  | fuel + 1, text => do
      let (item, rest) ← readValue fuel text
      match skipBlank rest with
      | ']' :: rest => return ([item], rest)
      | ',' :: rest =>
          let (items, rest) ← readItems fuel (skipBlank rest)
          return (item :: items, rest)
      | _ => .error hooks.syntaxError

/-- The members up to the closing brace. -/
def readMembers : Nat → List Char → Except ε (List (List Nat × JsonTree ν) × List Char)
  | 0, _ => .error hooks.syntaxError
  | fuel + 1, '"' :: rest => do
      let (key, rest) ← readText hooks rest
      match skipBlank rest with
      | ':' :: rest =>
          let (value, rest) ← readValue fuel (skipBlank rest)
          match skipBlank rest with
          | '}' :: rest => return ([(key, value)], rest)
          | ',' :: rest =>
              let (members, rest) ← readMembers fuel (skipBlank rest)
              return ((key, value) :: members, rest)
          | _ => .error hooks.syntaxError
      | _ => .error hooks.syntaxError
  | _ + 1, _ => .error hooks.syntaxError

end

/-- A whole text: one value with blanks around it. -/
def readJson (text : List Char) : Except ε (JsonTree ν) := do
  let (value, rest) ← readValue hooks (2 * text.length) (skipBlank text)
  failIf (skipBlank rest ≠ []) hooks.syntaxError
  return value

end Reader

/-! ## Compact text as characters -/

def hexChar (digit : Nat) : Char :=
  if digit < 10 then Char.ofNat (48 + digit) else Char.ofNat (87 + digit)

/-- `encodeChar` before it is written in UTF-8. -/
def escapeText (character : Char) : List Char :=
  if character = '"' then ['\\', '"']
  else if character = '\\' then ['\\', '\\']
  else if character = '\n' then ['\\', 'n']
  else if character = '\r' then ['\\', 'r']
  else if character = '\t' then ['\\', 't']
  else if character.toNat = 12 then ['\\', 'f']
  else if character.toNat = 8 then ['\\', 'b']
  else if character.toNat < 32 then
    ['\\', 'u', '0', '0', hexChar (character.toNat / 16), hexChar (character.toNat % 16)]
  else [character]

def textChars (text : String) : List Char :=
  '"' :: (text.toList.flatMap escapeText ++ ['"'])

def intChars (value : Int) : List Char :=
  if value < 0 then '-' :: Nat.toDigits 10 value.natAbs else Nat.toDigits 10 value.natAbs

/-- Parts with commas between them. -/
def joinChars : List (List Char) → List Char
  | [] => []
  | part :: parts => part ++ parts.flatMap fun part => ',' :: part

namespace Json

mutual

/-- `encode` before it is written in UTF-8. -/
def chars : Json → List Char
  | .null => "null".toList
  | .bool true => "true".toList
  | .bool false => "false".toList
  | .num value => intChars value
  | .str value => textChars value
  | .arr items => '[' :: (joinChars (itemChars items) ++ [']'])
  | .obj members => '{' :: (joinChars (memberChars members) ++ ['}'])

def itemChars : List Json → List (List Char)
  | [] => []
  | item :: items => chars item :: itemChars items

def memberChars : List (String × Json) → List (List Char)
  | [] => []
  | (key, value) :: members => (textChars key ++ ':' :: chars value) :: memberChars members

end

end Json

/-- The UTF-8 bytes of characters. -/
def utf8Bytes (characters : List Char) : Bytes := characters.flatMap String.utf8EncodeChar

@[simp] theorem utf8Bytes_nil : utf8Bytes [] = [] := rfl

@[simp] theorem utf8Bytes_append (left right : List Char) :
    utf8Bytes (left ++ right) = utf8Bytes left ++ utf8Bytes right := by
  simp [utf8Bytes]

@[simp] theorem utf8Bytes_cons (character : Char) (characters : List Char) :
    utf8Bytes (character :: characters) =
      String.utf8EncodeChar character ++ utf8Bytes characters := by
  simp [utf8Bytes]

theorem utf8Bytes_escapeText (character : Char) :
    utf8Bytes (escapeText character) = encodeChar character := by
  unfold escapeText encodeChar escapeChar
  split_ifs with quote backslash newline return_ tab feed back control
  all_goals first
    | rfl
    | skip
  · generalize character.toNat = code at control
    interval_cases code <;> rfl
  · simp

theorem utf8Bytes_textChars (text : String) : utf8Bytes (textChars text) = encodeString text := by
  have inner : ∀ characters : List Char,
      utf8Bytes (characters.flatMap escapeText) = encodeChars characters := by
    intro characters
    induction characters with
    | nil => rfl
    | cons character characters induction =>
        rw [List.flatMap_cons, utf8Bytes_append, utf8Bytes_escapeText, induction]
        rfl
  simp [textChars, encodeString, inner]
  rfl

theorem utf8Bytes_digits (value : Nat) :
    utf8Bytes (Nat.toDigits 10 value) = encodeNat value := by
  have each : ∀ digits : List Char, (∀ digit ∈ digits, digit.isDigit = true) →
      utf8Bytes digits = digits.map fun digit => UInt8.ofNat digit.toNat := by
    intro digits decimal
    induction digits with
    | nil => rfl
    | cons digit digits induction =>
        have bounds : 48 ≤ digit.toNat ∧ digit.toNat ≤ 57 := by
          simpa [Char.isDigit, UInt32.le_iff_toNat_le] using decimal digit (by simp)
        have single : String.utf8EncodeChar digit = [UInt8.ofNat digit.toNat] := by
          rw [← Char.ofNat_toNat digit]
          generalize digit.toNat = code at bounds
          obtain ⟨low, high⟩ := bounds
          interval_cases code <;> rfl
        rw [utf8Bytes_cons, single, induction fun other member => decimal other (by simp [member])]
        rfl
  exact each _ fun digit member => Nat.isDigit_of_mem_toDigits (by decide) (by decide) member

theorem utf8Bytes_intChars (value : Int) : utf8Bytes (intChars value) = encodeInt value := by
  unfold intChars encodeInt
  split_ifs
  · rw [utf8Bytes_cons, utf8Bytes_digits]
    rfl
  · exact utf8Bytes_digits _

theorem utf8Bytes_joinChars (parts : List (List Char)) :
    utf8Bytes (joinChars parts) = joinComma (parts.map utf8Bytes) := by
  have rest : ∀ parts : List (List Char), utf8Bytes (parts.flatMap fun part => ',' :: part) =
      (parts.map utf8Bytes).flatMap fun part => 0x2c :: part := by
    intro parts
    induction parts with
    | nil => rfl
    | cons part parts induction =>
        rw [List.flatMap_cons, utf8Bytes_append, induction, utf8Bytes_cons]
        rfl
  cases parts with
  | nil => rfl
  | cons part parts =>
      rw [joinChars, utf8Bytes_append, rest]
      rfl

namespace Json

mutual

theorem utf8Bytes_chars (value : Json) : utf8Bytes value.chars = value.encode := by
  cases value with
  | null => rfl
  | bool value => cases value <;> rfl
  | num value => rw [chars, encode, utf8Bytes_intChars]
  | str value => rw [chars, encode, utf8Bytes_textChars]
  | arr items =>
      rw [chars, encode, utf8Bytes_cons, utf8Bytes_append, utf8Bytes_joinChars,
        utf8Bytes_itemChars items]
      rfl
  | obj members =>
      rw [chars, encode, utf8Bytes_cons, utf8Bytes_append, utf8Bytes_joinChars,
        utf8Bytes_memberChars members]
      rfl

theorem utf8Bytes_itemChars (items : List Json) :
    (itemChars items).map utf8Bytes = encodeItems items := by
  cases items with
  | nil => rfl
  | cons item items =>
      rw [itemChars, encodeItems, List.map_cons, utf8Bytes_chars item, utf8Bytes_itemChars items]

theorem utf8Bytes_memberChars (members : List (String × Json)) :
    (memberChars members).map utf8Bytes = encodeMembers members := by
  cases members with
  | nil => rfl
  | cons member members =>
      obtain ⟨key, value⟩ := member
      rw [memberChars, encodeMembers, List.map_cons, utf8Bytes_append, utf8Bytes_cons,
        utf8Bytes_textChars, utf8Bytes_chars value, utf8Bytes_memberChars members]
      rfl

end

end Json

/-! ## Tokens of compact text -/

theorem scanText_escapeText (character : Char) (rest : List Char) :
    scanText (escapeText character ++ rest) =
      (scanText rest).map fun scanned => (character.toNat :: scanned.1, scanned.2) := by
  unfold escapeText
  split_ifs with quote backslash newline return_ tab feed back control
  · subst quote
    cases scanned : scanText rest <;> simp [scanText, simpleEscape, scanned]
  · subst backslash
    cases scanned : scanText rest <;> simp [scanText, simpleEscape, scanned]
  · subst newline
    cases scanned : scanText rest <;> simp [scanText, simpleEscape, scanned]
  · subst return_
    cases scanned : scanText rest <;> simp [scanText, simpleEscape, scanned]
  · subst tab
    cases scanned : scanText rest <;> simp [scanText, simpleEscape, scanned]
  · cases scanned : scanText rest <;> simp [scanText, simpleEscape, scanned, feed]
  · cases scanned : scanText rest <;> simp [scanText, simpleEscape, scanned, back]
  · have unit : hexUnit '0' '0' (hexChar (character.toNat / 16))
        (hexChar (character.toNat % 16)) = some character.toNat := by
      generalize character.toNat = code at control
      interval_cases code <;> rfl
    cases scanned : scanText rest <;> simp [scanText, unit, scanned]
  · have literal : scanText (character :: rest) = do
        guard (0x20 ≤ character.toNat)
        let (units, rest) ← scanText rest
        return (character.toNat :: units, rest) := by
      rw [scanText]
      · intro same
        exact quote same
      · intro _ _ _ _ _ same
        exact absurd same backslash
      · intro _ _ same
        exact absurd same backslash
    have printable : 0x20 ≤ character.toNat := by omega
    rw [List.singleton_append, literal]
    cases scanned : scanText rest <;> simp [printable]

theorem scanText_textChars (characters rest : List Char) :
    scanText (characters.flatMap escapeText ++ '"' :: rest) =
      some (characters.map Char.toNat, rest) := by
  induction characters with
  | nil => simp [scanText]
  | cons character characters induction =>
      rw [List.flatMap_cons, List.append_assoc, scanText_escapeText, induction]
      rfl

theorem joinSurrogates_toNat (characters : List Char) :
    joinSurrogates (characters.map Char.toNat) = characters.map Char.toNat := by
  induction characters with
  | nil => rfl
  | cons character characters induction =>
      cases characters with
      | nil => rfl
      | cons next characters =>
          have notHigh : isHighSurrogate character.toNat = false := by
            have valid := character.valid
            unfold UInt32.isValidChar Nat.isValidChar at valid
            simp only [isHighSurrogate, Bool.and_eq_false_iff, decide_eq_false_iff_not, not_le,
              not_lt]
            unfold Char.toNat
            omega
          rw [List.map_cons, List.map_cons, joinSurrogates, notHigh, Bool.false_and,
            if_neg (by simp)]
          exact congrArg _ induction

/-- What follows a number does not continue it. -/
def Ends (rest : List Char) : Prop :=
  ∀ character ∈ rest.head?, isDecimal character = false ∧ character ≠ '.' ∧ character ≠ 'e' ∧
    character ≠ 'E'

theorem ends_nil : Ends [] := by
  intro character member
  cases member

theorem ends_cons {character : Char} (rest : List Char)
    (other : isDecimal character = false ∧ character ≠ '.' ∧ character ≠ 'e' ∧ character ≠ 'E') :
    Ends (character :: rest) := by
  intro head member
  obtain rfl : character = head := by simpa using member
  exact other

theorem isDecimal_of_mem_toDigits {value : Nat} {digit : Char}
    (member : digit ∈ Nat.toDigits 10 value) : isDecimal digit = true := by
  have bounds : 48 ≤ digit.val ∧ digit.val ≤ 57 := by
    simpa [Char.isDigit] using Nat.isDigit_of_mem_toDigits (by decide) (by decide) member
  simp only [isDecimal, Bool.and_eq_true, decide_eq_true_eq]
  exact bounds

theorem toDigits_head {value : Nat} (positive : 0 < value) :
    ∃ digit digits, Nat.toDigits 10 value = digit :: digits ∧ digit ≠ '0' := by
  induction value using Nat.strongRecOn with
  | ind value induction =>
      by_cases small : value < 10
      · refine ⟨value.digitChar, [], Nat.toDigits_of_lt_base small, ?_⟩
        interval_cases value <;> decide
      · obtain ⟨digit, digits, shape, notZero⟩ :=
          induction (value / 10) (by omega) (by omega)
        refine ⟨digit, digits ++ [(value % 10).digitChar], ?_, notZero⟩
        rw [Nat.toDigits_of_base_le (by decide) (by omega), shape]
        rfl

theorem scanDigits_append {digits rest : List Char} (notEmpty : digits ≠ [])
    (decimal : ∀ digit ∈ digits, isDecimal digit = true) (ends : Ends rest) :
    scanDigits (digits ++ rest) = some (digits, rest) := by
  have stops : rest.takeWhile isDecimal = [] ∧ rest.dropWhile isDecimal = rest := by
    cases rest with
    | nil => simp
    | cons character rest =>
        have other := (ends character (by simp)).1
        simp [other]
  unfold scanDigits
  rw [List.takeWhile_append_of_pos decimal, List.dropWhile_append_of_pos decimal, stops.1, stops.2,
    List.append_nil, if_neg notEmpty]

theorem scanWhole_toDigits (value : Nat) {rest : List Char} (ends : Ends rest) :
    scanWhole (Nat.toDigits 10 value ++ rest) = some (Nat.toDigits 10 value, rest) := by
  by_cases zero : value = 0
  · subst zero
    rfl
  · obtain ⟨digit, digits, shape, notZero⟩ := toDigits_head (Nat.pos_of_ne_zero zero)
    rw [shape, List.cons_append, scanWhole]
    · rw [← List.cons_append, ← shape]
      exact scanDigits_append Nat.toDigits_ne_nil (fun _ => isDecimal_of_mem_toDigits) ends
    · intro tail same
      exact notZero (List.cons.inj same).1

theorem scanFraction_ends {rest : List Char} (ends : Ends rest) : scanFraction rest = none := by
  cases rest with
  | nil => rfl
  | cons character rest =>
      rw [scanFraction]
      intro tail same
      exact (ends character (by simp)).2.1 (List.cons.inj same).1

theorem scanExponent_ends {rest : List Char} (ends : Ends rest) : scanExponent rest = none := by
  cases rest with
  | nil => rfl
  | cons character rest =>
      obtain ⟨-, -, lower, upper⟩ := ends character (by simp)
      simp [scanExponent, lower, upper]

theorem scanMinus_toDigits (value : Nat) (rest : List Char) :
    scanMinus (Nat.toDigits 10 value ++ rest) = ([], Nat.toDigits 10 value ++ rest) := by
  rw [scanMinus]
  intro tail same
  cases shape : Nat.toDigits 10 value with
  | nil => exact Nat.toDigits_ne_nil shape
  | cons digit digits =>
      have member : digit ∈ Nat.toDigits 10 value := by simp [shape]
      have decimal := isDecimal_of_mem_toDigits member
      rw [shape] at same
      obtain rfl : digit = '-' := (List.cons.inj same).1
      exact absurd decimal (by decide)

theorem scanNumber_intChars (value : Int) {rest : List Char} (ends : Ends rest) :
    scanNumber (intChars value ++ rest) = some (intChars value, true, rest) := by
  unfold intChars
  split_ifs with negative
  · simp [scanNumber, scanMinus, scanWhole_toDigits _ ends, scanFraction_ends ends,
      scanExponent_ends ends]
  · simp [scanNumber, scanMinus_toDigits, scanWhole_toDigits _ ends, scanFraction_ends ends,
      scanExponent_ends ends]

/-! ## Values of compact text -/

/-- The code points of a text. -/
def pointsOf (text : String) : List Nat := text.toList.map Char.toNat

namespace Json

variable {ε ν : Type}

mutual

/-- What a reader makes of a value. -/
def tree (number : Int → ν) : Json → JsonTree ν
  | .null => .null
  | .bool value => .bool value
  | .num value => .number (number value)
  | .str value => .text (pointsOf value)
  | .arr items => .array (treeItems number items)
  | .obj members => .object (treeMembers number members)

def treeItems (number : Int → ν) : List Json → List (JsonTree ν)
  | [] => []
  | item :: items => tree number item :: treeItems number items

def treeMembers (number : Int → ν) : List (String × Json) → List (List Nat × JsonTree ν)
  | [] => []
  | (key, value) :: members => (pointsOf key, tree number value) :: treeMembers number members

end

mutual

/-- The hooks take the numbers and the members of a value. -/
def Taken (hooks : JsonHooks ε ν) (number : Int → ν) : Json → Prop
  | .num value => hooks.integer (intChars value) = .ok (number value)
  | .arr items => TakenItems hooks number items
  | .obj members =>
      TakenMembers hooks number members ∧ hooks.members (treeMembers number members) = .ok ()
  | _ => True

def TakenItems (hooks : JsonHooks ε ν) (number : Int → ν) : List Json → Prop
  | [] => True
  | item :: items => Taken hooks number item ∧ TakenItems hooks number items

def TakenMembers (hooks : JsonHooks ε ν) (number : Int → ν) : List (String × Json) → Prop
  | [] => True
  | (_, value) :: members => Taken hooks number value ∧ TakenMembers hooks number members

end

/-- A value's text starts with a character that ends no list and is no blank. -/
theorem chars_head (value : Json) :
    ∃ character rest, value.chars = character :: rest ∧ isBlank character = false ∧
      character ≠ ']' := by
  cases value with
  | null => exact ⟨_, _, rfl, by decide⟩
  | bool value => cases value <;> exact ⟨_, _, rfl, by decide⟩
  | str value => exact ⟨_, _, by rw [chars, textChars], by decide⟩
  | arr items => exact ⟨_, _, by rw [chars], by decide⟩
  | obj members => exact ⟨_, _, by rw [chars], by decide⟩
  | num value =>
      rw [chars, intChars]
      split_ifs
      · exact ⟨_, _, rfl, by decide⟩
      · cases shape : Nat.toDigits 10 value.natAbs with
        | nil => exact absurd shape Nat.toDigits_ne_nil
        | cons digit digits =>
            have member : digit ∈ Nat.toDigits 10 value.natAbs := by simp [shape]
            have decimal := isDecimal_of_mem_toDigits member
            refine ⟨digit, digits, rfl, ?_, ?_⟩
            · by_contra blank
              simp only [isBlank, Bool.not_eq_false, Bool.or_eq_true, decide_eq_true_eq] at blank
              rcases blank with ((rfl | rfl) | rfl) | rfl <;> exact absurd decimal (by decide)
            · rintro rfl
              exact absurd decimal (by decide)

theorem skipBlank_chars (value : Json) (rest : List Char) :
    skipBlank (value.chars ++ rest) = value.chars ++ rest := by
  obtain ⟨character, tail, shape, solid, -⟩ := chars_head value
  simp [skipBlank, shape, solid]

end Json

section Reading

variable {ε ν : Type} {hooks : JsonHooks ε ν} {number : Int → ν}

theorem readText_textChars (text : String) (rest : List Char) :
    readText hooks (text.toList.flatMap escapeText ++ '"' :: rest) = .ok (pointsOf text, rest) := by
  simp [readText, scanText_textChars, joinSurrogates_toNat, orFail, pointsOf]

theorem readNumber_intChars (value : Int) {rest : List Char} (ends : Ends rest)
    (taken : hooks.integer (intChars value) = .ok (number value)) :
    readNumber hooks (intChars value ++ rest) = .ok (.number (number value), rest) := by
  simp [readNumber, scanNumber_intChars value ends, orFail, taken]

/-- A number starts with its sign or a digit. -/
theorem intChars_head (value : Int) :
    ∃ character digits, intChars value = character :: digits ∧
      ((character = '-' ∧ ∃ digit tail, digits = digit :: tail ∧ isDecimal digit = true) ∨
        isDecimal character = true) := by
  cases shape : Nat.toDigits 10 value.natAbs with
  | nil => exact absurd shape Nat.toDigits_ne_nil
  | cons digit digits =>
      have member : digit ∈ Nat.toDigits 10 value.natAbs := by simp [shape]
      have decimal := isDecimal_of_mem_toDigits member
      unfold intChars
      rw [shape]
      split_ifs
      · exact ⟨_, _, rfl, .inl ⟨rfl, digit, digits, rfl, decimal⟩⟩
      · exact ⟨_, _, rfl, .inr decimal⟩

theorem readScalar_intChars (value : Int) {rest : List Char} (ends : Ends rest)
    (taken : hooks.integer (intChars value) = .ok (number value)) :
    readScalar hooks (intChars value ++ rest) = .ok (.number (number value), rest) := by
  have reads := readNumber_intChars value ends taken
  obtain ⟨character, digits, shape, start⟩ := intChars_head value
  rw [shape, List.cons_append] at reads ⊢
  have notWord : ∀ first word, isDecimal first = false → first ≠ '-' →
      afterWord (first :: word) (character :: (digits ++ rest)) = none := by
    intro first word notDigit notMinus
    have differs : first ≠ character := by
      rintro rfl
      rcases start with ⟨minus, -⟩ | decimal
      · exact notMinus minus
      · exact absurd decimal (by simp [notDigit])
    simp [afterWord, List.isPrefixOf, differs]
  have notInfinity : afterWord ('-' :: infinity) (character :: (digits ++ rest)) = none := by
    rcases start with ⟨rfl, digit, tail, rfl, decimal⟩ | decimal
    · have differs : 'I' ≠ digit := by
        rintro rfl
        exact absurd decimal (by decide)
      simp [afterWord, infinity, List.isPrefixOf, differs]
    · have differs : '-' ≠ character := by
        rintro rfl
        exact absurd decimal (by decide)
      simp [afterWord, List.isPrefixOf, differs]
  unfold readScalar
  simp only [notWord _ _ (show isDecimal 'n' = false by decide) (by decide),
    notWord _ _ (show isDecimal 't' = false by decide) (by decide),
    notWord _ _ (show isDecimal 'f' = false by decide) (by decide),
    notWord _ _ (show isDecimal 'N' = false by decide) (by decide),
    notWord _ _ (show isDecimal 'I' = false by decide) (by decide), notANumber, infinity]
  simp only [infinity] at notInfinity
  rw [notInfinity]
  exact reads

theorem readValue_scalar {first : Char} {rest : List Char} {fuel : Nat} (quote : first ≠ '"')
    (bracket : first ≠ '[') (brace : first ≠ '{') :
    readValue hooks (fuel + 1) (first :: rest) = readScalar hooks (first :: rest) := by
  rw [readValue]
  · intro tail same
    exact quote (List.cons.inj same).1
  · intro tail same
    exact bracket (List.cons.inj same).1
  · intro tail same
    exact brace (List.cons.inj same).1

theorem readValue_number (value : Int) {rest : List Char} {fuel : Nat} (ends : Ends rest)
    (taken : hooks.integer (intChars value) = .ok (number value)) :
    readValue hooks (fuel + 1) (intChars value ++ rest) = .ok (.number (number value), rest) := by
  have reads := readScalar_intChars value ends taken
  obtain ⟨character, digits, shape, start⟩ := intChars_head value
  rw [shape, List.cons_append] at reads ⊢
  rw [readValue_scalar, reads]
  all_goals
    rintro rfl
    rcases start with ⟨minus, -⟩ | decimal
    · exact absurd minus (by decide)
    · exact absurd decimal (by decide)

theorem ends_delimiter {rest : List Char} {delimiter : Char}
    (isDelimiter : delimiter ∈ [',', ']', '}']) : Ends (delimiter :: rest) := by
  apply ends_cons
  simp only [List.mem_cons, List.not_mem_nil, or_false] at isDelimiter
  rcases isDelimiter with rfl | rfl | rfl <;> decide

theorem joinChars_cons (part : List Char) (next : List Char) (parts : List (List Char)) :
    joinChars (part :: next :: parts) = part ++ ',' :: joinChars (next :: parts) := by
  simp [joinChars]

theorem readValue_array {character : Char} {tail : List Char} {fuel : Nat}
    (solid : isBlank character = false) (notEnd : character ≠ ']') :
    readValue hooks (fuel + 1) ('[' :: character :: tail) = do
      let (items, rest) ← readItems hooks fuel (character :: tail)
      return (.array items, rest) := by
  have starts : skipBlank (character :: tail) = character :: tail := by simp [skipBlank, solid]
  rw [readValue, starts]
  split
  · rename_i same
    exact absurd (List.cons.inj same).1 notEnd
  · rfl

mutual

theorem readValue_chars (value : Json) (taken : value.Taken hooks number) (fuel : Nat)
    (enough : 2 * value.chars.length ≤ fuel) (rest : List Char) (ends : Ends rest) :
    readValue hooks fuel (value.chars ++ rest) = .ok (value.tree number, rest) := by
  obtain ⟨fuel, rfl⟩ : ∃ less, fuel = less + 1 := by
    obtain ⟨character, tail, shape, -⟩ := value.chars_head
    rw [shape, List.length_cons] at enough
    exact ⟨fuel - 1, by omega⟩
  match value with
  | .null => rfl
  | .bool true => rfl
  | .bool false => rfl
  | .num value => exact readValue_number value ends taken
  | .str value =>
      simp only [Json.chars, textChars, List.cons_append, List.append_assoc, List.nil_append,
        readValue, readText_textChars, ok_bind, Json.tree]
      rfl
  | .arr [] => rfl
  | .arr (item :: items) =>
      obtain ⟨character, tail, shape, solid, notEnd⟩ := item.chars_head
      have fits : 2 * (joinChars (Json.itemChars (item :: items))).length + 1 ≤ fuel := by
        simp only [Json.chars, List.length_cons, List.length_append, List.length_nil] at enough
        omega
      have reads := readItems_chars item items taken fuel fits rest
      simp only [Json.itemChars, joinChars, shape, List.cons_append, List.append_assoc] at reads
      simp only [Json.chars, Json.itemChars, joinChars, shape, List.cons_append,
        List.append_assoc, List.nil_append, readValue_array solid notEnd, reads, ok_bind, Json.tree]
      rfl
  | .obj [] =>
      have empty : hooks.members [] = .ok () := taken.2
      simp [Json.chars, Json.memberChars, joinChars, readValue, skipBlank, isBlank, empty,
        Json.tree, Json.treeMembers]
  | .obj ((key, value) :: members) =>
      have fits : 2 * (joinChars (Json.memberChars ((key, value) :: members))).length + 1 ≤
          fuel := by
        simp only [Json.chars, List.length_cons, List.length_append, List.length_nil] at enough
        omega
      have reads := readMembers_chars key value members taken.1 fuel fits rest
      have accepted := taken.2
      simp only [Json.memberChars, joinChars, textChars, List.cons_append, List.append_assoc,
        List.nil_append] at reads
      simp [Json.chars, Json.memberChars, joinChars, textChars, readValue, skipBlank, isBlank,
        reads, accepted, Json.tree]
termination_by fuel

theorem readItems_chars (item : Json) (items : List Json)
    (taken : Json.TakenItems hooks number (item :: items)) (fuel : Nat)
    (enough : 2 * (joinChars (Json.itemChars (item :: items))).length + 1 ≤ fuel)
    (rest : List Char) :
    readItems hooks fuel (joinChars (Json.itemChars (item :: items)) ++ ']' :: rest) =
      .ok (Json.treeItems number (item :: items), rest) := by
  obtain ⟨fuel, rfl⟩ : ∃ less, fuel = less + 1 := ⟨fuel - 1, by omega⟩
  match items with
  | [] =>
      have fits : 2 * item.chars.length ≤ fuel := by
        simp [Json.itemChars, joinChars] at enough
        omega
      have own := readValue_chars item taken.1 fuel fits (']' :: rest) (ends_delimiter (by simp))
      simp [Json.itemChars, joinChars, readItems, own, skipBlank, isBlank, Json.treeItems]
  | next :: items =>
      have shape : joinChars (Json.itemChars (item :: next :: items)) =
          item.chars ++ ',' :: joinChars (Json.itemChars (next :: items)) := joinChars_cons ..
      rw [shape, List.length_append, List.length_cons] at enough
      have own := readValue_chars item taken.1 fuel (by omega)
        (',' :: (joinChars (Json.itemChars (next :: items)) ++ ']' :: rest))
        (ends_delimiter (by simp))
      have others := readItems_chars next items taken.2 fuel (by
        obtain ⟨character, tail, shape, -⟩ := item.chars_head
        rw [shape, List.length_cons] at enough
        omega) rest
      have starts : skipBlank (joinChars (Json.itemChars (next :: items)) ++ ']' :: rest) =
          joinChars (Json.itemChars (next :: items)) ++ ']' :: rest := by
        rw [Json.itemChars, joinChars, List.append_assoc]
        exact next.skipBlank_chars _
      rw [shape, List.append_assoc, List.cons_append, readItems, own, ok_bind]
      simp only [skipBlank, List.dropWhile_cons, isBlank, Char.reduceEq, decide_false,
        Bool.or_self, Bool.false_eq_true, if_false]
      rw [show List.dropWhile isBlank _ = _ from starts, others]
      rfl
termination_by fuel

theorem readMembers_chars (key : String) (value : Json) (members : List (String × Json))
    (taken : Json.TakenMembers hooks number ((key, value) :: members)) (fuel : Nat)
    (enough : 2 * (joinChars (Json.memberChars ((key, value) :: members))).length + 1 ≤ fuel)
    (rest : List Char) :
    readMembers hooks fuel (joinChars (Json.memberChars ((key, value) :: members)) ++ '}' :: rest) =
      .ok (Json.treeMembers number ((key, value) :: members), rest) := by
  obtain ⟨fuel, rfl⟩ : ∃ less, fuel = less + 1 := ⟨fuel - 1, by omega⟩
  match members with
  | [] =>
      have fits : 2 * value.chars.length ≤ fuel := by
        simp [Json.memberChars, joinChars] at enough
        omega
      have own := readValue_chars value taken.1 fuel fits ('}' :: rest) (ends_delimiter (by simp))
      have starts := value.skipBlank_chars ('}' :: rest)
      simp only [skipBlank] at starts
      simp [Json.memberChars, joinChars, textChars, readMembers, readText_textChars, skipBlank,
        isBlank, starts, own, Json.treeMembers]
  | (nextKey, next) :: members =>
      have shape : joinChars (Json.memberChars ((key, value) :: (nextKey, next) :: members)) =
          textChars key ++ ':' :: (value.chars ++
            ',' :: joinChars (Json.memberChars ((nextKey, next) :: members))) := by
        simp [Json.memberChars, joinChars_cons]
      rw [shape] at enough
      simp only [List.length_append, List.length_cons] at enough
      have own := readValue_chars value taken.1 fuel (by omega)
        (',' :: (joinChars (Json.memberChars ((nextKey, next) :: members)) ++ '}' :: rest))
        (ends_delimiter (by simp))
      have others := readMembers_chars nextKey next members taken.2 fuel (by omega) rest
      have starts := value.skipBlank_chars
        (',' :: (joinChars (Json.memberChars ((nextKey, next) :: members)) ++ '}' :: rest))
      have continues : skipBlank
          (joinChars (Json.memberChars ((nextKey, next) :: members)) ++ '}' :: rest) =
          joinChars (Json.memberChars ((nextKey, next) :: members)) ++ '}' :: rest := rfl
      simp only [skipBlank] at starts continues
      rw [shape]
      simp [textChars, readMembers, readText_textChars, skipBlank, isBlank, starts, own, continues,
        others, Json.treeMembers]
termination_by fuel

end

theorem readJson_chars (value : Json) (taken : value.Taken hooks number) :
    readJson hooks value.chars = .ok (value.tree number) := by
  have starts := value.skipBlank_chars []
  have reads := readValue_chars value taken (2 * value.chars.length) le_rfl [] ends_nil
  rw [List.append_nil] at starts reads
  rw [readJson, starts, reads, ok_bind]
  rfl

end Reading

end ManyAlerts
