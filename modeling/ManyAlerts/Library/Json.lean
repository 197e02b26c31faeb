import Mathlib.Data.List.Sort
import Mathlib.Data.String.Basic
import Mathlib.Tactic
import ManyAlerts.Library.Dict

/-!
# JSON values and their compact text

A JSON value here is what a strict codec moves around: `null`, booleans,
integers, strings, arrays and objects whose members keep an order.  `encode`
writes the compact text of a value with the member order it has, and
`sortKeys` puts every object into the key order of the canonical form.

The two results later developments rest on are `Json.encode_injective`, that
the compact text determines the value, and `Json.textLength_obj`, that the
length of a canonical object does not depend on the order its members came in.
-/

namespace ManyAlerts

abbrev Bytes := List UInt8

inductive Json where
  | null
  | bool (value : Bool)
  | num (value : Int)
  | str (value : String)
  | arr (items : List Json)
  | obj (members : List (String × Json))

/-! ## Text of one string -/

/-- The characters of a text.  A text of ASCII characters is read byte by byte,
which evaluates faster than the decoding of UTF-8. -/
def characters (text : String) : List Char :=
  let bytes := text.toByteArray.data.toList
  if bytes.all (· < 0x80) then bytes.map fun byte => Char.ofNat byte.toNat else text.toList

theorem map_utf8EncodeChar_of_small {character : Char}
    (small : (String.utf8EncodeChar character).all (· < 0x80) = true) :
    (String.utf8EncodeChar character).map (fun byte => Char.ofNat byte.toNat) = [character] := by
  have code : character.val.toNat = character.toNat := rfl
  unfold String.utf8EncodeChar at *
  dsimp only at *
  split_ifs at small with single
  · rw [if_pos single, List.map_singleton, UInt8.toNat_ofNat', Nat.mod_eq_of_lt (by omega), code,
      Char.ofNat_toNat]
  all_goals
    -- a first byte of several is at least 0xc0
    simp [UInt8.lt_iff_toNat_lt, UInt8.toNat_ofNat'] at small
    omega

@[simp] theorem characters_eq_toList (text : String) : characters text = text.toList := by
  obtain ⟨all, rfl⟩ : ∃ all, text = String.ofList all := ⟨text.toList, by simp⟩
  simp only [characters, String.toByteArray_ofList, List.utf8Encode, List.data_toByteArray,
    String.toList_ofList]
  split
  · rename_i small
    induction all with
    | nil => rfl
    | cons character all induction =>
        simp only [List.flatMap_cons, List.all_append, Bool.and_eq_true] at small
        rw [List.flatMap_cons, List.map_append, induction small.2,
          map_utf8EncodeChar_of_small small.1]
        rfl
  · rfl

/-- A byte of an ASCII text. -/
def ascii (text : String) : Bytes :=
  (characters text).map fun character => UInt8.ofNat character.toNat

def hexDigit (digit : Nat) : UInt8 :=
  if digit < 10 then UInt8.ofNat (48 + digit) else UInt8.ofNat (87 + digit)

/-- The escape of a character that may not stand in a string literally. -/
def escapeChar (character : Char) : Option Bytes :=
  if character = '"' then some [0x5c, 0x22]
  else if character = '\\' then some [0x5c, 0x5c]
  else if character = '\n' then some [0x5c, 0x6e]
  else if character = '\r' then some [0x5c, 0x72]
  else if character = '\t' then some [0x5c, 0x74]
  else if character.toNat = 12 then some [0x5c, 0x66]
  else if character.toNat = 8 then some [0x5c, 0x62]
  else if character.toNat < 32 then
    some [0x5c, 0x75, 0x30, 0x30, hexDigit (character.toNat / 16),
      hexDigit (character.toNat % 16)]
  else none

/-- One character of a string, escaped where it must be and as UTF-8 otherwise. -/
def encodeChar (character : Char) : Bytes :=
  (escapeChar character).getD (String.utf8EncodeChar character)

def encodeChars (characters : List Char) : Bytes :=
  characters.flatMap encodeChar

def encodeString (text : String) : Bytes :=
  0x22 :: (encodeChars (characters text) ++ [0x22])

/-- The character an escape stands for, read from the bytes after the backslash. -/
def unescape : Bytes → Option Nat
  | 0x22 :: _ => some 34
  | 0x5c :: _ => some 92
  | 0x6e :: _ => some 10
  | 0x72 :: _ => some 13
  | 0x74 :: _ => some 9
  | 0x66 :: _ => some 12
  | 0x62 :: _ => some 8
  | 0x75 :: 0x30 :: 0x30 :: high :: low :: _ =>
      some (16 * (high.toNat - 48) +
        (if low.toNat < 58 then low.toNat - 48 else low.toNat - 87))
  | _ => none

theorem unescape_escapeChar
    {character : Char} {escape : Bytes} (rest : Bytes)
    (escaped : escapeChar character = some escape) :
    ∃ tail, escape = 0x5c :: tail ∧
      unescape (tail ++ rest) = some character.toNat := by
  unfold escapeChar at escaped
  split_ifs at escaped with quote backslash newline return_ tab feed back control
  all_goals first
    | (subst_vars; cases escaped; exact ⟨_, rfl, rfl⟩)
    | skip
  · cases escaped
    exact ⟨_, rfl, by rw [feed]; rfl⟩
  · cases escaped
    exact ⟨_, rfl, by rw [back]; rfl⟩
  · cases escaped
    refine ⟨_, rfl, ?_⟩
    generalize character.toNat = code at control
    interval_cases code <;> rfl

theorem utf8EncodeChar_append_inj
    {left right : Char} {leftRest rightRest : Bytes}
    (same : String.utf8EncodeChar left ++ leftRest =
      String.utf8EncodeChar right ++ rightRest) :
    left = right := by
  have decode (character : Char) (rest : Bytes) :
      ByteArray.utf8DecodeChar?
        (String.utf8EncodeChar character ++ rest).toByteArray 0 = some character := by
    rw [List.toByteArray_append]
    exact ByteArray.utf8DecodeChar?_utf8EncodeChar_append
  have leftDecoded := decode left leftRest
  rw [same, decode right rightRest] at leftDecoded
  exact (Option.some.inj leftDecoded).symm

theorem encodeChar_append_inj
    {left right : Char} {leftRest rightRest : Bytes}
    (same : encodeChar left ++ leftRest = encodeChar right ++ rightRest) :
    left = right := by
  -- A literal character never starts with a backslash: the only one that
  -- would is the backslash itself, which is escaped.
  have literal (character other : Char) (rest otherRest escape : Bytes)
      (plain : escapeChar character = none) (escaped : escapeChar other = some escape) :
      String.utf8EncodeChar character ++ rest ≠ escape ++ otherRest := by
    intro equal
    obtain ⟨tail, rfl, _⟩ := unescape_escapeChar otherRest escaped
    have backslash : String.utf8EncodeChar character ++ rest =
        String.utf8EncodeChar '\\' ++ (tail ++ otherRest) := by
      rw [equal]
      rfl
    rw [utf8EncodeChar_append_inj backslash] at plain
    exact absurd plain (by decide)
  unfold encodeChar at same
  cases leftEscape : escapeChar left with
  | none =>
      cases rightEscape : escapeChar right with
      | none =>
          rw [leftEscape, rightEscape] at same
          exact utf8EncodeChar_append_inj same
      | some escape =>
          rw [leftEscape, rightEscape] at same
          exact absurd same (literal left right _ _ _ leftEscape rightEscape)
  | some escape =>
      cases rightEscape : escapeChar right with
      | none =>
          rw [leftEscape, rightEscape] at same
          exact absurd same.symm (literal right left _ _ _ rightEscape leftEscape)
      | some otherEscape =>
          rw [leftEscape, rightEscape] at same
          obtain ⟨leftTail, rfl, leftRead⟩ := unescape_escapeChar leftRest leftEscape
          obtain ⟨rightTail, rfl, rightRead⟩ := unescape_escapeChar rightRest rightEscape
          have tails : leftTail ++ leftRest = rightTail ++ rightRest := by
            simpa using same
          rw [tails, rightRead] at leftRead
          exact (Char.toNat_inj.mp (Option.some.inj leftRead)).symm

theorem encodeChar_append_ne_quote
    (character : Char) (leftRest rightRest : Bytes) :
    encodeChar character ++ leftRest ≠ 0x22 :: rightRest := by
  intro same
  unfold encodeChar at same
  cases escaped : escapeChar character with
  | none =>
      rw [escaped] at same
      have quote : String.utf8EncodeChar character ++ leftRest =
          String.utf8EncodeChar '"' ++ rightRest := same
      rw [utf8EncodeChar_append_inj quote] at escaped
      exact absurd escaped (by decide)
  | some escape =>
      rw [escaped] at same
      obtain ⟨tail, rfl, _⟩ := unescape_escapeChar leftRest escaped
      simp at same

theorem encodeChars_append_inj
    {left right : List Char} {leftRest rightRest : Bytes}
    (same : encodeChars left ++ 0x22 :: leftRest =
      encodeChars right ++ 0x22 :: rightRest) :
    left = right ∧ leftRest = rightRest := by
  induction left generalizing right with
  | nil =>
      cases right with
      | nil => simpa [encodeChars] using same
      | cons character characters =>
          simp only [encodeChars, List.flatMap_nil, List.nil_append, List.flatMap_cons,
            List.append_assoc] at same
          exact absurd same.symm (encodeChar_append_ne_quote _ _ _)
  | cons head tail induction =>
      cases right with
      | nil =>
          simp only [encodeChars, List.flatMap_nil, List.nil_append, List.flatMap_cons,
            List.append_assoc] at same
          exact absurd same (encodeChar_append_ne_quote _ _ _)
      | cons character characters =>
          simp only [encodeChars, List.flatMap_cons, List.append_assoc] at same
          obtain rfl := encodeChar_append_inj same
          obtain ⟨rfl, rests⟩ := induction (List.append_cancel_left same)
          exact ⟨rfl, rests⟩

theorem encodeString_append_inj
    {left right : String} {leftRest rightRest : Bytes}
    (same : encodeString left ++ leftRest = encodeString right ++ rightRest) :
    left = right ∧ leftRest = rightRest := by
  have inner : encodeChars left.toList ++ 0x22 :: leftRest =
      encodeChars right.toList ++ 0x22 :: rightRest := by
    simpa [encodeString] using same
  obtain ⟨characters, rests⟩ := encodeChars_append_inj inner
  exact ⟨String.toList_inj.mp characters, rests⟩

/-- UTF-8 bytes of a text. -/
def utf8 (text : String) : Bytes :=
  (characters text).flatMap String.utf8EncodeChar

/-- A printable ASCII character that needs no escape. -/
def isPlainChar (character : Char) : Bool :=
  0x20 ≤ character.toNat && character.toNat ≤ 0x7e && character ≠ '"' && character ≠ '\\'

def Plain (text : String) : Prop :=
  ∀ character ∈ text.toList, isPlainChar character = true

instance (text : String) : Decidable (Plain text) :=
  List.decidableBAll (fun character => isPlainChar character = true) text.toList

theorem length_utf8EncodeChar_of_plain {character : Char}
    (plain : isPlainChar character = true) :
    (String.utf8EncodeChar character).length = 1 := by
  have small : character.toNat ≤ 0x7e := by
    simp only [isPlainChar, Bool.and_eq_true, decide_eq_true_eq] at plain
    exact plain.1.1.2
  have single : character.val ≤ 0x7f := by
    rw [UInt32.le_iff_toNat_le]
    exact le_trans small (by decide)
  rw [String.length_utf8EncodeChar, Char.utf8Size]
  exact if_pos single

theorem escapeChar_of_plain {character : Char} (plain : isPlainChar character = true) :
    escapeChar character = none := by
  simp only [isPlainChar, Bool.and_eq_true, decide_eq_true_eq] at plain
  obtain ⟨⟨⟨low, _⟩, quote⟩, backslash⟩ := plain
  have control (other : Char) (small : other.toNat < 32) : character ≠ other := by
    rintro rfl
    omega
  simp only [escapeChar, if_neg quote, if_neg backslash,
    if_neg (control '\n' (by decide)), if_neg (control '\r' (by decide)),
    if_neg (control '\t' (by decide))]
  rw [if_neg (by omega), if_neg (by omega), if_neg (by omega)]

theorem length_encodeChar_of_plain {character : Char}
    (plain : isPlainChar character = true) : (encodeChar character).length = 1 := by
  rw [encodeChar, escapeChar_of_plain plain]
  exact length_utf8EncodeChar_of_plain plain

theorem length_utf8_of_plain {text : String} (plain : Plain text) :
    (utf8 text).length = text.length := by
  rw [utf8, characters_eq_toList, List.length_flatMap, ← String.length_toList]
  rw [List.map_congr_left fun character member =>
    length_utf8EncodeChar_of_plain (plain character member)]
  simp

theorem length_encodeString_of_plain {text : String} (plain : Plain text) :
    (encodeString text).length = text.length + 2 := by
  rw [encodeString, characters_eq_toList, encodeChars, List.length_cons, List.length_append,
    List.length_flatMap, ← String.length_toList]
  rw [List.map_congr_left fun character member =>
    length_encodeChar_of_plain (plain character member)]
  simp

/-! ## Text of one integer -/

def encodeNat (value : Nat) : Bytes :=
  (Nat.toDigits 10 value).map fun digit => UInt8.ofNat digit.toNat

def encodeInt (value : Int) : Bytes :=
  if value < 0 then 0x2d :: encodeNat value.natAbs else encodeNat value.natAbs

def isDigit (byte : UInt8) : Bool :=
  48 ≤ byte.toNat && byte.toNat ≤ 57

/-- What follows a number in a text does not continue it. -/
def Stops (rest : Bytes) : Prop :=
  ∀ byte ∈ rest.head?, isDigit byte = false

theorem stops_nil : Stops [] := by
  intro byte member
  cases member

theorem stops_cons {byte : UInt8} (rest : Bytes) (notDigit : isDigit byte = false) :
    Stops (byte :: rest) := by
  intro other member
  obtain rfl : byte = other := by simpa using member
  exact notDigit

theorem digit_ofNat {digit : Char} (isDecimal : digit.isDigit = true) :
    isDigit (UInt8.ofNat digit.toNat) = true ∧
      Char.ofNat (UInt8.ofNat digit.toNat).toNat = digit := by
  have bounds : 48 ≤ digit.toNat ∧ digit.toNat ≤ 57 := by
    simpa [Char.isDigit, UInt32.le_iff_toNat_le] using isDecimal
  have byte : (UInt8.ofNat digit.toNat).toNat = digit.toNat := by
    simp only [UInt8.toNat_ofNat']
    omega
  constructor
  · simp [isDigit, byte, bounds]
  · rw [byte]
    exact Char.ofNat_toNat digit

theorem isDigit_of_mem_encodeNat {value : Nat} {byte : UInt8}
    (member : byte ∈ encodeNat value) : isDigit byte = true := by
  obtain ⟨digit, digitMember, rfl⟩ := List.mem_map.mp member
  exact (digit_ofNat (Nat.isDigit_of_mem_toDigits (by decide) (by decide) digitMember)).1

theorem encodeNat_injective {left right : Nat}
    (same : encodeNat left = encodeNat right) : left = right := by
  have recover (value : Nat) :
      (encodeNat value).map (fun byte => Char.ofNat byte.toNat) = Nat.toDigits 10 value := by
    rw [encodeNat, List.map_map]
    conv_rhs => rw [← List.map_id (Nat.toDigits 10 value)]
    apply List.map_congr_left
    intro digit member
    exact (digit_ofNat (Nat.isDigit_of_mem_toDigits (by decide) (by decide) member)).2
  have digits : Nat.toDigits 10 left = Nat.toDigits 10 right := by
    rw [← recover left, same, recover right]
  calc
    left = Nat.ofDigitChars 10 (Nat.toDigits 10 left) 0 := Nat.ofDigitChars_ten_toDigits.symm
    _ = Nat.ofDigitChars 10 (Nat.toDigits 10 right) 0 := by rw [digits]
    _ = right := Nat.ofDigitChars_ten_toDigits

theorem takeWhile_isDigit_encodeNat (value : Nat) {rest : Bytes} (stops : Stops rest) :
    (encodeNat value ++ rest).takeWhile isDigit = encodeNat value := by
  rw [List.takeWhile_append_of_pos fun byte member => isDigit_of_mem_encodeNat member]
  cases rest with
  | nil => simp
  | cons byte rest =>
      have notDigit : isDigit byte = false := stops byte (by simp)
      simp [notDigit]

theorem encodeNat_append_inj
    {left right : Nat} {leftRest rightRest : Bytes}
    (leftStops : Stops leftRest) (rightStops : Stops rightRest)
    (same : encodeNat left ++ leftRest = encodeNat right ++ rightRest) :
    left = right ∧ leftRest = rightRest := by
  have digits : encodeNat left = encodeNat right := by
    rw [← takeWhile_isDigit_encodeNat left leftStops, same,
      takeWhile_isDigit_encodeNat right rightStops]
  refine ⟨encodeNat_injective digits, ?_⟩
  rw [digits] at same
  exact List.append_cancel_left same

theorem encodeNat_head (value : Nat) :
    ∃ byte rest, encodeNat value = byte :: rest ∧ isDigit byte = true := by
  cases digits : encodeNat value with
  | nil =>
      exact absurd (List.map_eq_nil_iff.mp digits) Nat.toDigits_ne_nil
  | cons byte rest =>
      exact ⟨byte, rest, rfl, isDigit_of_mem_encodeNat (by rw [digits]; simp)⟩

theorem encodeInt_append_inj
    {left right : Int} {leftRest rightRest : Bytes}
    (leftStops : Stops leftRest) (rightStops : Stops rightRest)
    (same : encodeInt left ++ leftRest = encodeInt right ++ rightRest) :
    left = right ∧ leftRest = rightRest := by
  have minus (value : Nat) (rest other : Bytes) :
      encodeNat value ++ rest ≠ 0x2d :: other := by
    obtain ⟨byte, tail, shape, digit⟩ := encodeNat_head value
    intro equal
    rw [shape] at equal
    have first : byte = 0x2d := by simpa using (List.cons.inj equal).1
    subst first
    exact absurd digit (by decide)
  unfold encodeInt at same
  split_ifs at same with leftNegative rightNegative rightNegative
  · have tails : encodeNat left.natAbs ++ leftRest = encodeNat right.natAbs ++ rightRest := by
      simpa using same
    obtain ⟨magnitudes, rests⟩ := encodeNat_append_inj leftStops rightStops tails
    exact ⟨by omega, rests⟩
  · exact absurd same.symm (minus _ _ _)
  · exact absurd same (minus _ _ _)
  · obtain ⟨magnitudes, rests⟩ := encodeNat_append_inj leftStops rightStops same
    exact ⟨by omega, rests⟩

/-! ## Text of a value -/

/-- Parts with commas between them. -/
def joinComma : List Bytes → Bytes
  | [] => []
  | part :: parts => part ++ parts.flatMap fun part => 0x2c :: part

def encodeMember (key : String) (value : Bytes) : Bytes :=
  encodeString key ++ 0x3a :: value

namespace Json

mutual

/-- Compact text of a value, members in the order they have. -/
def encode : Json → Bytes
  | .null => ascii "null"
  | .bool true => ascii "true"
  | .bool false => ascii "false"
  | .num value => encodeInt value
  | .str value => encodeString value
  | .arr items => 0x5b :: (joinComma (encodeItems items) ++ [0x5d])
  | .obj members => 0x7b :: (joinComma (encodeMembers members) ++ [0x7d])

def encodeItems : List Json → List Bytes
  | [] => []
  | item :: items => encode item :: encodeItems items

def encodeMembers : List (String × Json) → List Bytes
  | [] => []
  | (key, value) :: members => encodeMember key (encode value) :: encodeMembers members

end

theorem encodeItems_eq_map (items : List Json) :
    encodeItems items = items.map encode := by
  induction items with
  | nil => rfl
  | cons item items induction => rw [encodeItems, induction, List.map_cons]

theorem encodeMembers_eq_map (members : List (String × Json)) :
    encodeMembers members =
      members.map fun member => encodeMember member.1 member.2.encode := by
  induction members with
  | nil => rfl
  | cons member members induction =>
      obtain ⟨key, value⟩ := member
      rw [encodeMembers, induction, List.map_cons]

/-- Which constructor a text starts like, read off its first byte. -/
def leadOf (byte : UInt8) : Nat :=
  if byte = 0x6e then 0 else if byte = 0x74 then 1 else if byte = 0x66 then 2
  else if byte = 0x22 then 3 else if byte = 0x5b then 4 else if byte = 0x7b then 5
  else if byte = 0x2d || isDigit byte then 6 else 7

def lead : Json → Nat
  | .null => 0
  | .bool true => 1
  | .bool false => 2
  | .str _ => 3
  | .arr _ => 4
  | .obj _ => 5
  | .num _ => 6

theorem leadOf_of_isDigit {byte : UInt8} (digit : isDigit byte = true) : leadOf byte = 6 := by
  unfold leadOf
  split_ifs with n t f quote bracket brace
  all_goals first
    | (subst_vars; exact absurd digit (by decide))
    | rfl
    | simp_all

theorem encode_head (value : Json) :
    ∃ byte rest, value.encode = byte :: rest ∧ leadOf byte = value.lead := by
  cases value with
  | null => exact ⟨_, _, rfl, rfl⟩
  | bool value => cases value <;> exact ⟨_, _, rfl, rfl⟩
  | str value => exact ⟨_, _, by rw [encode, encodeString], rfl⟩
  | arr items => exact ⟨_, _, by rw [encode], rfl⟩
  | obj members => exact ⟨_, _, by rw [encode], rfl⟩
  | num value =>
      rw [encode, encodeInt]
      split_ifs
      · exact ⟨_, _, rfl, rfl⟩
      · obtain ⟨byte, rest, shape, digit⟩ := encodeNat_head value.natAbs
        exact ⟨byte, rest, shape, leadOf_of_isDigit digit⟩

theorem lead_eq_of_encode_append_eq
    {left right : Json} {leftRest rightRest : Bytes}
    (same : left.encode ++ leftRest = right.encode ++ rightRest) :
    left.lead = right.lead := by
  obtain ⟨leftByte, leftTail, leftShape, leftLead⟩ := encode_head left
  obtain ⟨rightByte, rightTail, rightShape, rightLead⟩ := encode_head right
  rw [leftShape, rightShape] at same
  have bytes : leftByte = rightByte := (List.cons.inj same).1
  rw [← leftLead, ← rightLead, bytes]

theorem encode_append_ne
    (value : Json) (rest other : Bytes) {byte : UInt8} (outside : leadOf byte = 7) :
    value.encode ++ rest ≠ byte :: other := by
  intro same
  obtain ⟨first, tail, shape, first_lead⟩ := encode_head value
  rw [shape] at same
  obtain rfl : first = byte := (List.cons.inj same).1
  rw [outside] at first_lead
  cases value with
  | bool value => cases value <;> cases first_lead
  | _ => cases first_lead

theorem stops_tail (parts : List Bytes) (close : UInt8) (rest : Bytes)
    (notDigit : isDigit close = false) :
    Stops ((parts.flatMap fun part => 0x2c :: part) ++ close :: rest) := by
  cases parts with
  | nil => exact stops_cons rest notDigit
  | cons part parts => exact stops_cons _ (by decide)

mutual

/-- The compact text is a prefix code, up to what may follow a number. -/
theorem encode_append_inj (left : Json) {right : Json} {leftRest rightRest : Bytes}
    (leftStops : Stops leftRest) (rightStops : Stops rightRest)
    (same : left.encode ++ leftRest = right.encode ++ rightRest) :
    left = right ∧ leftRest = rightRest := by
  have leads := lead_eq_of_encode_append_eq same
  match left, right, leads with
  | .null, .null, _ => exact ⟨rfl, List.append_cancel_left same⟩
  | .bool true, .bool true, _ => exact ⟨rfl, List.append_cancel_left same⟩
  | .bool false, .bool false, _ => exact ⟨rfl, List.append_cancel_left same⟩
  | .num left, .num right, _ =>
      simp only [encode] at same
      obtain ⟨values, rests⟩ := encodeInt_append_inj leftStops rightStops same
      exact ⟨by rw [values], rests⟩
  | .str left, .str right, _ =>
      simp only [encode] at same
      obtain ⟨values, rests⟩ := encodeString_append_inj same
      exact ⟨by rw [values], rests⟩
  | .arr left, .arr right, _ =>
      simp only [encode, List.cons_append, List.append_assoc, List.nil_append,
        List.cons.injEq, true_and] at same
      match left, right with
      | [], [] => exact ⟨rfl, by simpa [encodeItems, joinComma] using same⟩
      | [], item :: items =>
          simp only [encodeItems, joinComma, List.nil_append, List.append_assoc] at same
          exact absurd same.symm (encode_append_ne _ _ _ (by decide))
      | item :: items, [] =>
          simp only [encodeItems, joinComma, List.nil_append, List.append_assoc] at same
          exact absurd same (encode_append_ne _ _ _ (by decide))
      | item :: items, other :: others =>
          simp only [encodeItems, joinComma, List.append_assoc] at same
          obtain ⟨rfl, tails⟩ := encode_append_inj item
            (stops_tail _ _ _ (by decide)) (stops_tail _ _ _ (by decide)) same
          obtain ⟨rfl, rests⟩ := encodeItems_append_inj items tails
          exact ⟨rfl, rests⟩
  | .obj left, .obj right, _ =>
      simp only [encode, List.cons_append, List.append_assoc, List.nil_append,
        List.cons.injEq, true_and] at same
      match left, right with
      | [], [] => exact ⟨rfl, by simpa [encodeMembers, joinComma] using same⟩
      | [], (key, value) :: members =>
          simp [encodeMembers, encodeMember, encodeString, joinComma] at same
      | (key, value) :: members, [] =>
          simp [encodeMembers, encodeMember, encodeString, joinComma] at same
      | (key, value) :: members, (otherKey, otherValue) :: others =>
          simp only [encodeMembers, encodeMember, joinComma, List.append_assoc,
            List.cons_append] at same
          obtain ⟨rfl, values⟩ := encodeString_append_inj same
          simp only [List.cons.injEq, true_and] at values
          obtain ⟨rfl, tails⟩ := encode_append_inj value
            (stops_tail _ _ _ (by decide)) (stops_tail _ _ _ (by decide)) values
          obtain ⟨rfl, rests⟩ := encodeMembers_append_inj members tails
          exact ⟨rfl, rests⟩

theorem encodeItems_append_inj (left : List Json) {right : List Json}
    {leftRest rightRest : Bytes}
    (same : ((encodeItems left).flatMap fun part => 0x2c :: part) ++ 0x5d :: leftRest =
      ((encodeItems right).flatMap fun part => 0x2c :: part) ++ 0x5d :: rightRest) :
    left = right ∧ leftRest = rightRest := by
  match left, right with
  | [], [] => exact ⟨rfl, by simpa [encodeItems] using same⟩
  | [], item :: items => simp [encodeItems] at same
  | item :: items, [] => simp [encodeItems] at same
  | item :: items, other :: others =>
      simp only [encodeItems, List.flatMap_cons, List.cons_append, List.append_assoc,
        List.cons.injEq, true_and] at same
      obtain ⟨rfl, tails⟩ := encode_append_inj item
        (stops_tail _ _ _ (by decide)) (stops_tail _ _ _ (by decide)) same
      obtain ⟨rfl, rests⟩ := encodeItems_append_inj items tails
      exact ⟨rfl, rests⟩

theorem encodeMembers_append_inj (left : List (String × Json)) {right : List (String × Json)}
    {leftRest rightRest : Bytes}
    (same : ((encodeMembers left).flatMap fun part => 0x2c :: part) ++ 0x7d :: leftRest =
      ((encodeMembers right).flatMap fun part => 0x2c :: part) ++ 0x7d :: rightRest) :
    left = right ∧ leftRest = rightRest := by
  match left, right with
  | [], [] => exact ⟨rfl, by simpa [encodeMembers] using same⟩
  | [], (key, value) :: members => simp [encodeMembers] at same
  | (key, value) :: members, [] => simp [encodeMembers] at same
  | (key, value) :: members, (otherKey, otherValue) :: others =>
      simp only [encodeMembers, encodeMember, List.flatMap_cons, List.cons_append,
        List.append_assoc, List.cons.injEq, true_and] at same
      obtain ⟨rfl, values⟩ := encodeString_append_inj same
      simp only [List.cons.injEq, true_and] at values
      obtain ⟨rfl, tails⟩ := encode_append_inj value
        (stops_tail _ _ _ (by decide)) (stops_tail _ _ _ (by decide)) values
      obtain ⟨rfl, rests⟩ := encodeMembers_append_inj members tails
      exact ⟨rfl, rests⟩

end

/-- The compact text determines the value. -/
theorem encode_injective {left right : Json} (same : left.encode = right.encode) :
    left = right := by
  have extended : left.encode ++ [] = right.encode ++ [] := by rw [same]
  exact (encode_append_inj left stops_nil stops_nil extended).1

instance : DecidableEq Json := fun left right =>
  decidable_of_iff (left.encode = right.encode) ⟨encode_injective, fun same => same ▸ rfl⟩

end Json

/-! ## Key order -/

/-- UTF-16 code units of a character; comparing them compares the big-endian bytes. -/
def utf16Units (character : Char) : List Nat :=
  if character.toNat < 0x10000 then [character.toNat]
  else
    [0xd800 + (character.toNat - 0x10000) / 0x400, 0xdc00 + (character.toNat - 0x10000) % 0x400]

def utf16 (text : String) : List Nat :=
  (characters text).flatMap utf16Units

theorem utf16Units_append_inj
    {left right : Char} {leftRest rightRest : List Nat}
    (same : utf16Units left ++ leftRest = utf16Units right ++ rightRest) : left = right := by
  -- A character is no surrogate, so one unit never starts like a pair.
  have range (character : Char) :
      character.toNat < 0xd800 ∨ (0xdfff < character.toNat ∧ character.toNat < 0x110000) :=
    character.valid
  have leftRange := range left
  have rightRange := range right
  apply Char.toNat_inj.mp
  unfold utf16Units at same
  split_ifs at same with leftSmall rightSmall rightSmall
  · exact (List.cons.inj same).1
  · have first := (List.cons.inj same).1
    omega
  · have first := (List.cons.inj same).1
    omega
  · have first := (List.cons.inj same).1
    have second := (List.cons.inj (List.cons.inj same).2).1
    omega

theorem utf16_injective {left right : String} (same : utf16 left = utf16 right) :
    left = right := by
  have units (left right : List Char)
      (same : left.flatMap utf16Units = right.flatMap utf16Units) : left = right := by
    have nonempty (character : Char) (rest : List Nat) :
        utf16Units character ++ rest ≠ [] := by
      unfold utf16Units
      split_ifs <;> simp
    induction left generalizing right with
    | nil =>
        cases right with
        | nil => rfl
        | cons character characters => exact absurd same.symm (nonempty character _)
    | cons head tail induction =>
        cases right with
        | nil => exact absurd same (nonempty head _)
        | cons character characters =>
            simp only [List.flatMap_cons] at same
            obtain rfl := utf16Units_append_inj same
            rw [induction characters (List.append_cancel_left same)]
  rw [utf16, utf16, characters_eq_toList, characters_eq_toList] at same
  exact String.toList_inj.mp (units _ _ same)

def ByKey {α : Type} (left right : String × α) : Prop :=
  utf16 left.1 ≤ utf16 right.1

instance {α : Type} : DecidableRel (@ByKey α) := fun left right =>
  inferInstanceAs (Decidable (utf16 left.1 ≤ utf16 right.1))

def sortMembers {α : Type} (members : List (String × α)) : List (String × α) :=
  members.insertionSort ByKey

theorem sortMembers_perm {α : Type} (members : List (String × α)) :
    (sortMembers members).Perm members :=
  List.perm_insertionSort _ members

theorem sortMembers_map {α β : Type} (function : α → β) (members : List (String × α)) :
    sortMembers (members.map fun member => (member.1, function member.2)) =
      (sortMembers members).map fun member => (member.1, function member.2) := by
  have mapped := List.map_insertionSort ByKey ByKey
    (fun member : String × α => (member.1, function member.2)) members
    (fun _ _ _ _ => Iff.rfl)
  exact mapped.symm

instance {α : Type} : Std.Total (@ByKey α) :=
  ⟨fun left right => le_total (utf16 left.1) (utf16 right.1)⟩

instance {α : Type} : IsTrans (String × α) ByKey :=
  ⟨fun _ _ _ first second => le_trans first second⟩

theorem sortMembers_sortMembers {α : Type} (members : List (String × α)) :
    sortMembers (sortMembers members) = sortMembers members := by
  apply List.Pairwise.insertionSort_eq
  apply List.pairwise_insertionSort

/-- Sorting forgets the order the members came in. -/
theorem sortMembers_eq_of_perm {α : Type} {left right : List (String × α)}
    (nodup : (left.map Prod.fst).Nodup) (permutation : left.Perm right) :
    sortMembers left = sortMembers right := by
  have sorted : (sortMembers left).Perm (sortMembers right) :=
    (sortMembers_perm left).trans (permutation.trans (sortMembers_perm right).symm)
  refine List.Perm.eq_of_pairwise ?_ (List.pairwise_insertionSort ByKey left)
    (List.pairwise_insertionSort ByKey right) sorted
  intro first second firstMember secondMember low high
  have key : first.1 = second.1 := utf16_injective (le_antisymm low high)
  have firstIn : first ∈ left := (sortMembers_perm left).mem_iff.mp firstMember
  have secondIn : second ∈ left :=
    (sortMembers_perm left).mem_iff.mp (sorted.mem_iff.mpr secondMember)
  exact List.inj_on_of_nodup_map nodup firstIn secondIn key

/-- Sorting moves members by their keys alone, so lists with the same keys that
sort to the same list are equal. -/
theorem sortMembers_injective {α : Type} {left right : List (String × α)}
    (keys : left.map Prod.fst = right.map Prod.fst)
    (same : sortMembers left = sortMembers right) : left = right := by
  -- A list that carries both values under each key.
  have paired : ∃ both : List (String × α × α),
      both.map (fun entry => (entry.1, entry.2.1)) = left ∧
        both.map (fun entry => (entry.1, entry.2.2)) = right := by
    clear same
    induction left generalizing right with
    | nil => exact ⟨[], rfl, (List.map_eq_nil_iff.mp keys.symm).symm⟩
    | cons one left induction =>
        cases right with
        | nil => simp at keys
        | cons other right =>
            simp only [List.map_cons, List.cons.injEq] at keys
            obtain ⟨both, first, second⟩ := induction keys.2
            refine ⟨(one.1, one.2, other.2) :: both, by simp [first], ?_⟩
            simp [second, keys.1]
  obtain ⟨both, rfl, rfl⟩ := paired
  rw [sortMembers_map, sortMembers_map, List.map_inj_left] at same
  exact List.map_congr_left fun entry found =>
    same entry ((sortMembers_perm both).mem_iff.mpr found)

namespace Json

mutual

/-- Every object of a value in key order. -/
def sortKeys : Json → Json
  | .null => .null
  | .bool value => .bool value
  | .num value => .num value
  | .str value => .str value
  | .arr items => .arr (sortKeysItems items)
  | .obj members => .obj (sortMembers (sortKeysMembers members))

def sortKeysItems : List Json → List Json
  | [] => []
  | item :: items => sortKeys item :: sortKeysItems items

def sortKeysMembers : List (String × Json) → List (String × Json)
  | [] => []
  | (key, value) :: members => (key, sortKeys value) :: sortKeysMembers members

end

@[simp] theorem sortKeysItems_eq_map (items : List Json) :
    sortKeysItems items = items.map sortKeys := by
  induction items with
  | nil => rfl
  | cons item items induction => rw [sortKeysItems, induction, List.map_cons]

@[simp] theorem sortKeysMembers_eq_map (members : List (String × Json)) :
    sortKeysMembers members = members.map fun member => (member.1, member.2.sortKeys) := by
  induction members with
  | nil => rfl
  | cons member members induction =>
      obtain ⟨key, value⟩ := member
      rw [sortKeysMembers, induction, List.map_cons]

@[simp] theorem sortKeys_str (value : String) : (Json.str value).sortKeys = .str value := rfl

@[simp] theorem sortKeys_num (value : Int) : (Json.num value).sortKeys = .num value := rfl

@[simp] theorem sortKeys_arr (items : List Json) :
    (Json.arr items).sortKeys = .arr (items.map sortKeys) := by
  rw [sortKeys, sortKeysItems_eq_map]

mutual

theorem sortKeys_sortKeys (value : Json) : value.sortKeys.sortKeys = value.sortKeys := by
  match value with
  | .null | .bool _ | .num _ | .str _ => rfl
  | .arr items => rw [sortKeys, sortKeys, sortKeysItems_sortKeysItems items]
  | .obj members =>
      rw [sortKeys, sortKeys, sortKeysMembers_eq_map (sortMembers _), ← sortMembers_map,
        ← sortKeysMembers_eq_map, sortKeysMembers_sortKeysMembers members, sortMembers_sortMembers]

theorem sortKeysItems_sortKeysItems (items : List Json) :
    sortKeysItems (sortKeysItems items) = sortKeysItems items := by
  match items with
  | [] => rfl
  | item :: items =>
      rw [sortKeysItems, sortKeysItems, sortKeys_sortKeys item, sortKeysItems_sortKeysItems items]

theorem sortKeysMembers_sortKeysMembers (members : List (String × Json)) :
    sortKeysMembers (sortKeysMembers members) = sortKeysMembers members := by
  match members with
  | [] => rfl
  | (key, value) :: members =>
      rw [sortKeysMembers, sortKeysMembers, sortKeys_sortKeys value,
        sortKeysMembers_sortKeysMembers members]

end

/-- The member of an object under a key. -/
def field (key : String) : Json → Option Json
  | .obj members => lookupEntry key members
  | _ => none

def optional {α : Type} (write : α → Json) : Option α → Json
  | none => .null
  | some value => write value

def nat (value : Nat) : Json := .num value

@[simp] theorem nat_sortKeys (value : Nat) : (nat value).sortKeys = nat value := rfl

@[simp] theorem nat_inj {left right : Nat} : nat left = nat right ↔ left = right := by
  simp [nat]

/-- The member under a key that is known to be there. -/
def get (value : Json) (key : String) : Json := (value.field key).getD .null

/-- An object with exactly these keys. -/
def hasExactKeys (keys : List String) : Json → Bool
  | .obj members =>
      members.length = keys.length && keys.all fun key => (lookupEntry key members).isSome
  | _ => false

theorem sortKeys_obj_congr {left right : List (String × Json)}
    (same : left.map (fun member => (member.1, member.2.sortKeys)) =
      right.map fun member => (member.1, member.2.sortKeys)) :
    (Json.obj left).sortKeys = (Json.obj right).sortKeys := by
  simp only [sortKeys, sortKeysMembers_eq_map, same]

/-- Objects with the same keys in the same order that sort alike have the same
values up to the order of members. -/
theorem sortKeys_obj_injective {left right : List (String × Json)}
    (same : (Json.obj left).sortKeys = (Json.obj right).sortKeys)
    (keys : left.map Prod.fst = right.map Prod.fst) :
    left.map (fun member => member.2.sortKeys) =
      right.map fun member => member.2.sortKeys := by
  simp only [sortKeys, sortKeysMembers_eq_map, Json.obj.injEq] at same
  have members := sortMembers_injective (by simpa [Function.comp_def] using keys) same
  simpa [Function.comp_def] using congrArg (List.map Prod.snd) members

/-- An object with exactly the given keys is, up to order, the list of its fields. -/
theorem perm_of_hasExactKeys {keys : List String} {members : List (String × Json)}
    (nodup : keys.Nodup) (exactly : (Json.obj members).hasExactKeys keys = true) :
    (members.map Prod.fst).Nodup ∧
      members.Perm (keys.map fun key => (key, (Json.obj members).get key)) := by
  simp only [hasExactKeys, Bool.and_eq_true, decide_eq_true_eq, List.all_eq_true,
    lookupEntry_isSome_iff] at exactly
  obtain ⟨length, present⟩ := exactly
  have subset : keys.Subperm (members.map Prod.fst) := nodup.subperm present
  have keysPerm : keys.Perm (members.map Prod.fst) :=
    subset.perm_of_length_le (by simp [length])
  have membersNodup : (members.map Prod.fst).Nodup := keysPerm.nodup_iff.mp nodup
  refine ⟨membersNodup, ?_⟩
  have fields : members = (members.map Prod.fst).map fun key =>
      (key, (Json.obj members).get key) := by
    rw [List.map_map]
    conv_lhs => rw [← List.map_id members]
    apply List.map_congr_left
    intro member found
    have value : lookupEntry member.1 members = some member.2 :=
      (lookupEntry_eq_some_iff membersNodup).mpr found
    simp [get, field, value]
  calc
    members = (members.map Prod.fst).map fun key => (key, (Json.obj members).get key) := fields
    List.Perm _ (keys.map fun key => (key, (Json.obj members).get key)) :=
      (keysPerm.map _).symm

theorem sortKeys_of_hasExactKeys {keys : List String} {value : Json}
    (nodup : keys.Nodup) (exactly : value.hasExactKeys keys = true) :
    value.sortKeys = (Json.obj (keys.map fun key => (key, value.get key))).sortKeys := by
  cases value with
  | obj members =>
      obtain ⟨membersNodup, permutation⟩ := perm_of_hasExactKeys nodup exactly
      simp only [sortKeys, sortKeysMembers_eq_map]
      rw [sortMembers_eq_of_perm (by simpa [Function.comp_def] using membersNodup)
        (permutation.map _)]
  | _ => simp [hasExactKeys] at exactly

/-! ## Length of the canonical text -/

/-- Length of the canonical text of a value. -/
def textLength (value : Json) : Nat :=
  value.sortKeys.encode.length

end Json

theorem length_joinComma (parts : List Bytes) :
    (joinComma parts).length = (parts.map List.length).sum + (parts.length - 1) := by
  cases parts with
  | nil => rfl
  | cons part parts =>
      have tail (parts : List Bytes) :
          (parts.flatMap fun part => 0x2c :: part).length =
            (parts.map List.length).sum + parts.length := by
        induction parts with
        | nil => rfl
        | cons part parts induction =>
            simp only [List.flatMap_cons, List.length_append, List.length_cons, induction,
              List.map_cons, List.sum_cons]
            omega
      simp only [joinComma, List.length_append, tail, List.map_cons, List.sum_cons,
        List.length_cons]
      omega

namespace Json

def memberLength (member : String × Json) : Nat :=
  (encodeString member.1).length + 1 + member.2.textLength

/-- A canonical array is as long as its items, their commas and two brackets. -/
theorem textLength_arr (items : List Json) :
    (Json.arr items).textLength =
      (items.map textLength).sum + (items.length - 1) + 2 := by
  unfold textLength
  simp only [sortKeys, encode, encodeItems_eq_map, sortKeysItems_eq_map,
    List.length_cons, List.length_append, length_joinComma, List.map_map, List.length_map,
    List.length_nil, Function.comp_def]

/-- The length of a canonical object does not depend on the order of its members. -/
theorem textLength_obj (members : List (String × Json)) :
    (Json.obj members).textLength =
      (members.map memberLength).sum + (members.length - 1) + 2 := by
  have sorted := sortMembers_perm (members.map fun member => (member.1, member.2.sortKeys))
  have lengths : ((sortMembers (members.map fun member => (member.1, member.2.sortKeys))).map
        fun member => (encodeMember member.1 member.2.encode).length).sum =
      (members.map memberLength).sum := by
    rw [(sorted.map _).sum_eq, List.map_map]
    congr 1
    apply List.map_congr_left
    intro member _
    simp only [Function.comp_apply, encodeMember, List.length_append, List.length_cons,
      memberLength, textLength]
    omega
  simp only [textLength, sortKeys, encode, encodeMembers_eq_map, sortKeysMembers_eq_map,
    List.length_cons, List.length_append, length_joinComma, List.map_map, List.length_map,
    List.length_nil, Function.comp_def] at lengths ⊢
  rw [lengths, sorted.length_eq, List.length_map]

end Json

end ManyAlerts
