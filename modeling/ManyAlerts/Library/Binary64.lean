import Mathlib.Tactic

/-!
# Decimal lexemes and binary64 numbers

Reading a JSON number lexeme as the nearest binary64 value and writing the
shortest decimal text that reads back as the same value.  Both directions are
exact integer arithmetic: a positive finite value is `significand * 2 ^ power`
and every comparison is a comparison of cross products.  A sum or difference of
two values is the exact one rounded.
-/

namespace ManyAlerts

/-- The parts of a number lexeme `-?int(.frac)?(e[+-]?exp)?`. -/
structure NumberLexeme where
  negative : Bool
  whole : List Char
  fraction : Option (List Char)
  /-- The exponent letter, its sign if written, and its digits. -/
  exponent : Option (Char × Option Char × List Char)

namespace NumberLexeme

def scanExponent : List Char → Option (Option (Char × Option Char × List Char))
  | [] => some none
  | letter :: rest =>
      if letter ≠ 'e' ∧ letter ≠ 'E' then none
      else
        let (sign, digits) := match rest with
          | '+' :: digits => (some '+', digits)
          | '-' :: digits => (some '-', digits)
          | digits => (none, digits)
        if digits = [] ∨ digits.all Char.isDigit = false then none
        else some (some (letter, sign, digits))

def scanFraction (negative : Bool) (whole : List Char) : List Char → Option NumberLexeme
  | '.' :: rest =>
      let fraction := rest.takeWhile Char.isDigit
      if fraction = [] then none
      else (scanExponent (rest.dropWhile Char.isDigit)).map fun exponent =>
        ⟨negative, whole, some fraction, exponent⟩
  | rest => (scanExponent rest).map fun exponent => ⟨negative, whole, none, exponent⟩

/-- The lexeme a text is, by the JSON number grammar. -/
def scan (characters : List Char) : Option NumberLexeme :=
  let (negative, rest) := match characters with
    | '-' :: rest => (true, rest)
    | rest => (false, rest)
  let whole := rest.takeWhile Char.isDigit
  if whole = [] ∨ (whole.head? = some '0' ∧ whole.length ≠ 1) then none
  else scanFraction negative whole (rest.dropWhile Char.isDigit)

def digitsValue (digits : List Char) : Nat :=
  digits.foldl (fun value digit => 10 * value + (digit.toNat - 48)) 0

def digits (lexeme : NumberLexeme) : Nat :=
  digitsValue (lexeme.whole ++ lexeme.fraction.getD [])

/-- The power of ten the digits are scaled by. -/
def scale (lexeme : NumberLexeme) : Int :=
  let exponent : Int := match lexeme.exponent with
    | none => 0
    | some (_, some '-', digits) => -(digitsValue digits : Int)
    | some (_, _, digits) => digitsValue digits
  exponent - (lexeme.fraction.getD []).length

end NumberLexeme

/-- The magnitude of a finite binary64 value: `significand * 2 ^ power`. -/
structure Binary64 where
  significand : Nat
  power : Int
deriving DecidableEq

namespace Binary64

/-- Division rounded to nearest, ties to even. -/
def divideEven (numerator denominator : Nat) : Nat :=
  let quotient := numerator / denominator
  let twice := 2 * (numerator % denominator)
  if twice < denominator ∨ (twice = denominator ∧ quotient % 2 = 0) then quotient
  else quotient + 1

/-- Scale a fraction by a power of the base, keeping it a fraction of naturals. -/
def shift (base : Nat) (power : Int) (fraction : Nat × Nat) : Nat × Nat :=
  if 0 ≤ power then (fraction.1 * base ^ power.toNat, fraction.2)
  else (fraction.1, fraction.2 * base ^ (-power).toNat)

/-- The binary64 value nearest to a positive fraction; none when it overflows. -/
def ofFraction (fraction : Nat × Nat) : Option Binary64 :=
  if fraction.1 = 0 then some ⟨0, -1074⟩
  else
    let estimate : Int := (Nat.log2 fraction.1 : Int) - Nat.log2 fraction.2
    let atEstimate := shift 2 (-estimate) fraction
    let normal := if atEstimate.2 ≤ atEstimate.1 then estimate - 52 else estimate - 53
    let power := max normal (-1074)
    let scaled := shift 2 (-power) fraction
    let significand := divideEven scaled.1 scaled.2
    let value : Binary64 :=
      if significand = 2 ^ 53 then ⟨2 ^ 52, power + 1⟩ else ⟨significand, power⟩
    if 971 < value.power then none else some value

/-- `float` of an unsigned decimal `digits * 10 ^ scale`; none for infinity.  The
two early exits only keep the powers of ten small. -/
def ofDecimal (digits : Nat) (scale : Int) : Option Binary64 :=
  let size : Int := (Nat.toDigits 10 digits).length
  if digits = 0 ∨ size + scale < -330 then some ⟨0, -1074⟩
  else if 310 < size + scale then none
  else ofFraction (shift 10 scale (digits, 1))

def fraction (value : Binary64) : Nat × Nat :=
  shift 2 value.power (value.significand, 1)

/-- The integer a value is, if it is one. -/
def integer? (value : Binary64) : Option Nat :=
  let fraction := value.fraction
  if fraction.1 % fraction.2 = 0 then some (fraction.1 / fraction.2) else none

/-- The decimal exponent `k` with `10 ^ (k - 1) ≤ value < 10 ^ k`, found by search. -/
def decimalPoint (value : Binary64) : Int :=
  let below (exponent : Int) : Bool :=
    let scaled := shift 10 (-exponent) value.fraction
    decide (scaled.1 < scaled.2)
  let start : Int := -324
  ((List.range 640).find? fun offset => below (start + offset)).elim 0
    fun offset => start + offset

/-- The decimals of `count` digits next to a value that read back as it, closest first. -/
def candidates (value : Binary64) (point : Int) (count : Nat) : List Nat :=
  let scaled := shift 10 (count - point) value.fraction
  let low := scaled.1 / scaled.2
  let nearest := divideEven scaled.1 scaled.2
  let other := if nearest = low then low + 1 else low
  [nearest, other].filter fun digits => ofDecimal digits (point - count) = some value

/-- The shortest digits that read back as a positive value, without trailing
zeros, and the position of the decimal point. -/
def shortest (value : Binary64) : List Char × Int :=
  let point := value.decimalPoint
  let digits := ((List.range 17).findSome? fun index =>
    (value.candidates point (index + 1)).head?.map fun digits => (digits, index + 1)).getD (0, 1)
  let text := Nat.toDigits 10 digits.1
  -- A candidate that rounded up to a power of ten has one digit too many.
  let point := point + (text.length - digits.2 : Int)
  let stripped := (text.reverse.dropWhile (· = '0')).reverse
  (stripped, point)

def exponentText (exponent : Int) : List Char :=
  let digits := Nat.toDigits 10 exponent.natAbs
  let padded := if digits.length < 2 then '0' :: digits else digits
  (if exponent < 0 then '-' else '+') :: padded

/-- The shortest round-trip text of a positive finite value. -/
def repr (value : Binary64) : List Char :=
  if value.significand = 0 then ['0', '.', '0']
  else
    let (digits, point) := value.shortest
    if point ≤ -4 ∨ 16 < point then
      let rest := digits.drop 1
      digits.take 1 ++ (if rest = [] then [] else '.' :: rest) ++ 'e' :: exponentText (point - 1)
    else if point ≤ 0 then
      '0' :: '.' :: (List.replicate (-point).toNat '0' ++ digits)
    else if digits.length ≤ point.toNat then
      digits ++ List.replicate (point.toNat - digits.length) '0' ++ ['.', '0']
    else
      digits.take point.toNat ++ '.' :: digits.drop point.toNat

/-! ## Rounding a rational number -/

def toRat (value : Binary64) : ℚ := value.significand * 2 ^ value.power

/-- The binary64 number nearest to a rational number; none for an infinity. -/
def round (exact : ℚ) : Option ℚ :=
  (ofFraction (exact.num.natAbs, exact.den)).map fun value =>
    if exact < 0 then -value.toRat else value.toRat

theorem div_le_divideEven (numerator denominator : Nat) :
    numerator / denominator ≤ divideEven numerator denominator := by
  unfold divideEven
  dsimp only
  split_ifs
  · exact le_rfl
  · exact Nat.le_succ _

/-- A carry into the next power of two keeps the value. -/
theorem toRat_carry (significand : Nat) (power : Int) :
    (if significand = 2 ^ 53 then (⟨2 ^ 52, power + 1⟩ : Binary64)
      else ⟨significand, power⟩).toRat = significand * 2 ^ power := by
  split_ifs with carries
  · rw [carries, toRat, zpow_add_one₀ two_ne_zero]
    push_cast
    ring
  · rfl

theorem toRat_ofFraction {numerator denominator : Nat} {value : Binary64}
    (nonzero : numerator ≠ 0) (rounded : ofFraction (numerator, denominator) = some value) :
    ∃ power : Int,
      power ≤ max ((Nat.log2 numerator : Int) - Nat.log2 denominator - 52) (-1074) ∧
      value.toRat = divideEven (shift 2 (-power) (numerator, denominator)).1
        (shift 2 (-power) (numerator, denominator)).2 * 2 ^ power := by
  rw [ofFraction, if_neg nonzero] at rounded
  obtain ⟨-, isValue⟩ := Option.ite_none_left_eq_some.mp rounded
  obtain rfl := Option.some.inj isValue
  refine ⟨_, ?_, toRat_carry _ _⟩
  dsimp only
  split_ifs <;> omega

/-- Where the last place is one or more, the significand is large. -/
theorem pow_le_divideEven {numerator denominator places : Nat} (positive : 0 < denominator)
    (nonzero : numerator ≠ 0)
    (wide : Nat.log2 denominator + 52 + places ≤ Nat.log2 numerator) :
    2 ^ 51 ≤ divideEven numerator (denominator * 2 ^ places) := by
  refine le_trans ?_ (div_le_divideEven _ _)
  rw [Nat.le_div_iff_mul_le (by positivity)]
  calc 2 ^ 51 * (denominator * 2 ^ places)
      ≤ 2 ^ 51 * (2 ^ (Nat.log2 denominator + 1) * 2 ^ places) := by
        gcongr
        exact Nat.lt_log2_self.le
    _ = 2 ^ (Nat.log2 denominator + 52 + places) := by
        rw [← pow_add, ← pow_add]
        congr 1
        omega
    _ ≤ 2 ^ Nat.log2 numerator := Nat.pow_le_pow_right (by decide) wide
    _ ≤ numerator := Nat.log2_self_le nonzero

/-- A natural number that is not above a fraction is not above what it is rounded to. -/
theorem le_ofFraction {numerator denominator bound : Nat} {value : Binary64}
    (positive : 0 < denominator) (small : bound ≤ 2 ^ 51)
    (above : bound * denominator ≤ numerator)
    (rounded : ofFraction (numerator, denominator) = some value) :
    (bound : ℚ) ≤ value.toRat := by
  by_cases none : bound = 0
  · rw [none, Nat.cast_zero]
    exact mul_nonneg (Nat.cast_nonneg _) (zpow_nonneg zero_le_two _)
  have nonzero : numerator ≠ 0 :=
    ((Nat.mul_pos (Nat.pos_of_ne_zero none) positive).trans_le above).ne'
  obtain ⟨power, bounded, isValue⟩ := toRat_ofFraction nonzero rounded
  rw [isValue]
  by_cases fine : power ≤ 0
  · -- the bound is a multiple of the last place
    obtain ⟨places, isPlaces⟩ := Int.eq_ofNat_of_zero_le (show 0 ≤ -power by omega)
    obtain rfl : power = -(places : Int) := by omega
    rw [shift, if_pos (by omega), neg_neg, Int.toNat_natCast, zpow_neg, zpow_natCast,
      ← div_eq_mul_inv, le_div_iff₀ (by positivity)]
    have enough : bound * 2 ^ places ≤ divideEven (numerator * 2 ^ places) denominator := by
      refine le_trans ?_ (div_le_divideEven _ _)
      rw [Nat.le_div_iff_mul_le positive, Nat.mul_right_comm]
      exact Nat.mul_le_mul_right _ above
    exact_mod_cast enough
  · -- the significand alone is large enough
    obtain ⟨places, rfl⟩ := Int.eq_ofNat_of_zero_le (show 0 ≤ power by omega)
    rw [shift, if_neg (by omega), neg_neg, Int.toNat_natCast, zpow_natCast]
    have large : 2 ^ 51 ≤ divideEven numerator (denominator * 2 ^ places) :=
      pow_le_divideEven positive nonzero (by omega)
    calc (bound : ℚ) ≤ (2 ^ 51 : ℕ) := by exact_mod_cast small
      _ ≤ divideEven numerator (denominator * 2 ^ places) := by exact_mod_cast large
      _ ≤ divideEven numerator (denominator * 2 ^ places) * 2 ^ places :=
        le_mul_of_one_le_right (Nat.cast_nonneg _) (one_le_pow₀ one_le_two)

/-- Rounding does not cross a natural number. -/
theorem lt_of_round {exact rounded : ℚ} {bound : Nat} (small : bound ≤ 2 ^ 51)
    (isRounded : round exact = some rounded) (below : rounded < bound) : exact < bound := by
  by_contra reached
  rw [not_lt] at reached
  have nonneg : 0 ≤ exact := (Nat.cast_nonneg bound).trans reached
  obtain ⟨value, isValue, rfl⟩ := Option.map_eq_some_iff.mp isRounded
  rw [if_neg (not_lt.mpr nonneg)] at below
  refine absurd (le_ofFraction exact.den_pos small ?_ isValue) (not_le.mpr below)
  have numerator : (exact.num.natAbs : ℚ) = exact * exact.den := by
    rw [Rat.mul_den_eq_num, ← Int.cast_natCast,
      Int.natAbs_of_nonneg (Rat.num_nonneg.mpr nonneg)]
  have product : (bound : ℚ) * exact.den ≤ exact.num.natAbs := by
    rw [numerator]
    exact mul_le_mul_of_nonneg_right reached (Nat.cast_nonneg _)
  exact_mod_cast product

@[simp] theorem round_zero : round 0 = some 0 := by
  simp [round, ofFraction, toRat]

end Binary64

end ManyAlerts
