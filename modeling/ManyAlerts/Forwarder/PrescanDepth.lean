import ManyAlerts.Forwarder.ParseJson
import ManyAlerts.Library.JsonReading

/-!
# The prescan measures nesting

`prescanDepth` counts brackets outside strings without reading the text.  On a text
that the reader takes, the count is the depth of the value that it reads: what stands
inside strings does not count, and the scan fails as soon as one container too many is
open.  The reader is taken with any hooks and any amount of fuel, so the statement is
about all JSON texts and not only about those that the policy accepts.
-/

namespace ManyAlerts

namespace JsonTree

variable {ν : Type}

mutual

/-- How deep arrays and objects are nested. -/
def nesting : JsonTree ν → Nat
  | .array items => itemsNesting items + 1
  | .object members => membersNesting members + 1
  | _ => 0

def itemsNesting : List (JsonTree ν) → Nat
  | [] => 0
  | item :: items => max (nesting item) (itemsNesting items)

def membersNesting : List (List Nat × JsonTree ν) → Nat
  | [] => 0
  | (_, value) :: members => max (nesting value) (membersNesting members)

end

end JsonTree

/-- A text that is one JSON value with blanks around it. -/
def IsJsonText {ε ν : Type} (hooks : JsonHooks ε ν) (text : List Char) (tree : JsonTree ν) : Prop :=
  ∃ fuel rest, readValue hooks fuel (skipBlank text) = .ok (tree, rest) ∧ skipBlank rest = []

/-! ## Tokens -/

theorem prescanDepth_skipBlank (depth : Int) (text : List Char) :
    prescanDepth depth false (skipBlank text) = prescanDepth depth false text := by
  have flat : (text.takeWhile isBlank).all isFlat = true := by
    rw [List.all_eq_true]
    intro character inside
    have blank := List.mem_takeWhile_imp inside
    simp only [isBlank, Bool.or_eq_true, decide_eq_true_eq] at blank
    rcases blank with ((rfl | rfl) | rfl) | rfl <;> decide
  have split : text.takeWhile isBlank ++ skipBlank text = text :=
    List.takeWhile_append_dropWhile
  conv_rhs => rw [← split]
  exact (prescanDepth_flat depth _ flat).symm

theorem hexValue_literal {character : Char} {value : Nat}
    (named : hexValue character = some value) :
    character ≠ '"' ∧ character ≠ '\\' := by
  constructor
  · intro same
    rw [same] at named
    cases named
  · intro same
    rw [same] at named
    cases named

/-- Inside a string nothing counts. -/
theorem prescanDepth_scanText (depth : Int) {text rest : List Char} {units : List Nat}
    (scanned : scanText text = some (units, rest)) :
    prescanDepth depth true text = prescanDepth depth false rest := by
  fun_induction scanText text generalizing units rest with
  | case1 => cases scanned
  | case2 rest =>
      cases scanned
      simp [prescanDepth]
  | case3 first second third fourth text induction =>
      simp only [Option.bind_eq_bind, Option.bind_eq_some_iff, Option.pure_def,
        Option.some.injEq, Prod.exists, Prod.mk.injEq] at scanned
      obtain ⟨unit, named, more, after, scanned, rfl, rfl⟩ := scanned
      simp only [hexUnit, Option.bind_eq_bind, Option.bind_eq_some_iff] at named
      obtain ⟨_, one, _, two, _, three, _, four, _⟩ := named
      have literal {character : Char} {value : Nat} (named : hexValue character = some value)
          (behind : List Char) :
          prescanDepth depth true (character :: behind) = prescanDepth depth true behind :=
        prescanDepth_literal depth behind (hexValue_literal named).1 (hexValue_literal named).2
      rw [prescanDepth, literal one, literal two, literal three, literal four]
      exact induction scanned
  | case4 escape text _ induction =>
      simp only [Option.bind_eq_bind, Option.bind_eq_some_iff, Option.pure_def,
        Option.some.injEq, Prod.exists, Prod.mk.injEq] at scanned
      obtain ⟨unit, named, more, after, scanned, rfl, rfl⟩ := scanned
      rw [prescanDepth]
      exact induction scanned
  | case5 character text quote _ backslash induction =>
      simp only [Option.bind_eq_bind, Option.bind_eq_some_iff, Option.pure_def,
        Option.some.injEq, Prod.exists, Prod.mk.injEq] at scanned
      obtain ⟨_, _, more, after, scanned, rfl, rfl⟩ := scanned
      -- A backslash at the very end has no closing quote behind it.
      have notBackslash : character ≠ '\\' := by
        intro same
        cases text with
        | nil => simp [scanText] at scanned
        | cons escape text => exact backslash escape text same rfl
      rw [prescanDepth_literal depth text quote notBackslash]
      exact induction scanned

theorem prescanDepth_readText {ε ν : Type} {hooks : JsonHooks ε ν} (depth : Int)
    {text rest : List Char} {points : List Nat} (read : readText hooks text = .ok (points, rest)) :
    prescanDepth depth false ('"' :: text) = prescanDepth depth false rest := by
  simp only [readText, bind_eq_ok, orFail_eq_ok, pure_eq_ok, Prod.exists, Prod.mk.injEq] at read
  obtain ⟨units, after, scanned, rfl, rfl⟩ := read
  rw [prescanDepth, if_pos rfl]
  exact prescanDepth_scanText depth scanned

theorem flat_of_isDecimal {digits : List Char}
    (decimal : ∀ digit ∈ digits, isDecimal digit = true) :
    digits.all isFlat = true := by
  rw [List.all_eq_true]
  intro digit inside
  have own := decimal digit inside
  simp only [isFlat, Bool.and_eq_true, decide_eq_true_eq]
  refine ⟨⟨⟨⟨?_, ?_⟩, ?_⟩, ?_⟩, ?_⟩ <;>
  · rintro rfl
    exact absurd own (by decide)

theorem prescanDepth_scanDigits (depth : Int) {text digits rest : List Char}
    (scanned : scanDigits text = some (digits, rest)) :
    prescanDepth depth false text = prescanDepth depth false rest := by
  obtain ⟨rfl, _, decimal⟩ := scanDigits_shape scanned
  exact prescanDepth_flat depth rest (flat_of_isDecimal decimal)

theorem prescanDepth_scanWhole (depth : Int) {text digits rest : List Char}
    (scanned : scanWhole text = some (digits, rest)) :
    prescanDepth depth false text = prescanDepth depth false rest := by
  obtain ⟨rfl, _, decimal⟩ := scanWhole_shape scanned
  exact prescanDepth_flat depth rest (flat_of_isDecimal decimal)

theorem prescanDepth_scanMinus (depth : Int) (text : List Char) :
    prescanDepth depth false (scanMinus text).2 = prescanDepth depth false text := by
  obtain ⟨isText, minus⟩ := scanMinus_shape text
  have flat : (scanMinus text).1.all isFlat = true := by
    rcases minus with empty | sign
    · rw [empty]
      rfl
    · rw [sign]
      decide
  conv_rhs => rw [isText]
  exact (prescanDepth_flat depth _ flat).symm

theorem prescanDepth_scanSign (depth : Int) (text : List Char) :
    prescanDepth depth false (scanSign text).2 = prescanDepth depth false text := by
  unfold scanSign
  split
  · exact (prescanDepth_flat depth _ (show ['+'].all isFlat = true by decide)).symm
  · exact (prescanDepth_flat depth _ (show ['-'].all isFlat = true by decide)).symm
  · rfl

theorem prescanDepth_scanFraction (depth : Int) (text : List Char) :
    prescanDepth depth false ((scanFraction text).getD ([], text)).2 =
      prescanDepth depth false text := by
  unfold scanFraction
  split
  · next rest =>
      cases scanned : scanDigits rest with
      | none => simp
      | some found =>
          have point := prescanDepth_flat depth rest (show ['.'].all isFlat = true by decide)
          rw [List.singleton_append, prescanDepth_scanDigits depth scanned] at point
          simpa using point.symm
  · rfl

theorem prescanDepth_scanExponent (depth : Int) (text : List Char) :
    prescanDepth depth false ((scanExponent text).getD ([], text)).2 =
      prescanDepth depth false text := by
  unfold scanExponent
  split
  · next character rest =>
      by_cases letter : character = 'e' ∨ character = 'E'
      · cases scanned : scanDigits (scanSign rest).2 with
        | none => simp [letter, scanned]
        | some found =>
            have flat : [character].all isFlat = true := by
              rcases letter with rfl | rfl <;> decide
            have mark := prescanDepth_flat depth rest flat
            rw [List.singleton_append, ← prescanDepth_scanSign depth rest,
              prescanDepth_scanDigits depth scanned] at mark
            simpa [letter, scanned] using mark.symm
      · simp [letter]
  · rfl

/-- No character of a number counts. -/
theorem prescanDepth_scanNumber (depth : Int) {text lexeme rest : List Char} {isInteger : Bool}
    (scanned : scanNumber text = some (lexeme, isInteger, rest)) :
    prescanDepth depth false text = prescanDepth depth false rest := by
  simp only [scanNumber, Option.bind_eq_bind, Option.bind_eq_some_iff, Option.pure_def,
    Option.some.injEq, Prod.exists, Prod.mk.injEq] at scanned
  obtain ⟨whole, after, scannedWhole, _, _, rfl⟩ := scanned
  rw [prescanDepth_scanExponent, prescanDepth_scanFraction, ← prescanDepth_scanMinus,
    prescanDepth_scanWhole depth scannedWhole]

section Reading

variable {ε ν : Type} {hooks : JsonHooks ε ν}

theorem prescanDepth_afterWord (depth : Int) {word text rest : List Char}
    (flat : word.all isFlat = true) (after : afterWord word text = some rest) :
    prescanDepth depth false text = prescanDepth depth false rest := by
  rw [afterWord_shape after]
  exact prescanDepth_flat depth rest flat

/-- A scalar has no depth, and the prescan passes over it. -/
theorem prescanDepth_readScalar (depth : Int) {text rest : List Char} {tree : JsonTree ν}
    (read : readScalar hooks text = .ok (tree, rest)) :
    tree.nesting = 0 ∧ prescanDepth depth false text = prescanDepth depth false rest := by
  have constant {word after : List Char} (flat : word.all isFlat = true)
      (found : afterWord word text = some after)
      (read : (hooks.constant word).map (fun value => (JsonTree.number value, after)) =
        .ok (tree, rest)) :
      tree.nesting = 0 ∧ prescanDepth depth false text = prescanDepth depth false rest := by
    cases hooked : hooks.constant word with
    | error error =>
        rw [hooked] at read
        cases read
    | ok value =>
        rw [hooked] at read
        cases read
        exact ⟨by simp [JsonTree.nesting], prescanDepth_afterWord depth flat found⟩
  unfold readScalar at read
  split at read
  · next after =>
      cases read
      exact ⟨by simp [JsonTree.nesting], prescanDepth_afterWord depth (by decide) after⟩
  split at read
  · next after =>
      cases read
      exact ⟨by simp [JsonTree.nesting], prescanDepth_afterWord depth (by decide) after⟩
  split at read
  · next after =>
      cases read
      exact ⟨by simp [JsonTree.nesting], prescanDepth_afterWord depth (by decide) after⟩
  split at read
  · next after => exact constant (by decide) after read
  split at read
  · next after => exact constant (by decide) after read
  split at read
  · next after => exact constant (by decide) after read
  simp only [readNumber, bind_eq_ok, orFail_eq_ok, Prod.exists] at read
  obtain ⟨lexeme, isInteger, after, scanned, read⟩ := read
  obtain ⟨value, isRead⟩ : ∃ value, (JsonTree.number value, after) = (tree, rest) := by
    cases isInteger with
    | true | false =>
        obtain ⟨value, _, isRead⟩ := bind_eq_ok.mp read
        exact ⟨value, pure_eq_ok.mp isRead⟩
  cases isRead
  exact ⟨by simp [JsonTree.nesting], prescanDepth_scanNumber depth scanned⟩

/-! ## Values -/

theorem prescanDepth_of_skipBlank (depth : Int) {text rest : List Char}
    (skipped : skipBlank text = rest) :
    prescanDepth depth false text = prescanDepth depth false rest := by
  rw [← prescanDepth_skipBlank, skipped]

/-- Blanks and a separator. -/
theorem prescanDepth_separator (depth : Int) {character : Char} {text rest : List Char}
    (flat : isFlat character = true) (skipped : skipBlank text = character :: rest) :
    prescanDepth depth false text = prescanDepth depth false (skipBlank rest) := by
  rw [prescanDepth_of_skipBlank depth skipped, prescanDepth_skipBlank, ← List.singleton_append]
  exact prescanDepth_flat depth rest (by rw [List.all_cons, flat]; rfl)

/-- Blanks and a closing bracket. -/
theorem prescanDepth_closing (depth : Nat) {character : Char} {text rest : List Char}
    (closes : character = ']' ∨ character = '}') (skipped : skipBlank text = character :: rest) :
    prescanDepth (depth + 1 : Nat) false text = prescanDepth depth false rest := by
  rw [prescanDepth_of_skipBlank _ skipped, Nat.cast_add, Nat.cast_one]
  exact prescanDepth_close character rest closes

/-- What the prescan says of a text that starts with a value of some depth. -/
def depthVerdict (depth nesting : Nat) (behind : Except JsonReadCode Unit) :
    Except JsonReadCode Unit :=
  if maxJsonDepth < depth + nesting then .error .depth else behind

theorem depthVerdict_zero {depth : Nat} (shallow : depth ≤ maxJsonDepth)
    (behind : Except JsonReadCode Unit) : depthVerdict depth 0 behind = behind :=
  if_neg (by omega)

/-- One value after another: the deeper of the two decides. -/
theorem depthVerdict_max (depth left right : Nat) (behind : Except JsonReadCode Unit) :
    depthVerdict depth left (depthVerdict depth right behind) =
      depthVerdict depth (max left right) behind := by
  unfold depthVerdict
  split_ifs <;> first | rfl | omega

/-- A container: its bracket is one more level. -/
theorem prescanDepth_container {depth nesting : Nat} {character : Char} {text rest : List Char}
    (shallow : depth ≤ maxJsonDepth) (opens : character = '[' ∨ character = '{')
    (inner : depth + 1 ≤ maxJsonDepth → prescanDepth (depth + 1 : Nat) false text =
      depthVerdict (depth + 1) nesting (prescanDepth depth false rest)) :
    prescanDepth depth false (character :: text) =
      depthVerdict depth (nesting + 1) (prescanDepth depth false rest) := by
  by_cases deep : depth + 1 ≤ maxJsonDepth
  · rw [prescanDepth_open character text opens (by exact_mod_cast deep)]
    have inside := inner deep
    rw [Nat.cast_add, Nat.cast_one] at inside
    rw [inside, depthVerdict, depthVerdict, add_assoc, add_comm 1 nesting]
  · have quote : character ≠ '"' := by
      rcases opens with rfl | rfl <;> decide
    rw [prescanDepth, if_neg quote, if_pos opens, if_pos (by omega), depthVerdict,
      if_pos (by omega)]

mutual

theorem prescanDepth_readValue {depth : Nat} (shallow : depth ≤ maxJsonDepth) (fuel : Nat)
    {text rest : List Char} {tree : JsonTree ν}
    (read : readValue hooks fuel text = .ok (tree, rest)) :
    prescanDepth depth false text =
      depthVerdict depth tree.nesting (prescanDepth depth false rest) := by
  match fuel with
  | 0 => cases read
  | fuel + 1 =>
      unfold readValue at read
      split at read
      · cases ‹_ = 0›
      · next text _ =>
          simp only [bind_eq_ok, Prod.exists, pure_eq_ok, Prod.mk.injEq] at read
          obtain ⟨points, after, isText, rfl, rfl⟩ := read
          have scalar : (JsonTree.text points : JsonTree ν).nesting = 0 := by
            simp [JsonTree.nesting]
          rw [scalar, depthVerdict_zero shallow]
          exact prescanDepth_readText depth isText
      · next text same =>
          cases same
          split at read
          · next close =>
              cases read
              apply prescanDepth_container shallow (.inl rfl)
              intro deep
              rw [JsonTree.itemsNesting, depthVerdict_zero deep]
              exact prescanDepth_closing depth (.inl rfl) close
          · simp only [bind_eq_ok, Prod.exists, pure_eq_ok, Prod.mk.injEq] at read
            obtain ⟨items, after, isItems, rfl, rfl⟩ := read
            apply prescanDepth_container shallow (.inl rfl)
            intro deep
            rw [← prescanDepth_skipBlank]
            exact prescanDepth_readItems deep fuel isItems
      · next text same =>
          cases same
          split at read
          · next close =>
              simp only [bind_eq_ok, exists_unit, pure_eq_ok, Prod.mk.injEq] at read
              obtain ⟨_, rfl, rfl⟩ := read
              apply prescanDepth_container shallow (.inr rfl)
              intro deep
              rw [JsonTree.membersNesting, depthVerdict_zero deep]
              exact prescanDepth_closing depth (.inr rfl) close
          · simp only [bind_eq_ok, Prod.exists, exists_unit, pure_eq_ok, Prod.mk.injEq] at read
            obtain ⟨members, after, isMembers, _, rfl, rfl⟩ := read
            apply prescanDepth_container shallow (.inr rfl)
            intro deep
            rw [← prescanDepth_skipBlank]
            exact prescanDepth_readMembers deep fuel isMembers
      · obtain ⟨scalar, same⟩ := prescanDepth_readScalar depth read
        rw [scalar, depthVerdict_zero shallow, same]

theorem prescanDepth_readItems {depth : Nat} (shallow : depth + 1 ≤ maxJsonDepth) (fuel : Nat)
    {text rest : List Char} {items : List (JsonTree ν)}
    (read : readItems hooks fuel text = .ok (items, rest)) :
    prescanDepth (depth + 1 : Nat) false text =
      depthVerdict (depth + 1) (JsonTree.itemsNesting items) (prescanDepth depth false rest) := by
  match fuel with
  | 0 => cases read
  | fuel + 1 =>
      rw [readItems, bind_eq_ok] at read
      obtain ⟨⟨item, after⟩, isItem, read⟩ := read
      rw [prescanDepth_readValue shallow fuel isItem]
      dsimp only at read
      split at read
      · next close =>
          cases read
          rw [prescanDepth_closing depth (.inl rfl) close, JsonTree.itemsNesting,
            JsonTree.itemsNesting, Nat.max_zero]
      · next behind comma =>
          simp only [bind_eq_ok, Prod.exists, pure_eq_ok, Prod.mk.injEq] at read
          obtain ⟨others, final, isItems, rfl, rfl⟩ := read
          rw [prescanDepth_separator _ (by decide) comma,
            prescanDepth_readItems shallow fuel isItems, depthVerdict_max, JsonTree.itemsNesting]
      · cases read

theorem prescanDepth_readMembers {depth : Nat} (shallow : depth + 1 ≤ maxJsonDepth) (fuel : Nat)
    {text rest : List Char} {members : List (List Nat × JsonTree ν)}
    (read : readMembers hooks fuel text = .ok (members, rest)) :
    prescanDepth (depth + 1 : Nat) false text =
      depthVerdict (depth + 1) (JsonTree.membersNesting members)
        (prescanDepth depth false rest) := by
  match fuel with
  | 0 => cases read
  | fuel + 1 =>
      unfold readMembers at read
      split at read
      · cases ‹_ = 0›
      · next text same =>
          cases same
          rw [bind_eq_ok] at read
          obtain ⟨⟨key, after⟩, isKey, read⟩ := read
          rw [prescanDepth_readText _ isKey]
          dsimp only at read
          split at read
          · next named colon =>
              rw [bind_eq_ok] at read
              obtain ⟨⟨value, behind⟩, isValue, read⟩ := read
              rw [prescanDepth_separator _ (by decide) colon,
                prescanDepth_readValue shallow fuel isValue]
              dsimp only at read
              split at read
              · next close =>
                  cases read
                  rw [prescanDepth_closing depth (.inr rfl) close, JsonTree.membersNesting,
                    JsonTree.membersNesting, Nat.max_zero]
              · next later comma =>
                  simp only [bind_eq_ok, Prod.exists, pure_eq_ok, Prod.mk.injEq] at read
                  obtain ⟨others, final, isMembers, rfl, rfl⟩ := read
                  rw [prescanDepth_separator _ (by decide) comma,
                    prescanDepth_readMembers shallow fuel isMembers, depthVerdict_max,
                    JsonTree.membersNesting]
              · cases read
          · cases read
      · cases read

end

/-- On a JSON text the prescan fails exactly when the value nests too deep. -/
theorem IsJsonText.prescanDepth {text : List Char} {tree : JsonTree ν}
    (valid : IsJsonText hooks text tree) :
    ManyAlerts.prescanDepth 0 false text =
      if maxJsonDepth < tree.nesting then .error .depth else .ok () := by
  obtain ⟨fuel, rest, read, atEnd⟩ := valid
  have scanned := prescanDepth_readValue (Nat.zero_le maxJsonDepth) fuel read
  rw [Nat.cast_zero, prescanDepth_skipBlank, prescanDepth_of_skipBlank 0 atEnd, depthVerdict,
    Nat.zero_add] at scanned
  rw [scanned, ManyAlerts.prescanDepth]

end Reading

end ManyAlerts
