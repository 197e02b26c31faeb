import Mathlib.Data.List.Infix
import Mathlib.Data.List.TakeWhile
import Mathlib.Tactic

/-!
# Regular expressions that backtrack

A regular expression is run from a cursor in a text and gives the cursors it can
reach, the preferred one first: a repetition prefers to be long and an alternative its
left side.  The first of them is the match, and `sub` replaces the matches of a text
from left to right.

`not_occurs_sub` is for showing that a replacement removes what it is meant to remove.
What must not occur is a `Trace`: it shows by characters of one kind, after a character
of another.  If every trace is met by a match and no match ends where a trace could
start, then no trace is left.
-/

namespace ManyAlerts

variable {α : Type}

inductive Regex (α : Type) where
  | empty
  | char (accepts : α → Bool)
  /-- As many characters as possible, but at least so many. -/
  | many (least : Nat) (accepts : α → Bool)
  /-- Between a word character and another, or an end of the text. -/
  | boundary
  | seq (first second : Regex α)
  | alt (first second : Regex α)
  | optional (inner : Regex α)
  | group (inner : Regex α)
  | ahead (inner : Regex α)

/-- A place in a text, with the character before it and the groups so far. -/
structure Cursor (α : Type) where
  before : Option α
  rest : List α
  groups : List (List α) := []

def Cursor.advance (cursor : Cursor α) (count : Nat) : Cursor α :=
  { cursor with
    before := (cursor.rest.take count).getLast?.or cursor.before
    rest := cursor.rest.drop count }

namespace Regex

/-- The characters of a word. -/
def literal : List (α → Bool) → Regex α
  | [] => .empty
  | accepts :: rest => .seq (.char accepts) (literal rest)

/-- One after another. -/
def all : List (Regex α) → Regex α
  | [] => .empty
  | [last] => last
  | first :: rest => .seq first (all rest)

/-- One of several, the first preferred. -/
def any : List (Regex α) → Regex α
  | [] => .char fun _ => false
  | [last] => last
  | first :: rest => .alt first (any rest)

variable (word : α → Bool)

/-- The cursors that are reached, the preferred one first. -/
def run : Regex α → Cursor α → List (Cursor α)
  | .empty, cursor => [cursor]
  | .char accepts, cursor => if cursor.rest.head?.any accepts then [cursor.advance 1] else []
  | .many least accepts, cursor =>
      let longest := (cursor.rest.takeWhile accepts).length
      ((List.range' least (longest + 1 - least)).reverse).map cursor.advance
  | .boundary, cursor =>
      if cursor.before.any word ≠ cursor.rest.head?.any word then [cursor] else []
  | .seq first second, cursor => (run first cursor).flatMap (run second)
  | .alt first second, cursor => run first cursor ++ run second cursor
  | .optional inner, cursor => run inner cursor ++ [cursor]
  | .group inner, cursor =>
      (run inner cursor).map fun reached =>
        { reached with groups := reached.groups ++
            [cursor.rest.take (cursor.rest.length - reached.rest.length)] }
  | .ahead inner, cursor => if (run inner cursor).isEmpty then [] else [cursor]

/-- The cursor behind the match at a place. -/
def firstMatch (pattern : Regex α) (before : Option α) (text : List α) : Option (Cursor α) :=
  (pattern.run word ⟨before, text, []⟩).head?

/-- Every match replaced, from left to right.  `skip` characters belong to the match
that was replaced last.  A pattern that could match nothing at all is not replaced. -/
def subFrom (pattern : Regex α) (expand : List (List α) → List α) :
    Option α → Nat → List α → List α
  | _, _, [] => []
  | _, skip + 1, character :: rest => subFrom pattern expand (some character) skip rest
  | before, 0, character :: rest =>
      match pattern.firstMatch word before (character :: rest) with
      | none => character :: subFrom pattern expand (some character) 0 rest
      | some reached =>
          expand reached.groups ++
            subFrom pattern expand (some character) (rest.length - reached.rest.length) rest

/-- `pattern.sub(replacement, text)`. -/
def sub (pattern : Regex α) (expand : List (List α) → List α) (text : List α) : List α :=
  subFrom word pattern expand none 0 text

/-- A match somewhere in a text. -/
def Occurs (pattern : Regex α) (text : List α) : Prop :=
  ∃ before after, text = before ++ after ∧
    (pattern.firstMatch word before.getLast? after).isSome = true

end Regex

/-! ## Cursors -/

namespace Cursor

variable (cursor : Cursor α)

@[simp] theorem advance_rest (count : Nat) :
    (cursor.advance count).rest = cursor.rest.drop count := rfl

@[simp] theorem advance_zero : cursor.advance 0 = cursor := by
  simp [advance]

theorem advance_advance (first second : Nat) :
    (cursor.advance first).advance second = cursor.advance (first + second) := by
  have before : ((cursor.rest.drop first).take second).getLast?.or
      ((cursor.rest.take first).getLast?.or cursor.before) =
        (cursor.rest.take (first + second)).getLast?.or cursor.before := by
    rw [List.take_add, List.getLast?_append, ← Option.or_assoc]
  simp only [advance, List.drop_drop, before]

end Cursor

namespace Regex

variable {word : α → Bool} {pattern : Regex α} {cursor reached : Cursor α}

theorem run_seq (first second : Regex α) :
    (seq first second).run word cursor = (first.run word cursor).flatMap (second.run word) := rfl

theorem run_boundary : (boundary : Regex α).run word cursor =
    if cursor.before.any word ≠ cursor.rest.head?.any word then [cursor] else [] := rfl

/-- A word is there. -/
def Fits : List (α → Bool) → List α → Prop
  | [], _ => True
  | _ :: _, [] => False
  | accepts :: rest, character :: text => accepts character = true ∧ Fits rest text

instance : ∀ (accepts : List (α → Bool)) (text : List α), Decidable (Fits accepts text)
  | [], _ => isTrue trivial
  | _ :: _, [] => isFalse not_false
  | _ :: rest, _ :: text =>
      have := instDecidableFits rest text
      inferInstanceAs (Decidable (_ ∧ _))

theorem run_literal (accepts : List (α → Bool)) (cursor : Cursor α) :
    (literal accepts).run word cursor =
      if Fits accepts cursor.rest then [cursor.advance accepts.length] else [] := by
  induction accepts generalizing cursor with
  | nil => simp [literal, run, Fits]
  | cons accept rest induction =>
      cases isRest : cursor.rest with
      | nil => simp [literal, run, Fits, isRest]
      | cons character text =>
          by_cases accepted : accept character = true
          · simp [literal, run, Fits, isRest, accepted, induction, Cursor.advance_advance,
              Nat.add_comm]
          · simp [literal, run, Fits, isRest, accepted]

/-- The preferred end of a repetition is where its characters end. -/
theorem head?_run_many (word : α → Bool) (least : Nat) (accepts : α → Bool) (cursor : Cursor α) :
    ((many least accepts).run word cursor).head? =
      if least ≤ (cursor.rest.takeWhile accepts).length then
        some (cursor.advance (cursor.rest.takeWhile accepts).length)
      else none := by
  simp only [run]
  generalize (cursor.rest.takeWhile accepts).length = longest
  split_ifs with enough
  · obtain ⟨more, rfl⟩ := Nat.exists_eq_add_of_le enough
    have last : least + more + 1 - least = more + 1 := by omega
    rw [last, List.range'_concat]
    simp
  · have none : longest + 1 - least = 0 := by omega
    rw [none]
    rfl

theorem mem_run_many {least : Nat} {accepts : α → Bool}
    (member : reached ∈ (many least accepts).run word cursor) :
    ∃ count, least ≤ count ∧ count ≤ (cursor.rest.takeWhile accepts).length ∧
      reached = cursor.advance count := by
  simp only [run, List.mem_map, List.mem_reverse, List.mem_range'_1] at member
  obtain ⟨count, bounds, rfl⟩ := member
  exact ⟨count, bounds.1, by omega, rfl⟩

/-! ## What a replacement leaves -/

/-- Something to be kept out of a text: it shows by a word of one kind of characters, and
only where the character before allows it. -/
structure Trace (α : Type) where
  follows : Option α → Prop
  kind : α → Prop
  shows : List α → Prop
  ofWord : ∀ text, shows text → ∃ lead : List α, lead ≠ [] ∧ lead <+: text ∧
    (∀ character ∈ lead, kind character) ∧ ∀ other, lead <+: other → shows other

namespace Trace

variable (trace : Trace α)

/-- The trace shows at some place of a text that stands behind a character. -/
def Occurs (before : Option α) (text : List α) : Prop :=
  ∃ left right, text = left ++ right ∧ trace.follows (left.getLast?.or before) ∧ trace.shows right

variable {trace} {before : Option α} {character : α} {text : List α}

theorem not_occurs_nil : ¬trace.Occurs before [] := by
  intro ⟨left, right, isText, _, shows⟩
  obtain ⟨rfl, rfl⟩ := List.append_eq_nil_iff.mp isText.symm
  obtain ⟨lead, nonempty, isLead, -⟩ := trace.ofWord _ shows
  exact nonempty (List.prefix_nil.mp isLead)

theorem occurs_cons : trace.Occurs before (character :: text) ↔
    trace.follows before ∧ trace.shows (character :: text) ∨
      trace.Occurs (some character) text := by
  constructor
  · intro ⟨left, right, isText, follows, shows⟩
    cases left with
    | nil =>
        subst isText
        exact .inl ⟨follows, shows⟩
    | cons first left =>
        obtain ⟨rfl, rfl⟩ := List.cons.inj isText
        refine .inr ⟨left, right, rfl, ?_, shows⟩
        cases left with
        | nil => exact follows
        | cons second left => simpa [List.getLast?_cons] using follows
  · intro occurs
    rcases occurs with ⟨follows, shows⟩ | ⟨left, right, rfl, follows, shows⟩
    · exact ⟨[], _, rfl, follows, shows⟩
    · refine ⟨character :: left, right, rfl, ?_, shows⟩
      cases left with
      | nil => exact follows
      | cons second left => simpa [List.getLast?_cons] using follows

end Trace

/-- A replacement that is no part of a trace: it starts with a character of another kind,
and no trace shows within it. -/
structure Inert (trace : Trace α) (replacement : List α) : Prop where
  first : ∃ first rest, replacement = first :: rest ∧ ¬trace.kind first
  within : ∀ left right after, replacement = left ++ right → right ≠ [] →
    ¬trace.shows (right ++ after)

/-- Behind every match of a pattern, which is not empty, no trace can show. -/
def Severs (word : α → Bool) (pattern : Regex α) (trace : Trace α) : Prop :=
  ∀ before text reached, pattern.firstMatch word before text = some reached →
    (∃ count, 0 < count ∧ count ≤ text.length ∧ reached.rest = text.drop count) ∧
      ∀ character rest, reached.rest = character :: rest → ∀ more,
        ¬trace.shows (character :: more)

/-- Wherever a trace shows in a text, a pattern matches. -/
def Meets (word : α → Bool) (pattern : Regex α) (trace : Trace α) (before : Option α)
    (text : List α) : Prop :=
  ∀ left right, text = left ++ right → trace.follows (left.getLast?.or before) →
    trace.shows right →
      (pattern.firstMatch word (left.getLast?.or before) right).isSome = true

variable {trace : Trace α} {replacement text : List α} {before after : Option α} {character : α}

theorem Meets.tail (meets : Meets word pattern trace before (character :: text)) :
    Meets word pattern trace (some character) text := by
  intro left right isText follows shows
  have same : (character :: left).getLast?.or before = left.getLast?.or (some character) := by
    cases left with
    | nil => rfl
    | cons second left => simp [List.getLast?_cons]
  have found := meets (character :: left) right (by rw [isText]; rfl)
  rw [same] at found
  exact found follows shows

/-- Characters of the kind of a trace are copied, not made. -/
theorem prefix_of_prefix_subFrom (inert : Inert trace replacement) {lead : List α}
    (kind : ∀ character ∈ lead, trace.kind character)
    (isLead : lead <+: subFrom word pattern (fun _ => replacement) before 0 text) :
    lead <+: text := by
  induction text generalizing lead before with
  | nil =>
      rw [subFrom] at isLead
      exact isLead
  | cons character rest induction =>
      cases lead with
      | nil => exact List.nil_prefix
      | cons first lead =>
          rw [subFrom] at isLead
          split at isLead
          · obtain ⟨rfl, isTail⟩ := List.cons_prefix_cons.mp isLead
            have kindTail := fun other member => kind other (List.mem_cons_of_mem first member)
            exact List.cons_prefix_cons.mpr ⟨rfl, induction kindTail isTail⟩
          · obtain ⟨other, tail, rfl, notKind⟩ := inert.first
            obtain ⟨rfl, -⟩ := List.cons_prefix_cons.mp isLead
            exact absurd (kind first List.mem_cons_self) notKind

theorem Inert.occurs_append (inert : Inert trace replacement)
    (occurs : trace.Occurs before (replacement ++ text)) :
    trace.Occurs (replacement.getLast?.or before) text := by
  obtain ⟨left, right, isText, follows, shows⟩ := occurs
  rcases List.append_eq_append_iff.mp isText with ⟨middle, rfl, rfl⟩ | ⟨middle, isLeft, rfl⟩
  · refine ⟨middle, right, rfl, ?_, shows⟩
    rwa [List.getLast?_append, Option.or_assoc] at follows
  · cases middle with
    | nil =>
        rw [List.append_nil] at isLeft
        subst isLeft
        exact ⟨[], text, rfl, follows, shows⟩
    | cons first middle => exact absurd shows (inert.within left _ text isLeft (by simp))

/-- A replacement leaves no trace where every trace meets a match. -/
theorem not_occurs_subFrom (inert : Inert trace replacement) (severs : Severs word pattern trace)
    {skip : Nat} (meets : Meets word pattern trace before text)
    (stopped : skip = 0 ∧ after = before ∨ ∀ character rest, text.drop skip = character :: rest →
      ∀ more, ¬trace.shows (character :: more)) :
    ¬trace.Occurs after (subFrom word pattern (fun _ => replacement) before skip text) := by
  induction text generalizing before after skip with
  | nil =>
      rw [subFrom]
      exact Trace.not_occurs_nil
  | cons character rest induction =>
      cases skip with
      | succ skip =>
          rw [subFrom]
          refine induction meets.tail (.inr ?_)
          rcases stopped with ⟨impossible, -⟩ | stopped
          · cases impossible
          · exact stopped
      | zero =>
          rw [subFrom]
          split
          case h_1 unmatched =>
            rw [Trace.occurs_cons]
            rintro (⟨follows, shows⟩ | occurs)
            · rcases stopped with ⟨-, rfl⟩ | stopped
              · -- what shows is made of characters that were copied
                obtain ⟨lead, nonempty, isLead, kind, enough⟩ := trace.ofWord _ shows
                have isOutput : lead <+: subFrom word pattern (fun _ => replacement) after 0
                    (character :: rest) := by
                  rw [subFrom, unmatched]
                  exact isLead
                have copied := prefix_of_prefix_subFrom inert kind isOutput
                have found := meets [] _ rfl follows (enough _ copied)
                rw [List.getLast?_nil, Option.none_or, unmatched] at found
                cases found
              · exact stopped character rest rfl _ shows
            · exact induction meets.tail (.inl ⟨rfl, rfl⟩) occurs
          case h_2 reached matched =>
            intro occurs
            obtain ⟨⟨count, positive, within, isRest⟩, ends⟩ := severs _ _ _ matched
            have skipped : rest.drop (rest.length - reached.rest.length) = reached.rest := by
              obtain ⟨less, rfl⟩ := Nat.exists_eq_succ_of_ne_zero positive.ne'
              rw [isRest, List.drop_succ_cons, List.length_drop]
              congr 1
              simp only [List.length_cons] at within
              omega
            refine induction meets.tail (.inr ?_) (inert.occurs_append occurs)
            rw [skipped]
            exact ends

theorem not_occurs_sub (inert : Inert trace replacement) (severs : Severs word pattern trace)
    (meets : Meets word pattern trace none text) :
    ¬trace.Occurs none (sub word pattern (fun _ => replacement) text) :=
  not_occurs_subFrom inert severs meets (.inl ⟨rfl, rfl⟩)

/-! ## How far a pattern reaches -/

/-- The fewest characters a pattern takes. -/
def least : Regex α → Nat
  | .empty | .boundary | .optional _ | .ahead _ => 0
  | .char _ => 1
  | .many least _ => least
  | .seq first second => first.least + second.least
  | .alt first second => min first.least second.least
  | .group inner => inner.least

theorem mem_run (member : reached ∈ pattern.run word cursor) :
    ∃ count, pattern.least ≤ count ∧ count ≤ cursor.rest.length ∧
      reached.rest = cursor.rest.drop count ∧ reached.before = (cursor.advance count).before := by
  have stays : ∀ cursor : Cursor α, ∃ count, 0 ≤ count ∧ count ≤ cursor.rest.length ∧
      cursor.rest = cursor.rest.drop count ∧ cursor.before = (cursor.advance count).before :=
    fun cursor => ⟨0, le_rfl, Nat.zero_le _, by simp, by simp⟩
  induction pattern generalizing cursor reached with
  | empty =>
      obtain rfl := List.mem_singleton.mp member
      exact stays _
  | char accepts =>
      rw [run] at member
      split_ifs at member with accepted
      · obtain rfl := List.mem_singleton.mp member
        refine ⟨1, le_rfl, ?_, rfl, rfl⟩
        cases isRest : cursor.rest with
        | nil => simp [isRest] at accepted
        | cons character rest => simp
      · cases member
  | many least accepts =>
      obtain ⟨count, enough, within, rfl⟩ := mem_run_many member
      exact ⟨count, enough, within.trans (List.takeWhile_prefix accepts).length_le, rfl, rfl⟩
  | boundary =>
      rw [run] at member
      split_ifs at member
      · obtain rfl := List.mem_singleton.mp member
        exact stays _
      · cases member
  | seq first second firstInduction secondInduction =>
      obtain ⟨middle, isMiddle, isReached⟩ := List.mem_flatMap.mp member
      obtain ⟨left, leftLeast, leftWithin, leftRest, leftBefore⟩ := firstInduction isMiddle
      obtain ⟨right, rightLeast, rightWithin, rightRest, rightBefore⟩ := secondInduction isReached
      have same : (middle.advance right).before = ((cursor.advance left).advance right).before := by
        simp only [Cursor.advance, leftRest, leftBefore]
      rw [leftRest, List.length_drop] at rightWithin
      refine ⟨left + right, Nat.add_le_add leftLeast rightLeast, by omega, ?_, ?_⟩
      · rw [rightRest, leftRest, List.drop_drop]
      · rw [rightBefore, same, Cursor.advance_advance]
  | alt first second firstInduction secondInduction =>
      rcases List.mem_append.mp member with isFirst | isSecond
      · obtain ⟨count, enough, reaches⟩ := firstInduction isFirst
        exact ⟨count, (min_le_left _ _).trans enough, reaches⟩
      · obtain ⟨count, enough, reaches⟩ := secondInduction isSecond
        exact ⟨count, (min_le_right _ _).trans enough, reaches⟩
  | optional inner induction =>
      rcases List.mem_append.mp member with isInner | isSame
      · obtain ⟨count, -, reaches⟩ := induction isInner
        exact ⟨count, Nat.zero_le _, reaches⟩
      · obtain rfl := List.mem_singleton.mp isSame
        exact stays _
  | group inner induction =>
      obtain ⟨ungrouped, isInner, rfl⟩ := List.mem_map.mp member
      obtain ⟨count, reaches⟩ := induction isInner
      exact ⟨count, reaches⟩
  | ahead inner induction =>
      rw [run] at member
      split_ifs at member
      · cases member
      · obtain rfl := List.mem_singleton.mp member
        exact stays _

/-! ## Words behind a boundary -/

theorem fits_append {first second : List (α → Bool)} {text : List α} :
    Fits (first ++ second) text ↔ Fits first text ∧ Fits second (text.drop first.length) := by
  induction first generalizing text with
  | nil => simp [Fits]
  | cons accepts first induction =>
      cases text with
      | nil => simp [Fits]
      | cons character text => simp [Fits, induction, and_assoc]

theorem fits_replicate {count : Nat} {accepts : α → Bool} {text : List α} :
    Fits (List.replicate count accepts) text ↔ count ≤ (text.takeWhile accepts).length := by
  induction count generalizing text with
  | zero => simp [Fits]
  | succ count induction =>
      cases text with
      | nil => simp [List.replicate_succ, Fits]
      | cons character text =>
          by_cases accepted : accepts character = true
          · simp [List.replicate_succ, Fits, accepted, induction]
          · simp [List.replicate_succ, Fits, accepted]

/-- A word goes wrong before the end of a text. -/
def Fails : List (α → Bool) → List α → Bool
  | [], _ => false
  | _ :: _, [] => false
  | accepts :: rest, character :: text => !accepts character || Fails rest text

theorem not_fits_of_fails {accepts : List (α → Bool)} {text after : List α}
    (fails : Fails accepts text = true) : ¬Fits accepts (text ++ after) := by
  induction accepts generalizing text with
  | nil => cases fails
  | cons accept accepts induction =>
      cases text with
      | nil => cases fails
      | cons character text =>
          intro fits
          simp only [Fails, Bool.or_eq_true, Bool.not_eq_true'] at fails
          rcases fails with refused | later
          · rw [fits.1] at refused
            cases refused
          · exact induction later fits.2

theorem Fits.of_prefix {accepts : List (α → Bool)} {text other : List α} (fits : Fits accepts text)
    (same : text.take accepts.length <+: other) : Fits accepts other := by
  induction accepts generalizing text other with
  | nil => trivial
  | cons accept accepts induction =>
      cases text with
      | nil => exact fits.elim
      | cons character text =>
          cases other with
          | nil => simp at same
          | cons second other =>
              obtain ⟨rfl, tail⟩ := List.cons_prefix_cons.mp same
              exact ⟨fits.1, induction fits.2 tail⟩

theorem Fits.kind {kind : α → Prop} {accepts : List (α → Bool)} {text : List α}
    (fits : Fits accepts text)
    (sound : ∀ accept ∈ accepts, ∀ character, accept character = true → kind character) :
    ∀ character ∈ text.take accepts.length, kind character := by
  induction accepts generalizing text with
  | nil => simp
  | cons accept accepts induction =>
      cases text with
      | nil => simp
      | cons first text =>
          intro character member
          rcases List.mem_cons.mp member with rfl | later
          · exact sound accept List.mem_cons_self _ fits.1
          · exact induction fits.2 (fun accept isAccept =>
              sound accept (List.mem_cons_of_mem _ isAccept)) character later

/-- The trace of some words that stand behind no word character. -/
def Trace.ofWords (word : α → Bool) (kind : α → Bool) (words : List (List (α → Bool)))
    (sound : ∀ accepts ∈ words, accepts ≠ [] ∧
      ∀ accept ∈ accepts, ∀ character, accept character = true → kind character = true) :
    Trace α where
  follows before := before.any word = false
  kind character := kind character = true
  shows text := ∃ accepts ∈ words, Fits accepts text
  ofWord text shows := by
    obtain ⟨accepts, member, fits⟩ := shows
    obtain ⟨nonempty, isKind⟩ := sound accepts member
    refine ⟨text.take accepts.length, ?_, List.take_prefix _ _, fits.kind isKind,
      fun other same => ⟨accepts, member, fits.of_prefix same⟩⟩
    cases accepts with
    | nil => exact absurd rfl nonempty
    | cons accept accepts =>
        cases text with
        | nil => exact fits.elim
        | cons first text => simp

theorem mem_run_any {patterns : List (Regex α)} :
    reached ∈ (any patterns).run word cursor ↔
      ∃ pattern ∈ patterns, reached ∈ pattern.run word cursor := by
  induction patterns with
  | nil => simp [any, run]
  | cons first rest induction =>
      cases rest with
      | nil => simp [any]
      | cons second rest =>
          have isAlt : (any (first :: second :: rest)).run word cursor =
              first.run word cursor ++ (any (second :: rest)).run word cursor := rfl
          rw [isAlt, List.mem_append, induction, List.exists_mem_cons_iff (l := second :: rest)]

theorem head?_flatMap_eq_some {β γ : Type} {items : List β} {make : β → List γ} {first : γ}
    (isFirst : (items.flatMap make).head? = some first) :
    ∃ item ∈ items, (make item).head? = some first := by
  induction items with
  | nil => cases isFirst
  | cons item items induction =>
      rw [List.flatMap_cons, List.head?_append] at isFirst
      cases isMade : (make item).head? with
      | some made =>
          rw [isMade, Option.some_or] at isFirst
          exact ⟨item, List.mem_cons_self, isMade.trans isFirst⟩
      | none =>
          rw [isMade, Option.none_or] at isFirst
          obtain ⟨later, member, found⟩ := induction isFirst
          exact ⟨later, List.mem_cons_of_mem _ member, found⟩

/-- A boundary, one of some words, and at least so many characters of one kind. -/
def announced (words : List (List (α → Bool))) (least : Nat) (kind : α → Bool) : Regex α :=
  all [.boundary, any (words.map literal), .many least kind]

section Announced

variable {words : List (List (α → Bool))} {least : Nat} {kind : α → Bool} {text : List α}

/-- The words of an announcement, as far as a match needs them. -/
def announcements (words : List (List (α → Bool))) (least : Nat) (kind : α → Bool) :
    List (List (α → Bool)) :=
  words.map (· ++ List.replicate least kind)

theorem announced_isSome
    (starts : ∀ accepts ∈ words, ∀ text, Fits accepts text → text.head?.any word = true) :
    ((announced words least kind).firstMatch word before text).isSome = true ↔
      before.any word = false ∧ ∃ accepts ∈ announcements words least kind, Fits accepts text := by
  simp only [firstMatch, List.isSome_head?, announced, all, run_seq, run_boundary]
  constructor
  · intro nonempty
    obtain ⟨reached, member⟩ := List.exists_mem_of_ne_nil _ nonempty
    obtain ⟨first, isFirst, member⟩ := List.mem_flatMap.mp member
    split_ifs at isFirst with boundary
    · obtain rfl := List.mem_singleton.mp isFirst
      obtain ⟨second, isSecond, isReached⟩ := List.mem_flatMap.mp member
      obtain ⟨pattern, isPattern, isSecond⟩ := mem_run_any.mp isSecond
      obtain ⟨accepts, isWord, rfl⟩ := List.mem_map.mp isPattern
      rw [run_literal] at isSecond
      split_ifs at isSecond with fits
      · obtain rfl := List.mem_singleton.mp isSecond
        obtain ⟨count, enough, within, -⟩ := mem_run_many isReached
        have heads := starts accepts isWord text fits
        refine ⟨?_, _, List.mem_map_of_mem isWord, fits_append.mpr ⟨fits, ?_⟩⟩
        · simpa [heads] using boundary
        · exact fits_replicate.mpr (enough.trans within)
      · cases isSecond
    · cases isFirst
  · rintro ⟨follows, accepts, member, fits⟩
    obtain ⟨marker, isWord, rfl⟩ := List.mem_map.mp member
    obtain ⟨fitsMarker, fitsRun⟩ := fits_append.mp fits
    have heads := starts marker isWord text fitsMarker
    have boundary : before.any word ≠ text.head?.any word := by
      rw [follows, heads]
      exact Bool.false_ne_true
    rw [if_pos boundary]
    have isMarker : Cursor.advance ⟨before, text, []⟩ marker.length ∈
        (any (words.map literal)).run word ⟨before, text, []⟩ := by
      refine mem_run_any.mpr ⟨literal marker, List.mem_map_of_mem isWord, ?_⟩
      rw [run_literal, if_pos fitsMarker]
      exact List.mem_singleton_self _
    have isEnd := head?_run_many word least kind
      (Cursor.advance ⟨before, text, []⟩ marker.length)
    rw [Cursor.advance_rest, if_pos (fits_replicate.mp fitsRun)] at isEnd
    have isReached := List.mem_of_mem_head? isEnd
    simp only [List.flatMap_cons, List.flatMap_nil, List.append_nil]
    exact List.ne_nil_of_mem (List.mem_flatMap.mpr ⟨_, isMarker, isReached⟩)

/-- An announcement goes on as far as its characters do. -/
theorem announced_ends
    (matched : (announced words least kind).firstMatch word before text = some reached)
    {character : α} {rest : List α} (isRest : reached.rest = character :: rest) :
    kind character = false := by
  simp only [firstMatch, announced, all, run_seq] at matched
  obtain ⟨first, -, matched⟩ := head?_flatMap_eq_some matched
  obtain ⟨second, -, matched⟩ := head?_flatMap_eq_some matched
  rw [head?_run_many] at matched
  split_ifs at matched
  obtain rfl := Option.some.inj matched
  have behind : second.rest.drop (second.rest.takeWhile kind).length =
      second.rest.dropWhile kind := by
    conv_lhs => rw [← List.takeWhile_append_dropWhile (p := kind) (l := second.rest)]
    exact List.drop_left' (by rw [List.takeWhile_append_dropWhile])
  have stops := List.head?_dropWhile_not kind second.rest
  rw [Cursor.advance_rest, behind] at isRest
  rw [isRest] at stops
  exact stops

end Announced

end Regex

end ManyAlerts
