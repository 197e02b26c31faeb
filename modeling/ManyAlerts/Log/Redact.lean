import ManyAlerts.Library.JsonText
import ManyAlerts.Library.Regex

/-!
# What is kept out of the log

`redact` rewrites a line by eight rules in turn.  The patterns are those of the source;
they ignore case where it does, which for the ASCII letters of a pattern means the four
other letters that fold to one of them, too.  Which characters beyond ASCII are letters
or digits is left to a table.

The seventh rule removes the credentials that announce themselves, and the eighth cannot
bring one back: where it cuts, the next character is not one a credential starts with.
-/

namespace ManyAlerts

/-- A text of the interpreter: its code points. -/
abbrev LogText : Type := List Nat

/-- What the interpreter knows of the characters beyond ASCII. -/
structure CharTable where
  alnum : Nat → Bool
  printable : Nat → Bool
  /-- The long s, which folds to an s, is a letter. -/
  longS : alnum 0x17f = true

/-! ## Characters -/

def isUpper (point : Nat) : Bool := 65 ≤ point && point ≤ 90
def isLower (point : Nat) : Bool := 97 ≤ point && point ≤ 122
def isNumeral (point : Nat) : Bool := 48 ≤ point && point ≤ 57

/-- `[A-Za-z0-9]`. -/
def isAlphanumeric (point : Nat) : Bool := isUpper point || isLower point || isNumeral point

/-- `\w`. -/
def CharTable.word (table : CharTable) (point : Nat) : Bool :=
  if point < 128 then isAlphanumeric point || point == 95 else table.alnum point

/-- `\s`. -/
def isSpace (point : Nat) : Bool :=
  9 ≤ point && point ≤ 13 || 28 ≤ point && point ≤ 32 || 0x2000 ≤ point && point ≤ 0x200a ||
    [0x85, 0xa0, 0x1680, 0x2028, 0x2029, 0x202f, 0x205f, 0x3000].contains point

/-- The ASCII letter in lower case that a character is, when case is ignored. -/
def foldCase (point : Nat) : Nat :=
  if isUpper point then point + 32
  else if point = 0x130 ∨ point = 0x131 then 105
  else if point = 0x17f then 115
  else if point = 0x212a then 107
  else point

/-- One of some characters. -/
def oneOf (characters : String) (point : Nat) : Bool := (pointsOf characters).contains point

/-- `[a-z]`, with case ignored. -/
def isLetter (point : Nat) : Bool := isLower (foldCase point)

/-- `[A-Za-z0-9+/=_.\-]`, with case ignored. -/
def isCredential (point : Nat) : Bool := isLetter point || isNumeral point || oneOf "+/=_.-" point

/-! ## Rules -/

/-- A word in lower case, with case ignored. -/
def folded (text : String) : List (Nat → Bool) :=
  (pointsOf text).map fun expected point => foldCase point == expected

def foldedWord (text : String) : Regex Nat := .literal (folded text)

def redacted : LogText := pointsOf "<redacted>"

/-- `_CREDENTIAL_WORD`. -/
def credentialWord : Regex Nat :=
  .any [foldedWord "token", foldedWord "password", foldedWord "passwd", foldedWord "secret",
    .all [foldedWord "api", .optional (.char (oneOf "_-")), foldedWord "key"],
    foldedWord "credential"]

/-- `_QUOTE`. -/
def quoteMark : Regex Nat := .optional (.char (oneOf "'\""))

/-- The characters of `_VALUE`. -/
def isValue (point : Nat) : Bool := !isSpace point && !oneOf "'\"" point

/-- A pattern, and what its matches become. -/
structure Redaction where
  pattern : Regex Nat
  replacement : List LogText → LogText

/-- The first groups, unchanged, before the replacement. -/
def keepGroups (groups : List LogText) : LogText := groups.flatten ++ redacted

section Rules

variable (table : CharTable)

/-- `[\w.\-]`. -/
def CharTable.nameChar (point : Nat) : Bool := table.word point || oneOf ".-" point

/-- An `Authorization` header, with whatever scheme. -/
def authorizationHeader : Redaction where
  pattern := .all [.boundary, foldedWord "authorization", .boundary, .many 0 isSpace,
    .char (oneOf ":="), .many 0 isSpace,
    .optional (.all [.char isLetter, .many 0 table.nameChar, .many 1 isSpace]), .many 1 isValue]
  replacement _ := pointsOf "Authorization: " ++ redacted

/-- A basic or bearer credential without a header. -/
def bareCredential : Redaction where
  pattern := .all [.boundary, .group (.any [foldedWord "basic", foldedWord "bearer"]),
    .many 1 isSpace, .many 8 isCredential]
  replacement groups := groups.flatten ++ pointsOf " " ++ redacted

/-- The basic-auth flag of curl. -/
def userFlag : Redaction where
  pattern := .all [.group (.any [
      .all [.char isSpace, foldedWord "-u", .many 1 isSpace],
      .all [foldedWord "--user", .many 1 fun point => oneOf "=" point || isSpace point]]),
    .group quoteMark, .many 1 isValue]
  replacement := keepGroups

/-- A flag with a credential word in its name. -/
def credentialFlag : Redaction where
  pattern := .all [.group (.all [.char (oneOf "-"), .optional (.char (oneOf "-")),
      .many 0 fun point => isLetter point || oneOf "-" point, credentialWord,
      .many 0 fun point => isLetter point || oneOf "-" point,
      .many 1 fun point => oneOf "=" point || isSpace point]),
    .group quoteMark, .many 1 isValue]
  replacement := keepGroups

/-- An assignment to a key with a credential word in its name. -/
def credentialAssignment : Redaction where
  pattern := .all [.group (.all [.optional (.char (oneOf "\"")), .many 0 table.nameChar,
      credentialWord, .many 0 table.nameChar, .optional (.char (oneOf "\"")), .many 0 isSpace,
      .char (oneOf ":="), .many 0 isSpace]),
    .group quoteMark, .many 1 fun point => !isSpace point && !oneOf "\"',;\x7d" point]
  replacement := keepGroups

/-- A credential word and a long value. -/
def credentialProse : Redaction where
  pattern := .all [.boundary, .group credentialWord, .group (.many 1 isSpace),
    .many 16 isValue]
  replacement := keepGroups

/-- How a credential that announces itself starts. -/
def credentialMarkers : List (List (Nat → Bool)) :=
  [folded "atatt", folded "atctt", folded "sk-ant-"]

/-- `\b(?:ATATT|ATCTT|sk-ant-)[A-Za-z0-9+/=_.\-]{8,}`, with case ignored. -/
def announcedCredential : Regex Nat := .announced credentialMarkers 8 isCredential

def announcedRedaction : Redaction := ⟨announcedCredential, fun _ => redacted⟩

/-- Some letters and digits with a digit and a letter among them. -/
def unmarkedRun : Regex Nat :=
  .all [.boundary, .ahead (.seq (.many 0 isAlphanumeric) (.char isNumeral)),
    .ahead (.seq (.many 0 isAlphanumeric) (.char fun point => isUpper point || isLower point)),
    .many 32 isAlphanumeric, .boundary]

def unmarkedRedaction : Redaction := ⟨unmarkedRun, fun _ => redacted⟩

/-- `_REDACTIONS`. -/
def redactions : List Redaction :=
  [authorizationHeader table, bareCredential, userFlag, credentialFlag,
    credentialAssignment table, credentialProse, announcedRedaction, unmarkedRedaction]

def redact (text : LogText) : LogText :=
  (redactions table).foldl (fun text rule => rule.pattern.sub table.word rule.replacement text) text

/-- A credential that announces itself stands in a text. -/
def Announces (text : LogText) : Prop := announcedCredential.Occurs table.word text

end Rules

/-! ## The trace of a credential -/

variable {table : CharTable} {text : LogText}

theorem isUpper_iff {point : Nat} : isUpper point = true ↔ 65 ≤ point ∧ point ≤ 90 := by
  simp [isUpper]

/-- The characters that fold to another. -/
theorem foldCase_cases (point : Nat) :
    foldCase point = point ∨ isUpper point = true ∧ foldCase point = point + 32 ∨
      (point = 0x130 ∨ point = 0x131) ∧ foldCase point = 105 ∨
      point = 0x17f ∧ foldCase point = 115 ∨ point = 0x212a ∧ foldCase point = 107 := by
  unfold foldCase
  split_ifs with upper dotted long kelvin
  · exact .inr (.inl ⟨upper, rfl⟩)
  · exact .inr (.inr (.inl ⟨dotted, rfl⟩))
  · exact .inr (.inr (.inr (.inl ⟨long, rfl⟩)))
  · exact .inr (.inr (.inr (.inr ⟨kelvin, rfl⟩)))
  · exact .inl rfl

theorem isCredential_of_foldCase {point : Nat} (credential : isCredential (foldCase point) = true) :
    isCredential point = true := by
  rcases foldCase_cases point with same | ⟨upper, isFolded⟩ | ⟨dotted, isFolded⟩ |
    ⟨long, isFolded⟩ | ⟨kelvin, isFolded⟩
  · rwa [same] at credential
  · rw [isUpper_iff] at upper
    have letter : isLetter point = true := by
      simp only [isLetter, isFolded, isLower, Bool.and_eq_true, decide_eq_true_eq]
      omega
    rw [isCredential, letter]
    rfl
  · rcases dotted with rfl | rfl <;> decide
  · subst long
    decide
  · subst kelvin
    decide

theorem mem_folded {marker : String} {accept : Nat → Bool} (member : accept ∈ folded marker) :
    ∃ expected ∈ pointsOf marker, ∀ point, accept point = true → foldCase point = expected := by
  obtain ⟨expected, isExpected, rfl⟩ := List.mem_map.mp member
  exact ⟨expected, isExpected, fun point accepted => by simpa using accepted⟩

theorem folded_isCredential {marker : List (Nat → Bool)} (member : marker ∈ credentialMarkers) :
    ∀ accept ∈ marker, ∀ point, accept point = true → isCredential point = true := by
  have folds : ∀ text : String, (∀ expected ∈ pointsOf text, isCredential expected = true) →
      ∀ accept ∈ folded text, ∀ point, accept point = true → isCredential point = true := by
    intro text credential accept isAccept point accepted
    obtain ⟨expected, isExpected, same⟩ := mem_folded isAccept
    apply isCredential_of_foldCase
    rw [same point accepted]
    exact credential expected isExpected
  simp only [credentialMarkers, List.mem_cons, List.not_mem_nil, or_false] at member
  rcases member with rfl | rfl | rfl
  · exact folds _ (by decide)
  · exact folds _ (by decide)
  · exact folds _ (by decide)

/-- A character that folds to an a or an s is a letter. -/
theorem word_of_foldCase (table : CharTable) {point : Nat}
    (starts : foldCase point = 97 ∨ foldCase point = 115) : table.word point = true := by
  rcases foldCase_cases point with same | ⟨upper, isFolded⟩ | ⟨dotted, isFolded⟩ |
    ⟨long, isFolded⟩ | ⟨kelvin, isFolded⟩
  · rw [same] at starts
    rcases starts with rfl | rfl <;> rfl
  · rw [isFolded] at starts
    obtain rfl | rfl : point = 65 ∨ point = 83 := by omega
    · rfl
    · rfl
  · omega
  · subst long
    exact table.longS
  · omega

/-- A marker starts with a letter. -/
theorem markers_start (table : CharTable) :
    ∀ marker ∈ credentialMarkers, ∀ text, Regex.Fits marker text →
      text.head?.any table.word = true := by
  intro marker member text fits
  cases text with
  | nil =>
      simp only [credentialMarkers, List.mem_cons, List.not_mem_nil, or_false] at member
      rcases member with rfl | rfl | rfl <;> exact fits.elim
  | cons point text =>
      have starts : foldCase point = 97 ∨ foldCase point = 115 := by
        simp only [credentialMarkers, List.mem_cons, List.not_mem_nil, or_false] at member
        rcases member with rfl | rfl | rfl
        · exact .inl (eq_of_beq fits.1)
        · exact .inl (eq_of_beq fits.1)
        · exact .inr (eq_of_beq fits.1)
      exact word_of_foldCase table starts

def credentialTrace (table : CharTable) : Regex.Trace Nat :=
  .ofWords table.word isCredential (Regex.announcements credentialMarkers 8 isCredential) (by
    intro accepts member
    obtain ⟨marker, isMarker, rfl⟩ := List.mem_map.mp member
    refine ⟨by simp [List.replicate_succ], fun accept isAccept => ?_⟩
    rcases List.mem_append.mp isAccept with inMarker | inRun
    · exact folded_isCredential isMarker accept inMarker
    · obtain rfl := List.eq_of_mem_replicate inRun
      exact fun _ accepted => accepted)

theorem announces_iff : Announces table text ↔ (credentialTrace table).Occurs none text := by
  simp only [Announces, Regex.Occurs, announcedCredential, Regex.Trace.Occurs, Option.or_none,
    Regex.announced_isSome (markers_start table)]
  rfl

/-- What a credential starts with is a letter. -/
theorem credentialTrace_head {point : Nat} {more : LogText}
    (shows : (credentialTrace table).shows (point :: more)) :
    isCredential point = true ∧ table.word point = true := by
  obtain ⟨accepts, member, fits⟩ := shows
  obtain ⟨marker, isMarker, rfl⟩ := List.mem_map.mp member
  have fitsMarker := (Regex.fits_append.mp fits).1
  refine ⟨?_, by simpa using markers_start table marker isMarker _ fitsMarker⟩
  have kinds := fitsMarker.kind (folded_isCredential isMarker)
  refine kinds point ?_
  cases marker with
  | nil =>
      simp only [credentialMarkers, List.mem_cons, List.not_mem_nil, or_false] at isMarker
      rcases isMarker with impossible | impossible | impossible <;> cases impossible
  | cons first marker => simp

/-! ## The last two rules -/

/-- No marker starts in a text, however the text goes on. -/
def Unmarked (text : LogText) : Bool :=
  text.tails.all fun suffix => suffix.isEmpty ||
    credentialMarkers.all fun marker => Regex.Fails marker suffix

theorem not_shows_of_unmarked {left right : LogText} (unmarked : Unmarked text = true)
    (isText : text = left ++ right) (nonempty : right ≠ []) (after : LogText) :
    ¬(credentialTrace table).shows (right ++ after) := by
  rintro ⟨accepts, member, fits⟩
  obtain ⟨marker, isMarker, rfl⟩ := List.mem_map.mp member
  have isTail : right ∈ text.tails := (List.mem_tails right text).mpr ⟨left, isText.symm⟩
  have checked := List.all_eq_true.mp unmarked right isTail
  rw [Bool.or_eq_true, List.isEmpty_iff] at checked
  have fails := List.all_eq_true.mp (checked.resolve_left nonempty) marker isMarker
  exact Regex.not_fits_of_fails fails (Regex.fits_append.mp fits).1

theorem inert_of_unmarked {point : Nat} (unmarked : Unmarked (point :: text) = true)
    (other : isCredential point = false) :
    Regex.Inert (credentialTrace table) (point :: text) where
  first := by
    refine ⟨point, text, rfl, ?_⟩
    change ¬isCredential point = true
    rw [other]
    exact Bool.false_ne_true
  within _ _ after isText nonempty := not_shows_of_unmarked unmarked isText nonempty after

theorem inert_redacted : Regex.Inert (credentialTrace table) redacted :=
  inert_of_unmarked (by decide) (by decide)

theorem not_announces_of_unmarked (unmarked : Unmarked text = true) : ¬Announces table text := by
  rw [announces_iff]
  intro ⟨left, right, isText, _, shows⟩
  cases right with
  | nil =>
      obtain ⟨lead, nonempty, isLead, _⟩ := (credentialTrace table).ofWord _ shows
      exact nonempty (List.prefix_nil.mp isLead)
  | cons point right =>
      rw [← List.append_nil (point :: right)] at shows
      exact not_shows_of_unmarked unmarked isText (by simp) [] shows

theorem announcedCredential_severs :
    Regex.Severs table.word announcedCredential (credentialTrace table) := by
  intro before text reached matched
  have member := List.mem_of_mem_head? matched
  obtain ⟨count, enough, within, isRest, -⟩ := Regex.mem_run member
  refine ⟨⟨count, lt_of_lt_of_le ?_ enough, within, isRest⟩, fun point rest isNext more shows => ?_⟩
  · decide
  · have stopped := Regex.announced_ends matched isNext
    rw [(credentialTrace_head shows).1] at stopped
    cases stopped

theorem word_of_isAlphanumeric (table : CharTable) {point : Nat}
    (alphanumeric : isAlphanumeric point = true) : table.word point = true := by
  have small : point < 128 := by
    simp only [isAlphanumeric, isUpper, isLower, isNumeral, Bool.or_eq_true, Bool.and_eq_true,
      decide_eq_true_eq] at alphanumeric
    omega
  rw [CharTable.word, if_pos small, alphanumeric]
  rfl

/-- A run of letters and digits ends at a boundary, so no letter follows it. -/
theorem unmarkedRun_ends {cursor reached : Cursor Nat} {point : Nat} {rest : LogText}
    (member : reached ∈ unmarkedRun.run table.word cursor) (isNext : reached.rest = point :: rest) :
    table.word point = false := by
  simp only [unmarkedRun, Regex.all, Regex.run_seq, List.mem_flatMap] at member
  obtain ⟨_, -, _, -, third, -, fourth, isFourth, isReached⟩ := member
  rw [Regex.run_boundary] at isReached
  split_ifs at isReached with boundary
  · obtain rfl := List.mem_singleton.mp isReached
    obtain ⟨count, enough, within, rfl⟩ := Regex.mem_run_many isFourth
    have taken : third.rest.take count = (third.rest.takeWhile isAlphanumeric).take count := by
      have isPrefix := List.takeWhile_prefix isAlphanumeric (l := third.rest)
      obtain ⟨behind, isRest⟩ := isPrefix
      conv_lhs => rw [← isRest]
      exact List.take_append_of_le_length within
    have nonempty : third.rest.take count ≠ [] := by
      rw [taken]
      apply List.ne_nil_of_length_pos
      rw [List.length_take]
      omega
    obtain ⟨last, isLast⟩ : ∃ last, (third.rest.take count).getLast? = some last :=
      ⟨_, List.getLast?_eq_some_getLast nonempty⟩
    have isWord : (third.advance count).before.any table.word = true := by
      have member := List.mem_of_getLast? isLast
      rw [taken] at member
      have alphanumeric := List.mem_takeWhile_imp (List.mem_of_mem_take member)
      simpa [Cursor.advance, isLast] using word_of_isAlphanumeric table alphanumeric
    rw [isWord, isNext] at boundary
    simpa using boundary
  · cases isReached

theorem unmarkedRun_severs : Regex.Severs table.word unmarkedRun (credentialTrace table) := by
  intro before text reached matched
  have member := List.mem_of_mem_head? matched
  obtain ⟨count, enough, within, isRest, -⟩ := Regex.mem_run member
  refine ⟨⟨count, lt_of_lt_of_le ?_ enough, within, isRest⟩, fun point rest isNext more shows => ?_⟩
  · decide
  · have stopped := unmarkedRun_ends member isNext
    rw [(credentialTrace_head shows).2] at stopped
    cases stopped

/-- Whatever the other rules do, no credential that announces itself is left. -/
theorem not_announces_redact (table : CharTable) (text : LogText) :
    ¬Announces table (redact table text) := by
  rw [announces_iff]
  simp only [redact, redactions, List.foldl_cons, List.foldl_nil]
  generalize Regex.sub table.word credentialProse.pattern _ _ = given
  have removed : ¬(credentialTrace table).Occurs none
      (announcedCredential.sub table.word (fun _ => redacted) given) := by
    apply Regex.not_occurs_sub inert_redacted announcedCredential_severs
    intro left right _ follows shows
    exact (Regex.announced_isSome (markers_start table)).mpr ⟨follows, shows⟩
  apply Regex.not_occurs_sub inert_redacted unmarkedRun_severs
  intro left right isText follows shows
  exact absurd ⟨left, right, isText, follows, shows⟩ removed

end ManyAlerts
