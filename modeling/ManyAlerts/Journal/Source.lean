import ManyAlerts.Journal.Vocabulary

/-!
# The sanitized source record

The bounded source record of `journal_source`: its JSON form, the parser that
accepts it back, its digest and its deduplication key.  The parser is the only
judge of a source: `validateSource` writes a record out and reads it back.
-/

namespace ManyAlerts

def maxAlerts : Nat := 32
def maxValues : Nat := 64
def maxSourceRecordBytes : Nat := 4096
def maxRefIdBytes : Nat := 32
def maxStartsAtBytes : Nat := 30
def maxTruncatedAlerts : Int := 2 ^ 31 - 1

def sourceTag : String := "rj.source.v1"
def dedupeKeyTag : String := "rj.dedupe-key.v1"

/-! ## Canonical numbers -/

/-- `canonical_number` of an integer. -/
def canonicalInteger (value : Int) : Except Failure (List Char) := do
  failIf (maxSafeInteger < value.natAbs) (.source .number)
  return (if value < 0 then ['-'] else []) ++ Nat.toDigits 10 value.natAbs

/-- `canonical_number` of a decimal lexeme. -/
def canonicalDecimal (text : List Char) : Except Failure (List Char) := do
  failIf (maxJsonNumberChars < text.length) (.source .number)
  let lexeme ← orFail (.source .number) (NumberLexeme.scan text)
  let parsed ← orFail (.source .number) (Binary64.ofDecimal lexeme.digits lexeme.scale)
  match parsed.integer? with
  | some magnitude =>
      if magnitude ≤ maxSafeInteger then
        return (if lexeme.negative ∧ magnitude ≠ 0 then ['-'] else []) ++
          Nat.toDigits 10 magnitude
      else return (if lexeme.negative then ['-'] else []) ++ parsed.repr
  | none => return (if lexeme.negative then ['-'] else []) ++ parsed.repr

/-- `_CANONICAL_NUMBER_PATTERN`: a JSON lexeme whose exponent is a signed `e`. -/
def isCanonicalLexeme (text : List Char) : Bool :=
  match NumberLexeme.scan text with
  | none => false
  | some lexeme =>
      match lexeme.exponent with
      | none => true
      | some (letter, sign, _) => letter = 'e' && sign.isSome

def isCanonicalNumber (text : String) : Bool :=
  let characters := text.toList
  if maxJsonNumberChars < characters.length ∨ isCanonicalLexeme characters = false then false
  else
    let canonical :=
      if '.' ∈ characters ∨ 'e' ∈ characters then canonicalDecimal characters
      else match characters with
        | '-' :: digits => canonicalInteger (-(NumberLexeme.digitsValue digits : Int))
        | digits => canonicalInteger (NumberLexeme.digitsValue digits)
    match canonical with
    | .ok expected => expected = characters
    | .error _ => false

/-! ## Source records -/

inductive ProvenanceKind where
  | http
deriving DecidableEq

def ProvenanceKind.text : ProvenanceKind → String
  | .http => "http"

structure Provenance where
  kind : ProvenanceKind
  path : String
  line : Option Int
deriving DecidableEq

def httpProvenance : Provenance := ⟨.http, "/notification", none⟩

abbrev AlertValues := Option (List (String × Option String))

structure SourceAlert where
  fingerprint : String
  status : AlertStatus
  values : AlertValues
  startsAt : Option String
deriving DecidableEq

structure SourceRecord where
  sourceGroup : String
  alerts : List SourceAlert
  truncatedAlerts : Option Int
  bodyDigest : String
  provenance : Provenance
deriving DecidableEq

/-! ## Writing a source -/

/-- The `values` object: a repeated reference id overwrites the earlier entry. -/
def valuesJson (values : List (String × Option String)) : Json :=
  .obj ((Dict.empty : Dict String Json).setAll
    (values.map fun pair => (pair.1, Json.optional Json.str pair.2))).entries

def alertToJson (alert : SourceAlert) : Json :=
  .obj [("fingerprint", .str alert.fingerprint),
    ("starts_at", Json.optional Json.str alert.startsAt),
    ("status", .str alert.status.text),
    ("values", Json.optional valuesJson alert.values)]

def provenanceToJson (provenance : Provenance) : Json :=
  .obj [("kind", .str provenance.kind.text),
    ("line", Json.optional Json.num provenance.line),
    ("path", .str provenance.path)]

def sourceToJson (source : SourceRecord) : Json :=
  .obj [("alerts", .arr (source.alerts.map alertToJson)),
    ("body_digest", .str source.bodyDigest),
    ("provenance", provenanceToJson source.provenance),
    ("source_group", .str source.sourceGroup),
    ("truncated_alerts", Json.optional Json.num source.truncatedAlerts)]

/-! ## Reading a source -/

def parseProvenance (value : Json) : Except Failure Provenance := do
  failIf (value.hasExactKeys ["kind", "line", "path"] = false) (.source .provenance)
  let provenance ← match value.get "kind", value.get "path", value.get "line" with
    | .str "http", .str path, .null => pure (⟨.http, path, none⟩ : Provenance)
    | .str "http", .str path, .num line => pure ⟨.http, path, some line⟩
    | _, _, _ => .error (.source .provenance)
  failIf (provenance ≠ httpProvenance) (.source .provenance)
  return provenance

/-- One entry of a `values` object after the reference id before it. -/
def parseValue (previous : Option String) (member : String × Json) :
    Except Failure (String × Option String) := do
  failIf (matchesId maxRefIdBytes member.1 = false) (.source .values)
  failIf (∃ earlier ∈ previous, member.1 ≤ earlier) (.source .order)
  match member.2 with
  | .null => return (member.1, none)
  | .str number =>
      failIf (isCanonicalNumber number = false) (.source .values)
      return (member.1, some number)
  | _ => .error (.source .values)

def parseMembers (previous : Option String) :
    List (String × Json) → Except Failure (List (String × Option String))
  | [] => .ok []
  | member :: members => do
      let entry ← parseValue previous member
      let entries ← parseMembers (some member.1) members
      return entry :: entries

/-- `_parse_values`; the budget of values seen so far is passed along. -/
def parseValues (value : Json) (budget : Nat) : Except Failure (AlertValues × Nat) :=
  match value with
  | .null => .ok (none, budget)
  | .obj members => do
      let items ← parseMembers none members
      failIf (maxValues < budget + items.length) (.source .tooManyValues)
      return (some items, budget + items.length)
  | _ => .error (.source .values)

/-- `_STARTS_AT_PATTERN` with its length bound. -/
def isStartsAt (text : String) : Bool :=
  let characters := text.toList
  let fraction := characters.drop 19
  characters.length ≤ maxStartsAtBytes && 20 ≤ characters.length &&
    ((characters.take 19).zipIdx.all fun entry =>
      if entry.2 ∈ [4, 7] then entry.1 = '-'
      else if entry.2 = 10 then entry.1 = 'T'
      else if entry.2 ∈ [13, 16] then entry.1 = ':'
      else entry.1.isDigit) &&
    (fraction = ['Z'] ||
      (fraction.head? = some '.' && fraction.getLast? = some 'Z' &&
        3 ≤ fraction.length && fraction.length ≤ 11 &&
        ((fraction.drop 1).dropLast.all Char.isDigit)))

def parseStatus : Json → Except Failure AlertStatus
  | .str "firing" => .ok .firing
  | .str "resolved" => .ok .resolved
  | _ => .error (.source .status)

def parseStartsAt : Json → Except Failure (Option String)
  | .null => .ok none
  | .str text => do
      failIf (isStartsAt text = false) (.source .startsAt)
      return some text
  | _ => .error (.source .startsAt)

def parseText (failure : Failure) (accept : String → Bool) : Json → Except Failure String
  | .str text => do
      failIf (accept text = false) failure
      return text
  | _ => .error failure

def parseAlert (value : Json) (budget : Nat) : Except Failure (SourceAlert × Nat) := do
  failIf (value.hasExactKeys ["fingerprint", "starts_at", "status", "values"] = false)
    (.source .shape)
  let fingerprint ← parseText (.source .fingerprint) isFingerprint (value.get "fingerprint")
  let status ← parseStatus (value.get "status")
  let startsAt ← parseStartsAt (value.get "starts_at")
  let (values, budget) ← parseValues (value.get "values") budget
  return (⟨fingerprint, status, values, startsAt⟩, budget)

def parseAlerts : List Json → Nat → Except Failure (List SourceAlert)
  | [], _ => .ok []
  | item :: items, budget => do
      let (alert, budget) ← parseAlert item budget
      let alerts ← parseAlerts items budget
      return alert :: alerts

/-- Fingerprints strictly increase. -/
def checkOrder (previous : Option String) : List SourceAlert → Except Failure Unit
  | [] => .ok ()
  | alert :: alerts => do
      failIf (previous = some alert.fingerprint) (.source .duplicateFingerprint)
      failIf (∃ earlier ∈ previous, alert.fingerprint ≤ earlier) (.source .order)
      checkOrder (some alert.fingerprint) alerts

def parseTruncated : Json → Except Failure (Option Int)
  | .null => .ok none
  | .num count => do
      failIf (¬(0 ≤ count ∧ count ≤ maxTruncatedAlerts)) (.source .truncated)
      return some count
  | _ => .error (.source .truncated)

def sourceFromJson (value : Json) : Except Failure SourceRecord := do
  failIf (value.hasExactKeys
    ["alerts", "body_digest", "provenance", "source_group", "truncated_alerts"] = false)
    (.source .shape)
  let raw ← match value.get "alerts" with
    | .arr items => pure items
    | _ => .error (.source .shape)
  failIf (raw.length < 1) (.source .shape)
  failIf (maxAlerts < raw.length) (.source .tooManyAlerts)
  let alerts ← parseAlerts raw 0
  checkOrder none alerts
  let truncatedAlerts ← parseTruncated (value.get "truncated_alerts")
  let bodyDigest ← parseText (.source .bodyDigest) isHex64 (value.get "body_digest")
  let provenance ← parseProvenance (value.get "provenance")
  let sourceGroup ← parseText (.source .group) isHex64 (value.get "source_group")
  let record : SourceRecord := ⟨sourceGroup, alerts, truncatedAlerts, bodyDigest, provenance⟩
  let text ← liftJson (canonicalJson true (sourceToJson record))
  failIf (maxSourceRecordBytes < text.length) (.source .tooLarge)
  return record

def validateSource (source : SourceRecord) : Except Failure SourceRecord := do
  let reconstructed ← sourceFromJson (sourceToJson source)
  failIf (reconstructed ≠ source) (.source .shape)
  return reconstructed

def sourceDigest (source : SourceRecord) : Except Failure String :=
  liftJson (taggedDigest sourceTag (sourceToJson source))

/-- One row of the deduplication payload. -/
def dedupeRow (alert : SourceAlert) : Json :=
  .arr [.str alert.fingerprint, .str alert.status.text,
    Json.optional valuesJson alert.values]

def dedupePayload (source : SourceRecord) : Json :=
  .arr (source.alerts.map dedupeRow)

def dedupeKey (source : SourceRecord) : Except Failure String :=
  liftJson (taggedDigest dedupeKeyTag (dedupePayload source))

end ManyAlerts
