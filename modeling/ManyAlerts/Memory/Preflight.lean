import Mathlib.Data.Finset.Sort
import Mathlib.Data.String.Basic
import ManyAlerts.Library.Calendar
import ManyAlerts.Library.Checked
import ManyAlerts.Library.Json

/-!
# The preflight of prior candidates

`preflight_prior_candidates` looks through pages of open incidents for those that an
earlier rehearsal left behind.  It reads page by page and item by item, and stops at the
first sign that the pages do not cover all incidents; what it has found by then is still
reported.  A value of a wrong shape is refused, but only once it is reached.
-/

namespace ManyAlerts

def maxPreflightPages : Nat := 10
def maxItemsPerPage : Nat := 100
def maxPageMs : Int := 5000
def maxTotalMs : Int := 30000
def maxPreflightNumber : Int := 9007199254740991
/-- Thirty minutes. -/
def priorWindowUs : Nat := 1800000000

inductive PreflightFinding where
  | incomplete
  | priorEligible
  | noPriorInSuppliedPages
deriving DecidableEq

/-- `CandidatePreflight`; its `admission_status` is always the same. -/
structure CandidatePreflight where
  finding : PreflightFinding
  priorIncidentIds : List String
deriving DecidableEq

/-! ## Fields -/

def isLowerHex (character : Char) : Bool :=
  '0' ≤ character && character ≤ '9' || 'a' ≤ character && character ≤ 'f'

/-- `_uuid4`. -/
def isUuid4 (text : String) : Bool :=
  text.length = 36 && text.toList.zipIdx.all fun (character, index) =>
    if index ∈ [8, 13, 18, 23] then character = '-'
    else if index = 14 then character = '4'
    else if index = 19 then character ∈ ['8', '9', 'a', 'b']
    else isLowerHex character

/-- `_opaque` of a text. -/
def isOpaqueText (text : String) : Bool :=
  1 ≤ text.length && text.length ≤ 128 && text.toList.all fun character =>
    32 ≤ character.toNat && character.toNat ≤ 126

/-- The number that some decimal digits stand for. -/
def readDecimals (digits : List Char) : Option Nat :=
  if digits.all fun digit => '0' ≤ digit && digit ≤ '9' then
    some (digits.foldl (fun value digit => 10 * value + (digit.toNat - 48)) 0)
  else none

/-- `_utc`: a time that exists, in the one form that is taken. -/
def readUtc (text : String) : Option CivilTime := do
  match text.toList with
  | [y1, y2, y3, y4, '-', m1, m2, '-', d1, d2, 'T', h1, h2, ':', n1, n2, ':', s1, s2, '.',
      u1, u2, u3, u4, u5, u6, 'Z'] =>
      let year ← readDecimals [y1, y2, y3, y4]
      let month ← readDecimals [m1, m2]
      let day ← readDecimals [d1, d2]
      let hour ← readDecimals [h1, h2]
      let minute ← readDecimals [n1, n2]
      let second ← readDecimals [s1, s2]
      let microsecond ← readDecimals [u1, u2, u3, u4, u5, u6]
      if real : RealTime year month day hour minute second microsecond then
        some ⟨year, month, day, hour, minute, second, microsecond, real⟩
      else none
  | _ => none

/-- `_number`. -/
def readNumber? : Json → Option Int
  | .num value => if 0 ≤ value ∧ value ≤ maxPreflightNumber then some value else none
  | _ => none

def readOpaque : Json → Option String
  | .str text => if isOpaqueText text then some text else none
  | _ => none

/-- A value that may be null. -/
def readNullable {α : Type} (read : Json → Option α) : Json → Option (Option α)
  | .null => some none
  | value => (read value).map some

def readUuid4 : Json → Option String
  | .str text => if isUuid4 text then some text else none
  | _ => none

def readText? : Json → Option String
  | .str text => some text
  | _ => none

def readBool? : Json → Option Bool
  | .bool value => some value
  | _ => none

def readList? : Json → Option (List Json)
  | .arr items => some items
  | _ => none

/-! ## Pages and items -/

structure CandidateItem where
  incidentId : String
  status : String
  createdAt : CivilTime
  originRehearsalId : Option String
deriving DecidableEq

/-- A page, with its items not yet looked at. -/
structure CandidatePage where
  snapshotMarker : String
  cursorIn : Option String
  cursorOut : Option String
  exhausted : Bool
  totalCount : Int
  elapsedMs : Int
  items : List Json
deriving DecidableEq

def readItem (value : Json) : Option CandidateItem := do
  guard (value.hasExactKeys ["incident_id", "status", "created_at", "origin_rehearsal_id"])
  let incidentId ← readOpaque (value.get "incident_id")
  let status ← readText? (value.get "status")
  let origin ← readNullable readUuid4 (value.get "origin_rehearsal_id")
  let created ← readText? (value.get "created_at")
  let createdAt ← readUtc created
  return ⟨incidentId, status, createdAt, origin⟩

def readPage (value : Json) : Option CandidatePage := do
  guard (value.hasExactKeys ["snapshot_marker", "cursor_in", "cursor_out", "exhausted",
    "total_count", "elapsed_ms", "items"])
  let marker ← readOpaque (value.get "snapshot_marker")
  let cursorIn ← readNullable readOpaque (value.get "cursor_in")
  let cursorOut ← readNullable readOpaque (value.get "cursor_out")
  let exhausted ← readBool? (value.get "exhausted")
  let totalCount ← readNumber? (value.get "total_count")
  let elapsedMs ← readNumber? (value.get "elapsed_ms")
  let items ← readList? (value.get "items")
  return ⟨marker, cursorIn, cursorOut, exhausted, totalCount, elapsedMs, items⟩

/-! ## The loop -/

/-- What the loop is asked about. -/
structure PreflightQuery where
  current : String
  now : CivilTime
deriving DecidableEq

def PreflightQuery.windowStart (query : PreflightQuery) : Nat :=
  query.now.instant - priorWindowUs

structure PreflightState where
  prior : Finset String := ∅
  seenIds : Finset String := ∅
  seenCursors : Finset String := ∅
  /-- The marker and the total of the first page. -/
  snapshot : Option (String × Int) := none
  cursor : Option String := none
  elapsed : Int := 0
  itemsSeen : Nat := 0
  /-- Whether the last page so far says that it is the last. -/
  exhausted : Bool := false

/-- How the loop stops early. -/
inductive PreflightStop where
  | malformed
  | incomplete (prior : Finset String)

/-- One item of a page. -/
def takeItem (query : PreflightQuery) (state : PreflightState) (value : Json) :
    Except PreflightStop PreflightState := do
  let item ← orFail .malformed (readItem value)
  failIf (item.incidentId ∈ state.seenIds ∨ item.status ≠ "open" ∨
    query.now.instant < item.createdAt.instant) (.incomplete state.prior)
  let seen := { state with
    seenIds := insert item.incidentId state.seenIds
    itemsSeen := state.itemsSeen + 1 }
  if query.windowStart ≤ item.createdAt.instant then
    let origin ← orFail (.incomplete seen.prior) item.originRehearsalId
    return if origin ≠ query.current then
      { seen with prior := insert item.incidentId seen.prior } else seen
  else return seen

def takeItems (query : PreflightQuery) :
    PreflightState → List Json → Except PreflightStop PreflightState
  | state, [] => .ok state
  | state, value :: values => do
      let state ← takeItem query state value
      takeItems query state values

/-- A page that does not go on where the last one ended, or does not fit the others. -/
def brokenPage (state : PreflightState) (page : CandidatePage) (last : Bool) : Prop :=
  (∃ first ∈ state.snapshot, first ≠ (page.snapshotMarker, page.totalCount)) ∨
    page.cursorIn ≠ state.cursor ∨
    (last = false ∧ (page.exhausted = true ∨ page.cursorOut = none)) ∨
    (page.exhausted = true ∧ page.cursorOut ≠ none) ∨
    ∃ cursor ∈ page.cursorOut, page.cursorIn = some cursor ∨ cursor ∈ state.seenCursors

instance (state : PreflightState) (page : CandidatePage) (last : Bool) :
    Decidable (brokenPage state page last) :=
  inferInstanceAs (Decidable (_ ∨ _))

/-- One page. -/
def takePage (query : PreflightQuery) (state : PreflightState) (value : Json) (last : Bool) :
    Except PreflightStop PreflightState := do
  let page ← orFail .malformed (readPage value)
  failIf (maxItemsPerPage < page.items.length) (.incomplete state.prior)
  failIf (maxPageMs < page.elapsedMs ∨ maxTotalMs < state.elapsed + page.elapsedMs)
    (.incomplete state.prior)
  failIf (brokenPage state page last) (.incomplete state.prior)
  takeItems query { state with
    snapshot := some (page.snapshotMarker, page.totalCount)
    elapsed := state.elapsed + page.elapsedMs
    cursor := page.cursorOut
    seenCursors := state.seenCursors ∪ page.cursorOut.toFinset
    exhausted := page.exhausted } page.items

def takePages (query : PreflightQuery) :
    PreflightState → List Json → Except PreflightStop PreflightState
  | state, [] => .ok state
  | state, value :: values => do
      let state ← takePage query state value values.isEmpty
      takePages query state values

def sortedIds (ids : Finset String) : List String := ids.sort (· ≤ ·)

/-- The end of the loop. -/
def concludePreflight (state : PreflightState) : CandidatePreflight :=
  if state.exhausted = false ∨ state.cursor ≠ none ∨
      ∀ first ∈ state.snapshot, (state.itemsSeen : Int) ≠ first.2 then
    ⟨.incomplete, sortedIds state.prior⟩
  else if state.prior.Nonempty then ⟨.priorEligible, sortedIds state.prior⟩
  else ⟨.noPriorInSuppliedPages, sortedIds state.prior⟩

/-- The query and the pages of a value of the right shape. -/
def readQuery (value : Json) : Option (PreflightQuery × List Json) := do
  guard (value.hasExactKeys ["current_rehearsal_id", "jira_now", "pages"])
  let current ← readUuid4 (value.get "current_rehearsal_id")
  let now ← readText? (value.get "jira_now")
  let now ← readUtc now
  let pages ← readList? (value.get "pages")
  return (⟨current, now⟩, pages)

/-- `preflight_prior_candidates`; `none` is `CandidatePreflightError`. -/
def preflightPriorCandidates (value : Json) : Option CandidatePreflight := do
  let (query, pages) ← readQuery value
  if pages = [] ∨ maxPreflightPages ≤ pages.length then return ⟨.incomplete, []⟩
  else
    guard (priorWindowUs ≤ query.now.instant)
    match takePages query {} pages with
    | .error .malformed => none
    | .error (.incomplete prior) => return ⟨.incomplete, sortedIds prior⟩
    | .ok state => return concludePreflight state

end ManyAlerts
