import ManyAlerts.Journal.Projection

/-!
# The deduplication decision

The decision function shared by `plan_admission` and replay: whether an
admission repeats its group's baseline, which pending entries it takes over,
and the pending entries it writes.
-/

namespace ManyAlerts

structure Decision where
  result : DedupeResult
  baselineBefore : Option Baseline
  baselineAfter : Baseline
  superseded : List (String × String)
  newPending : Nat
deriving DecidableEq

/-- Python's order of pairs of strings. -/
def pairLe (left right : String × String) : Prop :=
  left.1 < right.1 ∨ (left.1 = right.1 ∧ left.2 ≤ right.2)

instance : DecidableRel pairLe := fun left right =>
  inferInstanceAs (Decidable (left.1 < right.1 ∨ (left.1 = right.1 ∧ left.2 ≤ right.2)))

/-- The sorted pairs of an alert's fingerprint and the admission its pending
entry, if it has one that `takes` picks, came from. -/
def pendingClaims (p : Projection) (source : SourceRecord) (takes : PendingEntry → Bool) :
    List (String × String) :=
  (source.alerts.filterMap fun alert =>
    ((p.pending.get? alert.fingerprint).filter takes).map fun entry =>
      (alert.fingerprint, entry.admissionId)).insertionSort pairLe

/-- `_decide`, under the group's key. -/
def decideWith (p : Projection) (source : SourceRecord) (admissionId key : String) : Decision :=
  let complete : Bool := source.truncatedAlerts = some 0
  let before := p.baselines.get? source.sourceGroup
  -- An unknown or positive number of truncated alerts is incomplete.
  match before.filter fun baseline => complete && baseline.complete && baseline.dedupeKey = key with
  | some baseline =>
      -- Entries another group has since claimed return to this arrival.
      ⟨.suppressed, before, baseline,
        pendingClaims p source fun entry => entry.sourceGroup ≠ source.sourceGroup, 0⟩
  | none =>
      let superseded := pendingClaims p source fun _ => true
      ⟨if superseded.isEmpty then .admitted else .pendingReduced, before,
        ⟨admissionId, key, complete⟩, superseded, source.alerts.length - superseded.length⟩

def decideAdmission (p : Projection) (source : SourceRecord) (admissionId : String) :
    Except Failure Decision := do
  let key ← dedupeKey source
  return decideWith p source admissionId key

def pendingCountAfter (p : Projection) (decision : Decision) : Nat :=
  if decision.result = .suppressed then p.pending.size
  else p.pending.size + decision.newPending

/-- The last alert with a fingerprint. -/
def alertFor (source : SourceRecord) (fingerprint : String) : Option SourceAlert :=
  source.alerts.reverse.find? fun alert => alert.fingerprint = fingerprint

/-- `_pending_updates`.  Every fingerprint here comes from an alert of the
source, so looking its alert up never fails. -/
def pendingUpdates (source : SourceRecord) (decision : Decision) (admissionId : String)
    (arrivalSeq : Nat) : List (String × PendingEntry) :=
  let fingerprints :=
    if decision.result = .suppressed then decision.superseded.map Prod.fst
    else source.alerts.map SourceAlert.fingerprint
  fingerprints.filterMap fun fingerprint =>
    (alertFor source fingerprint).map fun alert =>
      (fingerprint, ⟨fingerprint, admissionId, arrivalSeq, source.sourceGroup, alert.status,
        alert.values⟩)

/-- The active dispatch holds in text order. -/
def dispatchHolds (p : Projection) : List HoldCode :=
  p.dispatchHolds.keys.insertionSort fun left right => left.text ≤ right.text

/-- The sorted fingerprints of the pending entries one admission left. -/
def members (p : Projection) (admissionId : String) : List String :=
  ((p.pending.entries.filter fun entry => entry.2.admissionId = admissionId).map
    Prod.fst).insertionSort (· ≤ ·)

end ManyAlerts
