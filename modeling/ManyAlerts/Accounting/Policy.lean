import ManyAlerts.Journal.Vocabulary
import ManyAlerts.Library.Calendar

/-!
# The reservation policy

`evaluateReservation` decides whether a candidate may reserve against a snapshot
of the experiment.  It rebuilds every total from the facts of the snapshot: the
scratch totals of `Scratch`, the last attempt of each lifecycle and the weeks
seen so far live for one evaluation only.  Time zone data are not part of the
repository; `weekFor` reads them through a `Zone`, and the evaluation takes the
function that finds a week as a parameter.
-/

namespace ManyAlerts

/-- The codes of the policy, the transition and the event codec. -/
inductive AccountingCode where
  | invalidInput
  | invalidMoney
  | invalidTime
  | invalidWeek
  | arithmeticOverflow
  | weeklyLimit
  | experimentLimit
  | lifecycleLimit
  | diagnosticLimit
  | lifecycleAttemptLimit
  | diagnosticAttemptLimit
  | exposureUnknown
  | exposureStale
  | aboveLiability
  | identityConflict
  | configurationConflict
  | lineageConflict
  | staleSnapshot
  | historyLimit
  | populationUnknown
  | held
  | transitionInvalid
  | originConflict
  | reservationConflict
  | staleHead
  | historyUnavailable
  | eventConflict
  | chainConflict
  | timeConflict
  | projectionConflict
  | eventInvalid
  | eventUnsupported
  | eventNotCanonical
  | eventDigest
  | eventTooLarge
deriving DecidableEq

/-- `_require`. -/
def requireThat (condition : Prop) [Decidable condition] (code : AccountingCode) :
    Except AccountingCode Unit :=
  failIf (¬condition) code

@[simp] theorem requireThat_eq_ok {condition : Prop} [Decidable condition]
    {code : AccountingCode} {done : Unit} : requireThat condition code = .ok done ↔ condition := by
  simp [requireThat]

/-! ## Weeks -/

structure Week where
  key : String
  startUtc : CivilTime
  endUtc : CivilTime
  timezone : String
deriving DecidableEq

def newYork : String := "America/New_York"

/-- What the time zone data say: the wall clock at an instant, and the instant of
a reading of the wall clock, in microseconds of the calendar. -/
structure Zone where
  toLocal : CivilTime → Nat
  toUtc : Nat → CivilTime

/-- `week_for`, after its check of the year. -/
def weekFor (zone : Zone) (instant : CivilTime) : Week :=
  let wall := zone.toLocal instant
  let start := wall - wall % weekUs
  let date := dateOfDays (start / dayUs)
  ⟨isoDate date.1 date.2.1 date.2.2, zone.toUtc start, zone.toUtc (start + weekUs), newYork⟩

/-- The years that `week_for` takes. -/
def inWeekYears (instant : CivilTime) : Prop := 2000 ≤ instant.year ∧ instant.year ≤ 9998

instance (instant : CivilTime) : Decidable (inWeekYears instant) :=
  inferInstanceAs (Decidable (_ ∧ _))

/-- Four or five o'clock sharp. -/
def atMidnightHour (endpoint : CivilTime) : Bool :=
  (endpoint.hour = 4 || endpoint.hour = 5) && endpoint.minute = 0 && endpoint.second = 0 &&
    endpoint.microsecond = 0

/-- The checks of `_week`. -/
def Week.wellFormed (week : Week) : Bool :=
  week.timezone = newYork && week.startUtc.dateText = week.key && week.startUtc.weekday = 0 &&
    week.endUtc.days = week.startUtc.days + 7 &&
    (week.endUtc.instant = week.startUtc.instant + 167 * hourUs ||
      week.endUtc.instant = week.startUtc.instant + 168 * hourUs ||
      week.endUtc.instant = week.startUtc.instant + 169 * hourUs) &&
    atMidnightHour week.startUtc && atMidnightHour week.endUtc

/-! ## Facts of a snapshot -/

structure Profile where
  modelId : String
  authId : String
  venueId : String
deriving DecidableEq

inductive LifecycleSlot where
  | rehearsal1
  | rehearsal2
  | rehearsal3
  | presentation
deriving DecidableEq

def LifecycleSlot.text : LifecycleSlot → String
  | .rehearsal1 => "rehearsal_1"
  | .rehearsal2 => "rehearsal_2"
  | .rehearsal3 => "rehearsal_3"
  | .presentation => "presentation"

structure Lifecycle where
  lifecycleId : String
  slot : LifecycleSlot
  week : Week
  profile : Profile
deriving DecidableEq

inductive ExposureState where
  | bounded
  | settled
  | unknown
  | conflicted
deriving DecidableEq

structure Exposure where
  state : ExposureState
  upperBound : Option Int
  validUntil : Option CivilTime
  actual : Option Int
deriving DecidableEq

inductive AttemptKind where
  | initial
  | retry
  | diagnostic
deriving DecidableEq

def AttemptKind.text : AttemptKind → String
  | .initial => "initial"
  | .retry => "retry"
  | .diagnostic => "diagnostic"

/-- What `Attempt` and `Candidate` have in common. -/
structure Reservation where
  attemptId : String
  reservationId : String
  runId : String
  leaseId : String
  profile : Profile
  kind : AttemptKind
  lifecycleId : Option String
  predecessorId : Option String
  effectsReconciled : Bool
  exposure : Exposure
deriving DecidableEq

structure Attempt extends Reservation where
  reservedAt : CivilTime
  week : Week
deriving DecidableEq

structure Candidate extends Reservation where
  experimentId : String
  journalGeneration : Nat
deriving DecidableEq

inductive CostKind where
  | support
  | review
  | venue
deriving DecidableEq

def CostKind.text : CostKind → String
  | .support => "support"
  | .review => "review"
  | .venue => "venue"

structure NonModelCost where
  costId : String
  kind : CostKind
  exposure : Exposure
deriving DecidableEq

/-- `HOLDS`. -/
inductive LedgerHold where
  | billingUnknown
  | billingLag
  | launchOrDispatchUnknown
  | providerReceiptConflict
  | unmatchedProviderCharge
  | aboveCapActual
  | ledgerMissingOrCorrupt
  | recoveryIncomplete
  | capacityExhausted
  | forwarderControlUnreconciled
  | venueOrMediatedReadinessFailed
  | historyUnavailable
  | executionRecovery
  | effectRecovery
deriving DecidableEq

def LedgerHold.text : LedgerHold → String
  | .billingUnknown => "billing_unknown"
  | .billingLag => "billing_lag"
  | .launchOrDispatchUnknown => "launch_or_dispatch_unknown"
  | .providerReceiptConflict => "provider_receipt_conflict"
  | .unmatchedProviderCharge => "unmatched_provider_charge"
  | .aboveCapActual => "above_cap_actual"
  | .ledgerMissingOrCorrupt => "ledger_missing_or_corrupt"
  | .recoveryIncomplete => "recovery_incomplete"
  | .capacityExhausted => "capacity_exhausted"
  | .forwarderControlUnreconciled => "forwarder_control_unreconciled"
  | .venueOrMediatedReadinessFailed => "venue_or_mediated_readiness_failed"
  | .historyUnavailable => "history_unavailable"
  | .executionRecovery => "execution_recovery"
  | .effectRecovery => "effect_recovery"

inductive SnapshotPopulation where
  | hypotheticalComplete
  | unknown
  | conflicted
deriving DecidableEq

structure PolicySnapshot where
  experimentId : String
  journalGeneration : Nat
  asOf : CivilTime
  population : SnapshotPopulation
  profiles : List Profile
  lifecycles : List Lifecycle
  attempts : List Attempt
  nonModelCosts : List NonModelCost
  holds : List LedgerHold
deriving DecidableEq

structure PolicyTotals where
  weekModel : Int
  experiment : Int
  lifecycle : Int
  diagnostic : Int
  lifecycleAttempts : Int
  diagnosticAttempts : Int
deriving DecidableEq

structure HypotheticalProposal where
  candidate : Candidate
  week : Week
  reservationUsdMicros : Int
  liabilityUsdMicros : Int
  totals : PolicyTotals
deriving DecidableEq

/-! ## Checks -/

def minReservationMicros : Int := 3000000

/-- `_nonnegative`. -/
def nonnegative (value : Int) : Except AccountingCode Int := do
  requireThat (0 ≤ value) .invalidMoney
  requireThat (value < 2 ^ 63) .arithmeticOverflow
  return value

def requireAtMost (ceiling : Int) (code : AccountingCode) (value : Int) :
    Except AccountingCode Unit := do
  let value ← nonnegative value
  requireThat (value ≤ ceiling) code

/-- `_limits`. -/
def checkLimits (totals : PolicyTotals) : Except AccountingCode Unit := do
  requireAtMost 150000000 .weeklyLimit totals.weekModel
  requireAtMost 49999999 .experimentLimit totals.experiment
  requireAtMost 30000000 .lifecycleLimit totals.lifecycle
  requireAtMost 30000000 .diagnosticLimit totals.diagnostic
  requireAtMost 10 .lifecycleAttemptLimit totals.lifecycleAttempts
  requireAtMost 10 .diagnosticAttemptLimit totals.diagnosticAttempts

/-- `_id`. -/
def checkId (value : String) : Except AccountingCode Unit :=
  requireThat (isUuid value = true) .invalidInput

/-- `_identity`. -/
def checkIdentity (experimentId : String) (generation : Nat) : Except AccountingCode Unit := do
  checkId experimentId
  requireThat (1 ≤ generation ∧ generation ≤ 2 ^ 31 - 1) .invalidInput

/-- `_profile`. -/
def checkProfile (profile : Profile) : Except AccountingCode Unit := do
  checkId profile.modelId
  checkId profile.authId
  checkId profile.venueId

/-- `_exposure`: the amount an exposure counts for. -/
def exposureAmount (exposure : Exposure) (now : CivilTime) (model : Bool) :
    Except AccountingCode Int := do
  requireThat (exposure.state ≠ .unknown ∧ exposure.state ≠ .conflicted) .exposureUnknown
  let bound ← orFail .exposureUnknown exposure.upperBound
  let upper ← nonnegative bound
  requireThat (model = false ∨ minReservationMicros ≤ upper) .invalidMoney
  if exposure.state = .bounded then
    requireThat (exposure.actual = none) .invalidInput
    let validUntil ← orFail .exposureUnknown exposure.validUntil
    requireThat (now.instant < validUntil.instant) .exposureStale
    return upper
  else
    requireThat (exposure.validUntil = none) .invalidInput
    let settled ← orFail .exposureUnknown exposure.actual
    let actual ← nonnegative settled
    requireThat (actual ≤ upper) .aboveLiability
    return actual

/-- `_claim_ids`: the identities with those of one more reservation. -/
def claimIds (row : Reservation) (identities : List String) :
    Except AccountingCode (List String) :=
  [row.attemptId, row.reservationId, row.runId, row.leaseId].foldlM
    (fun identities value => do
      checkId value
      requireThat (value ∉ identities) .identityConflict
      return value :: identities) identities

/-- `_attribution`. -/
def checkAttribution (row : Reservation) (week : Week) (profiles : List Profile)
    (lifecycles : Dict String Lifecycle) : Except AccountingCode Unit := do
  checkProfile row.profile
  requireThat (row.profile ∈ profiles) .configurationConflict
  if row.kind = .diagnostic then
    requireThat (row.lifecycleId = none ∧ row.predecessorId = none ∧
      row.effectsReconciled = false) .lineageConflict
  else
    let lifecycleId ← orFail .invalidInput row.lifecycleId
    checkId lifecycleId
    let life ← orFail .configurationConflict (lifecycles.get? lifecycleId)
    requireThat (life.profile = row.profile ∧ life.week = week) .configurationConflict
    if row.kind = .initial then
      requireThat (row.predecessorId = none ∧ row.effectsReconciled = false) .lineageConflict
    else
      requireThat (row.effectsReconciled = true) .lineageConflict
      let predecessorId ← orFail .lineageConflict row.predecessorId
      checkId predecessorId

/-- `_Accounting`. -/
structure Scratch where
  experiment : Int
  weeks : Dict String Int
  lifecycles : Dict (Option String) (Int × Int)
  diagnostics : Dict String (Int × Int)
  identities : List String
deriving DecidableEq

namespace Scratch

def start (identities : List String) : Scratch :=
  ⟨0, .empty, .empty, .empty, identities⟩

/-- What a map of spend and count holds for a key. -/
def spent {K : Type} [DecidableEq K] (map : Dict K (Int × Int)) (key : K) : Int × Int :=
  (map.get? key).getD (0, 0)

/-- One more amount under a key, if it counts there. -/
def chargeIf {K : Type} [DecidableEq K] (counted : Prop) [Decidable counted]
    (map : Dict K (Int × Int)) (key : K) (amount : Int) :
    Except AccountingCode (Dict K (Int × Int)) :=
  if counted then do
    let total ← nonnegative ((spent map key).1 + amount)
    return map.set key (total, (spent map key).2 + 1)
  else .ok map

/-- `_Accounting.add`. -/
def add (scratch : Scratch) (row : Reservation) (week : Week) (amount : Int) :
    Except AccountingCode Scratch := do
  let experiment ← nonnegative (scratch.experiment + amount)
  let weekTotal ← nonnegative ((scratch.weeks.get? week.key).getD 0 + amount)
  let lifecycles ← chargeIf (row.kind ≠ .diagnostic) scratch.lifecycles row.lifecycleId amount
  let diagnostics ← chargeIf (row.kind = .retry ∨ row.kind = .diagnostic) scratch.diagnostics
    week.key amount
  return { scratch with
    experiment, weeks := scratch.weeks.set week.key weekTotal, lifecycles, diagnostics }

/-- `_Accounting.totals`. -/
def totals (scratch : Scratch) (key : String) (lifecycleId : Option String) : PolicyTotals where
  weekModel := (scratch.weeks.get? key).getD 0
  experiment := scratch.experiment
  lifecycle := (spent scratch.lifecycles lifecycleId).1
  diagnostic := (spent scratch.diagnostics key).1
  lifecycleAttempts := (spent scratch.lifecycles lifecycleId).2
  diagnosticAttempts := (spent scratch.diagnostics key).2

/-- `_Accounting.check_history`. -/
def checkHistory (scratch : Scratch) (lifecycles : Dict String Lifecycle) :
    Except AccountingCode Unit := do
  checkLimits ⟨0, scratch.experiment, 0, 0, 0, 0⟩
  checkAll (fun key => checkLimits (scratch.totals key none)) scratch.weeks.keys
  checkAll (fun entry => checkLimits (scratch.totals entry.2.week.key (some entry.1)))
    lifecycles.entries

end Scratch

/-- `_remember_week`. -/
def rememberWeek (week : Week) (known : Dict String Week) :
    Except AccountingCode (Dict String Week) := do
  requireThat (week.wellFormed = true) .invalidWeek
  checkAll (fun previous =>
    if week.key = previous.key then requireThat (week = previous) .invalidWeek
    else requireThat (week.endUtc.instant ≤ previous.startUtc.instant ∨
      previous.endUtc.instant ≤ week.startUtc.instant) .invalidWeek) known.values
  return known.set week.key week

/-- `_lineage`: the last reservation of each lifecycle, with one more. -/
def lineage (row : Reservation) (latest : Dict (Option String) Reservation) :
    Except AccountingCode (Dict (Option String) Reservation) := do
  if row.kind = .diagnostic then return latest
  else
    let previous := latest.get? row.lifecycleId
    if row.kind = .retry then
      let previous ← orFail .lineageConflict previous
      requireThat (row.predecessorId = some previous.attemptId ∧
        row.profile = previous.profile) .lineageConflict
      return latest.set row.lifecycleId row
    else
      requireThat (previous.all fun previous => previous.kind ≠ .retry) .lineageConflict
      return latest.set row.lifecycleId row

/-! ## Evaluation -/

/-- What the loop over the lifecycles has seen. -/
structure LifecycleWalk where
  lifecycles : Dict String Lifecycle
  slots : List (String × LifecycleSlot)
  knownWeeks : Dict String Week

def walkLifecycle (profiles : List Profile) (walk : LifecycleWalk) (life : Lifecycle) :
    Except AccountingCode LifecycleWalk := do
  checkId life.lifecycleId
  let knownWeeks ← rememberWeek life.week walk.knownWeeks
  checkProfile life.profile
  requireThat (life.profile ∈ profiles) .configurationConflict
  requireThat (walk.lifecycles.contains life.lifecycleId = false ∧
    (life.week.key, life.slot) ∉ walk.slots) .configurationConflict
  return ⟨walk.lifecycles.set life.lifecycleId life, (life.week.key, life.slot) :: walk.slots,
    knownWeeks⟩

/-- What the loop over the attempts has seen. -/
structure AttemptWalk where
  previousAt : Option CivilTime
  knownWeeks : Dict String Week
  latest : Dict (Option String) Reservation
  scratch : Scratch

def walkAttempt (now : CivilTime) (profiles : List Profile) (lifecycles : Dict String Lifecycle)
    (walk : AttemptWalk) (row : Attempt) : Except AccountingCode AttemptWalk := do
  requireThat (row.reservedAt.instant < now.instant ∧
    walk.previousAt.all fun previous => previous.instant < row.reservedAt.instant)
    .lineageConflict
  let knownWeeks ← rememberWeek row.week walk.knownWeeks
  requireThat (row.week.startUtc.instant ≤ row.reservedAt.instant ∧
    row.reservedAt.instant < row.week.endUtc.instant) .invalidWeek
  let identities ← claimIds row.toReservation walk.scratch.identities
  checkAttribution row.toReservation row.week profiles lifecycles
  let latest ← lineage row.toReservation walk.latest
  let amount ← exposureAmount row.exposure now true
  let scratch ← { walk.scratch with identities }.add row.toReservation row.week amount
  return ⟨some row.reservedAt, knownWeeks, latest, scratch⟩

def walkCost (now : CivilTime) (scratch : Scratch) (cost : NonModelCost) :
    Except AccountingCode Scratch := do
  checkId cost.costId
  requireThat (cost.costId ∉ scratch.identities) .identityConflict
  let amount ← exposureAmount cost.exposure now false
  let experiment ← nonnegative (scratch.experiment + amount)
  return { scratch with experiment, identities := cost.costId :: scratch.identities }

/-- The checks of `_evaluate` before its loops. -/
def checkSnapshot (snapshot : PolicySnapshot) (candidate : Candidate) (now : CivilTime) :
    Except AccountingCode Unit := do
  requireThat (inWeekYears now) .invalidTime
  checkIdentity snapshot.experimentId snapshot.journalGeneration
  checkIdentity candidate.experimentId candidate.journalGeneration
  requireThat (snapshot.asOf = now) .staleSnapshot
  requireThat ((snapshot.experimentId, snapshot.journalGeneration) =
    (candidate.experimentId, candidate.journalGeneration)) .identityConflict
  requireThat (snapshot.profiles.length ≤ 16) .historyLimit
  requireThat (snapshot.lifecycles.length ≤ 512) .historyLimit
  requireThat (snapshot.attempts.length ≤ 512) .historyLimit
  requireThat (snapshot.nonModelCosts.length ≤ 512) .historyLimit
  requireThat (snapshot.holds.length ≤ 32) .historyLimit
  requireThat (snapshot.population = .hypotheticalComplete) .populationUnknown
  requireThat (snapshot.holds = []) .held
  checkAll checkProfile snapshot.profiles
  requireThat (snapshot.profiles ≠ [] ∧ snapshot.profiles.Nodup) .configurationConflict

/-- The identities that the scratch totals start with. -/
def snapshotIdentities (snapshot : PolicySnapshot) (lifecycles : Dict String Lifecycle) :
    List String :=
  snapshot.experimentId :: lifecycles.keys ++
    snapshot.profiles.flatMap fun profile => [profile.modelId, profile.authId, profile.venueId]

/-- `_evaluate`, with the function that finds the week of an instant. -/
def evaluateReservation (weekOf : CivilTime → Week) (snapshot : PolicySnapshot)
    (candidate : Candidate) (now : CivilTime) : Except AccountingCode HypotheticalProposal := do
  checkSnapshot snapshot candidate now
  let current := weekOf now
  let lives ← snapshot.lifecycles.foldlM (walkLifecycle snapshot.profiles)
    ⟨.empty, [], Dict.empty.set current.key current⟩
  let walk ← snapshot.attempts.foldlM (walkAttempt now snapshot.profiles lives.lifecycles)
    ⟨none, lives.knownWeeks, .empty, .start (snapshotIdentities snapshot lives.lifecycles)⟩
  let scratch ← snapshot.nonModelCosts.foldlM (walkCost now) walk.scratch
  scratch.checkHistory lives.lifecycles
  let identities ← claimIds candidate.toReservation scratch.identities
  checkAttribution candidate.toReservation current snapshot.profiles lives.lifecycles
  let _ ← lineage candidate.toReservation walk.latest
  let upper ← exposureAmount candidate.exposure now true
  requireThat (candidate.exposure.state = .bounded) .invalidInput
  let after ← { scratch with identities }.add candidate.toReservation current upper
  let totals := after.totals current.key candidate.lifecycleId
  checkLimits totals
  return ⟨candidate, current, minReservationMicros, upper, totals⟩

end ManyAlerts
