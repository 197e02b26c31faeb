import ManyAlerts.Accounting.Events
import Mathlib.Data.Finset.Basic

/-!
# Transition and replay of the accounting ledger

`applyValidated` takes one event to the next projection, `replayAccounting` folds
a whole history.  A reservation is evaluated against the snapshot that the
projection describes at that instant; nothing else of the ledger spends.
-/

namespace ManyAlerts

structure LifecycleOrigin where
  lifecycle : Lifecycle
  journalOrigin : JournalOrigin
deriving DecidableEq

structure AttemptOrigin where
  attempt : Attempt
  journalOrigin : JournalOrigin
  admissionId : String
  intentId : String
  intentDigest : String
deriving DecidableEq

/-- `Projection` of the ledger. -/
structure Ledger where
  ledgerUuid : String
  ledgerGeneration : Nat
  experimentId : String
  population : LedgerPopulation
  events : List AccountingEvent
  claimedIds : Finset String
  eventIds : Finset String
  lastAt : CivilTime
  bindings : List JournalOrigin
  profiles : List Profile
  lifecycles : List LifecycleOrigin
  costs : List NonModelCost
  attempts : List AttemptOrigin
  holds : List (String × LedgerHold)
deriving DecidableEq

namespace Ledger

def headSequence (ledger : Ledger) : Nat := ledger.events.length

/-- `head_digest`; a ledger has at least its genesis. -/
def headDigest (ledger : Ledger) : String :=
  (ledger.events.getLast?.map AccountingEvent.digest).getD zeroDigest

def activeOrigin (ledger : Ledger) : Option JournalOrigin := ledger.bindings.getLast?

end Ledger

def maxLedgerEvents : Nat := 8192

/-- `_fresh`. -/
def checkFresh (values : List String) (ledger : Ledger) : Except AccountingCode Unit :=
  requireThat (values.Nodup ∧ ∀ value ∈ values, value ∉ ledger.claimedIds) .identityConflict

/-- `_register`. -/
def registerLifecycle (ledger : Ledger) (data : LifecycleRegistered) :
    Except AccountingCode Ledger := do
  requireThat (some data.origin = ledger.activeOrigin) .originConflict
  let life := data.lifecycle
  checkFresh [life.lifecycleId] ledger
  requireThat (life.profile ∈ ledger.profiles) .configurationConflict
  requireThat (∀ entry ∈ ledger.lifecycles,
    (entry.lifecycle.week.key, entry.lifecycle.slot) ≠ (life.week.key, life.slot))
    .configurationConflict
  return { ledger with lifecycles := ledger.lifecycles ++ [⟨life, data.origin⟩] }

/-- A bounded exposure. -/
def boundedExposure (upper : Int) (validUntil : CivilTime) : Exposure :=
  ⟨.bounded, some upper, some validUntil, none⟩

/-- `_cost`. -/
def commitCost (ledger : Ledger) (data : NonModelCommitted) (now : CivilTime) :
    Except AccountingCode Ledger := do
  checkFresh [data.costId] ledger
  requireThat (now.instant < data.validUntilUtc.instant) .exposureStale
  requireThat (ledger.costs.length < 512) .historyLimit
  return { ledger with costs := ledger.costs ++
    [⟨data.costId, data.kind, boundedExposure data.upperBoundUsdMicros data.validUntilUtc⟩] }

namespace ReservationCreated

/-- The identities a reservation introduces. -/
def newIds (data : ReservationCreated) : List String :=
  [data.intentId, data.attemptId, data.reservationId, data.runId, data.leaseId]

/-- The reservation that the evaluation sees. -/
def reservation (data : ReservationCreated) : Reservation where
  attemptId := data.attemptId
  reservationId := data.reservationId
  runId := data.runId
  leaseId := data.leaseId
  profile := data.profile
  kind := data.kind
  lifecycleId := data.lifecycleId
  predecessorId := data.predecessorId
  effectsReconciled := data.effectsReconciled
  exposure := boundedExposure data.liabilityUsdMicros data.validUntilUtc

end ReservationCreated

/-- The snapshot that `_reserve` hands to the policy. -/
def Ledger.snapshot (ledger : Ledger) (origin : JournalOrigin) (now : CivilTime) :
    PolicySnapshot where
  experimentId := ledger.experimentId
  journalGeneration := origin.journalGeneration
  asOf := now
  population :=
    if ledger.population = .syntheticComplete then .hypotheticalComplete else .unknown
  profiles := ledger.profiles
  lifecycles := ledger.lifecycles.map LifecycleOrigin.lifecycle
  attempts := ledger.attempts.map AttemptOrigin.attempt
  nonModelCosts := ledger.costs
  holds := ledger.holds.map Prod.snd

section Replay

variable (weekOf : CivilTime → Week)

/-- `_reserve`. -/
def reserve (ledger : Ledger) (data : ReservationCreated) (now : CivilTime) :
    Except AccountingCode Ledger := do
  let origin := data.origin
  requireThat (some origin = ledger.activeOrigin) .originConflict
  requireThat (data.lifecycleId = none ∨ ∃ entry ∈ ledger.lifecycles,
    some entry.lifecycle.lifecycleId = data.lifecycleId ∧ entry.journalOrigin = origin)
    .originConflict
  checkFresh data.newIds ledger
  requireThat ((data.admissionId ∈ ledger.claimedIds →
      ∃ entry ∈ ledger.attempts, entry.admissionId = data.admissionId) ∧
    data.admissionId ∉ data.newIds) .identityConflict
  requireThat (∀ entry ∈ ledger.attempts,
    entry.admissionId ≠ data.admissionId ∨ entry.journalOrigin = origin) .originConflict
  requireThat (ledger.attempts.length < 512) .historyLimit
  requireThat (∀ entry ∈ ledger.attempts,
    (entry.admissionId, entry.intentId) ≠ (data.admissionId, data.intentId)) .identityConflict
  requireThat (inWeekYears now) .invalidTime
  requireThat (data.week = weekOf now) .invalidWeek
  let candidate : Candidate :=
    { data.reservation with
      experimentId := ledger.experimentId
      journalGeneration := origin.journalGeneration }
  let result ← evaluateReservation weekOf (ledger.snapshot origin now) candidate now
  requireThat (result.week = data.week ∧
    result.reservationUsdMicros = data.reservationUsdMicros ∧
    result.liabilityUsdMicros = data.liabilityUsdMicros) .reservationConflict
  let attempt : Attempt := { data.reservation with reservedAt := now, week := result.week }
  return { ledger with attempts := ledger.attempts ++
    [⟨attempt, origin, data.admissionId, data.intentId, data.intentDigest⟩] }

/-- `journal_bound` in `_apply_validated`. -/
def bindJournal (ledger : Ledger) (origin : JournalOrigin) : Except AccountingCode Ledger := do
  requireThat (origin ∉ ledger.bindings) .originConflict
  requireThat (∀ previous ∈ ledger.bindings, previous.journalUuid ≠ origin.journalUuid ∨
    previous.journalGeneration < origin.journalGeneration) .originConflict
  requireThat (origin.journalUuid ∈ ledger.claimedIds →
    ∃ previous ∈ ledger.bindings, previous.journalUuid = origin.journalUuid) .identityConflict
  return { ledger with bindings := ledger.bindings ++ [origin] }

/-- An identity of a profile is new, or has the same role in another profile. -/
def checkRole (ledger : Ledger) (role : Profile → String) (profile : Profile) :
    Except AccountingCode Unit :=
  requireThat (role profile ∈ ledger.claimedIds →
    ∃ existing ∈ ledger.profiles, role existing = role profile) .identityConflict

/-- `profile_configured` in `_apply_validated`. -/
def configureProfile (ledger : Ledger) (profile : Profile) : Except AccountingCode Ledger := do
  requireThat (profile ∉ ledger.profiles) .configurationConflict
  requireThat (ledger.profiles.length < 16) .historyLimit
  requireThat [profile.modelId, profile.authId, profile.venueId].Nodup .identityConflict
  checkRole ledger Profile.modelId profile
  checkRole ledger Profile.authId profile
  checkRole ledger Profile.venueId profile
  return { ledger with profiles := ledger.profiles ++ [profile] }

def Profile.ids (profile : Profile) : List String :=
  [profile.modelId, profile.authId, profile.venueId]

/-- `_body_ids`. -/
def EventData.bodyIds : EventData → List String
  | .genesis _ => []
  | .journalBound origin => [origin.journalUuid]
  | .profileConfigured profile => profile.ids
  | .lifecycleRegistered data =>
      data.lifecycle.lifecycleId :: data.origin.journalUuid :: data.lifecycle.profile.ids
  | .nonModelCommitted data => [data.costId]
  | .reservationCreated data =>
      [data.origin.journalUuid, data.admissionId, data.intentId, data.attemptId,
        data.reservationId, data.runId, data.leaseId] ++ data.profile.ids ++
        data.lifecycleId.toList ++ data.predecessorId.toList
  | .holdSet holdId _ => [holdId]

/-- The branches of `_apply_validated` by event type. -/
def applyData (ledger : Ledger) (now : CivilTime) : EventData → Except AccountingCode Ledger
  | .genesis _ => .error .chainConflict
  | .journalBound origin => bindJournal ledger origin
  | .profileConfigured profile => configureProfile ledger profile
  | .lifecycleRegistered data => do
      requireThat (ledger.lifecycles.length < 512) .historyLimit
      registerLifecycle ledger data
  | .nonModelCommitted data => commitCost ledger data now
  | .reservationCreated data => reserve weekOf ledger data now
  | .holdSet holdId code => do
      checkFresh [holdId] ledger
      requireThat (ledger.holds.length < 32) .historyLimit
      return { ledger with holds := ledger.holds ++ [(holdId, code)] }

/-- The first event. -/
def openLedger (event : AccountingEvent) : Except AccountingCode Ledger :=
  match event.fields.data with
  | .genesis population => do
      requireThat (event.fields.sequence = 1 ∧ event.fields.previousDigest = zeroDigest)
        .historyUnavailable
      requireThat [event.fields.ledgerUuid, event.fields.experimentId,
        event.fields.eventId].Nodup .identityConflict
      return {
        ledgerUuid := event.fields.ledgerUuid
        ledgerGeneration := event.fields.ledgerGeneration
        experimentId := event.fields.experimentId
        population
        events := [event]
        claimedIds := {event.fields.ledgerUuid, event.fields.experimentId, event.fields.eventId}
        eventIds := {event.fields.eventId}
        lastAt := event.fields.recordedAtUtc
        bindings := []
        profiles := []
        lifecycles := []
        costs := []
        attempts := []
        holds := [] }
  | _ => .error .historyUnavailable

/-- A later event that is not a repetition. -/
def extendLedger (ledger : Ledger) (event : AccountingEvent) : Except AccountingCode Ledger := do
  requireThat (ledger.headSequence < maxLedgerEvents) .historyLimit
  requireThat (event.fields.eventId ∉ ledger.claimedIds) .identityConflict
  requireThat (event.fields.sequence = ledger.headSequence + 1 ∧
    event.fields.previousDigest = ledger.headDigest) .chainConflict
  let now := event.fields.recordedAtUtc
  requireThat (ledger.lastAt.instant ≤ now.instant) .timeConflict
  requireThat (event.fields.data.eventType ≠ "genesis") .chainConflict
  requireThat (event.fields.eventId ∉ event.fields.data.bodyIds) .identityConflict
  let updated ← applyData weekOf ledger now event.fields.data
  return { updated with
    events := ledger.events ++ [event]
    lastAt := now
    claimedIds := ledger.claimedIds ∪ (event.fields.eventId :: event.fields.data.bodyIds).toFinset
    eventIds := insert event.fields.eventId ledger.eventIds }

/-- `_apply_validated`. -/
def applyValidated (ledger : Option Ledger) (event : AccountingEvent) (expectedHead : String) :
    Except AccountingCode Ledger :=
  match ledger with
  | none => do
      requireThat (expectedHead = zeroDigest) .staleHead
      openLedger event
  | some ledger => do
      requireThat (expectedHead = ledger.headDigest) .staleHead
      requireThat ((event.fields.ledgerUuid, event.fields.ledgerGeneration,
          event.fields.experimentId) =
        (ledger.ledgerUuid, ledger.ledgerGeneration, ledger.experimentId)) .identityConflict
      if event.fields.eventId ∈ ledger.eventIds then
        let old ← orFail .transitionInvalid
          (ledger.events.find? fun old => old.fields.eventId = event.fields.eventId)
        requireThat (old.raw = event.raw) .eventConflict
        return ledger
      else extendLedger weekOf ledger event

/-- One round of `replay_accounting`. -/
def replayStep (ledger : Option Ledger) (event : AccountingEvent) :
    Except AccountingCode (Option Ledger) := do
  let expectedHead := (ledger.map Ledger.headDigest).getD zeroDigest
  let next ← applyValidated weekOf ledger event expectedHead
  requireThat (next.headSequence = (ledger.map Ledger.headSequence).getD 0 + 1) .chainConflict
  return some next

/-- `replay_accounting`. -/
def replayAccounting (events : List AccountingEvent) : Except AccountingCode Ledger := do
  requireThat (events ≠ []) .historyUnavailable
  requireThat (events.length ≤ maxLedgerEvents) .historyLimit
  let ledger ← events.foldlM (replayStep weekOf) none
  orFail .historyUnavailable ledger

end Replay

end ManyAlerts
