import ManyAlerts.Accounting.Evaluate
import ManyAlerts.Accounting.Transition
import ManyAlerts.Accounting.Weeks

/-!
# Accepted histories

`Replayed` is replay as a relation: a genesis, then one `LedgerStep` after
another.  `LedgerStep` says once what each kind of event requires and changes;
`Reads` says that the projection is nothing but its events read back.
-/

namespace ManyAlerts

variable {weekOf : CivilTime → Week} {ledger updated next : Ledger} {event : AccountingEvent}
  {events : List AccountingEvent} {now : CivilTime} {data : EventData}

/-! ## What each event reads as -/

namespace AccountingEvent

def binding (event : AccountingEvent) : Option JournalOrigin :=
  match event.fields.data with
  | .journalBound origin => some origin
  | _ => none

def profile (event : AccountingEvent) : Option Profile :=
  match event.fields.data with
  | .profileConfigured profile => some profile
  | _ => none

def lifecycle (event : AccountingEvent) : Option LifecycleOrigin :=
  match event.fields.data with
  | .lifecycleRegistered data => some ⟨data.lifecycle, data.origin⟩
  | _ => none

def cost (event : AccountingEvent) : Option NonModelCost :=
  match event.fields.data with
  | .nonModelCommitted data =>
      some ⟨data.costId, data.kind, boundedExposure data.upperBoundUsdMicros data.validUntilUtc⟩
  | _ => none

def reservation (event : AccountingEvent) : Option ReservationCreated :=
  match event.fields.data with
  | .reservationCreated data => some data
  | _ => none

def attempt (event : AccountingEvent) : Option AttemptOrigin :=
  event.reservation.map fun data =>
    ⟨{ data.reservation with reservedAt := event.fields.recordedAtUtc, week := data.week },
      data.origin, data.admissionId, data.intentId, data.intentDigest⟩

def hold (event : AccountingEvent) : Option (String × LedgerHold) :=
  match event.fields.data with
  | .holdSet holdId code => some (holdId, code)
  | _ => none

/-- The identifiers an event claims. -/
def claims (event : AccountingEvent) : List String :=
  match event.fields.data with
  | .genesis _ => [event.fields.ledgerUuid, event.fields.experimentId, event.fields.eventId]
  | data => event.fields.eventId :: data.bodyIds

end AccountingEvent

/-! ## Steps -/

/-- The candidate that `_reserve` evaluates. -/
def ReservationCreated.candidate (data : ReservationCreated) (ledger : Ledger) : Candidate :=
  { data.reservation with
    experimentId := ledger.experimentId
    journalGeneration := data.origin.journalGeneration }

/-- What an accepted reservation required. -/
structure Reserves (weekOf : CivilTime → Week) (ledger : Ledger) (now : CivilTime)
    (data : ReservationCreated) : Prop where
  active : some data.origin = ledger.activeOrigin
  registered : data.lifecycleId = none ∨ ∃ entry ∈ ledger.lifecycles,
    some entry.lifecycle.lifecycleId = data.lifecycleId ∧ entry.journalOrigin = data.origin
  distinct : data.newIds.Nodup
  fresh : ∀ value ∈ data.newIds, value ∉ ledger.claimedIds
  admission : data.admissionId ∈ ledger.claimedIds →
    ∃ entry ∈ ledger.attempts, entry.admissionId = data.admissionId
  admissionApart : data.admissionId ∉ data.newIds
  sameOrigin : ∀ entry ∈ ledger.attempts,
    entry.admissionId ≠ data.admissionId ∨ entry.journalOrigin = data.origin
  years : inWeekYears now
  week : data.week = weekOf now
  approved : Approved weekOf (ledger.snapshot data.origin now) (data.candidate ledger) now

/-- What the branches by event type require and change. -/
inductive DataStep (weekOf : CivilTime → Week) (ledger : Ledger) (now : CivilTime) :
    EventData → Ledger → Prop where
  | bind {origin : JournalOrigin}
      (newer : ∀ previous ∈ ledger.bindings, previous.journalUuid ≠ origin.journalUuid ∨
        previous.journalGeneration < origin.journalGeneration)
      (role : origin.journalUuid ∈ ledger.claimedIds →
        ∃ previous ∈ ledger.bindings, previous.journalUuid = origin.journalUuid) :
      DataStep weekOf ledger now (.journalBound origin)
        { ledger with bindings := ledger.bindings ++ [origin] }
  | configure {profile : Profile} (distinct : profile.ids.Nodup)
      (model : profile.modelId ∈ ledger.claimedIds →
        ∃ existing ∈ ledger.profiles, existing.modelId = profile.modelId)
      (auth : profile.authId ∈ ledger.claimedIds →
        ∃ existing ∈ ledger.profiles, existing.authId = profile.authId)
      (venue : profile.venueId ∈ ledger.claimedIds →
        ∃ existing ∈ ledger.profiles, existing.venueId = profile.venueId) :
      DataStep weekOf ledger now (.profileConfigured profile)
        { ledger with profiles := ledger.profiles ++ [profile] }
  | register {data : LifecycleRegistered} (active : some data.origin = ledger.activeOrigin)
      (fresh : data.lifecycle.lifecycleId ∉ ledger.claimedIds)
      (profile : data.lifecycle.profile ∈ ledger.profiles) :
      DataStep weekOf ledger now (.lifecycleRegistered data)
        { ledger with lifecycles := ledger.lifecycles ++ [⟨data.lifecycle, data.origin⟩] }
  | commit {data : NonModelCommitted} (fresh : data.costId ∉ ledger.claimedIds) :
      DataStep weekOf ledger now (.nonModelCommitted data)
        { ledger with costs := ledger.costs ++ [⟨data.costId, data.kind,
          boundedExposure data.upperBoundUsdMicros data.validUntilUtc⟩] }
  | reserve {data : ReservationCreated} (reserves : Reserves weekOf ledger now data) :
      DataStep weekOf ledger now (.reservationCreated data)
        { ledger with attempts := ledger.attempts ++
          [⟨{ data.reservation with reservedAt := now, week := data.week }, data.origin,
            data.admissionId, data.intentId, data.intentDigest⟩] }
  | hold {holdId : String} {code : LedgerHold} (fresh : holdId ∉ ledger.claimedIds) :
      DataStep weekOf ledger now (.holdSet holdId code)
        { ledger with holds := ledger.holds ++ [(holdId, code)] }

@[simp] theorem checkFresh_eq_ok {values : List String} {done : Unit} :
    checkFresh values ledger = .ok done ↔
      values.Nodup ∧ ∀ value ∈ values, value ∉ ledger.claimedIds := by
  simp [checkFresh]

@[simp] theorem checkRole_eq_ok {role : Profile → String} {profile : Profile} {done : Unit} :
    checkRole ledger role profile = .ok done ↔
      (role profile ∈ ledger.claimedIds →
        ∃ existing ∈ ledger.profiles, role existing = role profile) := by
  simp only [checkRole, requireThat_eq_ok]

theorem reserve_ok {data : ReservationCreated}
    (reserved : reserve weekOf ledger data now = .ok updated) :
    DataStep weekOf ledger now (.reservationCreated data) updated := by
  simp only [reserve, bind_eq_ok, requireThat_eq_ok, checkFresh_eq_ok, exists_unit,
    pure_eq_ok] at reserved
  obtain ⟨active, registered, ⟨distinct, fresh⟩, ⟨admission, admissionApart⟩, sameOrigin, -, -,
    years, week, proposal, evaluated, ⟨sameWeek, -, -⟩, rfl⟩ := reserved
  rw [sameWeek]
  exact .reserve ⟨active, registered, distinct, fresh, admission, admissionApart, sameOrigin, years,
    week, approved_of_evaluate evaluated⟩

theorem applyData_ok (applied : applyData weekOf ledger now data = .ok updated) :
    DataStep weekOf ledger now data updated := by
  cases data with
  | genesis population => cases applied
  | journalBound origin =>
      simp only [applyData, bindJournal, bind_eq_ok, requireThat_eq_ok, exists_unit,
        pure_eq_ok] at applied
      obtain ⟨-, newer, role, rfl⟩ := applied
      exact .bind newer role
  | profileConfigured profile =>
      simp only [applyData, configureProfile, bind_eq_ok, requireThat_eq_ok, exists_unit,
        checkRole_eq_ok, pure_eq_ok] at applied
      obtain ⟨-, -, distinct, model, auth, venue, rfl⟩ := applied
      exact .configure distinct model auth venue
  | lifecycleRegistered data =>
      simp only [applyData, registerLifecycle, bind_eq_ok, requireThat_eq_ok, exists_unit,
        checkFresh_eq_ok, pure_eq_ok] at applied
      obtain ⟨-, active, ⟨-, fresh⟩, profile, -, rfl⟩ := applied
      exact .register active (fresh _ (by simp)) profile
  | nonModelCommitted data =>
      simp only [applyData, commitCost, bind_eq_ok, requireThat_eq_ok, exists_unit,
        checkFresh_eq_ok, pure_eq_ok] at applied
      obtain ⟨⟨-, fresh⟩, -, -, rfl⟩ := applied
      exact .commit (fresh _ (by simp))
  | reservationCreated data => exact reserve_ok applied
  | holdSet holdId code =>
      simp only [applyData, bind_eq_ok, requireThat_eq_ok, exists_unit, checkFresh_eq_ok,
        pure_eq_ok] at applied
      obtain ⟨⟨-, fresh⟩, -, rfl⟩ := applied
      exact .hold (fresh _ (by simp))

/-- What an event after the genesis requires and changes. -/
structure LedgerStep (weekOf : CivilTime → Week) (ledger : Ledger) (event : AccountingEvent)
    (next : Ledger) : Prop where
  identity : (event.fields.ledgerUuid, event.fields.ledgerGeneration,
      event.fields.experimentId) =
    (ledger.ledgerUuid, ledger.ledgerGeneration, ledger.experimentId)
  fresh : event.fields.eventId ∉ ledger.claimedIds
  apart : event.fields.eventId ∉ event.fields.data.bodyIds
  sequence : event.fields.sequence = ledger.headSequence + 1
  chained : event.fields.previousDigest = ledger.headDigest
  later : ledger.lastAt.instant ≤ event.fields.recordedAtUtc.instant
  data : ∃ updated, DataStep weekOf ledger event.fields.recordedAtUtc event.fields.data updated ∧
    next = { updated with
      events := ledger.events ++ [event]
      lastAt := event.fields.recordedAtUtc
      claimedIds := ledger.claimedIds ∪
        (event.fields.eventId :: event.fields.data.bodyIds).toFinset
      eventIds := insert event.fields.eventId ledger.eventIds }

theorem extendLedger_ok
    (identity : (event.fields.ledgerUuid, event.fields.ledgerGeneration,
        event.fields.experimentId) =
      (ledger.ledgerUuid, ledger.ledgerGeneration, ledger.experimentId))
    (extended : extendLedger weekOf ledger event = .ok next) :
    LedgerStep weekOf ledger event next := by
  simp only [extendLedger, bind_eq_ok, requireThat_eq_ok, exists_unit, pure_eq_ok] at extended
  obtain ⟨-, fresh, ⟨sequence, chained⟩, later, -, apart, updated, applied, rfl⟩ := extended
  exact ⟨identity, fresh, apart, sequence, chained, later, updated, applyData_ok applied, rfl⟩

/-- Replay as a relation. -/
inductive Replayed (weekOf : CivilTime → Week) : List AccountingEvent → Ledger → Prop where
  | start {event : AccountingEvent} {ledger : Ledger} (opened : openLedger event = .ok ledger) :
      Replayed weekOf [event] ledger
  | step {events : List AccountingEvent} {ledger next : Ledger} {event : AccountingEvent}
      (replayed : Replayed weekOf events ledger) (step : LedgerStep weekOf ledger event next) :
      Replayed weekOf (events ++ [event]) next

theorem openLedger_ok (opened : openLedger event = .ok ledger) :
    ∃ population, event.fields.data = .genesis population ∧ event.fields.sequence = 1 ∧
      [event.fields.ledgerUuid, event.fields.experimentId, event.fields.eventId].Nodup ∧
      ledger = ⟨event.fields.ledgerUuid, event.fields.ledgerGeneration, event.fields.experimentId,
        population, [event],
        {event.fields.ledgerUuid, event.fields.experimentId, event.fields.eventId},
        {event.fields.eventId}, event.fields.recordedAtUtc, [], [], [], [], [], []⟩ := by
  unfold openLedger at opened
  split at opened
  · rename_i population isGenesis
    simp only [bind_eq_ok, requireThat_eq_ok, exists_unit, pure_eq_ok] at opened
    obtain ⟨⟨sequence, -⟩, distinct, rfl⟩ := opened
    exact ⟨population, isGenesis, sequence, distinct, rfl⟩
  · cases opened

/-- A repeated event does not move the head, which replay requires. -/
theorem replayStep_ok {before : Option Ledger} {after : Option Ledger}
    (stepped : replayStep weekOf before event = .ok after) :
    ∃ next, after = some next ∧
      ((before = none ∧ openLedger event = .ok next) ∨
        ∃ ledger, before = some ledger ∧ LedgerStep weekOf ledger event next) := by
  simp only [replayStep, bind_eq_ok, requireThat_eq_ok, exists_unit, pure_eq_ok] at stepped
  obtain ⟨next, applied, moved, rfl⟩ := stepped
  refine ⟨next, rfl, ?_⟩
  cases before with
  | none =>
      simp only [applyValidated, bind_eq_ok, requireThat_eq_ok, exists_unit] at applied
      exact .inl ⟨rfl, applied.2⟩
  | some ledger =>
      simp only [applyValidated, bind_eq_ok, requireThat_eq_ok, exists_unit] at applied
      obtain ⟨-, identity, applied⟩ := applied
      split_ifs at applied with known
      · simp only [bind_eq_ok, requireThat_eq_ok, exists_unit, pure_eq_ok] at applied
        obtain ⟨_, -, -, rfl⟩ := applied
        simp at moved
      · exact .inr ⟨ledger, rfl, extendLedger_ok identity applied⟩

/-- What replay has reached after a list of events. -/
def ReplayedTo (weekOf : CivilTime → Week) (events : List AccountingEvent) :
    Option Ledger → Prop
  | none => events = []
  | some ledger => Replayed weekOf events ledger

theorem replayedTo_step {before after : Option Ledger} (reached : ReplayedTo weekOf events before)
    (stepped : replayStep weekOf before event = .ok after) :
    ReplayedTo weekOf (events ++ [event]) after := by
  obtain ⟨next, rfl, ⟨rfl, opened⟩ | ⟨ledger, rfl, step⟩⟩ := replayStep_ok stepped
  · obtain rfl : events = [] := reached
    exact .start opened
  · exact Replayed.step reached step

theorem replayed_of_replay (accepted : replayAccounting weekOf events = .ok ledger) :
    Replayed weekOf events ledger := by
  simp only [replayAccounting, bind_eq_ok, requireThat_eq_ok, exists_unit, orFail_eq_ok] at accepted
  obtain ⟨-, -, _, folded, rfl⟩ := accepted
  have history : ∀ reached, events.foldlM (replayStep weekOf) none = .ok reached →
      ReplayedTo weekOf events reached := by
    intro reached run
    have initial : ReplayedTo weekOf [] none := rfl
    exact foldlM_history (fun _ _ _ _ => replayedTo_step) initial run
  exact history _ folded

/-! ## Prefixes -/

namespace Replayed

theorem of_snoc (replayed : Replayed weekOf (events ++ [event]) next) (notFirst : events ≠ []) :
    ∃ ledger, Replayed weekOf events ledger ∧ LedgerStep weekOf ledger event next := by
  generalize isSnoc : events ++ [event] = all at replayed
  cases replayed with
  | start opened =>
      obtain ⟨rfl, -⟩ := List.append_eq_singleton_iff.mp isSnoc |>.resolve_right (by simp)
      exact absurd rfl notFirst
  | step replayed step =>
      obtain ⟨rfl, same⟩ := List.append_inj' isSnoc rfl
      obtain rfl := List.singleton_inj.mp same
      exact ⟨_, replayed, step⟩

theorem of_prefix {before after : List AccountingEvent}
    (replayed : Replayed weekOf (before ++ after) ledger) (notEmpty : before ≠ []) :
    ∃ earlier, Replayed weekOf before earlier := by
  induction after using List.reverseRecOn generalizing ledger with
  | nil => exact ⟨ledger, by simpa using replayed⟩
  | append_singleton after event induction =>
      rw [← List.append_assoc] at replayed
      obtain ⟨earlier, replayed, -⟩ := replayed.of_snoc (by simp [notEmpty])
      exact induction replayed

/-- Every event after the first is a step of the replay. -/
theorem of_split {before after : List AccountingEvent}
    (replayed : Replayed weekOf (before ++ event :: after) ledger) (notFirst : before ≠ []) :
    ∃ earlier next, Replayed weekOf before earlier ∧ LedgerStep weekOf earlier event next ∧
      Replayed weekOf (before ++ [event]) next := by
  rw [List.append_cons] at replayed
  obtain ⟨next, reached⟩ := replayed.of_prefix (by simp)
  obtain ⟨earlier, replayed, step⟩ := reached.of_snoc notFirst
  exact ⟨earlier, next, replayed, step, reached⟩

end Replayed

/-! ## The projection is read off the events -/

structure Reads (events : List AccountingEvent) (ledger : Ledger) : Prop where
  own : ledger.events = events
  genesis : (events.head?.map fun first => first.fields.data) = some (.genesis ledger.population)
  identity : ∀ event ∈ events, event.fields.ledgerUuid = ledger.ledgerUuid ∧
    event.fields.experimentId = ledger.experimentId
  lastAt : (events.getLast?.map fun last => last.fields.recordedAtUtc) = some ledger.lastAt
  claimed : ledger.claimedIds = (events.flatMap AccountingEvent.claims).toFinset
  bindings : ledger.bindings = events.filterMap AccountingEvent.binding
  profiles : ledger.profiles = events.filterMap AccountingEvent.profile
  lifecycles : ledger.lifecycles = events.filterMap AccountingEvent.lifecycle
  costs : ledger.costs = events.filterMap AccountingEvent.cost
  attempts : ledger.attempts = events.filterMap AccountingEvent.attempt
  holds : ledger.holds = events.filterMap AccountingEvent.hold

/-- What one step adds to what the projection reads. -/
structure Appends (ledger : Ledger) (event : AccountingEvent) (next : Ledger) : Prop where
  events : next.events = ledger.events ++ [event]
  identity : next.ledgerUuid = ledger.ledgerUuid ∧ next.experimentId = ledger.experimentId
  population : next.population = ledger.population
  lastAt : next.lastAt = event.fields.recordedAtUtc
  claimed : next.claimedIds = ledger.claimedIds ∪ event.claims.toFinset
  bindings : next.bindings = ledger.bindings ++ event.binding.toList
  profiles : next.profiles = ledger.profiles ++ event.profile.toList
  lifecycles : next.lifecycles = ledger.lifecycles ++ event.lifecycle.toList
  costs : next.costs = ledger.costs ++ event.cost.toList
  attempts : next.attempts = ledger.attempts ++ event.attempt.toList
  holds : next.holds = ledger.holds ++ event.hold.toList

theorem LedgerStep.appends (step : LedgerStep weekOf ledger event next) :
    Appends ledger event next := by
  obtain ⟨updated, changed, rfl⟩ := step.data
  generalize isData : event.fields.data = data at changed
  cases changed <;> constructor <;>
    simp [AccountingEvent.claims, AccountingEvent.binding, AccountingEvent.profile,
      AccountingEvent.lifecycle, AccountingEvent.cost, AccountingEvent.attempt,
      AccountingEvent.reservation, AccountingEvent.hold, isData]

theorem filterMap_snoc {α β : Type} (read : α → Option β) (items : List α) (item : α) :
    (items ++ [item]).filterMap read = items.filterMap read ++ (read item).toList := by
  cases found : read item <;> simp [List.filterMap_append, found]

theorem reads_of_open (opened : openLedger event = .ok ledger) : Reads [event] ledger := by
  obtain ⟨population, isGenesis, -, -, rfl⟩ := openLedger_ok opened
  constructor <;>
    simp [AccountingEvent.claims, AccountingEvent.binding, AccountingEvent.profile,
      AccountingEvent.lifecycle, AccountingEvent.cost, AccountingEvent.attempt,
      AccountingEvent.reservation, AccountingEvent.hold, isGenesis]

theorem Reads.step (reads : Reads events ledger) (step : LedgerStep weekOf ledger event next) :
    Reads (events ++ [event]) next := by
  have appends := step.appends
  obtain ⟨sameLedger, -, sameExperiment⟩ : _ ∧ _ ∧ _ := by simpa using step.identity
  exact
    { own := by rw [appends.events, reads.own]
      genesis := by
        obtain ⟨first, isFirst, isGenesis⟩ := Option.map_eq_some_iff.mp reads.genesis
        simp [List.head?_append, isFirst, isGenesis, appends.population]
      identity := by
        intro other member
        rw [appends.identity.1, appends.identity.2]
        rcases List.mem_append.mp member with before | last
        · exact reads.identity other before
        · obtain rfl := List.mem_singleton.mp last
          exact ⟨sameLedger, sameExperiment⟩
      lastAt := by simp [appends.lastAt]
      claimed := by simp [appends.claimed, reads.claimed]
      bindings := by rw [appends.bindings, reads.bindings, filterMap_snoc]
      profiles := by rw [appends.profiles, reads.profiles, filterMap_snoc]
      lifecycles := by rw [appends.lifecycles, reads.lifecycles, filterMap_snoc]
      costs := by rw [appends.costs, reads.costs, filterMap_snoc]
      attempts := by rw [appends.attempts, reads.attempts, filterMap_snoc]
      holds := by rw [appends.holds, reads.holds, filterMap_snoc] }

theorem Replayed.reads (replayed : Replayed weekOf events ledger) : Reads events ledger := by
  induction replayed with
  | start opened => exact reads_of_open opened
  | step replayed step induction => exact induction.step step

/-! ## A sample ledger

A genesis, a journal, a profile, a lifecycle, a reservation and a hold, as
`encode_event` writes them. -/

def ledgerId (number : Nat) : String :=
  String.ofList (characters "00000000-0000-4000-8000-0000000000" ++ Nat.toDigits 10 (number + 10))

def sampleMonday : CivilTime := ⟨2026, 1, 5, 4, 0, 0, 0, by decide⟩
def sampleNextMonday : CivilTime := ⟨2026, 1, 12, 4, 0, 0, 0, by decide⟩
def sampleNoon : CivilTime := ⟨2026, 1, 6, 12, 0, 0, 0, by decide⟩

def sampleProfile : Profile := ⟨ledgerId 4, ledgerId 5, ledgerId 6⟩
def sampleWeek : Week := ⟨"2026-01-05", sampleMonday, sampleNextMonday, newYork⟩
def sampleOrigin : JournalOrigin := ⟨ledgerId 3, 1⟩

def sampleReservation : ReservationCreated where
  origin := sampleOrigin
  admissionId := ledgerId 8
  intentId := ledgerId 9
  intentDigest := zeroDigest
  attemptId := ledgerId 10
  reservationId := ledgerId 11
  runId := ledgerId 12
  leaseId := ledgerId 13
  kind := .initial
  lifecycleId := some (ledgerId 7)
  predecessorId := none
  effectsReconciled := false
  profile := sampleProfile
  week := sampleWeek
  reservationUsdMicros := 3000000
  liabilityUsdMicros := 3000000
  validUntilUtc := sampleNextMonday

/-- Each event with the digest of the one before it. -/
def sampleData : List (String × EventData) :=
  [(zeroDigest, .genesis .syntheticComplete),
    ("2d413a3cbf423a26628764ae9f40e7c5fa5c39613600779202d3f4d8d2642b68",
      .journalBound sampleOrigin),
    ("de1678816a9a0ebeecb7e8b99cda24458701e29702f656161dc2e7281dad78af",
      .profileConfigured sampleProfile),
    ("a166fdcbc40d012fa406e06da247f9df6b1bc2ab7c7ec144d11d4296affe4711",
      .lifecycleRegistered
        ⟨⟨ledgerId 7, .rehearsal1, sampleWeek, sampleProfile⟩, sampleOrigin⟩),
    ("c4749f6667434790cf8dfc8f9b726cb0d690677b1c3209c67c72a872448ec861",
      .reservationCreated sampleReservation),
    ("f6e2dceb4ce9afdb3c85f5f7b75c366787a346e74a63f625c55601c3474dfb80",
      .holdSet (ledgerId 14) .billingLag)]

def sampleFields (index : Nat) (previousDigest : String) (data : EventData) : EventFields where
  ledgerUuid := ledgerId 1
  ledgerGeneration := 1
  experimentId := ledgerId 2
  sequence := index + 1
  previousDigest
  eventId := ledgerId (20 + index)
  recordedAtUtc := sampleNoon
  actorKind := .fixture
  data

def sampleEvents : List AccountingEvent :=
  sampleData.zipIdx.filterMap fun entry =>
    (encodeEvent (sampleFields entry.2 entry.1.1 entry.1.2)).toOption

/-- A history that is replayed and reserves. -/
structure ReservingHistory (weekOf : CivilTime → Week) (events : List AccountingEvent)
    (ledger : Ledger) : Prop where
  accepted : replayAccounting weekOf events = .ok ledger
  reserving : ledger.attempts.length = 1

theorem exists_reservingHistory (weekOf : CivilTime → Week) (events : List AccountingEvent)
    (reserved : (replayAccounting weekOf events).map (·.attempts.length) = .ok 1) :
    ∃ ledger, ReservingHistory weekOf events ledger := by
  cases accepted : replayAccounting weekOf events with
  | error code =>
      rw [accepted] at reserved
      cases reserved
  | ok ledger =>
      rw [accepted] at reserved
      exact ⟨ledger, accepted, Except.ok.inj reserved⟩

theorem sampleEvents_reserve :
    ∃ ledger, ReservingHistory (weekFor springClock) sampleEvents ledger :=
  exists_reservingHistory _ _ (by decide +kernel)

end ManyAlerts
