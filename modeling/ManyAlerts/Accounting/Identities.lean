import ManyAlerts.Accounting.Replay
import ManyAlerts.Library.Naming

/-!
# One identifier, one meaning

Every event uses identifiers in roles: its own, those it introduces and those it
refers to.  Each branch of the transition has its own check of freshness; what
they have in common is `naming`: an accepted event repeats earlier uses or brings
in identifiers that nothing used before.
-/

namespace ManyAlerts

variable {weekOf : CivilTime → Week} {ledger updated next : Ledger} {event : AccountingEvent}
  {events : List AccountingEvent} {now : CivilTime}

inductive IdRole where
  | ledger
  | experiment
  | event
  | journal
  | model
  | auth
  | venue
  | lifecycle
  | cost
  | hold
  | admission
  | intent
  | attempt
  | reservation
  | run
  | lease
deriving DecidableEq

/-- The roles whose identifiers one event introduces. -/
def IdRole.introduced : IdRole → Bool
  | .event | .lifecycle | .cost | .hold | .intent | .attempt | .reservation | .run | .lease => true
  | .ledger | .experiment | .journal | .model | .auth | .venue | .admission => false

def Profile.uses (profile : Profile) : List (IdRole × String) :=
  [(.model, profile.modelId), (.auth, profile.authId), (.venue, profile.venueId)]

/-- The identifiers in the data of an event. -/
def EventData.uses : EventData → List (IdRole × String)
  | .genesis _ => []
  | .journalBound origin => [(.journal, origin.journalUuid)]
  | .profileConfigured profile => profile.uses
  | .lifecycleRegistered data =>
      (.lifecycle, data.lifecycle.lifecycleId) :: (.journal, data.origin.journalUuid) ::
        data.lifecycle.profile.uses
  | .nonModelCommitted data => [(.cost, data.costId)]
  | .reservationCreated data =>
      [(.journal, data.origin.journalUuid), (.admission, data.admissionId),
        (.intent, data.intentId), (.attempt, data.attemptId), (.reservation, data.reservationId),
        (.run, data.runId), (.lease, data.leaseId)] ++ data.profile.uses ++
        data.lifecycleId.toList.map (.lifecycle, ·) ++ data.predecessorId.toList.map (.attempt, ·)
  | .holdSet holdId _ => [(.hold, holdId)]

/-- The identifiers that the data of an event may bring in. -/
def EventData.names : EventData → List (IdRole × String)
  | .genesis _ => []
  | .journalBound origin => [(.journal, origin.journalUuid)]
  | .profileConfigured profile => profile.uses
  | .lifecycleRegistered data => [(.lifecycle, data.lifecycle.lifecycleId)]
  | .nonModelCommitted data => [(.cost, data.costId)]
  | .reservationCreated data =>
      [(.admission, data.admissionId), (.intent, data.intentId), (.attempt, data.attemptId),
        (.reservation, data.reservationId), (.run, data.runId), (.lease, data.leaseId)]
  | .holdSet holdId _ => [(.hold, holdId)]

namespace AccountingEvent

/-- Every identifier of an event, in its role. -/
def uses (event : AccountingEvent) : List (IdRole × String) :=
  (.ledger, event.fields.ledgerUuid) :: (.experiment, event.fields.experimentId) ::
    (.event, event.fields.eventId) :: event.fields.data.uses

def names (event : AccountingEvent) : List (IdRole × String) :=
  (.event, event.fields.eventId) :: event.fields.data.names

/-- The identifiers that an event introduces for good. -/
def introductions (event : AccountingEvent) : List (IdRole × String) :=
  event.names.filter fun use => use.1.introduced

end AccountingEvent

def usesOf (events : List AccountingEvent) : List (IdRole × String) :=
  events.flatMap AccountingEvent.uses

/-- The identifiers a history uses in a role. -/
def idsOf (events : List AccountingEvent) (role : IdRole) : Finset String :=
  (((usesOf events).filter fun use => use.1 = role).map Prod.snd).toFinset

@[simp] theorem mem_idsOf {role : IdRole} {value : String} :
    value ∈ idsOf events role ↔ (role, value) ∈ usesOf events := by
  simp [idsOf]

theorem EventData.uses_ids (data : EventData) : data.uses.map Prod.snd = data.bodyIds := by
  cases data <;> simp [uses, bodyIds, Profile.uses, Profile.ids, Function.comp_def]

theorem EventData.names_sublist (data : EventData) : data.names ⊆ data.uses := by
  cases data <;> simp [uses, names]

theorem mem_usesOf {use : IdRole × String} :
    use ∈ usesOf events ↔ ∃ event ∈ events, use ∈ event.uses :=
  List.mem_flatMap

/-! ## What an event repeats -/

theorem use_of_data {use : IdRole × String} {data : EventData} (member : event ∈ events)
    (isData : event.fields.data = data) (used : use ∈ data.uses) : use ∈ usesOf events := by
  refine mem_usesOf.mpr ⟨event, member, ?_⟩
  simp [AccountingEvent.uses, isData, used]

namespace Reads

variable (reads : Reads events ledger)
include reads

theorem binding_known {origin : JournalOrigin} (bound : origin ∈ ledger.bindings) :
    (.journal, origin.journalUuid) ∈ usesOf events := by
  rw [reads.bindings] at bound
  obtain ⟨event, member, isBinding⟩ := List.mem_filterMap.mp bound
  unfold AccountingEvent.binding at isBinding
  split at isBinding
  · rename_i isData
    obtain rfl := Option.some.inj isBinding
    exact use_of_data member isData (by simp [EventData.uses])
  · cases isBinding

theorem active_known {origin : JournalOrigin} (active : some origin = ledger.activeOrigin) :
    (.journal, origin.journalUuid) ∈ usesOf events :=
  reads.binding_known (List.mem_of_getLast? active.symm)

theorem profile_known {profile : Profile} (configured : profile ∈ ledger.profiles)
    {use : IdRole × String} (used : use ∈ profile.uses) : use ∈ usesOf events := by
  rw [reads.profiles] at configured
  obtain ⟨event, member, isProfile⟩ := List.mem_filterMap.mp configured
  unfold AccountingEvent.profile at isProfile
  split at isProfile
  · rename_i isData
    obtain rfl := Option.some.inj isProfile
    exact use_of_data member isData used
  · cases isProfile

theorem lifecycle_known {entry : LifecycleOrigin} (registered : entry ∈ ledger.lifecycles) :
    (.lifecycle, entry.lifecycle.lifecycleId) ∈ usesOf events := by
  rw [reads.lifecycles] at registered
  obtain ⟨event, member, isLifecycle⟩ := List.mem_filterMap.mp registered
  unfold AccountingEvent.lifecycle at isLifecycle
  split at isLifecycle
  · rename_i isData
    obtain rfl := Option.some.inj isLifecycle
    exact use_of_data member isData (by simp [EventData.uses])
  · cases isLifecycle

theorem attempt_known {entry : AttemptOrigin} (attempted : entry ∈ ledger.attempts) :
    (.attempt, entry.attempt.attemptId) ∈ usesOf events ∧
      (.admission, entry.admissionId) ∈ usesOf events := by
  rw [reads.attempts] at attempted
  obtain ⟨event, member, isAttempt⟩ := List.mem_filterMap.mp attempted
  obtain ⟨data, isReservation, rfl⟩ := Option.map_eq_some_iff.mp isAttempt
  unfold AccountingEvent.reservation at isReservation
  split at isReservation
  · rename_i isData
    obtain rfl := Option.some.inj isReservation
    exact ⟨use_of_data member isData (by simp [EventData.uses, ReservationCreated.reservation]),
      use_of_data member isData (by simp [EventData.uses])⟩
  · cases isReservation

theorem identity_known :
    (.ledger, ledger.ledgerUuid) ∈ usesOf events ∧
      (.experiment, ledger.experimentId) ∈ usesOf events := by
  obtain ⟨first, isFirst, -⟩ := Option.map_eq_some_iff.mp reads.genesis
  have member := List.mem_of_mem_head? isFirst
  obtain ⟨sameLedger, sameExperiment⟩ := reads.identity first member
  exact ⟨mem_usesOf.mpr ⟨first, member, by simp [AccountingEvent.uses, sameLedger]⟩,
    mem_usesOf.mpr ⟨first, member, by simp [AccountingEvent.uses, sameExperiment]⟩⟩

end Reads

/-! ## What an event may bring in -/

/-- The claimed identifiers are those used so far. -/
def ClaimsUses (events : List AccountingEvent) (ledger : Ledger) : Prop :=
  ∀ value, value ∈ ledger.claimedIds ↔ ∃ role, (role, value) ∈ usesOf events

theorem ClaimsUses.unused (claims : ClaimsUses events ledger) {value : String}
    (fresh : value ∉ ledger.claimedIds) : Unused (usesOf events) value := by
  rintro ⟨role, other⟩ member rfl
  exact fresh ((claims other).mpr ⟨role, member⟩)

theorem lastOf_mem {lifecycleId : Option String} {attempts : List Attempt} {last : Reservation}
    (found : lastOf lifecycleId attempts = some last) :
    ∃ row ∈ attempts, row.toReservation = last := by
  obtain ⟨row, isLast, isRow⟩ := Option.map_eq_some_iff.mp found
  exact ⟨row, (List.mem_filter.mp (List.mem_of_getLast? isLast)).1, isRow⟩

/-- The attempt a reservation names as its predecessor exists. -/
theorem Reserves.predecessor_known {data : ReservationCreated}
    (reserves : Reserves weekOf ledger now data) (reads : Reads events ledger)
    {predecessorId : String} (named : data.predecessorId = some predecessorId) :
    (.attempt, predecessorId) ∈ usesOf events := by
  have approved := reserves.approved
  have asNamed : (data.candidate ledger).predecessorId = some predecessorId := named
  cases isKind : (data.candidate ledger).kind with
  | initial =>
      rw [(approved.initial isKind).1] at asNamed
      cases asNamed
  | diagnostic =>
      rw [(approved.diagnostic isKind).2] at asNamed
      cases asNamed
  | retry =>
      obtain ⟨-, last, found, isLast⟩ := approved.retry isKind
      obtain rfl : last.attemptId = predecessorId := by simpa [asNamed] using isLast.symm
      obtain ⟨row, member, rfl⟩ := lastOf_mem found
      obtain ⟨entry, attempted, rfl⟩ := List.mem_map.mp member
      exact (reads.attempt_known attempted).1

/-- What a use of an accepted event is: repeated, or new. -/
def Admitted (events : List AccountingEvent) (names : List (IdRole × String))
    (use : IdRole × String) : Prop :=
  use ∈ usesOf events ∨ use ∈ names ∧ Unused (usesOf events) use.2

theorem DataStep.uses {data : EventData} (step : DataStep weekOf ledger now data updated)
    (reads : Reads events ledger) (claims : ClaimsUses events ledger) :
    ∀ use ∈ data.uses, Admitted events data.names use := by
  -- An identifier that may be reused in its role is claimed and known, or unclaimed.
  have either : ∀ {role value names}, (role, value) ∈ names →
      (value ∈ ledger.claimedIds → (role, value) ∈ usesOf events) →
      Admitted events names (role, value) := by
    intro role value names named known
    by_cases claimed : value ∈ ledger.claimedIds
    · exact .inl (known claimed)
    · exact .inr ⟨named, claims.unused claimed⟩
  have new : ∀ {role value names}, (role, value) ∈ names → value ∉ ledger.claimedIds →
      Admitted events names (role, value) :=
    fun named fresh => either named fun claimed => absurd claimed fresh
  intro use used
  cases step with
  | bind newer role =>
      obtain rfl := List.mem_singleton.mp used
      refine either (by simp [EventData.names]) fun claimed => ?_
      obtain ⟨previous, bound, same⟩ := role claimed
      rw [← same]
      exact reads.binding_known bound
  | configure distinct model auth venue =>
      simp only [EventData.uses, Profile.uses, List.mem_cons, List.not_mem_nil, or_false] at used
      rcases used with rfl | rfl | rfl
      · refine either (by simp [EventData.names, Profile.uses]) fun claimed => ?_
        obtain ⟨existing, configured, same⟩ := model claimed
        rw [← same]
        exact reads.profile_known configured (by simp [Profile.uses])
      · refine either (by simp [EventData.names, Profile.uses]) fun claimed => ?_
        obtain ⟨existing, configured, same⟩ := auth claimed
        rw [← same]
        exact reads.profile_known configured (by simp [Profile.uses])
      · refine either (by simp [EventData.names, Profile.uses]) fun claimed => ?_
        obtain ⟨existing, configured, same⟩ := venue claimed
        rw [← same]
        exact reads.profile_known configured (by simp [Profile.uses])
  | register active fresh profile =>
      simp only [EventData.uses, List.mem_cons] at used
      rcases used with rfl | rfl | ofProfile
      · exact new (by simp [EventData.names]) fresh
      · exact .inl (reads.active_known active)
      · exact .inl (reads.profile_known profile ofProfile)
  | commit fresh | hold fresh =>
      obtain rfl := List.mem_singleton.mp used
      exact new (by simp [EventData.names]) fresh
  | @reserve data reserves =>
      simp only [EventData.uses, List.mem_append, List.mem_cons, List.not_mem_nil, or_false,
        List.mem_map, Option.mem_toList] at used
      have isFresh := reserves.fresh
      simp only [ReservationCreated.newIds, List.mem_cons, List.not_mem_nil, or_false,
        forall_eq_or_imp, forall_eq] at isFresh
      obtain ⟨intent, attempt, reservation, run, lease⟩ := isFresh
      rcases used with
        ((((rfl | rfl | rfl | rfl | rfl | rfl | rfl) | ofProfile) | ⟨_, linked, rfl⟩) |
          ⟨_, named, rfl⟩)
      · exact .inl (reads.active_known reserves.active)
      · refine either (by simp [EventData.names]) fun claimed => ?_
        obtain ⟨entry, attempted, same⟩ := reserves.admission claimed
        rw [← same]
        exact (reads.attempt_known attempted).2
      · exact new (by simp [EventData.names]) intent
      · exact new (by simp [EventData.names]) attempt
      · exact new (by simp [EventData.names]) reservation
      · exact new (by simp [EventData.names]) run
      · exact new (by simp [EventData.names]) lease
      · exact .inl (reads.profile_known reserves.approved.profile ofProfile)
      · obtain none | ⟨entry, registered, same, -⟩ := reserves.registered
        · rw [none] at linked
          cases linked
        · rw [linked] at same
          obtain rfl := Option.some.inj same
          exact .inl (reads.lifecycle_known registered)
      · exact .inl (reserves.predecessor_known reads named)

theorem DataStep.distinct {data : EventData} (step : DataStep weekOf ledger now data updated) :
    (data.names.map Prod.snd).Nodup := by
  cases step with
  | bind | register | commit | hold => simp [EventData.names]
  | configure distinct => exact distinct
  | reserve reserves => exact List.nodup_cons.mpr ⟨reserves.admissionApart, reserves.distinct⟩

/-- Identifiers introduced for good are new. -/
theorem DataStep.introduced {data : EventData} (step : DataStep weekOf ledger now data updated)
    {use : IdRole × String} (named : use ∈ data.names) (isNew : use.1.introduced = true) :
    use.2 ∉ ledger.claimedIds := by
  cases step with
  | bind =>
      obtain rfl := List.mem_singleton.mp named
      cases isNew
  | configure =>
      simp only [EventData.names, Profile.uses, List.mem_cons, List.not_mem_nil, or_false] at named
      rcases named with rfl | rfl | rfl <;> cases isNew
  | register _ fresh | commit fresh | hold fresh =>
      obtain rfl := List.mem_singleton.mp named
      exact fresh
  | @reserve data reserves =>
      simp only [EventData.names, List.mem_cons, List.not_mem_nil, or_false] at named
      rcases named with rfl | rfl | rfl | rfl | rfl | rfl
      · cases isNew
      all_goals exact reserves.fresh _ (by simp [ReservationCreated.newIds])

theorem LedgerStep.naming (step : LedgerStep weekOf ledger event next)
    (reads : Reads events ledger) (claims : ClaimsUses events ledger) :
    Naming (usesOf events) event.names event.uses := by
  obtain ⟨updated, changed, -⟩ := step.data
  obtain ⟨sameLedger, -, sameExperiment⟩ : _ ∧ _ ∧ _ := by simpa using step.identity
  constructor
  · refine List.nodup_cons.mpr ⟨fun member => step.apart ?_, changed.distinct⟩
    rw [← EventData.uses_ids]
    exact List.map_subset _ (EventData.names_sublist _) member
  · intro use used
    simp only [AccountingEvent.uses, List.mem_cons] at used
    rcases used with rfl | rfl | rfl | ofData
    · rw [sameLedger]
      exact .inl reads.identity_known.1
    · rw [sameExperiment]
      exact .inl reads.identity_known.2
    · exact .inr ⟨by simp [AccountingEvent.names], claims.unused step.fresh⟩
    · rcases changed.uses reads claims use ofData with known | ⟨named, unused⟩
      · exact .inl known
      · exact .inr ⟨by simp [AccountingEvent.names, named], unused⟩

theorem LedgerStep.introduced (step : LedgerStep weekOf ledger event next)
    {use : IdRole × String} (member : use ∈ event.introductions) :
    use.2 ∉ ledger.claimedIds := by
  obtain ⟨updated, changed, -⟩ := step.data
  obtain ⟨named, isNew⟩ := List.mem_filter.mp member
  rcases List.mem_cons.mp named with rfl | ofData
  · exact step.fresh
  · exact changed.introduced ofData isNew

/-! ## Whole histories -/

/-- What a history makes of its identifiers. -/
structure Named (events : List AccountingEvent) (ledger : Ledger) : Prop where
  claims : ClaimsUses events ledger
  oneRole : OneRole (usesOf events)
  once : (events.flatMap AccountingEvent.introductions).Nodup
  introduced : ∀ use ∈ usesOf events, use.1.introduced = true →
    use ∈ events.flatMap AccountingEvent.introductions

theorem usesOf_snoc (events : List AccountingEvent) (event : AccountingEvent) :
    usesOf (events ++ [event]) = usesOf events ++ event.uses := by
  simp [usesOf]

theorem introductions_used {use : IdRole × String}
    (member : use ∈ events.flatMap AccountingEvent.introductions) : use ∈ usesOf events := by
  obtain ⟨event, isEvent, introduced⟩ := List.mem_flatMap.mp member
  refine mem_usesOf.mpr ⟨event, isEvent, ?_⟩
  rcases List.mem_cons.mp (List.mem_filter.mp introduced).1 with rfl | ofData
  · simp [AccountingEvent.uses]
  · simp [AccountingEvent.uses, EventData.names_sublist _ ofData]

theorem named_of_open (opened : openLedger event = .ok ledger) : Named [event] ledger := by
  obtain ⟨population, isGenesis, -, distinct, rfl⟩ := openLedger_ok opened
  have uses : usesOf [event] = [(.ledger, event.fields.ledgerUuid),
      (.experiment, event.fields.experimentId), (.event, event.fields.eventId)] := by
    simp [usesOf, AccountingEvent.uses, isGenesis, EventData.uses]
  have introductions : [event].flatMap AccountingEvent.introductions =
      [(.event, event.fields.eventId)] := by
    simp [AccountingEvent.introductions, AccountingEvent.names, isGenesis, EventData.names,
      IdRole.introduced]
  refine ⟨?_, ?_, ?_, ?_⟩
  · intro value
    simp [uses, exists_or]
  · have distinct : ((usesOf [event]).map Prod.snd).Nodup := by
      rw [uses]
      exact distinct
    intro first isFirst second isSecond same
    rw [eq_of_distinct distinct isFirst isSecond same]
  · simp [introductions]
  · rw [uses, introductions]
    intro use member isNew
    simp only [List.mem_cons, List.not_mem_nil, or_false] at member
    rcases member with rfl | rfl | rfl
    · cases isNew
    · cases isNew
    · simp

theorem ClaimsUses.step (claims : ClaimsUses events ledger) (reads : Reads events ledger)
    (step : LedgerStep weekOf ledger event next) : ClaimsUses (events ++ [event]) next := by
  obtain ⟨sameLedger, -, sameExperiment⟩ : _ ∧ _ ∧ _ := by simpa using step.identity
  obtain ⟨updated, -, rfl⟩ := step.data
  intro value
  simp only [Finset.mem_union, List.mem_toFinset, List.mem_cons, usesOf_snoc, List.mem_append,
    claims value, ← EventData.uses_ids, AccountingEvent.uses]
  constructor
  · rintro (⟨role, used⟩ | rfl | ofData)
    · exact ⟨role, .inl used⟩
    · exact ⟨.event, by simp⟩
    · obtain ⟨⟨role, other⟩, used, rfl⟩ := List.mem_map.mp ofData
      exact ⟨role, by simp [used]⟩
  · rintro ⟨role, used | own | own | own | ofData⟩
    · exact .inl ⟨role, used⟩
    · obtain ⟨rfl, rfl⟩ := Prod.mk.inj own
      exact .inl ⟨.ledger, sameLedger ▸ reads.identity_known.1⟩
    · obtain ⟨rfl, rfl⟩ := Prod.mk.inj own
      exact .inl ⟨.experiment, sameExperiment ▸ reads.identity_known.2⟩
    · exact .inr (.inl (Prod.mk.inj own).2)
    · exact .inr (.inr (List.mem_map.mpr ⟨_, ofData, rfl⟩))

theorem Named.step (named : Named events ledger) (reads : Reads events ledger)
    (step : LedgerStep weekOf ledger event next) : Named (events ++ [event]) next := by
  have naming := step.naming reads named.claims
  constructor
  · exact named.claims.step reads step
  · rw [usesOf_snoc]
    exact named.oneRole.append naming
  · rw [List.flatMap_append, List.nodup_append]
    refine ⟨named.once, ?_, ?_⟩
    · simpa [AccountingEvent.introductions] using (naming.distinct.of_map _).filter _
    · rintro use isBefore _ isNow rfl
      exact step.introduced (by simpa using isNow)
        ((named.claims _).mpr ⟨_, introductions_used isBefore⟩)
  · intro use used isNew
    rw [List.flatMap_append, List.mem_append]
    rw [usesOf_snoc, List.mem_append] at used
    rcases used with before | now
    · exact .inl (named.introduced use before isNew)
    · rcases naming.covered use now with known | ⟨isName, -⟩
      · exact .inl (named.introduced use known isNew)
      · exact .inr (by simp [AccountingEvent.introductions, isName, isNew])

theorem Replayed.named (replayed : Replayed weekOf events ledger) : Named events ledger := by
  induction replayed with
  | start opened => exact named_of_open opened
  | step replayed step induction => exact induction.step replayed.reads step

/-- A journal is bound again only under a larger generation. -/
def Regenerates (earlier later : JournalOrigin) : Prop :=
  earlier.journalUuid = later.journalUuid → earlier.journalGeneration < later.journalGeneration

theorem Replayed.bindings_regenerate (replayed : Replayed weekOf events ledger) :
    ledger.bindings.Pairwise Regenerates := by
  induction replayed with
  | start opened =>
      obtain ⟨population, -, -, -, rfl⟩ := openLedger_ok opened
      exact .nil
  | @step events ledger next event replayed step induction =>
      obtain ⟨updated, changed, rfl⟩ := step.data
      generalize event.fields.data = data at changed
      cases changed with
      | bind newer role =>
          refine List.pairwise_append.mpr ⟨induction, List.pairwise_singleton .., ?_⟩
          intro previous bound origin isOrigin same
          obtain rfl := List.mem_singleton.mp isOrigin
          exact (newer previous bound).resolve_left (not_not.mpr same)
      | configure | register | commit | reserve | hold => exact induction

/-- One admission is reserved for under one origin. -/
theorem Replayed.admission_origin (replayed : Replayed weekOf events ledger) :
    ∀ first ∈ ledger.attempts, ∀ second ∈ ledger.attempts,
      first.admissionId = second.admissionId → first.journalOrigin = second.journalOrigin := by
  induction replayed with
  | start opened =>
      obtain ⟨population, -, -, -, rfl⟩ := openLedger_ok opened
      simp
  | @step events ledger next event replayed step induction =>
      obtain ⟨updated, changed, rfl⟩ := step.data
      generalize event.fields.data = data at changed
      cases changed with
      | reserve reserves =>
          have agrees := reserves.sameOrigin
          intro first isFirst second isSecond same
          rcases List.mem_append.mp isFirst with firstBefore | firstLast <;>
            rcases List.mem_append.mp isSecond with secondBefore | secondLast
          · exact induction first firstBefore second secondBefore same
          · obtain rfl := List.mem_singleton.mp secondLast
            exact (agrees first firstBefore).resolve_left (not_not.mpr same)
          · obtain rfl := List.mem_singleton.mp firstLast
            exact ((agrees second secondBefore).resolve_left (not_not.mpr same.symm)).symm
          · rw [List.mem_singleton.mp firstLast, List.mem_singleton.mp secondLast]
      | bind | configure | register | commit | hold => exact induction

/-- In an accepted history every identifier has one role, those of the introducing
roles come from exactly one event, a journal recurs under larger generations only,
an admission keeps its origin, and the claimed identifiers are the ones used. -/
theorem replay_gives_each_id_one_meaning (accepted : replayAccounting weekOf events = .ok ledger) :
    ledger.events = events ∧
      (∀ first second, first ≠ second → Disjoint (idsOf events first) (idsOf events second)) ∧
      (∀ role value, role.introduced = true → value ∈ idsOf events role →
        ∃ before event after, events = before ++ event :: after ∧
          (role, value) ∈ event.introductions ∧
          ∀ other ∈ before ++ after, (role, value) ∉ other.introductions) ∧
      ledger.bindings.Pairwise Regenerates ∧
      (∀ first ∈ ledger.attempts, ∀ second ∈ ledger.attempts,
        first.admissionId = second.admissionId →
        first.journalOrigin = second.journalOrigin) ∧
      ∀ value, value ∈ ledger.claimedIds ↔ ∃ role, value ∈ idsOf events role := by
  have replayed := replayed_of_replay accepted
  have named := replayed.named
  refine ⟨replayed.reads.own, ?_, ?_, replayed.bindings_regenerate, replayed.admission_origin, ?_⟩
  · intro first second different
    rw [Finset.disjoint_left]
    intro value isFirst isSecond
    exact different (named.oneRole _ (mem_idsOf.mp isFirst) _ (mem_idsOf.mp isSecond) rfl)
  · intro role value isNew used
    exact exists_only_part named.once (named.introduced _ (mem_idsOf.mp used) isNew)
  · intro value
    simpa using named.claims value

theorem replay_gives_each_id_one_meaning_sample :
    ∃ ledger, ReservingHistory (weekFor springClock) sampleEvents ledger ∧
      ∀ first second, first ≠ second →
        Disjoint (idsOf sampleEvents first) (idsOf sampleEvents second) := by
  obtain ⟨ledger, reserving⟩ := sampleEvents_reserve
  obtain ⟨-, disjoint, -⟩ := replay_gives_each_id_one_meaning reserving.accepted
  exact ⟨ledger, reserving, disjoint⟩

end ManyAlerts
