import ManyAlerts.Accounting.Caps
import ManyAlerts.Accounting.Identities

/-!
# Attempt lineage

The order of attempts comes from the evaluation, which rebuilds the last attempt
of every lifecycle, and the origins come from the transition.  Time zone data are
outside the repository: `Zone.Ordered` is what is asked of them, that at midnights
the wall clock keeps the order of the instants.
-/

namespace ManyAlerts

variable {weekOf : CivilTime → Week} {ledger updated next : Ledger} {event : AccountingEvent}
  {events : List AccountingEvent} {now : CivilTime} {data : ReservationCreated}

/-! ## Weeks -/

/-- A midnight of the wall clock, up to a week ahead, has come exactly if the wall
clock shows it or a later time. -/
def Zone.Ordered (zone : Zone) : Prop :=
  ∀ instant wall, inWeekYears instant → wall % dayUs = 0 → wall ≤ zone.toLocal instant + weekUs →
    ((zone.toUtc wall).instant ≤ instant.instant ↔ wall ≤ zone.toLocal instant)

/-- A clock that is changed on Sundays at two only, and that reads the first midnight of the
calendar as an early instant, keeps this order. -/
theorem NewYorkTime.ordered {zone : Zone} {behind : Nat → Nat} (clock : NewYorkTime zone behind)
    (first : (zone.toUtc 0).instant ≤ 2 * weekUs) : zone.Ordered := by
  intro instant wall years midnight soon
  obtain ⟨lower, upper⟩ := years.bounds
  obtain ⟨day, rfl⟩ := Nat.dvd_of_mod_eq_zero midnight
  rcases Nat.eq_zero_or_pos day with rfl | positive
  · rw [Nat.mul_zero]
    exact ⟨fun _ => Nat.zero_le _, fun _ => first.trans lower⟩
  · have hours := clock.hours instant.instant
    have dayHours := clock.hours (day / 7 * weekUs)
    have same : _ → _ → behind instant.instant = _ := clock.behind_day day
    have short : 5 * hourUs < weekUs := by decide
    rw [Nat.mul_comm, clock.toLocal] at soon ⊢
    rw [clock.toUtc_day positive (by omega)]
    omega

def Week.Contains (week : Week) (instant : CivilTime) : Prop :=
  week.startUtc.instant ≤ instant.instant ∧ instant.instant < week.endUtc.instant

/-- Every instant of the admitted years lies in its week. -/
def FindsWeeks (weekOf : CivilTime → Week) : Prop :=
  ∀ instant, inWeekYears instant → (weekOf instant).Contains instant

theorem Zone.Ordered.findsWeeks {zone : Zone} (ordered : zone.Ordered) :
    FindsWeeks (weekFor zone) := by
  intro instant years
  have monday : (zone.toLocal instant - zone.toLocal instant % weekUs) % dayUs = 0 := by
    have : dayUs ∣ weekUs := ⟨7, rfl⟩
    exact Nat.mod_eq_zero_of_dvd (this.trans (Nat.dvd_sub_mod _))
  have nextMonday :
      (zone.toLocal instant - zone.toLocal instant % weekUs + weekUs) % dayUs = 0 := by
    rw [Nat.add_mod, monday]
    rfl
  have positive : zone.toLocal instant % weekUs < weekUs := Nat.mod_lt _ (by decide)
  constructor
  · exact (ordered instant _ years monday (by omega)).mpr (by omega)
  · apply Nat.lt_of_not_le
    intro passed
    have := (ordered instant _ years nextMonday (by omega)).mp passed
    omega

/-! ## One lifecycle -/

/-- The attempts of a lifecycle, in order. -/
structure AttemptChain (rows : List Attempt) : Prop where
  shape : ∃ initials retries, rows = initials ++ retries ∧
    (∀ row ∈ initials, row.kind = .initial) ∧ (∀ row ∈ retries, row.kind = .retry) ∧
    (retries ≠ [] → initials ≠ [])
  retried : ∀ before row after, rows = before ++ row :: after → row.kind = .retry →
    row.effectsReconciled = true ∧
      ∃ last, before.getLast? = some last ∧ row.predecessorId = some last.attemptId

namespace AttemptChain

variable {rows : List Attempt} {row : Attempt}

theorem nil : AttemptChain [] :=
  ⟨⟨[], [], by simp⟩, by simp⟩

theorem retried_snoc (chain : AttemptChain rows)
    (own : row.kind = .retry → row.effectsReconciled = true ∧
      ∃ last, rows.getLast? = some last ∧ row.predecessorId = some last.attemptId) :
    ∀ before other after, rows ++ [row] = before ++ other :: after → other.kind = .retry →
      other.effectsReconciled = true ∧
        ∃ last, before.getLast? = some last ∧ other.predecessorId = some last.attemptId := by
  intro before other after split retry
  induction after using List.reverseRecOn with
  | nil =>
      obtain ⟨rfl, same⟩ := List.append_inj' split rfl
      obtain rfl := List.singleton_inj.mp same
      exact own retry
  | append_singleton after last _ =>
      rw [← List.cons_append, ← List.append_assoc] at split
      obtain ⟨isRows, -⟩ := List.append_inj' split rfl
      exact chain.retried before other after isRows retry

theorem initial (chain : AttemptChain rows) (isInitial : row.kind = .initial)
    (first : ∀ last, rows.getLast? = some last → last.kind ≠ .retry) :
    AttemptChain (rows ++ [row]) := by
  obtain ⟨initials, retries, rfl, areInitial, areRetry, -⟩ := chain.shape
  -- The last attempt is no retry, so there are none.
  have noRetries : retries = [] := by
    by_contra some
    obtain ⟨last, isLast⟩ := Option.isSome_iff_exists.mp (List.getLast?_isSome.mpr some)
    exact first last (by simp [List.getLast?_append, isLast])
      (areRetry last (List.mem_of_getLast? isLast))
  subst noRetries
  refine ⟨⟨initials ++ [row], [], by simp, ?_, by simp, by simp⟩,
    chain.retried_snoc (by simp [isInitial])⟩
  intro other member
  rcases List.mem_append.mp member with before | last
  · exact areInitial other before
  · obtain rfl := List.mem_singleton.mp last
    exact isInitial

theorem retry (chain : AttemptChain rows) (isRetry : row.kind = .retry)
    (reconciled : row.effectsReconciled = true) {last : Attempt}
    (isLast : rows.getLast? = some last) (predecessor : row.predecessorId = some last.attemptId) :
    AttemptChain (rows ++ [row]) := by
  obtain ⟨initials, retries, rfl, areInitial, areRetry, started⟩ := chain.shape
  refine ⟨⟨initials, retries ++ [row], by simp, areInitial, ?_, ?_⟩,
    chain.retried_snoc fun _ => ⟨reconciled, last, isLast, predecessor⟩⟩
  · intro other member
    rcases List.mem_append.mp member with before | now
    · exact areRetry other before
    · obtain rfl := List.mem_singleton.mp now
      exact isRetry
  · rintro - rfl
    have noRetries : retries = [] := by
      by_contra some
      exact started some rfl
    simp [noRetries] at isLast

end AttemptChain

/-! ## The invariant -/

/-- The attempts of a lifecycle. -/
def Ledger.attemptsOf (ledger : Ledger) (lifecycleId : String) : List Attempt :=
  (ledger.attempts.map AttemptOrigin.attempt).filter fun row => row.lifecycleId = some lifecycleId

/-- Where an attempt belongs. -/
structure Placed (lifecycles : List LifecycleOrigin) (entry : AttemptOrigin) : Prop where
  inWeek : entry.attempt.week.Contains entry.attempt.reservedAt
  diagnostic : entry.attempt.kind = .diagnostic →
    entry.attempt.lifecycleId = none ∧ entry.attempt.predecessorId = none
  lifecycle : entry.attempt.kind ≠ .diagnostic → ∃ life ∈ lifecycles,
    entry.attempt.lifecycleId = some life.lifecycle.lifecycleId ∧
      entry.attempt.profile = life.lifecycle.profile ∧ entry.attempt.week = life.lifecycle.week ∧
      entry.journalOrigin = life.journalOrigin

structure Lineage (ledger : Ledger) : Prop where
  increasing : ledger.attempts.Pairwise fun earlier later =>
    earlier.attempt.reservedAt.instant < later.attempt.reservedAt.instant
  chain : ∀ lifecycleId, AttemptChain (ledger.attemptsOf lifecycleId)
  placed : ∀ entry ∈ ledger.attempts, Placed ledger.lifecycles entry

theorem Placed.mono {lifecycles more : List LifecycleOrigin} {entry : AttemptOrigin}
    (placed : Placed lifecycles entry) : Placed (lifecycles ++ more) entry := by
  refine ⟨placed.inWeek, placed.diagnostic, fun linked => ?_⟩
  obtain ⟨life, registered, facts⟩ := placed.lifecycle linked
  exact ⟨life, by simp [registered], facts⟩

/-- A lifecycle is registered once. -/
theorem Replayed.lifecycles_unique (replayed : Replayed weekOf events ledger) :
    (ledger.lifecycles.map fun entry => entry.lifecycle.lifecycleId).Nodup := by
  induction replayed with
  | start opened =>
      obtain ⟨population, -, -, -, rfl⟩ := openLedger_ok opened
      exact List.nodup_nil
  | @step events ledger next event replayed step induction =>
      obtain ⟨updated, changed, rfl⟩ := step.data
      generalize event.fields.data = data at changed
      cases changed with
      | register active fresh profile =>
          rw [List.map_append, List.nodup_append]
          refine ⟨induction, by simp, ?_⟩
          intro known isKnown new isNew same
          obtain ⟨entry, registered, rfl⟩ := List.mem_map.mp isKnown
          obtain rfl := List.mem_singleton.mp isNew
          have used := replayed.reads.lifecycle_known registered
          rw [show entry.lifecycle.lifecycleId = _ from same] at used
          exact fresh ((replayed.named.claims _).mpr ⟨.lifecycle, used⟩)
      | bind | configure | commit | reserve | hold => exact induction

theorem lastOf_attempts (lineage : Lineage ledger) (origin : JournalOrigin) (now : CivilTime)
    (lifecycleId : String) :
    lastOf (some lifecycleId) (ledger.snapshot origin now).attempts =
      (ledger.attemptsOf lifecycleId).getLast?.map Attempt.toReservation := by
  have same : ((ledger.snapshot origin now).attempts.filter fun row =>
        row.kind ≠ .diagnostic ∧ row.lifecycleId = some lifecycleId) =
      ledger.attemptsOf lifecycleId := by
    refine List.filter_congr fun row member => ?_
    obtain ⟨entry, attempted, rfl⟩ := List.mem_map.mp member
    have unlinked := (lineage.placed entry attempted).diagnostic
    by_cases diagnostic : entry.attempt.kind = .diagnostic
    · simp [diagnostic, (unlinked diagnostic).1]
    · simp [diagnostic]
  rw [lastOf, same]

/-- The attempt that a reservation adds. -/
def ReservationCreated.entry (data : ReservationCreated) (now : CivilTime) : AttemptOrigin :=
  ⟨{ data.reservation with reservedAt := now, week := data.week }, data.origin, data.admissionId,
    data.intentId, data.intentDigest⟩

theorem Reserves.placed (reserves : Reserves weekOf ledger now data)
    (replayed : Replayed weekOf events ledger) (finds : FindsWeeks weekOf) :
    Placed ledger.lifecycles (data.entry now) := by
  have approved := reserves.approved
  refine ⟨?_, approved.diagnostic, fun linked => ?_⟩
  · have := finds now reserves.years
    rw [← reserves.week] at this
    exact this
  · obtain ⟨life, inSnapshot, isLife, sameProfile, sameWeek⟩ := approved.lifecycle linked
    obtain ⟨approvedLife, approvedRegistered, rfl⟩ := List.mem_map.mp inSnapshot
    have isLife : data.lifecycleId = some approvedLife.lifecycle.lifecycleId := isLife
    obtain none | ⟨entry, registered, isEntry, sameOrigin⟩ := reserves.registered
    · rw [none] at isLife
      cases isLife
    · -- The evaluation and the transition look the lifecycle up by its identifier.
      have same : entry = approvedLife := by
        refine List.inj_on_of_nodup_map replayed.lifecycles_unique registered approvedRegistered ?_
        exact Option.some.inj (isEntry.trans isLife)
      subst same
      exact ⟨entry, registered, isLife, sameProfile.symm, reserves.week.trans sameWeek.symm,
        sameOrigin.symm⟩

theorem Reserves.chain (reserves : Reserves weekOf ledger now data) (lineage : Lineage ledger)
    {lifecycleId : String} (linked : data.lifecycleId = some lifecycleId) :
    AttemptChain (ledger.attemptsOf lifecycleId ++ [(data.entry now).attempt]) := by
  have approved := reserves.approved
  have chain := lineage.chain lifecycleId
  have last := lastOf_attempts lineage data.origin now lifecycleId
  have linked : (data.candidate ledger).lifecycleId = some lifecycleId := linked
  cases isKind : (data.candidate ledger).kind with
  | initial =>
      refine chain.initial isKind fun row isLast => ?_
      have := (approved.initial isKind).2 row.toReservation
      rw [linked, last, isLast] at this
      exact this rfl
  | retry =>
      obtain ⟨reconciled, reservation, found, predecessor⟩ := approved.retry isKind
      rw [linked, last] at found
      obtain ⟨row, isLast, rfl⟩ := Option.map_eq_some_iff.mp found
      exact chain.retry isKind reconciled isLast predecessor
  | diagnostic =>
      rw [(approved.diagnostic isKind).1] at linked
      cases linked

theorem Lineage.reserve (lineage : Lineage ledger) (reserves : Reserves weekOf ledger now data)
    (replayed : Replayed weekOf events ledger) (finds : FindsWeeks weekOf) :
    Lineage { ledger with attempts := ledger.attempts ++ [data.entry now] } := by
  constructor
  · refine List.pairwise_append.mpr ⟨lineage.increasing, List.pairwise_singleton .., ?_⟩
    intro earlier attempted later isLater
    obtain rfl := List.mem_singleton.mp isLater
    exact reserves.approved.earlier _ (List.mem_map_of_mem attempted)
  · intro lifecycleId
    by_cases linked : data.lifecycleId = some lifecycleId
    · have := reserves.chain lineage linked
      simpa [Ledger.attemptsOf, ReservationCreated.entry, ReservationCreated.reservation,
        List.filter_append, linked] using this
    · have := lineage.chain lifecycleId
      simpa [Ledger.attemptsOf, ReservationCreated.entry, ReservationCreated.reservation,
        List.filter_append, linked] using this
  · intro entry member
    rcases List.mem_append.mp member with before | last
    · exact lineage.placed entry before
    · obtain rfl := List.mem_singleton.mp last
      exact reserves.placed replayed finds

theorem Replayed.lineage (replayed : Replayed weekOf events ledger) (finds : FindsWeeks weekOf) :
    Lineage ledger := by
  induction replayed with
  | start opened =>
      obtain ⟨population, -, -, -, rfl⟩ := openLedger_ok opened
      exact ⟨.nil, fun _ => .nil, by simp⟩
  | @step events ledger next event replayed step induction =>
      obtain ⟨updated, changed, rfl⟩ := step.data
      generalize event.fields.data = data at changed
      cases changed with
      | reserve reserves =>
          have extended := induction.reserve reserves replayed finds
          exact ⟨extended.increasing, extended.chain, extended.placed⟩
      | register =>
          exact ⟨induction.increasing, induction.chain, fun entry member =>
            (induction.placed entry member).mono⟩
      | bind | configure | commit | hold =>
          exact ⟨induction.increasing, induction.chain, induction.placed⟩

/-! ## Origins -/

/-- The journal bound last. -/
def lastBound (events : List AccountingEvent) : Option JournalOrigin :=
  (events.filterMap AccountingEvent.binding).getLast?

theorem not_first {before after : List AccountingEvent}
    (replayed : Replayed weekOf (before ++ event :: after) ledger)
    (isLater : ∀ population, event.fields.data ≠ .genesis population) : before ≠ [] := by
  rintro rfl
  rw [List.append_cons] at replayed
  obtain ⟨_, first⟩ := replayed.of_prefix (by simp)
  exact isLater _ (by simpa using first.reads.genesis)

theorem attempt_origin {before after : List AccountingEvent} {entry : AttemptOrigin}
    (replayed : Replayed weekOf (before ++ event :: after) ledger)
    (isAttempt : event.attempt = some entry) : lastBound before = some entry.journalOrigin := by
  obtain ⟨data, isReservation, rfl⟩ := Option.map_eq_some_iff.mp isAttempt
  have notFirst : before ≠ [] := by
    refine not_first replayed fun population isGenesis => ?_
    simp [AccountingEvent.reservation, isGenesis] at isReservation
  obtain ⟨earlier, next, replayed, step, -⟩ := replayed.of_split notFirst
  rw [lastBound, ← replayed.reads.bindings]
  exact (step.reserves isReservation).active.symm

theorem lifecycle_origin {before after : List AccountingEvent} {entry : LifecycleOrigin}
    (replayed : Replayed weekOf (before ++ event :: after) ledger)
    (isLifecycle : event.lifecycle = some entry) :
    lastBound before = some entry.journalOrigin := by
  unfold AccountingEvent.lifecycle at isLifecycle
  split at isLifecycle
  · rename_i isData
    obtain rfl := Option.some.inj isLifecycle
    obtain ⟨earlier, next, replayed, step, -⟩ :=
      replayed.of_split (not_first replayed (by simp [isData]))
    obtain ⟨updated, changed, -⟩ := step.data
    rw [isData] at changed
    rw [lastBound, ← replayed.reads.bindings]
    cases changed with
    | register active => exact active.symm
  · cases isLifecycle

/-- An origin that was bound before a later binding is not the last one any more. -/
theorem lastBound_ne {before after : List AccountingEvent} {origin : JournalOrigin}
    (regenerate : ((before ++ after).filterMap AccountingEvent.binding).Pairwise Regenerates)
    (bound : origin ∈ before.filterMap AccountingEvent.binding)
    (rebound : after.filterMap AccountingEvent.binding ≠ []) :
    lastBound (before ++ after) ≠ some origin := by
  intro isLast
  obtain ⟨last, found⟩ := Option.isSome_iff_exists.mp (List.getLast?_isSome.mpr rebound)
  rw [List.filterMap_append, List.pairwise_append] at regenerate
  rw [lastBound, List.filterMap_append, List.getLast?_append, found] at isLast
  obtain rfl := Option.some.inj isLast
  exact absurd (regenerate.2.2 _ bound _ (List.mem_of_getLast? found) rfl) (lt_irrefl _)

/-- After a binding, lifecycles of earlier bindings get no further attempt. -/
theorem no_attempt_after_binding {before between after : List AccountingEvent}
    {binding reservation : AccountingEvent} {entry : AttemptOrigin} {life : LifecycleOrigin}
    (replayed : Replayed weekOf (before ++ binding :: between ++ reservation :: after) ledger)
    (finds : FindsWeeks weekOf) (rebound : binding.binding ≠ none)
    (registered : life ∈ before.filterMap AccountingEvent.lifecycle)
    (isAttempt : reservation.attempt = some entry) :
    entry.attempt.lifecycleId ≠ some life.lifecycle.lifecycleId := by
  intro linked
  have reads := replayed.reads
  have attempted : entry ∈ ledger.attempts := by
    rw [reads.attempts]
    exact List.mem_filterMap.mpr ⟨reservation, by simp, isAttempt⟩
  have placed := (replayed.lineage finds).placed entry attempted
  have counted : entry.attempt.kind ≠ .diagnostic := by
    intro diagnostic
    rw [(placed.diagnostic diagnostic).1] at linked
    cases linked
  obtain ⟨own, isOwn, sameId, -, -, sameOrigin⟩ := placed.lifecycle counted
  have known : life ∈ ledger.lifecycles := by
    rw [reads.lifecycles]
    simp [registered]
  have same : own = life :=
    List.inj_on_of_nodup_map replayed.lifecycles_unique isOwn known
      (Option.some.inj (sameId.symm.trans linked))
  subst same
  -- The lifecycle's origin was bound before the later binding, the attempt's is the last.
  have last := attempt_origin replayed isAttempt
  rw [sameOrigin] at last
  have regenerate := replayed.bindings_regenerate
  rw [reads.bindings, List.filterMap_append] at regenerate
  refine lastBound_ne (List.pairwise_append.mp regenerate).1 ?_ ?_ last
  · obtain ⟨event, member, isLifecycle⟩ := List.mem_filterMap.mp registered
    obtain ⟨earlier, rest, rfl⟩ := List.append_of_mem member
    have split : Replayed weekOf
        (earlier ++ event :: (rest ++ binding :: between ++ reservation :: after)) ledger := by
      simpa using replayed
    have bound := List.mem_of_getLast? (lifecycle_origin split isLifecycle)
    rw [List.filterMap_append]
    exact List.mem_append_left _ bound
  · obtain ⟨origin, isBinding⟩ := Option.ne_none_iff_exists'.mp rebound
    simp [isBinding]

/-- In an accepted history the attempts are strictly ordered in time, those of a
lifecycle are initials and then retries that each name the attempt before, and
every attempt lies in its lifecycle's week, with its profile and under its origin,
which was the journal bound last; so a new binding ends the earlier lifecycles. -/
theorem replay_keeps_attempt_lineage {zone : Zone} (ordered : zone.Ordered)
    (accepted : replayAccounting (weekFor zone) events = .ok ledger) :
    Lineage ledger ∧
      (ledger.lifecycles.map fun entry => entry.lifecycle.lifecycleId).Nodup ∧
      ledger.attempts = events.filterMap AccountingEvent.attempt ∧
      ledger.lifecycles = events.filterMap AccountingEvent.lifecycle ∧
      (∀ before event after entry, events = before ++ event :: after →
        event.attempt = some entry → lastBound before = some entry.journalOrigin) ∧
      ∀ before binding between reservation after life entry,
        events = before ++ binding :: between ++ reservation :: after →
        binding.binding ≠ none → life ∈ before.filterMap AccountingEvent.lifecycle →
        reservation.attempt = some entry →
        entry.attempt.lifecycleId ≠ some life.lifecycle.lifecycleId := by
  have replayed := replayed_of_replay accepted
  refine ⟨replayed.lineage ordered.findsWeeks, replayed.lifecycles_unique,
    replayed.reads.attempts, replayed.reads.lifecycles, ?_, ?_⟩
  · rintro before event after entry rfl isAttempt
    exact attempt_origin replayed isAttempt
  · rintro before binding between reservation after life entry rfl rebound registered isAttempt
    exact no_attempt_after_binding replayed ordered.findsWeeks rebound registered isAttempt

theorem springClock_ordered : springClock.Ordered := by
  apply springClock_newYorkTime.ordered
  rw [springClock_toUtc, instant_civilOf (by decide)]
  decide

theorem replay_keeps_attempt_lineage_sample :
    ∃ ledger, ReservingHistory (weekFor springClock) sampleEvents ledger ∧ Lineage ledger := by
  obtain ⟨ledger, reserving⟩ := sampleEvents_reserve
  obtain ⟨lineage, -⟩ := replay_keeps_attempt_lineage springClock_ordered reserving.accepted
  exact ⟨ledger, reserving, lineage⟩

end ManyAlerts
