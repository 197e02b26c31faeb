import ManyAlerts.Accounting.Replay

/-!
# Spending caps

A reservation is the only event that spends, and it is approved against totals
rebuilt from the projection.  Since the projection is read off the events, those
totals are the sums over the events; costs enter unchecked between reservations
and are seen by the next one.
-/

namespace ManyAlerts

variable {weekOf : CivilTime → Week} {ledger next : Ledger} {event : AccountingEvent}
  {events : List AccountingEvent} {now : CivilTime} {data : ReservationCreated}

/-- The reservations of a history. -/
def reservationsOf (events : List AccountingEvent) : List ReservationCreated :=
  events.filterMap AccountingEvent.reservation

/-- The liability of the reservations that count. -/
def liabilityOf (counts : ReservationCreated → Bool) (events : List AccountingEvent) : Int :=
  (((reservationsOf events).filter counts).map ReservationCreated.liabilityUsdMicros).sum

/-- The liability of all reservations. -/
def reservedLiability (events : List AccountingEvent) : Int := liabilityOf (fun _ => true) events

/-- The other costs of a history. -/
def committedCosts (events : List AccountingEvent) : Int :=
  costSpend (events.filterMap AccountingEvent.cost)

/-- A retry or a diagnostic of a week. -/
def ReservationCreated.isExtra (data : ReservationCreated) (key : String) : Bool :=
  (data.kind = .retry || data.kind = .diagnostic) && data.week.key = key

/-! ## Sums over events -/

theorem reservationsOf_snoc (events : List AccountingEvent) (event : AccountingEvent) :
    reservationsOf (events ++ [event]) = reservationsOf events ++ event.reservation.toList :=
  filterMap_snoc ..

theorem liabilityOf_snoc_other (counts : ReservationCreated → Bool)
    (other : event.reservation = none) :
    liabilityOf counts (events ++ [event]) = liabilityOf counts events := by
  simp [liabilityOf, reservationsOf_snoc, other]

theorem liabilityOf_snoc (counts : ReservationCreated → Bool)
    (isReservation : event.reservation = some data) :
    liabilityOf counts (events ++ [event]) =
      liabilityOf counts events + if counts data then data.liabilityUsdMicros else 0 := by
  cases counted : counts data <;>
    simp [liabilityOf, reservationsOf_snoc, isReservation, List.filter_append, counted]

/-- The spend that a walk over the attempts finds is the liability of the
reservations that the share counts. -/
theorem spendOf_attempts {share : Attempt → Int → Int} {counts : ReservationCreated → Bool}
    (agree : ∀ event ∈ events, ∀ data entry, event.reservation = some data →
      event.attempt = some entry →
      share entry.attempt data.liabilityUsdMicros =
        if counts data then data.liabilityUsdMicros else 0) :
    spendOf share ((events.filterMap AccountingEvent.attempt).map AttemptOrigin.attempt) =
      liabilityOf counts events := by
  induction events using List.reverseRecOn with
  | nil => rfl
  | append_singleton events event induction =>
      have before := induction fun other member => agree other (by simp [member])
      rw [filterMap_snoc, List.map_append]
      cases isReservation : event.reservation with
      | none => simp [AccountingEvent.attempt, isReservation, before, liabilityOf_snoc_other]
      | some data =>
          have own := agree event (by simp) data _ isReservation
            (by rw [AccountingEvent.attempt, isReservation]; rfl)
          rw [liabilityOf_snoc counts isReservation, ← own, ← before, AccountingEvent.attempt,
            isReservation]
          exact spendOf_snoc ..

/-! ## What an event's validity says about its amounts -/

theorem AccountingEvent.valid (event : AccountingEvent) :
    validateEvent event.fields = .ok () := by
  have encoded := event.isEncoded
  simp only [eventBody, bind_eq_ok, exists_unit] at encoded
  exact encoded.1

theorem AccountingEvent.validData (event : AccountingEvent) :
    validateData event.fields event.fields.data = .ok () := by
  have valid := event.valid
  simp only [validateEvent, bind_eq_ok, exists_unit] at valid
  exact valid.2.2.2.2.2.2.2

theorem reservation_least (isReservation : event.reservation = some data) :
    3000000 ≤ data.liabilityUsdMicros := by
  have valid := event.validData
  unfold AccountingEvent.reservation at isReservation
  split at isReservation
  · rename_i isData
    obtain rfl := Option.some.inj isReservation
    simp only [isData, validateData, validateReservation, checkMoney, checkEvent, bind_eq_ok,
      exists_unit, requireThat_eq_ok] at valid
    exact valid.2.2.2.2.2.2.2.2.2.1.1
  · cases isReservation

theorem cost_nonneg {cost : NonModelCost} (isCost : event.cost = some cost) :
    0 ≤ cost.exposure.liability := by
  have valid := event.validData
  unfold AccountingEvent.cost at isCost
  split at isCost
  · rename_i isData
    obtain rfl := Option.some.inj isCost
    simp only [isData, validateData, checkMoney, checkEvent, bind_eq_ok, exists_unit,
      requireThat_eq_ok] at valid
    exact valid.2.1.1
  · cases isCost

theorem liabilityOf_nonneg (counts : ReservationCreated → Bool) (events : List AccountingEvent) :
    0 ≤ liabilityOf counts events := by
  apply List.sum_nonneg
  simp only [List.mem_map, List.mem_filter, reservationsOf, List.mem_filterMap,
    forall_exists_index, and_imp]
  rintro _ data event - isReservation - rfl
  have := reservation_least isReservation
  omega

theorem committedCosts_nonneg (events : List AccountingEvent) : 0 ≤ committedCosts events := by
  apply List.sum_nonneg
  simp only [List.mem_map, List.mem_filterMap, forall_exists_index, and_imp]
  rintro _ cost event - isCost rfl
  exact cost_nonneg isCost

/-- Later events never lower the spend. -/
theorem spend_mono (before after : List AccountingEvent) :
    reservedLiability before + committedCosts before ≤
      reservedLiability (before ++ after) + committedCosts (before ++ after) := by
  have reserved : reservedLiability (before ++ after) =
      reservedLiability before + reservedLiability after := by
    simp [reservedLiability, liabilityOf, reservationsOf]
  have committed : committedCosts (before ++ after) =
      committedCosts before + committedCosts after := by
    simp [committedCosts, costSpend]
  have := liabilityOf_nonneg (fun _ => true) after
  have := committedCosts_nonneg after
  rw [reserved, committed]
  unfold reservedLiability
  omega

/-- Each reservation is liable for three dollars at least. -/
theorem reservations_le (events : List AccountingEvent) :
    3000000 * ((reservationsOf events).length : Int) ≤ reservedLiability events := by
  induction events using List.reverseRecOn with
  | nil => simp [reservationsOf, reservedLiability, liabilityOf]
  | append_singleton events event induction =>
      unfold reservedLiability at *
      rw [reservationsOf_snoc]
      cases isReservation : event.reservation with
      | none => simpa [liabilityOf_snoc_other _ isReservation] using induction
      | some data =>
          have := reservation_least isReservation
          rw [liabilityOf_snoc _ isReservation]
          simp
          omega

/-! ## One reservation -/

theorem LedgerStep.reserves (step : LedgerStep weekOf ledger event next)
    (isReservation : event.reservation = some data) :
    Reserves weekOf ledger event.fields.recordedAtUtc data := by
  obtain ⟨updated, changed, -⟩ := step.data
  unfold AccountingEvent.reservation at isReservation
  split at isReservation
  · rename_i isData
    obtain rfl := Option.some.inj isReservation
    rw [isData] at changed
    cases changed with
    | reserve reserves => exact reserves
  · cases isReservation

/-- Diagnostics have no lifecycle. -/
def DiagnosticsUnlinked (events : List AccountingEvent) : Prop :=
  ∀ event ∈ events, ∀ data, event.reservation = some data → data.kind = .diagnostic →
    data.lifecycleId = none

/-- What a reservation's approval says about the sums over the events before. -/
structure WithinCaps (events : List AccountingEvent) (data : ReservationCreated) : Prop where
  spend : reservedLiability events + committedCosts events + data.liabilityUsdMicros ≤ 49999999
  lifecycle : ∀ lifecycleId, data.lifecycleId = some lifecycleId →
    liabilityOf (fun other => other.lifecycleId = some lifecycleId) events +
      data.liabilityUsdMicros ≤ 30000000
  week : data.kind = .retry ∨ data.kind = .diagnostic →
    liabilityOf (fun other => other.isExtra data.week.key) events + data.liabilityUsdMicros ≤
      30000000

theorem attempt_eq {entry : AttemptOrigin} (isReservation : event.reservation = some data)
    (isAttempt : event.attempt = some entry) :
    entry = ⟨{ data.reservation with
        reservedAt := event.fields.recordedAtUtc, week := data.week },
      data.origin, data.admissionId, data.intentId, data.intentDigest⟩ := by
  rw [AccountingEvent.attempt, isReservation] at isAttempt
  exact (Option.some.inj isAttempt).symm

theorem Reads.attempts_bounded (reads : Reads events ledger) (origin : JournalOrigin)
    (now : CivilTime) :
    ∀ row ∈ (ledger.snapshot origin now).attempts, row.exposure.state = .bounded := by
  simp only [Ledger.snapshot, reads.attempts, List.mem_map, List.mem_filterMap,
    forall_exists_index, and_imp]
  rintro _ entry event - isAttempt rfl
  obtain ⟨data, isReservation, -⟩ := Option.map_eq_some_iff.mp isAttempt
  rw [attempt_eq isReservation isAttempt]
  rfl

theorem Reads.costs_bounded (reads : Reads events ledger) (origin : JournalOrigin)
    (now : CivilTime) :
    ∀ cost ∈ (ledger.snapshot origin now).nonModelCosts, cost.exposure.state = .bounded := by
  simp only [Ledger.snapshot, reads.costs, List.mem_filterMap, forall_exists_index, and_imp]
  intro cost event _ isCost
  unfold AccountingEvent.cost at isCost
  split at isCost
  · obtain rfl := Option.some.inj isCost
    rfl
  · cases isCost

theorem Reserves.withinCaps (reserves : Reserves weekOf ledger now data)
    (reads : Reads events ledger) (unlinked : DiagnosticsUnlinked events) :
    WithinCaps events data := by
  have approved := reserves.approved
  have attempts := reads.attempts_bounded data.origin now
  have ofAttempts : (ledger.snapshot data.origin now).attempts =
      (events.filterMap AccountingEvent.attempt).map AttemptOrigin.attempt := by
    rw [← reads.attempts]
    rfl
  have total : totalSpend (ledger.snapshot data.origin now).attempts =
      reservedLiability events := by
    rw [ofAttempts]
    exact spendOf_attempts fun _ _ _ _ _ _ => rfl
  constructor
  · have cap := approved.experimentCap attempts (reads.costs_bounded data.origin now)
    rw [total] at cap
    have costs : costSpend (ledger.snapshot data.origin now).nonModelCosts =
        committedCosts events := by
      rw [committedCosts, ← reads.costs]
      rfl
    rw [costs] at cap
    exact cap
  · intro lifecycleId linked
    have counted : data.kind ≠ .diagnostic := by
      intro diagnostic
      have := (approved.diagnostic diagnostic).1
      rw [show (data.candidate ledger).lifecycleId = data.lifecycleId from rfl, linked] at this
      cases this
    have cap := approved.lifecycleCap attempts counted
    have spent : lifecycleSpend (some lifecycleId) (ledger.snapshot data.origin now).attempts =
        liabilityOf (fun other => other.lifecycleId = some lifecycleId) events := by
      rw [ofAttempts]
      refine spendOf_attempts fun event member other entry isReservation isAttempt => ?_
      rw [attempt_eq isReservation isAttempt]
      have := unlinked event member other isReservation
      by_cases diagnostic : other.kind = .diagnostic
      · simp [Scratch.lifecycleShare, ReservationCreated.reservation, diagnostic, this diagnostic]
      · simp [Scratch.lifecycleShare, ReservationCreated.reservation, diagnostic, eq_comm]
    rw [show (data.candidate ledger).lifecycleId = some lifecycleId from linked, spent] at cap
    exact cap
  · intro extra
    have cap := approved.diagnosticCap attempts extra
    have spent : diagnosticSpend (weekOf now).key (ledger.snapshot data.origin now).attempts =
        liabilityOf (fun other => other.isExtra (weekOf now).key) events := by
      rw [ofAttempts]
      refine spendOf_attempts fun event member other entry isReservation isAttempt => ?_
      rw [attempt_eq isReservation isAttempt]
      simp [Scratch.diagnosticShare, ReservationCreated.reservation, ReservationCreated.isExtra,
        @eq_comm _ (weekOf now).key]
    rw [spent, ← reserves.week] at cap
    exact cap

/-! ## Whole histories -/

/-- The caps of one history. -/
structure SpendingCaps (events : List AccountingEvent) : Prop where
  total : reservedLiability events ≤ 49999999
  few : (reservationsOf events).length ≤ 16
  lifecycle : ∀ lifecycleId,
    liabilityOf (fun data => data.lifecycleId = some lifecycleId) events ≤ 30000000
  week : ∀ key, liabilityOf (fun data => data.isExtra key) events ≤ 30000000

theorem SpendingCaps.of_sums (total : reservedLiability events ≤ 49999999)
    (lifecycle : ∀ lifecycleId,
      liabilityOf (fun data => data.lifecycleId = some lifecycleId) events ≤ 30000000)
    (week : ∀ key, liabilityOf (fun data => data.isExtra key) events ≤ 30000000) :
    SpendingCaps events := by
  have := reservations_le events
  exact ⟨total, by omega, lifecycle, week⟩

theorem spendingCaps_of_none (none : reservationsOf events = []) : SpendingCaps events := by
  have zero : ∀ counts, liabilityOf counts events = 0 := by
    intro counts
    simp [liabilityOf, none]
  exact .of_sums (by simp [reservedLiability, zero]) (by simp [zero]) (by simp [zero])

theorem Replayed.diagnosticsUnlinked (replayed : Replayed weekOf events ledger) :
    DiagnosticsUnlinked events := by
  induction replayed with
  | start opened =>
      intro event member data isReservation
      obtain rfl := List.mem_singleton.mp member
      obtain ⟨population, isGenesis, -⟩ := openLedger_ok opened
      simp [AccountingEvent.reservation, isGenesis] at isReservation
  | step replayed step induction =>
      intro event member data isReservation diagnostic
      rcases List.mem_append.mp member with before | last
      · exact induction event before data isReservation diagnostic
      · obtain rfl := List.mem_singleton.mp last
        exact ((step.reserves isReservation).approved.diagnostic diagnostic).1

theorem SpendingCaps.step (caps : SpendingCaps events) (replayed : Replayed weekOf events ledger)
    (step : LedgerStep weekOf ledger event next) : SpendingCaps (events ++ [event]) := by
  cases isReservation : event.reservation with
  | none =>
      -- Only reservations are summed here, so other events leave every sum as it was.
      refine .of_sums ?_ ?_ ?_
      · rw [reservedLiability, liabilityOf_snoc_other _ isReservation]
        exact caps.total
      · intro lifecycleId
        rw [liabilityOf_snoc_other _ isReservation]
        exact caps.lifecycle lifecycleId
      · intro key
        rw [liabilityOf_snoc_other _ isReservation]
        exact caps.week key
  | some data =>
      have within := (step.reserves isReservation).withinCaps replayed.reads
        replayed.diagnosticsUnlinked
      refine .of_sums ?_ ?_ ?_
      · have := within.spend
        have := committedCosts_nonneg events
        rw [reservedLiability, liabilityOf_snoc _ isReservation, if_pos rfl]
        unfold reservedLiability at *
        omega
      · intro lifecycleId
        rw [liabilityOf_snoc _ isReservation]
        split_ifs with linked
        · exact within.lifecycle lifecycleId (by simpa using linked)
        · simpa using caps.lifecycle lifecycleId
      · intro key
        rw [liabilityOf_snoc _ isReservation]
        split_ifs with extra
        · simp only [ReservationCreated.isExtra, Bool.and_eq_true, Bool.or_eq_true,
            decide_eq_true_eq] at extra
          obtain ⟨isExtra, rfl⟩ := extra
          exact within.week isExtra
        · simpa using caps.week key

theorem Replayed.spendingCaps (replayed : Replayed weekOf events ledger) :
    SpendingCaps events := by
  induction replayed with
  | start opened =>
      obtain ⟨population, isGenesis, -⟩ := openLedger_ok opened
      apply spendingCaps_of_none
      simp [reservationsOf, AccountingEvent.reservation, isGenesis]
  | step replayed step induction => exact induction.step replayed step

/-- What held when a reservation was accepted. -/
structure ReservedSafely (before : List AccountingEvent) (event : AccountingEvent) : Prop where
  spend : reservedLiability (before ++ [event]) + committedCosts (before ++ [event]) ≤ 49999999
  complete : (before.head?.map fun first => first.fields.data) = some (.genesis .syntheticComplete)
  unheld : ∀ earlier ∈ before, earlier.hold = none

theorem reservedSafely {before after : List AccountingEvent}
    (replayed : Replayed weekOf (before ++ event :: after) ledger)
    (isReservation : event.reservation = some data) : ReservedSafely before event := by
  have notFirst : before ≠ [] := by
    rintro rfl
    rw [List.append_cons] at replayed
    obtain ⟨_, first⟩ := replayed.of_prefix (by simp)
    have := first.reads.genesis
    simp only [List.nil_append, List.head?_cons, Option.map_some, Option.some.injEq] at this
    simp [AccountingEvent.reservation, this] at isReservation
  obtain ⟨earlier, next, replayed, step, -⟩ := replayed.of_split notFirst
  have reads := replayed.reads
  have reserves := step.reserves isReservation
  have within := reserves.withinCaps reads replayed.diagnosticsUnlinked
  refine ⟨?_, ?_, ?_⟩
  · have noCost : event.cost = none := by
      unfold AccountingEvent.reservation at isReservation
      unfold AccountingEvent.cost
      split at isReservation <;> simp_all
    have costs : committedCosts (before ++ [event]) = committedCosts before := by
      simp [committedCosts, noCost]
    rw [reservedLiability, liabilityOf_snoc _ isReservation, if_pos rfl, costs]
    have := within.spend
    unfold reservedLiability at this
    omega
  · rw [reads.genesis]
    have complete := reserves.approved.complete
    simp only [Ledger.snapshot, ite_eq_left_iff, reduceCtorEq, imp_false, not_not] at complete
    rw [complete]
  · intro other member
    have unheld := reserves.approved.unheld
    simp only [Ledger.snapshot, List.map_eq_nil_iff, reads.holds,
      List.filterMap_eq_nil_iff] at unheld
    exact unheld other member

/-- The caps hold after every prefix of an accepted history; a reservation is
accepted only while all spending is within the limit, the population is complete
and no hold is set; so none follows a hold or a cost beyond the limit. -/
theorem replay_keeps_spending_caps
    (accepted : replayAccounting weekOf events = .ok ledger) :
    (∀ before after, events = before ++ after → SpendingCaps before) ∧
      (∀ before event after, events = before ++ event :: after → event.reservation ≠ none →
        ReservedSafely before event) ∧
      ∀ before event after, events = before ++ event :: after →
        event.hold ≠ none ∨
          49999999 < reservedLiability (before ++ [event]) + committedCosts (before ++ [event]) →
        ∀ later ∈ after, later.reservation = none := by
  have replayed := replayed_of_replay accepted
  have safely : ∀ before event after, events = before ++ event :: after →
      event.reservation ≠ none → ReservedSafely before event := by
    rintro before event after rfl isReservation
    obtain ⟨data, isReservation⟩ := Option.ne_none_iff_exists'.mp isReservation
    exact reservedSafely replayed isReservation
  refine ⟨?_, safely, ?_⟩
  · rintro before after rfl
    by_cases empty : before = []
    · exact spendingCaps_of_none (by simp [empty, reservationsOf])
    · obtain ⟨earlier, replayed⟩ := replayed.of_prefix empty
      exact replayed.spendingCaps
  · intro before event after split stopped later member
    by_contra isReservation
    obtain ⟨between, rest, rfl⟩ := List.append_of_mem member
    have reserved := safely (before ++ event :: between) later rest (by simp [split]) isReservation
    rcases stopped with held | beyond
    · exact held (reserved.unheld event (by simp))
    · have grown := spend_mono (before ++ [event]) (between ++ [later])
      have spend := reserved.spend
      simp only [List.append_assoc, List.cons_append, List.nil_append] at grown spend beyond
      omega

theorem replay_keeps_spending_caps_sample :
    ∃ ledger, ReservingHistory (weekFor springClock) sampleEvents ledger ∧
      (∀ before after, sampleEvents = before ++ after → SpendingCaps before) ∧
      ∀ before event after, sampleEvents = before ++ event :: after → event.reservation ≠ none →
        ReservedSafely before event := by
  obtain ⟨ledger, reserving⟩ := sampleEvents_reserve
  obtain ⟨caps, safely, -⟩ := replay_keeps_spending_caps reserving.accepted
  exact ⟨ledger, reserving, caps, safely⟩

end ManyAlerts
