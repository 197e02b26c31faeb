import ManyAlerts.Accounting.Policy

/-!
# What an approved reservation says

The evaluation rebuilds its totals by walking over the facts of the snapshot.
`Walked` relates the attempts a walk has passed to the totals and to the last
attempt of each lifecycle it holds; `Approved` lists what the snapshot and the
candidate must have been like for the evaluation to approve.
-/

namespace ManyAlerts

variable {now : CivilTime} {exposure : Exposure} {amount : Int}

/-! ## Amounts -/

@[simp] theorem nonnegative_eq_ok {value result : Int} :
    nonnegative value = .ok result ↔ 0 ≤ value ∧ value < 2 ^ 63 ∧ value = result := by
  simp only [nonnegative, bind_eq_ok, requireThat_eq_ok, exists_unit, pure_eq_ok]

@[simp] theorem requireAtMost_eq_ok {ceiling value : Int} {code : AccountingCode} {done : Unit} :
    requireAtMost ceiling code value = .ok done ↔
      0 ≤ value ∧ value < 2 ^ 63 ∧ value ≤ ceiling := by
  simp only [requireAtMost, bind_eq_ok, nonnegative_eq_ok, requireThat_eq_ok]
  constructor
  · rintro ⟨_, ⟨nonneg, small, rfl⟩, within⟩
    exact ⟨nonneg, small, within⟩
  · rintro ⟨nonneg, small, within⟩
    exact ⟨value, ⟨nonneg, small, rfl⟩, within⟩

theorem checkLimits_ok {totals : PolicyTotals} {done : Unit}
    (limited : checkLimits totals = .ok done) :
    totals.experiment ≤ 49999999 ∧ totals.lifecycle ≤ 30000000 ∧ totals.diagnostic ≤ 30000000 := by
  simp only [checkLimits, bind_eq_ok, requireAtMost_eq_ok, exists_unit] at limited
  obtain ⟨-, ⟨-, -, experiment⟩, ⟨-, -, lifecycle⟩, ⟨-, -, diagnostic⟩, -⟩ := limited
  exact ⟨experiment, lifecycle, diagnostic⟩

/-- The liability of an exposure: its upper bound. -/
def Exposure.liability (exposure : Exposure) : Int := exposure.upperBound.getD 0

theorem exposureAmount_bounded {model : Bool} (bounded : exposure.state = .bounded)
    (counted : exposureAmount exposure now model = .ok amount) :
    amount = exposure.liability ∧ 0 ≤ amount ∧ (model = true → minReservationMicros ≤ amount) := by
  simp only [exposureAmount, bounded, bind_eq_ok, requireThat_eq_ok, orFail_eq_ok, exists_unit,
    nonnegative_eq_ok, if_true, pure_eq_ok] at counted
  obtain ⟨-, upper, known, _, ⟨nonneg, -, rfl⟩, least, -, _, -, -, rfl⟩ := counted
  refine ⟨by simp [Exposure.liability, known], nonneg, fun isModel => ?_⟩
  rcases least with notModel | enough
  · rw [isModel] at notModel
    cases notModel
  · exact enough

/-! ## Scratch totals -/

namespace Scratch

variable {K : Type} [DecidableEq K] {map changed : Dict K (Int × Int)} {key : K}
  {scratch next : Scratch} {row : Reservation} {week : Week}

theorem spent_chargeIf {counted : Prop} [Decidable counted]
    (charged : chargeIf counted map key amount = .ok changed) (other : K) :
    (spent changed other).1 =
      (spent map other).1 + if counted ∧ other = key then amount else 0 := by
  unfold chargeIf at charged
  split_ifs at charged with counts
  · simp only [bind_eq_ok, nonnegative_eq_ok, pure_eq_ok] at charged
    obtain ⟨_, ⟨-, -, rfl⟩, rfl⟩ := charged
    by_cases same : other = key
    · subst same
      simp [spent, counts]
    · simp [spent, Dict.get?_set_of_ne _ _ same, same]
  · obtain rfl := Except.ok.inj charged
    simp [counts]

/-- What a reservation adds to the spend of a lifecycle. -/
def lifecycleShare (row : Reservation) (lifecycleId : Option String) (amount : Int) : Int :=
  if row.kind ≠ .diagnostic ∧ lifecycleId = row.lifecycleId then amount else 0

/-- What a reservation adds to the diagnostic spend of a week. -/
def diagnosticShare (row : Reservation) (week : Week) (key : String) (amount : Int) : Int :=
  if (row.kind = .retry ∨ row.kind = .diagnostic) ∧ key = week.key then amount else 0

/-- What `add` adds. -/
structure Added (scratch : Scratch) (row : Reservation) (week : Week) (amount : Int)
    (next : Scratch) : Prop where
  experiment : next.experiment = scratch.experiment + amount
  lifecycle : ∀ lifecycleId, (spent next.lifecycles lifecycleId).1 =
    (spent scratch.lifecycles lifecycleId).1 + lifecycleShare row lifecycleId amount
  diagnostic : ∀ key, (spent next.diagnostics key).1 =
    (spent scratch.diagnostics key).1 + diagnosticShare row week key amount

theorem add_ok (added : scratch.add row week amount = .ok next) :
    Added scratch row week amount next := by
  simp only [add, bind_eq_ok, nonnegative_eq_ok, pure_eq_ok] at added
  obtain ⟨_, ⟨-, -, rfl⟩, _, -, lifecycles, perLife, diagnostics, perWeek, rfl⟩ := added
  exact ⟨rfl, fun lifecycleId => spent_chargeIf perLife lifecycleId,
    fun key => spent_chargeIf perWeek key⟩

end Scratch

/-! ## The walks -/

/-- The last attempt of a lifecycle. -/
def lastOf (lifecycleId : Option String) (attempts : List Attempt) : Option Reservation :=
  (attempts.filter fun row => row.kind ≠ .diagnostic ∧ row.lifecycleId = lifecycleId).getLast?.map
    Attempt.toReservation

theorem lastOf_snoc (lifecycleId : Option String) (attempts : List Attempt) (row : Attempt) :
    lastOf lifecycleId (attempts ++ [row]) =
      if row.kind ≠ .diagnostic ∧ row.lifecycleId = lifecycleId then some row.toReservation
      else lastOf lifecycleId attempts := by
  unfold lastOf
  split_ifs with counted
  · simp [List.filter_append, counted]
  · simp [List.filter_append, counted]

/-- The liabilities of attempts that count, each with its share. -/
def spendOf (share : Attempt → Int → Int) (attempts : List Attempt) : Int :=
  (attempts.map fun row => share row row.exposure.liability).sum

theorem spendOf_snoc (share : Attempt → Int → Int) (attempts : List Attempt) (row : Attempt) :
    spendOf share (attempts ++ [row]) =
      spendOf share attempts + share row row.exposure.liability := by
  simp [spendOf]

def lifecycleSpend (lifecycleId : Option String) (attempts : List Attempt) : Int :=
  spendOf (fun row => Scratch.lifecycleShare row.toReservation lifecycleId) attempts

def diagnosticSpend (key : String) (attempts : List Attempt) : Int :=
  spendOf (fun row => Scratch.diagnosticShare row.toReservation row.week key) attempts

def totalSpend (attempts : List Attempt) : Int := spendOf (fun _ liability => liability) attempts

/-- What a walk over attempts has gathered. -/
structure Walked (now : CivilTime) (attempts : List Attempt) (walk : AttemptWalk) : Prop where
  earlier : ∀ row ∈ attempts, row.reservedAt.instant < now.instant
  inWeek : ∀ row ∈ attempts, row.week.startUtc.instant ≤ row.reservedAt.instant ∧
    row.reservedAt.instant < row.week.endUtc.instant
  latest : ∀ lifecycleId, walk.latest.get? lifecycleId = lastOf lifecycleId attempts
  experiment : (∀ row ∈ attempts, row.exposure.state = .bounded) →
    walk.scratch.experiment = totalSpend attempts
  lifecycle : (∀ row ∈ attempts, row.exposure.state = .bounded) → ∀ lifecycleId,
    (Scratch.spent walk.scratch.lifecycles lifecycleId).1 = lifecycleSpend lifecycleId attempts
  diagnostic : (∀ row ∈ attempts, row.exposure.state = .bounded) → ∀ key,
    (Scratch.spent walk.scratch.diagnostics key).1 = diagnosticSpend key attempts

theorem lineage_get? {row : Reservation} {latest changed : Dict (Option String) Reservation}
    (linked : lineage row latest = .ok changed) (lifecycleId : Option String) :
    changed.get? lifecycleId =
      if row.kind ≠ .diagnostic ∧ row.lifecycleId = lifecycleId then some row
      else latest.get? lifecycleId := by
  have written : ∀ next, pure next = (Except.ok changed : Except AccountingCode _) →
      row.kind ≠ .diagnostic → next = latest.set row.lifecycleId row →
      changed.get? lifecycleId =
        if row.kind ≠ .diagnostic ∧ row.lifecycleId = lifecycleId then some row
        else latest.get? lifecycleId := by
    intro next returned counted isSet
    obtain rfl := pure_eq_ok.mp returned
    rw [isSet, Dict.get?_set]
    simp [counted, eq_comm]
  unfold lineage at linked
  split_ifs at linked with diagnostic retry
  · obtain rfl := pure_eq_ok.mp linked
    simp [diagnostic]
  · simp only [bind_eq_ok] at linked
    obtain ⟨_, -, _, -, returned⟩ := linked
    exact written _ returned diagnostic rfl
  · simp only [bind_eq_ok] at linked
    obtain ⟨_, -, returned⟩ := linked
    exact written _ returned diagnostic rfl

theorem Walked.step {profiles : List Profile} {lifecycles : Dict String Lifecycle}
    {attempts : List Attempt} {walk next : AttemptWalk} {row : Attempt}
    (walked : Walked now attempts walk)
    (stepped : walkAttempt now profiles lifecycles walk row = .ok next) :
    Walked now (attempts ++ [row]) next := by
  simp only [walkAttempt, bind_eq_ok, requireThat_eq_ok, exists_unit, pure_eq_ok] at stepped
  obtain ⟨⟨earlier, -⟩, _, -, inWeek, identities, -, -, latest, linked, amount, counted, scratch,
    added, rfl⟩ := stepped
  have added := Scratch.add_ok added
  have amounts : (∀ other ∈ attempts ++ [row], other.exposure.state = .bounded) →
      (∀ other ∈ attempts, other.exposure.state = .bounded) ∧
        amount = row.exposure.liability := by
    intro bounded
    exact ⟨fun other member => bounded other (by simp [member]),
      (exposureAmount_bounded (bounded row (by simp)) counted).1⟩
  refine
    { earlier := ?_, inWeek := ?_, latest := ?_, experiment := ?_, lifecycle := ?_,
      diagnostic := ?_ }
  · intro other member
    rcases List.mem_append.mp member with before | last
    · exact walked.earlier other before
    · obtain rfl := List.mem_singleton.mp last
      exact earlier
  · intro other member
    rcases List.mem_append.mp member with before | last
    · exact walked.inWeek other before
    · obtain rfl := List.mem_singleton.mp last
      exact inWeek
  · intro lifecycleId
    rw [lineage_get? linked, lastOf_snoc, walked.latest]
  · intro bounded
    obtain ⟨before, rfl⟩ := amounts bounded
    rw [added.experiment, totalSpend, spendOf_snoc]
    exact congrArg (· + _) (walked.experiment before)
  · intro bounded lifecycleId
    obtain ⟨before, rfl⟩ := amounts bounded
    rw [added.lifecycle, lifecycleSpend, spendOf_snoc]
    exact congrArg (· + _) (walked.lifecycle before lifecycleId)
  · intro bounded key
    obtain ⟨before, rfl⟩ := amounts bounded
    rw [added.diagnostic, diagnosticSpend, spendOf_snoc]
    exact congrArg (· + _) (walked.diagnostic before key)

theorem walked_of_foldlM {profiles : List Profile} {lifecycles : Dict String Lifecycle}
    {attempts : List Attempt} {knownWeeks : Dict String Week} {identities : List String}
    {walk : AttemptWalk}
    (passed : attempts.foldlM (walkAttempt now profiles lifecycles)
      ⟨none, knownWeeks, .empty, .start identities⟩ = .ok walk) : Walked now attempts walk := by
  refine foldlM_history (fun done walk row next walked => walked.step) ?_ passed
  exact ⟨by simp, by simp, fun _ => rfl, fun _ => rfl, fun _ _ => rfl, fun _ _ => rfl⟩

/-- The liabilities of the other costs. -/
def costSpend (costs : List NonModelCost) : Int :=
  (costs.map fun cost => cost.exposure.liability).sum

/-- What a walk over the other costs has gathered. -/
structure CostsWalked (start : Scratch) (costs : List NonModelCost) (scratch : Scratch) : Prop where
  lifecycles : scratch.lifecycles = start.lifecycles
  diagnostics : scratch.diagnostics = start.diagnostics
  experiment : (∀ cost ∈ costs, cost.exposure.state = .bounded) →
    scratch.experiment = start.experiment + costSpend costs

theorem CostsWalked.step {start scratch next : Scratch} {costs : List NonModelCost}
    {cost : NonModelCost} (walked : CostsWalked start costs scratch)
    (stepped : walkCost now scratch cost = .ok next) :
    CostsWalked start (costs ++ [cost]) next := by
  simp only [walkCost, bind_eq_ok, requireThat_eq_ok, exists_unit, nonnegative_eq_ok,
    pure_eq_ok] at stepped
  obtain ⟨-, -, amount, counted, _, ⟨-, -, rfl⟩, rfl⟩ := stepped
  refine ⟨walked.lifecycles, walked.diagnostics, fun bounded => ?_⟩
  have own := (exposureAmount_bounded (bounded cost (by simp)) counted).1
  have before := walked.experiment fun other member => bounded other (by simp [member])
  simp [before, own, costSpend, add_assoc]

theorem costsWalked_of_foldlM {costs : List NonModelCost} {start finish : Scratch}
    (passed : costs.foldlM (walkCost now) start = .ok finish) : CostsWalked start costs finish :=
  foldlM_history (fun _ _ _ _ walked => walked.step) ⟨rfl, rfl, fun _ => by simp [costSpend]⟩
    passed

/-- The lifecycles that a walk has passed are those of the snapshot. -/
theorem walkLifecycle_foldlM {profiles : List Profile} {lives : List Lifecycle}
    {knownWeeks : Dict String Week} {walk : LifecycleWalk}
    (passed : lives.foldlM (walkLifecycle profiles) ⟨.empty, [], knownWeeks⟩ = .ok walk)
    {lifecycleId : String} {life : Lifecycle}
    (found : walk.lifecycles.get? lifecycleId = some life) :
    life ∈ lives ∧ life.lifecycleId = lifecycleId := by
  have preserved : ∀ done walk life next,
      (∀ lifecycleId found, walk.lifecycles.get? lifecycleId = some found →
        found ∈ done ∧ found.lifecycleId = lifecycleId) →
      walkLifecycle profiles walk life = .ok next →
      ∀ lifecycleId found, next.lifecycles.get? lifecycleId = some found →
        found ∈ done ++ [life] ∧ found.lifecycleId = lifecycleId := by
    intro done walk life next before stepped lifecycleId found stored
    simp only [walkLifecycle, bind_eq_ok, requireThat_eq_ok, exists_unit, pure_eq_ok] at stepped
    obtain ⟨-, _, -, -, -, -, rfl⟩ := stepped
    rw [Dict.get?_set] at stored
    split_ifs at stored with same
    · obtain rfl := Option.some.inj stored
      exact ⟨by simp, same.symm⟩
    · obtain ⟨member, own⟩ := before lifecycleId found stored
      exact ⟨by simp [member], own⟩
  exact foldlM_history preserved (by simp) passed lifecycleId life found

/-! ## Approval -/

/-- What `_attribution` leaves of a row. -/
structure Attributed (row : Reservation) (week : Week) (profiles : List Profile)
    (lifecycles : Dict String Lifecycle) : Prop where
  profile : row.profile ∈ profiles
  diagnostic : row.kind = .diagnostic → row.lifecycleId = none ∧ row.predecessorId = none
  lifecycle : row.kind ≠ .diagnostic → ∃ lifecycleId life, row.lifecycleId = some lifecycleId ∧
    lifecycles.get? lifecycleId = some life ∧ life.profile = row.profile ∧ life.week = week
  initial : row.kind = .initial → row.predecessorId = none
  retry : row.kind = .retry → row.effectsReconciled = true

theorem attributed_of_check {row : Reservation} {week : Week} {profiles : List Profile}
    {lifecycles : Dict String Lifecycle} {done : Unit}
    (checked : checkAttribution row week profiles lifecycles = .ok done) :
    Attributed row week profiles lifecycles := by
  simp only [checkAttribution, bind_eq_ok, requireThat_eq_ok, exists_unit] at checked
  obtain ⟨-, profile, checked⟩ := checked
  split_ifs at checked with diagnostic initial
  · obtain ⟨noLifecycle, noPredecessor, -⟩ := requireThat_eq_ok.mp checked
    exact ⟨profile, fun _ => ⟨noLifecycle, noPredecessor⟩, fun other => absurd diagnostic other,
      fun other => by simp [diagnostic] at other, fun other => by simp [diagnostic] at other⟩
  · simp only [bind_eq_ok, requireThat_eq_ok, exists_unit, orFail_eq_ok] at checked
    obtain ⟨lifecycleId, isLifecycle, -, life, found, ⟨sameProfile, sameWeek⟩, noPredecessor, -⟩ :=
      checked
    exact ⟨profile, fun other => absurd other diagnostic,
      fun _ => ⟨lifecycleId, life, isLifecycle, found, sameProfile, sameWeek⟩,
      fun _ => noPredecessor, fun other => by simp [initial] at other⟩
  · simp only [bind_eq_ok, requireThat_eq_ok, exists_unit, orFail_eq_ok] at checked
    obtain ⟨lifecycleId, isLifecycle, -, life, found, ⟨sameProfile, sameWeek⟩, reconciled, -⟩ :=
      checked
    exact ⟨profile, fun other => absurd other diagnostic,
      fun _ => ⟨lifecycleId, life, isLifecycle, found, sameProfile, sameWeek⟩,
      fun other => absurd other initial, fun _ => reconciled⟩

theorem lineage_retry {row : Reservation} {latest changed : Dict (Option String) Reservation}
    (linked : lineage row latest = .ok changed) (retry : row.kind = .retry) :
    ∃ last, latest.get? row.lifecycleId = some last ∧ row.predecessorId = some last.attemptId := by
  simp only [lineage, retry, reduceCtorEq, if_false, if_true, bind_eq_ok, orFail_eq_ok,
    requireThat_eq_ok, exists_unit] at linked
  obtain ⟨last, found, ⟨predecessor, -⟩, -⟩ := linked
  exact ⟨last, found, predecessor⟩

theorem lineage_initial {row : Reservation} {latest changed : Dict (Option String) Reservation}
    (linked : lineage row latest = .ok changed) (initial : row.kind = .initial)
    {last : Reservation} (found : latest.get? row.lifecycleId = some last) :
    last.kind ≠ .retry := by
  simp only [lineage, initial, reduceCtorEq, if_false, bind_eq_ok, requireThat_eq_ok, exists_unit,
    found, Option.all_some, decide_eq_true_eq] at linked
  exact linked.1

/-- What an approval says about the snapshot and the candidate. -/
structure Approved (weekOf : CivilTime → Week) (snapshot : PolicySnapshot)
    (candidate : Candidate) (now : CivilTime) : Prop where
  complete : snapshot.population = .hypotheticalComplete
  unheld : snapshot.holds = []
  earlier : ∀ row ∈ snapshot.attempts, row.reservedAt.instant < now.instant
  inWeek : ∀ row ∈ snapshot.attempts, row.week.startUtc.instant ≤ row.reservedAt.instant ∧
    row.reservedAt.instant < row.week.endUtc.instant
  profile : candidate.profile ∈ snapshot.profiles
  diagnostic : candidate.kind = .diagnostic →
    candidate.lifecycleId = none ∧ candidate.predecessorId = none
  lifecycle : candidate.kind ≠ .diagnostic → ∃ life ∈ snapshot.lifecycles,
    candidate.lifecycleId = some life.lifecycleId ∧ life.profile = candidate.profile ∧
      life.week = weekOf now
  initial : candidate.kind = .initial → candidate.predecessorId = none ∧
    ∀ last, lastOf candidate.lifecycleId snapshot.attempts = some last → last.kind ≠ .retry
  retry : candidate.kind = .retry → candidate.effectsReconciled = true ∧
    ∃ last, lastOf candidate.lifecycleId snapshot.attempts = some last ∧
      candidate.predecessorId = some last.attemptId
  liability : minReservationMicros ≤ candidate.exposure.liability
  experimentCap : (∀ row ∈ snapshot.attempts, row.exposure.state = .bounded) →
    (∀ cost ∈ snapshot.nonModelCosts, cost.exposure.state = .bounded) →
    totalSpend snapshot.attempts + costSpend snapshot.nonModelCosts +
      candidate.exposure.liability ≤ 49999999
  lifecycleCap : (∀ row ∈ snapshot.attempts, row.exposure.state = .bounded) →
    candidate.kind ≠ .diagnostic →
    lifecycleSpend candidate.lifecycleId snapshot.attempts + candidate.exposure.liability ≤
      30000000
  diagnosticCap : (∀ row ∈ snapshot.attempts, row.exposure.state = .bounded) →
    candidate.kind = .retry ∨ candidate.kind = .diagnostic →
    diagnosticSpend (weekOf now).key snapshot.attempts + candidate.exposure.liability ≤ 30000000

theorem approved_of_evaluate {weekOf : CivilTime → Week} {snapshot : PolicySnapshot}
    {candidate : Candidate} {proposal : HypotheticalProposal}
    (evaluated : evaluateReservation weekOf snapshot candidate now = .ok proposal) :
    Approved weekOf snapshot candidate now := by
  simp only [evaluateReservation, checkSnapshot, bind_eq_ok, requireThat_eq_ok, exists_unit,
    pure_eq_ok] at evaluated
  obtain ⟨⟨-, -, -, -, -, -, -, -, -, -, complete, unheld, -, -⟩, lives, livesPassed, walk, passed,
    scratch, costsPassed, -, identities, -, attributed, latest, linked, upper, counted, bounded,
    after, added, limited, -⟩ := evaluated
  have walked := walked_of_foldlM passed
  have costsWalked := costsWalked_of_foldlM costsPassed
  have added := Scratch.add_ok added
  obtain ⟨isLiability, -, least⟩ := exposureAmount_bounded bounded counted
  obtain ⟨experiment, lifecycle, diagnostic⟩ := checkLimits_ok limited
  have attributed := attributed_of_check attributed
  subst isLiability
  exact
    { complete, unheld
      earlier := walked.earlier
      inWeek := walked.inWeek
      profile := attributed.profile
      diagnostic := attributed.diagnostic
      lifecycle := fun counted => by
        obtain ⟨lifecycleId, life, known, found, sameProfile, sameWeek⟩ :=
          attributed.lifecycle counted
        obtain ⟨member, own⟩ := walkLifecycle_foldlM livesPassed found
        exact ⟨life, member, by rw [own]; exact known, sameProfile, sameWeek⟩
      initial := fun initial => ⟨attributed.initial initial, fun last found =>
        lineage_initial linked initial ((walked.latest _).trans found)⟩
      retry := fun retry => by
        obtain ⟨last, found, predecessor⟩ := lineage_retry linked retry
        exact ⟨attributed.retry retry, last, (walked.latest _).symm.trans found, predecessor⟩
      liability := least rfl
      experimentCap := fun attemptsBounded costsBounded => by
        rw [Scratch.totals, added.experiment, costsWalked.experiment costsBounded,
          walked.experiment attemptsBounded] at experiment
        exact experiment
      lifecycleCap := fun attemptsBounded counted => by
        rw [Scratch.totals, added.lifecycle, costsWalked.lifecycles,
          walked.lifecycle attemptsBounded, Scratch.lifecycleShare, if_pos ⟨counted, rfl⟩]
          at lifecycle
        exact lifecycle
      diagnosticCap := fun attemptsBounded counted => by
        rw [Scratch.totals, added.diagnostic, costsWalked.diagnostics,
          walked.diagnostic attemptsBounded, Scratch.diagnosticShare, if_pos ⟨counted, rfl⟩]
          at diagnostic
        exact diagnostic }

end ManyAlerts
