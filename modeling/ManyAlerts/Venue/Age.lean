import Mathlib.Data.Real.Basic
import ManyAlerts.Library.Checked
import ManyAlerts.Library.Runs
import ManyAlerts.Library.Sha256

/-!
# The claimed age of a venue

`derive_claimed_age` keeps an interval for the age of a resource.  Each call brings the
times that a provider claims, measured by a clock that starts anew with each boot, and
widens or carries over what the last call knew.

The interval only moves forward, and it holds the true age as long as the claims are
honest: a claimed age is right up to its epsilon at some instant of the request.
-/

namespace ManyAlerts

def maxAgeNs : Int := 2 ^ 63 - 1
def maxEpsilonNs : Int := 5000000000

inductive AgeErrorCode where
  | timeInvalid
  | identityInvalid
  | anchorInvalid
  | identityChanged
  | overflow
  | anchorLost
  | rollback
deriving DecidableEq

structure AgeAnchor where
  lowerNs : Int
  upperNs : Int
  monotonicAnchorNs : Int
  bootId : String
  resourceDigest : String
deriving DecidableEq

structure ClaimedProviderTime where
  providerCreatedAtNs : Int
  providerNowNs : Int
  epsilonNs : Int
  requestStartedNs : Int
  responseReceivedNs : Int
  observerBootId : String
  resourceDigest : String
deriving DecidableEq

/-! ## The derivation -/

/-- `_valid_ns`. -/
def validNs (value : Int) : Bool := 0 ≤ value && value ≤ maxAgeNs

/-- `_valid_boot`. -/
def validBoot (boot : String) : Bool :=
  boot.length ≥ 1 && boot.length ≤ 128 && boot.toList.all fun character =>
    'A' ≤ character && character ≤ 'Z' || 'a' ≤ character && character ≤ 'z' ||
      '0' ≤ character && character ≤ '9' || character = '.' || character = '_' || character = '-'

/-- `_valid_digest`. -/
def validAgeDigest (digest : String) : Bool := digest.length = 64 && digest.toList.all isHexChar

/-- `_checked_sum`. -/
def checkedSum (values : List Int) : Except AgeErrorCode Int := do
  failIf (maxAgeNs < values.sum) .overflow
  return values.sum

/-- The checks on the claim alone. -/
def checkClaim (fresh : ClaimedProviderTime) : Except AgeErrorCode Unit := do
  failIf (¬([fresh.providerCreatedAtNs, fresh.providerNowNs, fresh.epsilonNs,
    fresh.requestStartedNs, fresh.responseReceivedNs].all validNs)) .timeInvalid
  failIf (¬(validBoot fresh.observerBootId && validAgeDigest fresh.resourceDigest))
    .identityInvalid
  failIf (fresh.providerNowNs < fresh.providerCreatedAtNs ∨
    fresh.responseReceivedNs < fresh.requestStartedNs ∨ maxEpsilonNs < fresh.epsilonNs)
    .timeInvalid

/-- The checks on the anchor before, if there is one. -/
def checkPrior (fresh : ClaimedProviderTime) : Option AgeAnchor → Except AgeErrorCode Unit
  | none => .ok ()
  | some prior => do
      failIf (¬([prior.lowerNs, prior.upperNs, prior.monotonicAnchorNs].all validNs) ∨
        prior.upperNs < prior.lowerNs) .anchorInvalid
      failIf (¬(validBoot prior.bootId && validAgeDigest prior.resourceDigest)) .anchorInvalid
      failIf (prior.resourceDigest ≠ fresh.resourceDigest) .identityChanged

/-- The bounds of the anchor before, carried over to the response. -/
def carriedBounds (fresh : ClaimedProviderTime) :
    Option AgeAnchor → Except AgeErrorCode (Int × Int)
  | none => .ok (0, 0)
  | some prior =>
      if prior.bootId = fresh.observerBootId then do
        failIf (fresh.requestStartedNs < prior.monotonicAnchorNs) .anchorLost
        let elapsed := fresh.responseReceivedNs - prior.monotonicAnchorNs
        let lower ← checkedSum [prior.lowerNs, elapsed]
        let upper ← checkedSum [prior.upperNs, elapsed]
        return (lower, upper)
      else .ok (prior.lowerNs, prior.upperNs)

def deriveClaimedAge (prior : Option AgeAnchor) (fresh : ClaimedProviderTime) :
    Except AgeErrorCode AgeAnchor := do
  checkClaim fresh
  checkPrior fresh prior
  let delta := fresh.providerNowNs - fresh.providerCreatedAtNs
  let rtt := fresh.responseReceivedNs - fresh.requestStartedNs
  let freshLower := max 0 (delta - fresh.epsilonNs)
  let freshUpper ← checkedSum [delta, fresh.epsilonNs, rtt]
  let (priorLower, priorUpper) ← carriedBounds fresh prior
  failIf (freshUpper < priorUpper) .rollback
  return {
    lowerNs := max priorLower freshLower
    upperNs := max priorUpper freshUpper
    monotonicAnchorNs := fresh.responseReceivedNs
    bootId := fresh.observerBootId
    resourceDigest := fresh.resourceDigest }

/-- A call in a chain, where each result is the anchor of the next call. -/
def DerivesAge (prior : Option AgeAnchor) (fresh : ClaimedProviderTime)
    (next : Option AgeAnchor) : Prop :=
  ∃ anchor, deriveClaimedAge prior fresh = .ok anchor ∧ next = some anchor

/-- A chain of calls that were accepted. -/
abbrev AgeRun : Option AgeAnchor → List ClaimedProviderTime → Option AgeAnchor → Prop :=
  Run DerivesAge

/-! ## One call -/

variable {prior : Option AgeAnchor} {earlier anchor : AgeAnchor} {fresh : ClaimedProviderTime}

/-- What an anchor before is worth at the response. -/
inductive Carried (fresh : ClaimedProviderTime) : Option AgeAnchor → Int → Int → Prop where
  | first : Carried fresh none 0 0
  | sameBoot {earlier : AgeAnchor} (boot : earlier.bootId = fresh.observerBootId)
      (ordered : earlier.lowerNs ≤ earlier.upperNs)
      (started : earlier.monotonicAnchorNs ≤ fresh.requestStartedNs) :
      Carried fresh (some earlier)
        (earlier.lowerNs + (fresh.responseReceivedNs - earlier.monotonicAnchorNs))
        (earlier.upperNs + (fresh.responseReceivedNs - earlier.monotonicAnchorNs))
  | otherBoot {earlier : AgeAnchor} (boot : earlier.bootId ≠ fresh.observerBootId)
      (ordered : earlier.lowerNs ≤ earlier.upperNs) :
      Carried fresh (some earlier) earlier.lowerNs earlier.upperNs

/-- What the claim alone says of the age at the response. -/
def ClaimedProviderTime.lower (fresh : ClaimedProviderTime) : Int :=
  max 0 (fresh.providerNowNs - fresh.providerCreatedAtNs - fresh.epsilonNs)

def ClaimedProviderTime.upper (fresh : ClaimedProviderTime) : Int :=
  fresh.providerNowNs - fresh.providerCreatedAtNs + fresh.epsilonNs +
    (fresh.responseReceivedNs - fresh.requestStartedNs)

/-- Everything an accepted call computes. -/
structure DerivedAge (prior : Option AgeAnchor) (fresh : ClaimedProviderTime)
    (anchor : AgeAnchor) : Prop where
  claimed : fresh.providerCreatedAtNs ≤ fresh.providerNowNs
  received : fresh.requestStartedNs ≤ fresh.responseReceivedNs
  epsilon : 0 ≤ fresh.epsilonNs
  boot : anchor.bootId = fresh.observerBootId
  clock : anchor.monotonicAnchorNs = fresh.responseReceivedNs
  bounds : ∃ lower upper, Carried fresh prior lower upper ∧ upper ≤ fresh.upper ∧
    anchor.lowerNs = max lower fresh.lower ∧ anchor.upperNs = fresh.upper

theorem checkedSum_eq_ok {values : List Int} {total : Int} :
    checkedSum values = .ok total ↔ values.sum ≤ maxAgeNs ∧ values.sum = total := by
  simp only [checkedSum, bind_eq_ok, failIf_eq_ok, exists_unit, pure_eq_ok, not_lt]

theorem carriedBounds_eq_ok {bounds : Int × Int}
    (ordered : ∀ earlier, prior = some earlier → earlier.lowerNs ≤ earlier.upperNs)
    (carried : carriedBounds fresh prior = .ok bounds) :
    Carried fresh prior bounds.1 bounds.2 := by
  cases prior with
  | none =>
      obtain rfl := Except.ok.inj carried
      exact .first
  | some earlier =>
      simp only [carriedBounds] at carried
      split_ifs at carried with boot
      · simp only [bind_eq_ok, failIf_eq_ok, exists_unit, checkedSum_eq_ok, pure_eq_ok,
          List.sum_cons, List.sum_nil, add_zero] at carried
        obtain ⟨started, lower, ⟨-, rfl⟩, upper, ⟨-, rfl⟩, rfl⟩ := carried
        exact .sameBoot boot (ordered earlier rfl) (not_lt.mp started)
      · obtain rfl := Except.ok.inj carried
        exact .otherBoot boot (ordered earlier rfl)

theorem checkClaim_eq_ok (checked : checkClaim fresh = .ok ()) :
    fresh.providerCreatedAtNs ≤ fresh.providerNowNs ∧
      fresh.requestStartedNs ≤ fresh.responseReceivedNs ∧ 0 ≤ fresh.epsilonNs := by
  simp only [checkClaim, bind_eq_ok, failIf_eq_ok, exists_unit, not_or, not_lt, not_not,
    List.all_cons, List.all_nil, Bool.and_eq_true, validNs, decide_eq_true_eq] at checked
  obtain ⟨times, -, created, received, -⟩ := checked
  exact ⟨created, received, times.2.2.1.1⟩

theorem checkPrior_eq_ok (checked : checkPrior fresh (some earlier) = .ok ()) :
    earlier.lowerNs ≤ earlier.upperNs := by
  simp only [checkPrior, bind_eq_ok, failIf_eq_ok, exists_unit, not_or, not_lt] at checked
  exact checked.1.2

theorem deriveClaimedAge_eq_ok (derived : deriveClaimedAge prior fresh = .ok anchor) :
    DerivedAge prior fresh anchor := by
  simp only [deriveClaimedAge, bind_eq_ok, exists_unit, failIf_eq_ok, checkedSum_eq_ok,
    pure_eq_ok, List.sum_cons, List.sum_nil, add_zero, ← add_assoc] at derived
  obtain ⟨claim, isPrior, upper, ⟨-, rfl⟩, bounds, carried, noRollback, rfl⟩ := derived
  have ordered : ∀ earlier, prior = some earlier → earlier.lowerNs ≤ earlier.upperNs := by
    rintro earlier rfl
    exact checkPrior_eq_ok isPrior
  obtain ⟨created, received, epsilon⟩ := checkClaim_eq_ok claim
  exact
    { claimed := created
      received := received
      epsilon := epsilon
      boot := rfl
      clock := rfl
      bounds := ⟨bounds.1, bounds.2, carriedBounds_eq_ok ordered carried, not_lt.mp noRollback,
        rfl, max_eq_right (not_lt.mp noRollback)⟩ }

theorem Carried.ordered {lower upper : Int} (carried : Carried fresh prior lower upper) :
    lower ≤ upper := by
  cases carried with
  | first => exact le_rfl
  | sameBoot boot ordered started => exact add_le_add_left ordered _
  | otherBoot boot ordered => exact ordered

theorem DerivedAge.ordered (derived : DerivedAge prior fresh anchor) :
    anchor.lowerNs ≤ anchor.upperNs := by
  obtain ⟨lower, upper, carried, within, isLower, isUpper⟩ := derived.bounds
  have claimed := derived.claimed
  have received := derived.received
  have epsilon := derived.epsilon
  rw [isLower, isUpper]
  refine max_le (carried.ordered.trans within) (max_le ?_ ?_) <;>
    simp only [ClaimedProviderTime.upper] <;> omega

/-- How the anchors of two calls in a row compare. -/
structure AgeAdvances (earlier later : AgeAnchor) : Prop where
  sameBoot : later.bootId = earlier.bootId →
    later.monotonicAnchorNs - earlier.monotonicAnchorNs ≤ later.lowerNs - earlier.lowerNs ∧
      later.monotonicAnchorNs - earlier.monotonicAnchorNs ≤ later.upperNs - earlier.upperNs
  otherBoot : later.bootId ≠ earlier.bootId →
    earlier.lowerNs ≤ later.lowerNs ∧ earlier.upperNs ≤ later.upperNs

theorem DerivedAge.advances (derived : DerivedAge (some earlier) fresh anchor) :
    AgeAdvances earlier anchor := by
  obtain ⟨lower, upper, carried, within, isLower, isUpper⟩ := derived.bounds
  have lowerGrows : lower ≤ anchor.lowerNs := isLower ▸ le_max_left _ _
  have upperGrows : upper ≤ anchor.upperNs := isUpper ▸ within
  cases carried with
  | sameBoot boot ordered started =>
      rw [← derived.clock] at lowerGrows upperGrows
      refine ⟨fun _ => ⟨by omega, by omega⟩, fun differs => ?_⟩
      exact absurd (derived.boot.trans boot.symm) differs
  | otherBoot boot ordered =>
      refine ⟨fun same => ?_, fun _ => ⟨lowerGrows, upperGrows⟩⟩
      exact absurd (same.symm.trans derived.boot) boot

/-! ## Honest claims -/

/-- A claim, with the true instants of its request and its response. -/
structure TimedClaim where
  claim : ClaimedProviderTime
  request : ℝ
  response : ℝ

/-- A claim about a resource that was created at an instant.  The clock of each boot runs
with the true time, from an offset of its own. -/
structure HonestClaim (created : ℝ) (offset : String → ℝ) (timed : TimedClaim) : Prop where
  started : (timed.claim.requestStartedNs : ℝ) =
    timed.request - offset timed.claim.observerBootId
  received : (timed.claim.responseReceivedNs : ℝ) =
    timed.response - offset timed.claim.observerBootId
  /-- The resource has an age by then. -/
  isCreated : created ≤ timed.response
  claimed : ∃ instant, timed.request ≤ instant ∧ instant ≤ timed.response ∧
    |((timed.claim.providerNowNs - timed.claim.providerCreatedAtNs : Int) : ℝ) -
      (instant - created)| ≤ timed.claim.epsilonNs

/-- A chain of honest claims, at later and later instants. -/
structure HonestChain (created : ℝ) (offset : String → ℝ) (chain : List TimedClaim) : Prop where
  honest : ∀ timed ∈ chain, HonestClaim created offset timed
  later : (chain.map TimedClaim.response).Pairwise (· ≤ ·)

/-- An anchor that holds the true age at an instant of its clock. -/
structure HoldsAge (created : ℝ) (offset : String → ℝ) (instant : ℝ) (anchor : AgeAnchor) :
    Prop where
  clock : (anchor.monotonicAnchorNs : ℝ) = instant - offset anchor.bootId
  lower : (anchor.lowerNs : ℝ) ≤ instant - created
  upper : instant - created ≤ anchor.upperNs

variable {created instant : ℝ} {offset : String → ℝ} {timed : TimedClaim}

theorem HonestClaim.lower_le (honest : HonestClaim created offset timed) :
    (timed.claim.lower : ℝ) ≤ timed.response - created := by
  obtain ⟨instant, -, before, close⟩ := honest.claimed
  have above := (abs_le.mp close).2
  have isCreated := honest.isCreated
  rw [ClaimedProviderTime.lower]
  push_cast at above ⊢
  exact max_le (by linarith) (by linarith)

theorem HonestClaim.le_upper (honest : HonestClaim created offset timed) :
    timed.response - created ≤ (timed.claim.upper : ℝ) := by
  obtain ⟨instant, after, -, close⟩ := honest.claimed
  have below := (abs_le.mp close).1
  have started := honest.started
  have received := honest.received
  rw [ClaimedProviderTime.upper]
  push_cast at below ⊢
  linarith

/-- The lower bound that is carried over is below the true age. -/
theorem Carried.lower_le {lower upper : Int} (carried : Carried timed.claim prior lower upper)
    (honest : HonestClaim created offset timed)
    (held : ∀ earlier, prior = some earlier → ∃ instant ≤ timed.response,
      HoldsAge created offset instant earlier) : (lower : ℝ) ≤ timed.response - created := by
  have isCreated := honest.isCreated
  cases carried with
  | first =>
      rw [Int.cast_zero]
      linarith
  | @sameBoot earlier boot ordered started =>
      obtain ⟨instant, -, holds⟩ := held earlier rfl
      have clock := holds.clock
      have received := honest.received
      have below := holds.lower
      rw [boot] at clock
      push_cast
      linarith
  | otherBoot boot ordered =>
      obtain ⟨instant, before, holds⟩ := held _ rfl
      have below := holds.lower
      linarith

theorem DerivedAge.holds (derived : DerivedAge prior timed.claim anchor)
    (honest : HonestClaim created offset timed)
    (held : ∀ earlier, prior = some earlier → ∃ instant ≤ timed.response,
      HoldsAge created offset instant earlier) :
    HoldsAge created offset timed.response anchor := by
  obtain ⟨lower, upper, carried, within, isLower, isUpper⟩ := derived.bounds
  refine ⟨?_, ?_, ?_⟩
  · rw [derived.clock, derived.boot]
    exact honest.received
  · rw [isLower, Int.cast_max]
    exact max_le (carried.lower_le honest held) honest.lower_le
  · rw [isUpper]
    exact honest.le_upper

/-- After a chain of honest claims, the anchor holds the true age at the last response. -/
theorem AgeRun.holds {chain : List TimedClaim} {claims : List ClaimedProviderTime}
    {start next : Option AgeAnchor} (run : AgeRun start claims next) (fresh : start = none)
    (isChain : claims = chain.map TimedClaim.claim) (honest : HonestChain created offset chain) :
    ∀ anchor, next = some anchor → ∃ timed ∈ chain.getLast?,
      HoldsAge created offset timed.response anchor := by
  induction run generalizing chain with
  | start =>
      subst fresh
      intro anchor isAnchor
      cases isAnchor
  | @turn claims reached next claim run last induction =>
      intro anchor isAnchor
      subst isAnchor
      obtain ⟨derivedAnchor, derived, isNext⟩ := last
      obtain rfl := Option.some.inj isNext
      cases chain using List.reverseRecOn with
      | nil => simp at isChain
      | append_singleton earlier timed =>
          rw [List.map_append] at isChain
          obtain ⟨isEarlier, isLast⟩ := List.append_inj' isChain rfl
          obtain rfl := List.singleton_inj.mp isLast
          have later := List.pairwise_append.mp (List.map_append ▸ honest.later)
          have before : HonestChain created offset earlier :=
            ⟨fun timed member => honest.honest timed (List.mem_append_left _ member), later.1⟩
          refine ⟨timed, by simp, (deriveClaimedAge_eq_ok derived).holds
            (honest.honest timed (by simp)) fun prior isPrior => ?_⟩
          obtain ⟨previous, isPrevious, holds⟩ := induction isEarlier before prior isPrior
          refine ⟨previous.response, ?_, holds⟩
          exact later.2.2 _ (List.mem_map_of_mem (List.mem_of_getLast? isPrevious)) _
            (List.mem_singleton_self _)

/-- What holds after every call of a chain. -/
structure AgeSound (start prior : Option AgeAnchor) (claims : List ClaimedProviderTime)
    (anchor : AgeAnchor) : Prop where
  ordered : anchor.lowerNs ≤ anchor.upperNs
  advances : ∀ earlier, prior = some earlier → AgeAdvances earlier anchor
  holds : start = none → ∀ created offset chain timed,
    claims = (chain ++ [timed]).map TimedClaim.claim →
    HonestChain created offset (chain ++ [timed]) →
    (anchor.lowerNs : ℝ) ≤ timed.response - created ∧ timed.response - created ≤ anchor.upperNs

theorem claimed_age_sound (start prior : Option AgeAnchor) (claims : List ClaimedProviderTime)
    (fresh : ClaimedProviderTime) (anchor : AgeAnchor) (run : AgeRun start claims prior)
    (derived : deriveClaimedAge prior fresh = .ok anchor) :
    AgeSound start prior (claims ++ [fresh]) anchor := by
  have isDerived := deriveClaimedAge_eq_ok derived
  refine ⟨isDerived.ordered, ?_, ?_⟩
  · rintro earlier rfl
    exact isDerived.advances
  · intro isStart created offset chain timed isChain honest
    have whole : AgeRun start (claims ++ [fresh]) (some anchor) := run.turn ⟨anchor, derived, rfl⟩
    obtain ⟨last, isLast, holds⟩ := whole.holds isStart isChain honest anchor rfl
    obtain rfl : timed = last := by simpa using isLast
    exact ⟨holds.lower, holds.upper⟩

/-- A claim of an age of ten seconds, on the first boot or on the second. -/
def sampleClaim (boot : String) (created received : Int) : ClaimedProviderTime :=
  ⟨created, 20000000000, 1000, received - 500, received, boot, "".pushn 'a' 64⟩

/-- The true instants of two claims, counted from the creation of the resource. -/
noncomputable def sampleChain : List TimedClaim :=
  [⟨sampleClaim "one" 10000000000 7000, 9999999500, 10000000000⟩,
    ⟨sampleClaim "two" 9000000000 600, 10999999500, 11000000000⟩]

noncomputable def sampleOffset (boot : String) : ℝ :=
  if boot = "one" then 9999993000 else 10999999400

theorem sampleChain_honest : HonestChain 0 sampleOffset sampleChain := by
  constructor
  · intro timed member
    simp only [sampleChain, List.mem_cons, List.not_mem_nil, or_false] at member
    have otherBoot : ("two" : String) ≠ "one" := by decide
    rcases member with rfl | rfl
    · refine ⟨?_, ?_, ?_, 10000000000, ?_, le_rfl, ?_⟩ <;>
        norm_num [sampleClaim, sampleOffset]
    · refine ⟨?_, ?_, ?_, 11000000000, ?_, le_rfl, ?_⟩ <;>
        norm_num [sampleClaim, sampleOffset, otherBoot]
  · norm_num [sampleChain]

/-- A chain of honest claims across a change of boot. -/
theorem claimed_age_sound_sample : ∃ first second,
    deriveClaimedAge none (sampleClaim "one" 10000000000 7000) = .ok first ∧
      deriveClaimedAge (some first) (sampleClaim "two" 9000000000 600) = .ok second ∧
      HonestChain 0 sampleOffset sampleChain ∧
      AgeSound none (some first) (sampleChain.map TimedClaim.claim) second ∧
      (second.lowerNs : ℝ) ≤ 11000000000 - 0 ∧ 11000000000 - 0 ≤ (second.upperNs : ℝ) := by
  have first : deriveClaimedAge none (sampleClaim "one" 10000000000 7000) =
      .ok ⟨9999999000, 10000001500, 7000, "one", "".pushn 'a' 64⟩ := by decide
  have second : deriveClaimedAge (some ⟨9999999000, 10000001500, 7000, "one", "".pushn 'a' 64⟩)
      (sampleClaim "two" 9000000000 600) =
        .ok ⟨10999999000, 11000001500, 600, "two", "".pushn 'a' 64⟩ := by decide
  have run : AgeRun none ([] ++ [sampleClaim "one" 10000000000 7000]) (some _) :=
    .turn .start ⟨_, first, rfl⟩
  have sound := claimed_age_sound _ _ _ _ _ run second
  exact ⟨_, _, first, second, sampleChain_honest, sound,
    sound.holds rfl 0 sampleOffset [_] _ rfl sampleChain_honest⟩

end ManyAlerts
