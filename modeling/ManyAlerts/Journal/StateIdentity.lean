import ManyAlerts.Journal.Guarantees
import ManyAlerts.Library.Hashes

/-!
# Digests identify the state

The digests of the pending set and of the state determine what they are made of, as far as
SHA-256 tells apart the texts that are hashed for them.  `listDigest` hashes every item on
its own and then the sorted hashes behind their number, so it forgets the order of a map's
entries and nothing else; the items of reachable projections are canonical, so equal items
come from equal entries.
-/

namespace ManyAlerts

/-! ## Digests of lists -/

theorem bytesLe_antisymm {left right : Bytes} (low : bytesLe left right)
    (high : bytesLe right left) : left = right :=
  List.map_injective_iff.mpr (fun _ _ => UInt8.toNat_inj.mp) (le_antisymm low high)

instance : Std.Total bytesLe :=
  ⟨fun left right => le_total (left.map UInt8.toNat) (right.map UInt8.toNat)⟩

instance : IsTrans Bytes bytesLe := ⟨fun _ _ _ => le_trans⟩

/-- The canonical texts of some items, in the order in which they are hashed. -/
def canonicalTexts (items : List Json) : List Bytes :=
  (items.map fun item => item.sortKeys.encode).insertionSort bytesLe

/-- The text whose hash a digest of a list is. -/
def listText (tag : String) (items : List Json) : Bytes :=
  ascii tag ++ 0x00 :: bigEndian4 (canonicalTexts items).length ++
    (canonicalTexts items).flatMap sha256

theorem listDigest_eq_ok {tag : String} {items : List Json}
    (within : ∀ item ∈ items, Within true 1 item) :
    listDigest tag items = .ok (sha256Hex (listText tag items)) := by
  have encoded : collect (items.map fun item => liftJson (canonicalJson true item)) =
      .ok (items.map fun item => item.sortKeys.encode) := by
    have spec : ∀ item ∈ items, ∀ result, liftJson (canonicalJson true item) = .ok result ↔
        True ∧ result = item.sortKeys.encode := by
      intro item member result
      rw [liftJson_eq_ok, canonicalJson_eq_ok]
      simp [within item member]
    exact (collect_map_eq_ok spec).mpr ⟨fun _ _ => trivial, rfl⟩
  rw [listDigest, encoded]
  rfl

theorem canonicalTexts_eq_iff {left right : List Json} :
    canonicalTexts left = canonicalTexts right ↔
      (left.map fun item => item.sortKeys.encode).Perm
        (right.map fun item => item.sortKeys.encode) := by
  constructor
  · intro same
    have first := List.perm_insertionSort bytesLe (left.map fun item => item.sortKeys.encode)
    have second := List.perm_insertionSort bytesLe (right.map fun item => item.sortKeys.encode)
    unfold canonicalTexts at same
    rw [same] at first
    exact first.symm.trans second
  · intro permuted
    refine List.Perm.eq_of_pairwise ?_ (List.pairwise_insertionSort bytesLe _)
      (List.pairwise_insertionSort bytesLe _) ?_
    · intro first second _ _
      exact bytesLe_antisymm
    · exact (List.perm_insertionSort _ _).trans (permuted.trans (List.perm_insertionSort _ _).symm)

theorem map_sha256_of_flatMap {left right : List Bytes}
    (same : left.flatMap sha256 = right.flatMap sha256) : left.map sha256 = right.map sha256 := by
  induction left generalizing right with
  | nil =>
      cases right with
      | nil => rfl
      | cons text right =>
          have lengths := congrArg List.length same
          simp [length_sha256] at lengths
          omega
  | cons first left induction =>
      cases right with
      | nil =>
          have lengths := congrArg List.length same
          simp [length_sha256] at lengths
      | cons text right =>
          simp only [List.flatMap_cons] at same
          obtain ⟨head, rest⟩ := List.append_inj same (by rw [length_sha256, length_sha256])
          rw [List.map_cons, List.map_cons, head, induction rest]

/-- A function that tells the items of two lists apart tells the lists apart. -/
theorem eq_of_map_eq {α β : Type} {function : α → β} {left right : List α}
    (injective : ∀ one ∈ left, ∀ other ∈ right, function one = function other → one = other)
    (same : left.map function = right.map function) : left = right := by
  induction left generalizing right with
  | nil => exact (List.map_eq_nil_iff.mp same.symm).symm
  | cons first left induction =>
      obtain ⟨second, rest, rfl, head, tail⟩ := List.map_eq_cons_iff.mp same.symm
      have rests := induction (fun one oneIn other otherIn =>
        injective one (by simp [oneIn]) other (by simp [otherIn])) tail.symm
      rw [injective first (by simp) second (by simp) head.symm, rests]

/-- A text of a list determines the canonical texts that were hashed into it. -/
theorem canonicalTexts_of_listText {tag : String} {left right : List Json}
    (apart : HashesApart (canonicalTexts left ++ canonicalTexts right))
    (same : listText tag left = listText tag right) :
    canonicalTexts left = canonicalTexts right := by
  rw [listText, listText, List.append_assoc, List.append_assoc] at same
  have rest := List.append_cancel_left same
  rw [List.cons_append, List.cons_append, List.cons.injEq] at rest
  obtain ⟨_, hashes⟩ := List.append_inj rest.2 (by simp [bigEndian4])
  refine eq_of_map_eq (fun one oneIn other otherIn => ?_) (map_sha256_of_flatMap hashes)
  exact apart one (by simp [oneIn]) other (by simp [otherIn])

theorem listText_congr {tag : String} {left right : List Json}
    (same : canonicalTexts left = canonicalTexts right) :
    listText tag left = listText tag right := by
  rw [listText, listText, same]

/-! ## Items of maps -/

theorem Dict.perm_entries_iff {K V : Type} [DecidableEq K] {left right : Dict K V} :
    left.entries.Perm right.entries ↔ ∀ key, left.get? key = right.get? key := by
  have nodup (dict : Dict K V) : dict.entries.Nodup := dict.nodup.of_map
  rw [List.perm_ext_iff_of_nodup (nodup left) (nodup right)]
  constructor
  · intro same key
    apply Option.ext
    intro value
    rw [Dict.get?_eq_some_iff, Dict.get?_eq_some_iff, same]
  · rintro same ⟨key, value⟩
    rw [← Dict.get?_eq_some_iff, ← Dict.get?_eq_some_iff, same]

/-- Images under a function that is injective on the items at hand. -/
theorem perm_of_map_perm {α β : Type} {function : α → β} {left right : List α}
    (injective : ∀ one ∈ left, ∀ other ∈ right, function one = function other → one = other)
    (permuted : (left.map function).Perm (right.map function)) : left.Perm right := by
  have swapped := congrFun₂ (List.eq_map_comp_perm function) (left.map function) right
  obtain ⟨middle, same, order⟩ := swapped.mpr permuted
  have equal : left = middle := eq_of_map_eq (fun one oneIn other otherIn =>
    injective one oneIn other (order.mem_iff.mp otherIn)) same
  exact equal ▸ order

section Maps

variable {p q : Projection}

/-- Entries whose values are in canonical order. -/
def ExactEntry (entry : PendingEntry) : Prop := ∀ items ∈ entry.values, ValuesOk items

theorem sortKeys_values (items : List (String × Option String)) :
    (Json.obj (items.map valueMember)).sortKeys = .obj (sortMembers (items.map valueMember)) := by
  rw [Json.sortKeys, Json.sortKeysMembers_eq_map, List.map_map]
  congr 2
  apply List.map_congr_left
  rintro ⟨key, number⟩ _
  cases number <;> rfl

theorem values_eq_of_sortKeys {left right : AlertValues}
    (leftOk : ∀ items ∈ left, ValuesOk items) (rightOk : ∀ items ∈ right, ValuesOk items)
    (same : (Json.optional valuesJson left).sortKeys = (Json.optional valuesJson right).sortKeys) :
    left = right := by
  cases left with
  | none =>
      cases right with
      | none => rfl
      | some items => cases same
  | some leftItems =>
      cases right with
      | none => cases same
      | some rightItems =>
          have leftSorted := (leftOk _ rfl).sorted
          have rightSorted := (rightOk _ rfl).sorted
          simp only [Json.optional, valuesJson_of_sorted leftSorted,
            valuesJson_of_sorted rightSorted, sortKeys_values, Json.obj.injEq] at same
          have permuted : (leftItems.map valueMember).Perm (rightItems.map valueMember) := by
            have first := sortMembers_perm (leftItems.map valueMember)
            rw [same] at first
            exact first.symm.trans (sortMembers_perm _)
          have items := perm_of_map_perm (fun _ _ _ _ => @valueMember_injective _ _) permuted
          rw [List.Perm.eq_of_pairwise ?_ (List.pairwise_map.mp leftSorted)
            (List.pairwise_map.mp rightSorted) items]
          intro one other _ _ below above
          exact absurd (below.trans above) (lt_irrefl _)

theorem pendingEntryJson_injective {left right : PendingEntry} (leftOk : ExactEntry left)
    (rightOk : ExactEntry right)
    (same : (pendingEntryJson left).sortKeys.encode = (pendingEntryJson right).sortKeys.encode) :
    left = right := by
  have equal := Json.encode_injective same
  simp only [pendingEntryJson, Json.sortKeys_arr, List.map_cons, List.map_nil, Json.sortKeys_str,
    Json.nat_sortKeys, Json.arr.injEq, List.cons.injEq, Json.str.injEq, Json.nat_inj,
    and_true] at equal
  obtain ⟨fingerprint, admission, arrival, group, status, values⟩ := equal
  cases left
  cases right
  simp only [PendingEntry.mk.injEq]
  exact ⟨fingerprint, admission, arrival, group, AlertStatus.text_injective status,
    values_eq_of_sortKeys leftOk rightOk values⟩

theorem baselineItemJson_injective {left right : String × Baseline}
    (same : (baselineItemJson left).sortKeys.encode = (baselineItemJson right).sortKeys.encode) :
    left = right := by
  have equal := Json.encode_injective same
  obtain ⟨leftGroup, leftId, leftKey, leftComplete⟩ := left
  obtain ⟨rightGroup, rightId, rightKey, rightComplete⟩ := right
  simp only [baselineItemJson, Json.sortKeys_arr, List.map_cons, List.map_nil, Json.sortKeys,
    Json.arr.injEq, List.cons.injEq, Json.str.injEq, Json.bool.injEq, and_true] at equal
  obtain ⟨rfl, rfl, rfl, rfl⟩ := equal
  rfl

/-! ## Reachable projections -/

theorem CommitStep.exactEntries {records : List Record} {delta : Delta}
    (step : CommitStep p records delta)
    (exact : ∀ fingerprint entry, p.pending.get? fingerprint = some entry → ExactEntry entry) :
    ∀ fingerprint entry, (applyDelta p delta).pending.get? fingerprint = some entry →
      ExactEntry entry := by
  intro fingerprint entry found
  rcases step.admitted with ⟨-, same, -⟩ | ⟨source, admissionId, key, -, sourceOk, -, -, pending, -⟩
  · exact exact fingerprint entry (same ▸ found)
  · rw [pending] at found
    by_cases written : fingerprint ∈ (decideWith p source admissionId key).writes source
    · obtain ⟨alert, member, rfl⟩ := writes_decideWith_mentioned fingerprint written
      rw [pending_written sourceOk member written, Option.some.injEq] at found
      subst found
      exact (sourceOk.alerts alert member).values
    · rw [pending_kept sourceOk written] at found
      exact exact fingerprint entry found

theorem Reachable.exactEntries (reachable : Reachable p) :
    ∀ fingerprint entry, p.pending.get? fingerprint = some entry → ExactEntry entry := by
  refine Reachable.preserves (fun p => ∀ fingerprint entry,
    p.pending.get? fingerprint = some entry → ExactEntry entry) ?_ ?_ reachable
  · intro fingerprint entry found
    cases found
  · intro p records delta _ exact step
    exact step.exactEntries exact

theorem CommitStep.headGeneration {records : List Record} {delta : Delta}
    (step : CommitStep p records delta) : delta.head.generation = delta.generation := by
  cases step with
  | genesis payload position headless anonymous => rfl
  | restart payload position fresh previous headEq recovered boundsEq fits => rfl
  | current position boot clock claim => rw [claim.basic.head, claim.basic.generation]
  | admission position dedupePosition stamp boot clock pair => rfl

theorem Reachable.headGeneration (reachable : Reachable p) :
    ∀ head ∈ p.head, head.generation = p.generation := by
  refine Reachable.preserves (fun p => ∀ head ∈ p.head, head.generation = p.generation) ?_ ?_
    reachable
  · intro head found
    cases found
  · intro p records delta _ _ step head found
    obtain rfl : delta.head = head := Option.some.inj found
    exact step.headGeneration

theorem Reachable.baselines_size (reachable : Reachable p) :
    p.baselines.size ≤ p.commitCount := by
  refine Reachable.preserves (fun p => p.baselines.size ≤ p.commitCount) (Nat.zero_le _) ?_
    reachable
  intro p records delta reachable few step
  have count := (step.growth reachable).2.1
  rcases step.admitted with ⟨-, -, same⟩ | ⟨source, admissionId, key, -, -, -, -, -, written⟩
  · rw [same, count]
    omega
  · have grown := p.baselines.size_set_le source.sourceGroup
      (decideWith p source admissionId key).baselineAfter
    rw [written, count]
    omega

/-- The dispatch holds in the order of the digest. -/
def sortedHolds (p : Projection) : List (HoldCode × Nat) :=
  p.dispatchHolds.entries.insertionSort fun left right => left.1.text ≤ right.1.text

/-- The value that the state digest is made of. -/
def stateJson (p : Projection) (pending baselines : String) : Json :=
  .obj [("journal_uuid", .optional .str p.journalUuid), ("generation", .nat p.generation),
    ("head", .optional headJson p.head), ("admission_count", .nat p.admissionCount),
    ("last_arrival_seq", .nat p.lastArrivalSeq), ("logical_bytes", .nat p.logicalBytes),
    ("dispatch_holds", .arr ((sortedHolds p).map holdItemJson)), ("pending_digest", .str pending),
    ("baseline_digest", .str baselines)]

/-- A projection whose parts the digests can encode, without loss. -/
structure DigestReady (p : Projection) : Prop where
  pending : ∀ entry ∈ p.pending.values, Within true 1 (pendingEntryJson entry)
  keyed : ∀ entry ∈ p.pending.entries, entry.2.fingerprint = entry.1
  exact : ∀ entry ∈ p.pending.values, ExactEntry entry
  baselines : ∀ entry ∈ p.baselines.entries, Within true 1 (baselineItemJson entry)
  holds : ∀ entry ∈ p.dispatchHolds.entries, entry.1 ∈ dispatchHoldCodes
  state : ∀ pending baselines, isHex64 pending = true → isHex64 baselines = true →
    Within true 1 (stateJson p pending baselines)
  pendingCount : p.pending.size < 2 ^ 32
  baselineCount : p.baselines.size < 2 ^ 32

theorem within_pendingEntryJson {lastArrivalSeq : Nat} {fingerprint : String}
    {entry : PendingEntry} (ok : PendingOk lastArrivalSeq fingerprint entry)
    (safe : lastArrivalSeq ≤ maxSafeInteger) : Within true 1 (pendingEntryJson entry) := by
  refine ⟨by decide, by simp [maxJsonArrayItems], ?_⟩
  exact ⟨(fits_fingerprint ok.fingerprint).1, (fits_id ok.admissionId).1,
    (fits_nat (ok.arrival.trans safe)).1, (fits_hex64 ok.sourceGroup).1,
    (fits_status entry.status).1, ok.values, trivial⟩

theorem within_baselineItemJson {group : String} {baseline : Baseline}
    (ok : BaselineOk group baseline) : Within true 1 (baselineItemJson (group, baseline)) := by
  refine ⟨by decide, by simp [maxJsonArrayItems], ?_⟩
  exact ⟨(fits_hex64 ok.sourceGroup).1, (fits_id ok.admissionId).1, fits_bool.1,
    (fits_hex64 ok.dedupeKey).1, trivial⟩

theorem textWithin_key {text : String} (plain : Plain text ∧ text.length ≤ 40) :
    TextWithin true text :=
  textWithin_of_plain plain.1 (plain.2.trans (by decide))

theorem within_headJson {head : Head} (generation : head.generation ≤ maxSafeInteger)
    (commitSeq : head.commitSeq ≤ maxSafeInteger) (eventSeq : head.eventSeq ≤ maxSafeInteger)
    (digest : isHex64 head.recordDigest = true) : Within true 2 (headJson head) := by
  refine ⟨by decide, withinMembers_iff.mpr ?_⟩
  simp only [List.forall_mem_cons]
  exact ⟨⟨textWithin_key (by decide), (fits_nat commitSeq).1⟩,
    ⟨textWithin_key (by decide), (fits_nat eventSeq).1⟩,
    ⟨textWithin_key (by decide), (fits_nat generation).1⟩,
    ⟨textWithin_key (by decide), (fits_hex64 digest).1⟩, by simp⟩

theorem within_stateJson {pending baselines : String}
    (uuid : ∀ uuid ∈ p.journalUuid, isUuid uuid = true)
    (generation : p.generation ≤ maxSafeInteger)
    (head : ∀ head ∈ p.head, Within true 2 (headJson head))
    (admissions : p.admissionCount ≤ maxSafeInteger)
    (arrivals : p.lastArrivalSeq ≤ maxSafeInteger) (bytes : p.logicalBytes ≤ maxSafeInteger)
    (holds : ∀ entry ∈ p.dispatchHolds.entries,
      entry.1 ∈ dispatchHoldCodes ∧ entry.2 ≤ maxSafeInteger)
    (isPending : isHex64 pending = true) (isBaselines : isHex64 baselines = true) :
    Within true 1 (stateJson p pending baselines) := by
  have optional {α : Type} {write : α → Json} {option : Option α}
      (within : ∀ item ∈ option, Within true 2 (write item)) :
      Within true 2 (.optional write option) := by
    cases option with
    | none => trivial
    | some item => exact within item rfl
  have order := List.perm_insertionSort (fun left right : HoldCode × Nat =>
    left.1.text ≤ right.1.text) p.dispatchHolds.entries
  have few : ((sortedHolds p).map holdItemJson).length ≤ maxJsonArrayItems := by
    have codes : p.dispatchHolds.keys.length ≤ dispatchHoldCodes.length := by
      refine (List.Nodup.subperm p.dispatchHolds.nodup ?_).length_le
      intro code held
      obtain ⟨entry, member, rfl⟩ := List.mem_map.mp held
      exact (holds entry member).1
    rw [List.length_map, sortedHolds, order.length_eq]
    rw [Dict.keys, List.length_map] at codes
    exact codes.trans (by decide)
  have items : WithinItems true 3 ((sortedHolds p).map holdItemJson) := by
    rw [withinItems_iff, List.forall_mem_map]
    intro entry member
    obtain ⟨known, safe⟩ := holds entry (order.mem_iff.mp member)
    have code : TextWithin true entry.1.text := by
      have all : ∀ code ∈ dispatchHoldCodes, Plain code.text ∧ code.text.length ≤ 40 := by
        decide
      exact textWithin_key (all entry.1 known)
    exact ⟨by decide, by simp [maxJsonArrayItems], code, (fits_nat safe).1, trivial⟩
  refine ⟨by decide, withinMembers_iff.mpr ?_⟩
  simp only [List.forall_mem_cons]
  refine ⟨⟨textWithin_key (by decide), optional fun text found => (fits_uuid (uuid text found)).1⟩,
    ⟨textWithin_key (by decide), (fits_nat generation).1⟩,
    ⟨textWithin_key (by decide), optional head⟩,
    ⟨textWithin_key (by decide), (fits_nat admissions).1⟩,
    ⟨textWithin_key (by decide), (fits_nat arrivals).1⟩,
    ⟨textWithin_key (by decide), (fits_nat bytes).1⟩,
    ⟨textWithin_key (by decide), by decide, few, items⟩,
    ⟨textWithin_key (by decide), (fits_hex64 isPending).1⟩,
    ⟨textWithin_key (by decide), (fits_hex64 isBaselines).1⟩, by simp⟩

theorem Reachable.digestReady (reachable : Reachable p) : DigestReady p := by
  have exact := reachable.exactEntries
  obtain ⟨groups, commits⟩ := reachable_iff.mp reachable
  have accounts := accounts_of_commits commits
  rcases reachable_live reachable with rfl | ⟨head, bounds, live⟩
  · constructor
    case state =>
      intro pending baselines isPending isBaselines
      apply within_stateJson _ _ _ _ _ _ _ isPending isBaselines <;>
        simp [newProjection, Dict.empty]
    case pendingCount => exact Nat.two_pow_pos 32
    case baselineCount => exact Nat.two_pow_pos 32
    all_goals
      intro entry member
      cases member
  · have sound := reachable_sound reachable live
    obtain ⟨bytes, events⟩ := sound.eventSeq_lt live
    have admissions : p.admissionCount ≤ maxSafeInteger :=
      (accounts.admissions bounds live.bounds_eq).trans
        (live.bounds_ok.admissions.2.trans (by decide))
    have arrivals : p.lastArrivalSeq ≤ maxSafeInteger := accounts.lastArrival ▸ admissions
    constructor
    case pending =>
      intro entry member
      obtain ⟨fingerprint, found⟩ := Dict.mem_values_iff.mp member
      exact within_pendingEntryJson (sound.pending fingerprint entry found) arrivals
    case keyed =>
      rintro ⟨fingerprint, entry⟩ member
      exact (sound.pending fingerprint entry (Dict.get?_eq_some_iff.mpr member)).fingerprint_eq
    case exact =>
      intro entry member
      obtain ⟨fingerprint, found⟩ := Dict.mem_values_iff.mp member
      exact exact fingerprint entry found
    case baselines =>
      rintro ⟨group, baseline⟩ member
      exact within_baselineItemJson
        (sound.baselines group baseline (Dict.get?_eq_some_iff.mpr member))
    case holds =>
      rintro ⟨code, since⟩ member
      exact (sound.holds code since (Dict.get?_eq_some_iff.mpr member)).1
    case state =>
      intro pending baselines isPending isBaselines
      have small : 2 ^ 20 ≤ maxSafeInteger := by decide
      have commits := live.eventSeq
      have generation : p.generation ≤ maxSafeInteger := live.generation ▸ by decide
      refine within_stateJson ?_ generation ?_ admissions arrivals (bytes.trans (by decide)) ?_
        isPending isBaselines
      · intro uuid found
        obtain ⟨own, isOwn, valid⟩ := live.uuid
        obtain rfl : own = uuid := Option.some.inj (isOwn.symm.trans found)
        exact valid
      · intro last found
        obtain rfl : head = last := Option.some.inj (live.head_eq.symm.trans found)
        exact within_headJson (reachable.headGeneration head found ▸ generation) (by omega)
          (by omega) sound.digest
      · rintro ⟨code, since⟩ member
        obtain ⟨known, early⟩ := sound.holds code since (Dict.get?_eq_some_iff.mpr member)
        exact ⟨known, by dsimp only; omega⟩
    case pendingCount =>
      refine lt_of_le_of_lt (accounts.pending bounds live.bounds_eq) ?_
      exact lt_of_le_of_lt live.bounds_ok.pending.2 (by decide)
    case baselineCount =>
      have few := reachable.baselines_size
      have commits := live.eventSeq
      rw [live.commitCount] at few
      omega

/-! ## The digests -/

/-- The items that the pending digest is made of. -/
def pendingItems (p : Projection) : List Json := p.pending.values.map pendingEntryJson

def baselineItems (p : Projection) : List Json := p.baselines.entries.map baselineItemJson

def pendingText (p : Projection) : Bytes := listText "rj.pending-set.v1" (pendingItems p)

def baselineText (p : Projection) : Bytes := listText "rj.baseline-set.v1" (baselineItems p)

def stateText (p : Projection) : Bytes :=
  tagged "rj.state.v1" (stateJson p (sha256Hex (pendingText p)) (sha256Hex (baselineText p)))

/-- Everything that is hashed for the digests of a projection. -/
def hashedTexts (p : Projection) : List Bytes :=
  canonicalTexts (pendingItems p) ++ canonicalTexts (baselineItems p) ++
    [pendingText p, baselineText p, stateText p]

theorem DigestReady.pendingDigest (ready : DigestReady p) :
    ManyAlerts.pendingDigest p = .ok (sha256Hex (pendingText p)) :=
  listDigest_eq_ok (List.forall_mem_map.mpr ready.pending)

theorem DigestReady.stateDigest (ready : DigestReady p) :
    ManyAlerts.stateDigest p = .ok (sha256Hex (stateText p)) := by
  have baselines : listDigest "rj.baseline-set.v1" (p.baselines.entries.map baselineItemJson) =
      .ok (sha256Hex (baselineText p)) := listDigest_eq_ok (List.forall_mem_map.mpr ready.baselines)
  rw [ManyAlerts.stateDigest, ready.pendingDigest, ok_bind, baselines, ok_bind, liftJson_eq_ok]
  exact (taggedDigest_eq_ok (by decide)).mpr
    ⟨ready.state _ _ (isHex64_sha256Hex _) (isHex64_sha256Hex _), rfl⟩

theorem DigestReady.entries_eq (ready : DigestReady p) :
    p.pending.entries = p.pending.values.map fun entry => (entry.fingerprint, entry) := by
  rw [Dict.values, List.map_map]
  conv_lhs => rw [← List.map_id p.pending.entries]
  apply List.map_congr_left
  rintro ⟨fingerprint, entry⟩ member
  exact Prod.ext (ready.keyed _ member).symm rfl

/-- Canonical texts of the pending items are equal exactly for equal maps. -/
theorem pendingTexts_eq_iff (leftReady : DigestReady p) (rightReady : DigestReady q) :
    canonicalTexts (pendingItems p) = canonicalTexts (pendingItems q) ↔
      ∀ fingerprint, p.pending.get? fingerprint = q.pending.get? fingerprint := by
  rw [canonicalTexts_eq_iff, ← Dict.perm_entries_iff, pendingItems, pendingItems, List.map_map,
    List.map_map]
  constructor
  · intro permuted
    rw [leftReady.entries_eq, rightReady.entries_eq]
    apply List.Perm.map
    refine perm_of_map_perm (fun one oneIn other otherIn => ?_) permuted
    exact pendingEntryJson_injective (leftReady.exact one oneIn) (rightReady.exact other otherIn)
  · intro permuted
    exact (permuted.map Prod.snd).map _

theorem baselineTexts_eq_iff :
    canonicalTexts (baselineItems p) = canonicalTexts (baselineItems q) ↔
      ∀ group, p.baselines.get? group = q.baselines.get? group := by
  rw [canonicalTexts_eq_iff, ← Dict.perm_entries_iff, baselineItems, baselineItems, List.map_map,
    List.map_map]
  constructor
  · intro permuted
    exact perm_of_map_perm (fun _ _ _ _ => baselineItemJson_injective) permuted
  · intro permuted
    exact permuted.map _

theorem DigestReady.hold_injective {r : Projection} (leftReady : DigestReady p)
    (rightReady : DigestReady r) :
    ∀ left ∈ p.dispatchHolds.entries, ∀ right ∈ r.dispatchHolds.entries,
      left.1.text = right.1.text → left.1 = right.1 := by
  intro left leftIn right rightIn same
  have distinct : (dispatchHoldCodes.map HoldCode.text).Nodup := by decide
  exact List.inj_on_of_nodup_map distinct (leftReady.holds left leftIn)
    (rightReady.holds right rightIn) same

theorem DigestReady.sortedHolds_sorted (ready : DigestReady p) :
    (sortedHolds p).Pairwise fun left right => left.1.text < right.1.text := by
  refine List.pairwise_map.mp (pairwise_lt_insertionSort (fun _ _ => le_total _ _)
    (fun _ _ _ => le_trans) (fun _ _ => id) ?_)
  have codes : (p.dispatchHolds.entries.map Prod.fst).Nodup := p.dispatchHolds.nodup
  rw [List.nodup_map_iff_inj_on codes.of_map]
  intro left leftIn right rightIn same
  exact List.inj_on_of_nodup_map codes leftIn rightIn
    (ready.hold_injective ready left leftIn right rightIn same)

/-- The holds in order are equal exactly for equal maps. -/
theorem sortedHolds_eq_iff (leftReady : DigestReady p) (rightReady : DigestReady q) :
    sortedHolds p = sortedHolds q ↔
      ∀ code, p.dispatchHolds.get? code = q.dispatchHolds.get? code := by
  rw [← Dict.perm_entries_iff]
  have order (p : Projection) : (sortedHolds p).Perm p.dispatchHolds.entries :=
    List.perm_insertionSort _ _
  constructor
  · intro same
    exact (order p).symm.trans (same ▸ order q)
  · intro permuted
    refine List.Perm.eq_of_pairwise ?_ leftReady.sortedHolds_sorted
      rightReady.sortedHolds_sorted ((order p).trans (permuted.trans (order q).symm))
    intro one other _ _ below above
    exact absurd (below.trans above) (lt_irrefl _)

theorem holdItems_eq_iff (leftReady : DigestReady p) (rightReady : DigestReady q) :
    (Json.arr ((sortedHolds p).map holdItemJson)).sortKeys =
        (Json.arr ((sortedHolds q).map holdItemJson)).sortKeys ↔
      sortedHolds p = sortedHolds q := by
  constructor
  · intro same
    rw [Json.sortKeys_arr, Json.sortKeys_arr, Json.arr.injEq, List.map_map, List.map_map] at same
    refine eq_of_map_eq (fun one oneIn other otherIn equal => ?_) same
    simp only [Function.comp_apply, holdItemJson, Json.sortKeys_arr, List.map_cons, List.map_nil,
      Json.sortKeys_str, Json.nat_sortKeys, Json.arr.injEq, List.cons.injEq, Json.str.injEq,
      Json.nat_inj, and_true] at equal
    have code := leftReady.hold_injective rightReady one
      ((List.perm_insertionSort _ _).mem_iff.mp oneIn) other
      ((List.perm_insertionSort _ _).mem_iff.mp otherIn) equal.1
    exact Prod.ext code equal.2
  · intro same
    rw [same]

/-- What the state digest is about. -/
structure SameState (p q : Projection) : Prop where
  journalUuid : p.journalUuid = q.journalUuid
  generation : p.generation = q.generation
  head : p.head = q.head
  admissionCount : p.admissionCount = q.admissionCount
  lastArrivalSeq : p.lastArrivalSeq = q.lastArrivalSeq
  logicalBytes : p.logicalBytes = q.logicalBytes
  dispatchHolds : ∀ code, p.dispatchHolds.get? code = q.dispatchHolds.get? code
  pending : ∀ fingerprint, p.pending.get? fingerprint = q.pending.get? fingerprint
  baselines : ∀ group, p.baselines.get? group = q.baselines.get? group

theorem headJson_injective {left right : Head}
    (same : (headJson left).sortKeys = (headJson right).sortKeys) : left = right := by
  have fields := Json.sortKeys_obj_injective same rfl
  simp only [List.map_cons, List.map_nil, Json.nat_sortKeys, Json.sortKeys_str, List.cons.injEq,
    Json.nat_inj, Json.str.injEq, and_true] at fields
  obtain ⟨commitSeq, eventSeq, generation, digest⟩ := fields
  cases left
  cases right
  simp_all

theorem optional_injective {α : Type} {write : α → Json} {left right : Option α}
    (present : ∀ item, (write item).sortKeys ≠ .null)
    (injective : ∀ one other, (write one).sortKeys = (write other).sortKeys → one = other)
    (same : (Json.optional write left).sortKeys = (Json.optional write right).sortKeys) :
    left = right := by
  cases left with
  | none =>
      cases right with
      | none => rfl
      | some item => exact absurd same.symm (present item)
  | some item =>
      cases right with
      | none => exact absurd same (present item)
      | some other => rw [injective item other same]

/-- The value that is hashed determines every part of the state. -/
theorem stateJson_injective (leftReady : DigestReady p) (rightReady : DigestReady q)
    {pending baselines otherPending otherBaselines : String}
    (same : (stateJson p pending baselines).sortKeys =
      (stateJson q otherPending otherBaselines).sortKeys) :
    p.journalUuid = q.journalUuid ∧ p.generation = q.generation ∧ p.head = q.head ∧
      p.admissionCount = q.admissionCount ∧ p.lastArrivalSeq = q.lastArrivalSeq ∧
      p.logicalBytes = q.logicalBytes ∧ sortedHolds p = sortedHolds q ∧
      pending = otherPending ∧ baselines = otherBaselines := by
  have fields := Json.sortKeys_obj_injective same rfl
  simp only [List.map_cons, List.map_nil, Json.nat_sortKeys, Json.sortKeys_str, List.cons.injEq,
    Json.nat_inj, Json.str.injEq, and_true] at fields
  obtain ⟨uuid, generation, head, admissions, arrivals, bytes, holds, pendings, rest⟩ := fields
  refine ⟨optional_injective (by simp) (by simp) uuid, generation, ?_, admissions, arrivals, bytes,
    (holdItems_eq_iff leftReady rightReady).mp holds, pendings, rest⟩
  exact optional_injective (fun item => by simp [headJson, Json.sortKeys])
    (fun _ _ => headJson_injective) head

end Maps

section Identity

variable {p q : Projection}

/-- Digests of two projections exist and tell their states apart.  The numbers of items fit
the four bytes in front of their hashes. -/
structure DigestsIdentify (p q : Projection) : Prop where
  counts : p.pending.size < 2 ^ 32 ∧ p.baselines.size < 2 ^ 32
  pending : ∃ left right, pendingDigest p = .ok left ∧ pendingDigest q = .ok right ∧
    (left = right ↔ ∀ fingerprint, p.pending.get? fingerprint = q.pending.get? fingerprint)
  state : ∃ left right, stateDigest p = .ok left ∧ stateDigest q = .ok right ∧
    (left = right ↔ SameState p q)

theorem pendingText_eq_iff (leftReady : DigestReady p) (rightReady : DigestReady q)
    (apart : HashesApart (hashedTexts p ++ hashedTexts q)) :
    sha256Hex (pendingText p) = sha256Hex (pendingText q) ↔
      ∀ fingerprint, p.pending.get? fingerprint = q.pending.get? fingerprint := by
  rw [← pendingTexts_eq_iff leftReady rightReady]
  constructor
  · intro same
    have texts := apart.hex (by simp [hashedTexts]) (by simp [hashedTexts]) same
    refine canonicalTexts_of_listText (apart.mono ?_) texts
    intro text member
    simp only [hashedTexts, List.mem_append] at member ⊢
    tauto
  · intro same
    rw [pendingText, pendingText, listText_congr same]

theorem baselineText_eq_iff (apart : HashesApart (hashedTexts p ++ hashedTexts q)) :
    sha256Hex (baselineText p) = sha256Hex (baselineText q) ↔
      ∀ group, p.baselines.get? group = q.baselines.get? group := by
  rw [← baselineTexts_eq_iff]
  constructor
  · intro same
    have texts := apart.hex (by simp [hashedTexts]) (by simp [hashedTexts]) same
    refine canonicalTexts_of_listText (apart.mono ?_) texts
    intro text member
    simp only [hashedTexts, List.mem_append] at member ⊢
    tauto
  · intro same
    rw [baselineText, baselineText, listText_congr same]

/-- As far as SHA-256 tells the hashed texts apart, the digests of reachable projections are
equal exactly for equal pending maps and for equal states. -/
theorem digests_identify_state (leftReachable : Reachable p) (rightReachable : Reachable q)
    (apart : HashesApart (hashedTexts p ++ hashedTexts q)) : DigestsIdentify p q := by
  have leftReady := leftReachable.digestReady
  have rightReady := rightReachable.digestReady
  have pendings := pendingText_eq_iff leftReady rightReady apart
  have baselines := baselineText_eq_iff apart
  refine ⟨⟨leftReady.pendingCount, leftReady.baselineCount⟩,
    ⟨_, _, leftReady.pendingDigest, rightReady.pendingDigest, pendings⟩,
    ⟨_, _, leftReady.stateDigest, rightReady.stateDigest, ?_⟩⟩
  constructor
  · intro same
    have texts := apart.hex (by simp [hashedTexts]) (by simp [hashedTexts]) same
    rw [stateText, stateText, tagged, tagged] at texts
    have encoded := (List.cons.inj (List.append_cancel_left texts)).2
    obtain ⟨uuid, generation, head, admissions, arrivals, bytes, holds, pending, baseline⟩ :=
      stateJson_injective leftReady rightReady (Json.encode_injective encoded)
    exact ⟨uuid, generation, head, admissions, arrivals, bytes,
      (sortedHolds_eq_iff leftReady rightReady).mp holds, pendings.mp pending,
      baselines.mp baseline⟩
  · intro same
    rw [stateText, stateText, stateJson, stateJson, same.journalUuid, same.generation, same.head,
      same.admissionCount, same.lastArrivalSeq, same.logicalBytes, pendings.mpr same.pending,
      baselines.mpr same.baselines, (sortedHolds_eq_iff leftReady rightReady).mpr
      same.dispatchHolds]

/-- The texts hashed after the first admission and after another group has taken over one of
its fingerprints. -/
theorem sampleHashes_apart :
    HashesApart (hashedTexts (sampleAfter 4) ++ hashedTexts (sampleAfter 12)) := by
  have distinct : ((hashedTexts (sampleAfter 4) ++ hashedTexts (sampleAfter 12)).dedup.map
      sha256Hex).Nodup := by
    decide +kernel
  exact (hashesApart_of_hex distinct).mono (List.subset_dedup _)

theorem digests_identify_sample : ∃ pendings states : String × String,
    pendingDigest (sampleAfter 4) = .ok pendings.1 ∧
      pendingDigest (sampleAfter 12) = .ok pendings.2 ∧ pendings.1 ≠ pendings.2 ∧
      stateDigest (sampleAfter 4) = .ok states.1 ∧
      stateDigest (sampleAfter 12) = .ok states.2 ∧ states.1 ≠ states.2 := by
  have identify := digests_identify_state (sampleAfter_reachable 4) (sampleAfter_reachable 12)
    sampleHashes_apart
  obtain ⟨before, after, isBefore, isAfter, same⟩ := identify.pending
  obtain ⟨stateBefore, stateAfter, isStateBefore, isStateAfter, sameState⟩ := identify.state
  have changed : (sampleAfter 4).pending.get? "fp-1" ≠ (sampleAfter 12).pending.get? "fp-1" := by
    decide
  refine ⟨(before, after), (stateBefore, stateAfter), isBefore, isAfter, ?_, isStateBefore,
    isStateAfter, ?_⟩
  · intro equal
    exact changed (same.mp equal "fp-1")
  · intro equal
    exact changed ((sameState.mp equal).pending "fp-1")

end Identity

end ManyAlerts
