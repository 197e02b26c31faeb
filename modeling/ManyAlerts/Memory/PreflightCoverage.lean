import ManyAlerts.Memory.Preflight

/-!
# What a preflight has covered

A loop that has not stopped has read every page and every item so far.  Two invariants
say what its accumulators hold: `PagesTaken` relates the cursors and the snapshot to the
pages, `ItemsTaken` the sets of identifiers to the items.  At the end of the loop they
describe the whole input, whatever its division into pages.

The identifiers of a loop that does stop are followed separately, since the values after
the stop are never looked at and may have any shape.
-/

namespace ManyAlerts

variable {query : PreflightQuery} {state next : PreflightState}

/-- An item of the window that another rehearsal left behind. -/
def Qualifies (query : PreflightQuery) (item : CandidateItem) : Prop :=
  query.windowStart ≤ item.createdAt.instant ∧
    item.createdAt.instant ≤ query.now.instant ∧
    ∃ origin, item.originRehearsalId = some origin ∧ origin ≠ query.current

/-! ## Items -/

/-- What one item does to a loop that goes on after it. -/
structure ItemTaken (query : PreflightQuery) (state : PreflightState) (item : CandidateItem)
    (next : PreflightState) : Prop where
  fresh : item.incidentId ∉ state.seenIds
  isOpen : item.status = "open"
  created : item.createdAt.instant ≤ query.now.instant
  origin : query.windowStart ≤ item.createdAt.instant → item.originRehearsalId ≠ none
  prior : ∀ id, id ∈ next.prior ↔
    id ∈ state.prior ∨ Qualifies query item ∧ item.incidentId = id
  rest : next = { state with
    seenIds := insert item.incidentId state.seenIds
    itemsSeen := state.itemsSeen + 1
    prior := next.prior }

theorem takeItem_eq_ok {value : Json} (taken : takeItem query state value = .ok next) :
    ∃ item, readItem value = some item ∧ ItemTaken query state item next := by
  simp only [takeItem, bind_eq_ok, orFail_eq_ok, failIf_eq_ok, exists_unit, not_or, not_not,
    not_lt] at taken
  obtain ⟨item, reads, ⟨fresh, isOpen, created⟩, taken⟩ := taken
  refine ⟨item, reads, ?_⟩
  split_ifs at taken with inWindow
  · obtain ⟨origin, present, taken⟩ := bind_eq_ok.mp taken
    rw [orFail_eq_ok] at present
    rw [pure_eq_ok] at taken
    have hasOrigin : item.originRehearsalId ≠ none := by simp [present]
    by_cases other : origin ≠ query.current
    · rw [if_pos other] at taken
      subst taken
      have qualifies : Qualifies query item := ⟨inWindow, created, origin, present, other⟩
      refine ⟨fresh, isOpen, created, fun _ => hasOrigin, fun id => ?_, rfl⟩
      simp [qualifies, or_comm, eq_comm]
    · rw [if_neg other] at taken
      subst taken
      have spared : ¬Qualifies query item := by
        rintro ⟨_, _, found, isFound, differs⟩
        rw [present, Option.some.injEq] at isFound
        exact other (isFound ▸ differs)
      exact ⟨fresh, isOpen, created, fun _ => hasOrigin, fun id => by simp [spared], rfl⟩
  · rw [pure_eq_ok] at taken
    subst taken
    have spared : ¬Qualifies query item := fun qualifies => inWindow qualifies.1
    exact ⟨fresh, isOpen, created, fun within => absurd within inWindow,
      fun id => by simp [spared], rfl⟩

/-- The accumulators that a loop fills from the items. -/
structure ItemsTaken (query : PreflightQuery) (items : List CandidateItem)
    (state : PreflightState) : Prop where
  prior : ∀ id, id ∈ state.prior ↔ ∃ item ∈ items, Qualifies query item ∧ item.incidentId = id
  seen : ∀ id, id ∈ state.seenIds ↔ ∃ item ∈ items, item.incidentId = id
  distinct : (items.map (·.incidentId)).Nodup
  isOpen : ∀ item ∈ items, item.status = "open"
  created : ∀ item ∈ items, item.createdAt.instant ≤ query.now.instant
  origin : ∀ item ∈ items,
    query.windowStart ≤ item.createdAt.instant → item.originRehearsalId ≠ none
  count : state.itemsSeen = items.length

theorem ItemsTaken.start : ItemsTaken query [] {} := by
  constructor <;> simp

theorem ItemsTaken.item {items : List CandidateItem} {item : CandidateItem}
    (before : ItemsTaken query items state) (taken : ItemTaken query state item next) :
    ItemsTaken query (items ++ [item]) next := by
  have seenIds : next.seenIds = insert item.incidentId state.seenIds := by rw [taken.rest]
  have itemsSeen : next.itemsSeen = state.itemsSeen + 1 := by rw [taken.rest]
  have isNew : ∀ earlier ∈ items, earlier.incidentId ≠ item.incidentId := by
    intro earlier member same
    exact taken.fresh ((before.seen _).mpr ⟨earlier, member, same⟩)
  constructor
  case prior =>
    intro id
    simp only [taken.prior, before.prior, List.mem_append, List.mem_singleton, or_and_right,
      exists_or, exists_eq_left]
  case seen =>
    intro id
    simp only [seenIds, Finset.mem_insert, before.seen, List.mem_append, List.mem_singleton,
      or_and_right, exists_or, exists_eq_left]
    rw [or_comm, eq_comm]
  case distinct =>
    rw [List.map_append, List.nodup_append]
    refine ⟨before.distinct, by simp, ?_⟩
    simpa using isNew
  case isOpen =>
    simpa [or_imp, forall_and, taken.isOpen] using before.isOpen
  case created =>
    simpa [or_imp, forall_and, taken.created] using before.created
  case origin =>
    intro earlier member
    rcases List.mem_append.mp member with old | new
    · exact before.origin earlier old
    · rw [List.mem_singleton.mp new]
      exact taken.origin
  case count => simp [itemsSeen, before.count]

/-! ## Pages -/

/-- Pages of which each begins where the one before it ended. -/
def CursorChain : Option String → List CandidatePage → Option String → Prop
  | first, [], last => first = last
  | first, page :: pages, last => page.cursorIn = first ∧ CursorChain page.cursorOut pages last

theorem CursorChain.snoc {first last : Option String} {pages : List CandidatePage}
    {page : CandidatePage} (chain : CursorChain first pages last)
    (follows : page.cursorIn = last) : CursorChain first (pages ++ [page]) page.cursorOut := by
  induction pages generalizing first with
  | nil =>
      have here : first = last := chain
      exact ⟨follows.trans here.symm, rfl⟩
  | cons earlier pages induction => exact ⟨chain.1, induction chain.2⟩

/-- The accumulators that a loop fills from the pages themselves. -/
structure PagesTaken (pages : List CandidatePage) (state : PreflightState) : Prop where
  snapshot : ∀ page ∈ pages, state.snapshot = some (page.snapshotMarker, page.totalCount)
  chain : CursorChain none pages state.cursor
  cursors : ∀ cursor, cursor ∈ state.seenCursors ↔ ∃ page ∈ pages, page.cursorOut = some cursor
  distinct : (pages.filterMap (·.cursorOut)).Nodup
  exhausted : ∀ page ∈ pages.getLast?, page.exhausted = state.exhausted

theorem PagesTaken.start : PagesTaken [] {} := by
  constructor <;> simp [CursorChain]

/-- The items of a page leave the accumulators of the pages alone. -/
theorem PagesTaken.item {pages : List CandidatePage} {item : CandidateItem}
    (before : PagesTaken pages state) (taken : ItemTaken query state item next) :
    PagesTaken pages next := by
  rw [taken.rest]
  exact ⟨before.snapshot, before.chain, before.cursors, before.distinct, before.exhausted⟩

/-- The loop right after the checks of a page, before its items. -/
def PreflightState.enter (state : PreflightState) (page : CandidatePage) : PreflightState :=
  { state with
    snapshot := some (page.snapshotMarker, page.totalCount)
    elapsed := state.elapsed + page.elapsedMs
    cursor := page.cursorOut
    seenCursors := state.seenCursors ∪ page.cursorOut.toFinset
    exhausted := page.exhausted }

theorem PagesTaken.enter {pages : List CandidatePage} {page : CandidatePage} {last : Bool}
    (before : PagesTaken pages state) (fits : ¬brokenPage state page last) :
    PagesTaken (pages ++ [page]) (state.enter page) := by
  simp only [brokenPage, not_or, not_exists, not_and] at fits
  obtain ⟨sameSnapshot, follows, _, _, newCursor⟩ := fits
  have isNew : ∀ earlier ∈ pages, ∀ cursor, page.cursorOut = some cursor →
      earlier.cursorOut ≠ some cursor := by
    intro earlier member cursor here there
    exact (newCursor cursor here).2 ((before.cursors cursor).mpr ⟨earlier, member, there⟩)
  constructor
  case snapshot =>
    intro earlier member
    rcases List.mem_append.mp member with old | new
    · have kept := sameSnapshot _ (before.snapshot earlier old)
      exact congrArg some (not_not.mp kept).symm
    · rw [List.mem_singleton.mp new]
      rfl
  case chain => exact before.chain.snoc (not_not.mp follows)
  case cursors =>
    intro cursor
    simp only [PreflightState.enter, Finset.mem_union, before.cursors, Option.mem_toFinset,
      Option.mem_def, List.mem_append, List.mem_singleton, or_and_right, exists_or,
      exists_eq_left]
  case distinct =>
    rw [List.filterMap_append, List.nodup_append]
    refine ⟨before.distinct, ?_, ?_⟩
    · cases out : page.cursorOut <;> simp [out]
    · intro earlier member cursor here same
      obtain ⟨origin, isPage, there⟩ := List.mem_filterMap.mp member
      simp only [List.filterMap_cons, List.filterMap_nil] at here
      cases out : page.cursorOut with
      | none => simp [out] at here
      | some found =>
          simp only [out, List.mem_singleton] at here
          exact isNew origin isPage found out (by rw [there, same, here])
  case exhausted =>
    intro final isFinal
    rw [List.getLast?_concat, Option.mem_some_iff] at isFinal
    rw [← isFinal]
    rfl

/-! ## The loop -/

/-- Values that read as the given items. -/
def ReadAs {α : Type} (read : Json → Option α) (values : List Json) (results : List α) : Prop :=
  values.map read = results.map some

instance {α : Type} [DecidableEq α] (read : Json → Option α) (values : List Json)
    (results : List α) : Decidable (ReadAs read values results) :=
  inferInstanceAs (Decidable (_ = _))

theorem takeItems_eq_ok {values : List Json} {pages : List CandidatePage}
    {done : List CandidateItem} (pagesBefore : PagesTaken pages state)
    (itemsBefore : ItemsTaken query done state)
    (taken : takeItems query state values = .ok next) :
    ∃ items, ReadAs readItem values items ∧ PagesTaken pages next ∧
      ItemsTaken query (done ++ items) next := by
  induction values generalizing state done with
  | nil =>
      obtain rfl : state = next := by simpa [takeItems] using taken
      exact ⟨[], rfl, pagesBefore, by simpa using itemsBefore⟩
  | cons value values induction =>
      obtain ⟨middle, first, taken⟩ := bind_eq_ok.mp taken
      obtain ⟨item, reads, isTaken⟩ := takeItem_eq_ok first
      obtain ⟨items, readAs, pagesAfter, itemsAfter⟩ :=
        induction (pagesBefore.item isTaken) (itemsBefore.item isTaken) taken
      refine ⟨item :: items, ?_, pagesAfter, by simpa using itemsAfter⟩
      rw [ReadAs, List.map_cons, reads, readAs, List.map_cons]

/-- What a page that is not the last promises about the next one. -/
def GoesOn (page : CandidatePage) : Prop :=
  page.exhausted = false ∧ page.cursorOut ≠ none

theorem takePage_eq_ok {value : Json} {last : Bool} {pages : List CandidatePage}
    {done : List CandidateItem} (pagesBefore : PagesTaken pages state)
    (itemsBefore : ItemsTaken query done state)
    (taken : takePage query state value last = .ok next) :
    ∃ page items, readPage value = some page ∧ ReadAs readItem page.items items ∧
      (last = false → GoesOn page) ∧ PagesTaken (pages ++ [page]) next ∧
      ItemsTaken query (done ++ items) next := by
  simp only [takePage, bind_eq_ok, orFail_eq_ok, failIf_eq_ok, exists_unit] at taken
  obtain ⟨page, reads, _, _, fits, taken⟩ := taken
  have entered : ItemsTaken query done (state.enter page) :=
    ⟨itemsBefore.prior, itemsBefore.seen, itemsBefore.distinct, itemsBefore.isOpen,
      itemsBefore.created, itemsBefore.origin, itemsBefore.count⟩
  obtain ⟨items, readAs, pagesAfter, itemsAfter⟩ :=
    takeItems_eq_ok (pagesBefore.enter fits) entered taken
  refine ⟨page, items, reads, readAs, ?_, pagesAfter, itemsAfter⟩
  intro notLast
  simp only [brokenPage, not_or, not_and] at fits
  exact ⟨by simpa using (fits.2.2.1 notLast).1, (fits.2.2.1 notLast).2⟩

theorem takePages_eq_ok {values : List Json} {before : List CandidatePage}
    {done : List CandidateItem} (pagesBefore : PagesTaken before state)
    (itemsBefore : ItemsTaken query done state)
    (taken : takePages query state values = .ok next) :
    ∃ pages items, ReadAs readPage values pages ∧
      ReadAs readItem (pages.flatMap (·.items)) items ∧
      (∀ page ∈ pages.dropLast, GoesOn page) ∧ PagesTaken (before ++ pages) next ∧
      ItemsTaken query (done ++ items) next := by
  induction values generalizing state before done with
  | nil =>
      obtain rfl : state = next := by simpa [takePages] using taken
      exact ⟨[], [], rfl, rfl, by simp, by simpa using pagesBefore, by simpa using itemsBefore⟩
  | cons value values induction =>
      obtain ⟨middle, first, taken⟩ := bind_eq_ok.mp taken
      obtain ⟨page, items, reads, readAs, goesOn, pagesHere, itemsHere⟩ :=
        takePage_eq_ok pagesBefore itemsBefore first
      obtain ⟨pages, others, readPages, readOthers, othersGoOn, pagesAfter, itemsAfter⟩ :=
        induction pagesHere itemsHere taken
      refine ⟨page :: pages, items ++ others, ?_, ?_, ?_, by simpa using pagesAfter,
        by simpa using itemsAfter⟩
      · rw [ReadAs, List.map_cons, reads, readPages, List.map_cons]
      · rw [ReadAs, List.flatMap_cons, List.map_append, readAs, readOthers, List.map_append]
      · cases pages with
        | nil => simp
        | cons second pages =>
            have more : values.isEmpty = false := by
              cases values with
              | nil => simp [ReadAs] at readPages
              | cons _ _ => rfl
            simpa using ⟨goesOn more, othersGoOn⟩

/-! ## The end of the loop -/

/-- Pages and items that cover all open incidents at the time of the query. -/
structure FullCoverage (query : PreflightQuery) (pages : List CandidatePage)
    (items : List CandidateItem) : Prop where
  snapshot : ∃ marker total, (items.length : Int) = total ∧
    ∀ page ∈ pages, page.snapshotMarker = marker ∧ page.totalCount = total
  chain : CursorChain none pages none
  cursorsDistinct : (pages.filterMap (·.cursorOut)).Nodup
  goesOn : ∀ page ∈ pages.dropLast, GoesOn page
  ends : ∃ last, pages.getLast? = some last ∧ last.exhausted = true
  idsDistinct : (items.map (·.incidentId)).Nodup
  isOpen : ∀ item ∈ items, item.status = "open"
  created : ∀ item ∈ items, item.createdAt.instant ≤ query.now.instant
  origin : ∀ item ∈ items,
    query.windowStart ≤ item.createdAt.instant → item.originRehearsalId ≠ none

/-- A result that names exactly the qualifying items. -/
structure NamesPrior (query : PreflightQuery) (items : List CandidateItem)
    (result : CandidatePreflight) : Prop where
  ascending : result.priorIncidentIds.SortedLT
  exact : ∀ id, id ∈ result.priorIncidentIds ↔
    ∃ item ∈ items, Qualifies query item ∧ item.incidentId = id
  eligible : result.finding = .priorEligible ↔ result.priorIncidentIds ≠ []
  conclusive : result.finding ≠ .incomplete

theorem sortedLT_sortedIds (ids : Finset String) : (sortedIds ids).SortedLT :=
  ids.sortedLT_sort

@[simp] theorem mem_sortedIds {ids : Finset String} {id : String} :
    id ∈ sortedIds ids ↔ id ∈ ids :=
  Finset.mem_sort _

theorem concludePreflight_ids (state : PreflightState) :
    (concludePreflight state).priorIncidentIds = sortedIds state.prior := by
  unfold concludePreflight
  split_ifs <;> rfl

/-- The loop ended with nothing left to ask for. -/
theorem concludePreflight_conclusive
    (conclusive : (concludePreflight state).finding ≠ .incomplete) :
    state.exhausted = true ∧ state.cursor = none ∧
      (∃ first ∈ state.snapshot, (state.itemsSeen : Int) = first.2) ∧
      ((concludePreflight state).finding = .priorEligible ↔ state.prior.Nonempty) := by
  unfold concludePreflight at conclusive ⊢
  split_ifs at conclusive ⊢ with unfinished found
  · exact absurd rfl conclusive
  all_goals
    simp only [not_or, Bool.not_eq_false, not_not, not_forall] at unfinished
    obtain ⟨exhausted, ended, first, isFirst, counted⟩ := unfinished
    exact ⟨exhausted, ended, ⟨first, isFirst, counted⟩, by simp [found]⟩

theorem FullCoverage.of_taken {pages : List CandidatePage} {items : List CandidateItem}
    (goesOn : ∀ page ∈ pages.dropLast, GoesOn page) (pagesTaken : PagesTaken pages state)
    (itemsTaken : ItemsTaken query items state) (notEmpty : pages ≠ [])
    (conclusive : (concludePreflight state).finding ≠ .incomplete) :
    FullCoverage query pages items := by
  obtain ⟨exhausted, ended, ⟨first, isFirst, counted⟩, _⟩ :=
    concludePreflight_conclusive conclusive
  constructor
  case snapshot =>
    refine ⟨first.1, first.2, by rw [← counted, itemsTaken.count], fun page member => ?_⟩
    have same := (pagesTaken.snapshot page member).symm.trans isFirst
    rw [Option.some.injEq, Prod.ext_iff] at same
    exact same
  case chain => simpa [ended] using pagesTaken.chain
  case cursorsDistinct => exact pagesTaken.distinct
  case goesOn => exact goesOn
  case ends =>
    obtain ⟨last, isLast⟩ := List.getLast?_isSome.mpr notEmpty |> Option.isSome_iff_exists.mp
    exact ⟨last, isLast, (pagesTaken.exhausted last isLast).trans exhausted⟩
  case idsDistinct => exact itemsTaken.distinct
  case isOpen => exact itemsTaken.isOpen
  case created => exact itemsTaken.created
  case origin => exact itemsTaken.origin

theorem NamesPrior.of_taken {items : List CandidateItem}
    (itemsTaken : ItemsTaken query items state)
    (conclusive : (concludePreflight state).finding ≠ .incomplete) :
    NamesPrior query items (concludePreflight state) := by
  obtain ⟨_, _, _, eligible⟩ := concludePreflight_conclusive conclusive
  constructor
  case ascending =>
    rw [concludePreflight_ids]
    exact sortedLT_sortedIds _
  case exact =>
    intro id
    rw [concludePreflight_ids, mem_sortedIds, itemsTaken.prior]
  case eligible =>
    rw [eligible, concludePreflight_ids, Ne, List.eq_nil_iff_forall_not_mem, not_forall]
    simp [Finset.Nonempty]
  case conclusive => exact conclusive

/-- Two results that name the same items are the same. -/
theorem NamesPrior.unique {items others : List CandidateItem}
    {result other : CandidatePreflight} (first : NamesPrior query items result)
    (second : NamesPrior query others other)
    (same : ∀ item, item ∈ items ↔ item ∈ others) : result = other := by
  have sameIds : result.priorIncidentIds = other.priorIncidentIds := by
    apply first.ascending.eq_of_mem_iff second.ascending
    intro id
    rw [first.exact, second.exact]
    simp only [same]
  have sameEligible : result.finding = .priorEligible ↔ other.finding = .priorEligible := by
    rw [first.eligible, second.eligible, sameIds]
  have sameFinding : result.finding = other.finding := by
    have conclusive := first.conclusive
    have otherConclusive := second.conclusive
    cases here : result.finding <;> cases there : other.finding <;> simp_all
  cases result
  cases other
  simp_all

/-! ## Identifiers of a loop that stopped -/

/-- An item of some page of the input. -/
def Supplied (pages : List Json) (item : CandidateItem) : Prop :=
  ∃ value ∈ pages, ∃ page, readPage value = some page ∧
    ∃ element ∈ page.items, readItem element = some item

/-- The identifiers that a loop has found when it stops or ends. -/
inductive Finds : Except PreflightStop PreflightState → Finset String → Prop
  | stopped (prior : Finset String) : Finds (.error (.incomplete prior)) prior
  | ended (state : PreflightState) : Finds (.ok state) state.prior

/-- A loop of two parts stops in the first or comes to the second. -/
theorem Finds.of_bind {first : Except PreflightStop PreflightState}
    {rest : PreflightState → Except PreflightStop PreflightState} {prior : Finset String}
    (finds : Finds (first >>= rest) prior) :
    Finds first prior ∨ ∃ middle, first = .ok middle ∧ Finds (rest middle) prior := by
  cases first with
  | error stop => exact .inl finds
  | ok middle => exact .inr ⟨middle, rfl, finds⟩

theorem Finds.of_failIf {condition : Prop} [Decidable condition]
    {prior found : Finset String} {rest : Except PreflightStop PreflightState}
    (finds : Finds (failIf condition (.incomplete prior) >>= fun _ => rest) found) :
    found = prior ∨ Finds rest found := by
  by_cases stops : condition
  · rw [failIf_of stops] at finds
    cases finds
    exact .inl rfl
  · rw [failIf_of_not stops] at finds
    exact .inr finds

/-- An item that stops the loop adds nothing to what was found before it. -/
theorem takeItem_eq_incomplete {value : Json} {prior : Finset String}
    (stopped : takeItem query state value = .error (.incomplete prior)) :
    prior = state.prior := by
  rw [takeItem, bind_eq_error] at stopped
  obtain unread | ⟨item, _, stopped⟩ := stopped
  · simp [orFail_eq_error] at unread
  obtain refused | ⟨_, _, stopped⟩ := bind_eq_error.mp stopped
  · simp only [failIf_eq_error, PreflightStop.incomplete.injEq] at refused
    exact refused.2.symm
  split_ifs at stopped with inWindow
  · obtain absent | ⟨_, _, stopped⟩ := bind_eq_error.mp stopped
    · simp only [orFail_eq_error, PreflightStop.incomplete.injEq] at absent
      exact absent.2.symm
    · simp [pure, Except.pure] at stopped
  · simp [pure, Except.pure] at stopped

theorem takeItem_finds {value : Json} {prior : Finset String}
    (finds : Finds (takeItem query state value) prior) :
    ∀ id ∈ prior, id ∈ state.prior ∨
      ∃ item, readItem value = some item ∧ Qualifies query item ∧ item.incidentId = id := by
  intro id found
  cases outcome : takeItem query state value with
  | ok next =>
      rw [outcome] at finds
      cases finds
      obtain ⟨item, reads, taken⟩ := takeItem_eq_ok outcome
      rcases (taken.prior id).mp found with old | ⟨qualifies, isItem⟩
      · exact .inl old
      · exact .inr ⟨item, reads, qualifies, isItem⟩
  | error stop =>
      rw [outcome] at finds
      cases finds
      exact .inl (takeItem_eq_incomplete outcome ▸ found)

theorem takeItems_finds {values : List Json} {prior : Finset String}
    (finds : Finds (takeItems query state values) prior) :
    ∀ id ∈ prior, id ∈ state.prior ∨ ∃ value ∈ values, ∃ item,
      readItem value = some item ∧ Qualifies query item ∧ item.incidentId = id := by
  intro id found
  induction values generalizing state with
  | nil =>
      cases finds
      exact .inl found
  | cons value values induction =>
      have source {middle : Finset String} (finds : Finds (takeItem query state value) middle)
          (found : id ∈ middle) : id ∈ state.prior ∨ ∃ value' ∈ value :: values, ∃ item,
            readItem value' = some item ∧ Qualifies query item ∧ item.incidentId = id :=
        (takeItem_finds finds id found).imp_right fun here => ⟨value, by simp, here⟩
      obtain finds | ⟨middle, first, finds⟩ := finds.of_bind
      · exact source finds found
      · rcases induction finds with old | ⟨later, member, here⟩
        · exact source (first ▸ .ended middle) old
        · exact .inr ⟨later, List.mem_cons_of_mem _ member, here⟩

theorem takePage_finds {value : Json} {last : Bool} {prior : Finset String}
    (finds : Finds (takePage query state value last) prior) :
    ∀ id ∈ prior, id ∈ state.prior ∨
      ∃ item, Supplied [value] item ∧ Qualifies query item ∧ item.incidentId = id := by
  intro id found
  cases read : readPage value with
  | none =>
      rw [takePage, read] at finds
      cases finds
  | some page =>
      rw [takePage, read] at finds
      obtain rfl | finds := finds.of_failIf
      · exact .inl found
      obtain rfl | finds := finds.of_failIf
      · exact .inl found
      obtain rfl | finds := finds.of_failIf
      · exact .inl found
      rcases takeItems_finds finds id found with old | ⟨element, member, item, reads, rest⟩
      · exact .inl old
      · exact .inr ⟨item, ⟨value, by simp, page, read, element, member, reads⟩, rest⟩

theorem Supplied.of_subset {pages more : List Json} {item : CandidateItem}
    (supplied : Supplied pages item) (subset : pages ⊆ more) : Supplied more item := by
  obtain ⟨value, member, rest⟩ := supplied
  exact ⟨value, subset member, rest⟩

theorem takePages_finds {values : List Json} {prior : Finset String}
    (finds : Finds (takePages query state values) prior) :
    ∀ id ∈ prior, id ∈ state.prior ∨
      ∃ item, Supplied values item ∧ Qualifies query item ∧ item.incidentId = id := by
  intro id found
  induction values generalizing state with
  | nil =>
      cases finds
      exact .inl found
  | cons value values induction =>
      have source {middle : Finset String}
          (finds : Finds (takePage query state value values.isEmpty) middle)
          (found : id ∈ middle) : id ∈ state.prior ∨ ∃ item,
            Supplied (value :: values) item ∧ Qualifies query item ∧ item.incidentId = id :=
        (takePage_finds finds id found).imp_right fun ⟨item, supplied, rest⟩ =>
          ⟨item, supplied.of_subset (by simp), rest⟩
      obtain finds | ⟨middle, first, finds⟩ := finds.of_bind
      · exact source finds found
      · rcases induction finds with old | ⟨item, supplied, rest⟩
        · exact source (first ▸ .ended middle) old
        · exact .inr ⟨item, supplied.of_subset (by simp), rest⟩

/-! ## The preflight -/

/-- A result that is not incomplete is the conclusion of a loop over all pages. -/
theorem preflight_conclusive {value : Json} {result : CandidatePreflight}
    (returned : preflightPriorCandidates value = some result)
    (conclusive : result.finding ≠ .incomplete) :
    ∃ query values state, readQuery value = some (query, values) ∧ values ≠ [] ∧
      takePages query {} values = .ok state ∧ result = concludePreflight state := by
  obtain ⟨⟨query, values⟩, reads, returned⟩ := Option.bind_eq_some_iff.mp returned
  refine ⟨query, values, ?_⟩
  dsimp only at returned
  split_ifs at returned with count
  · cases returned
    exact absurd rfl conclusive
  obtain ⟨_, _, returned⟩ := Option.bind_eq_some_iff.mp returned
  cases outcome : takePages query {} values with
  | ok state =>
      rw [outcome] at returned
      cases returned
      exact ⟨state, reads, (not_or.mp count).1, rfl, rfl⟩
  | error stop =>
      rw [outcome] at returned
      cases stop with
      | malformed => cases returned
      | incomplete prior =>
          cases returned
          exact absurd rfl conclusive

/-- The identifiers of every result are those found by the loop, if it was entered. -/
theorem preflight_finds {value : Json} {result : CandidatePreflight}
    (returned : preflightPriorCandidates value = some result) :
    ∃ query values, readQuery value = some (query, values) ∧
      ∀ id ∈ result.priorIncidentIds,
        ∃ prior, Finds (takePages query {} values) prior ∧ id ∈ prior := by
  obtain ⟨⟨query, values⟩, reads, returned⟩ := Option.bind_eq_some_iff.mp returned
  refine ⟨query, values, reads, ?_⟩
  dsimp only at returned
  split_ifs at returned with count
  · cases returned
    simp
  obtain ⟨_, _, returned⟩ := Option.bind_eq_some_iff.mp returned
  cases outcome : takePages query {} values with
  | ok state =>
      rw [outcome] at returned
      cases returned
      intro id member
      rw [concludePreflight_ids, mem_sortedIds] at member
      exact ⟨_, .ended state, member⟩
  | error stop =>
      rw [outcome] at returned
      cases stop with
      | malformed => cases returned
      | incomplete prior =>
          cases returned
          exact fun id member => ⟨prior, .stopped prior, mem_sortedIds.mp member⟩

/-- The pages and the items that an input consists of. -/
structure Supplies (value : Json) (query : PreflightQuery) (pages : List CandidatePage)
    (items : List CandidateItem) : Prop where
  reads : ∃ values, readQuery value = some (query, values) ∧ ReadAs readPage values pages
  items : ReadAs readItem (pages.flatMap (·.items)) items

theorem preflight_covers {value : Json} {result : CandidatePreflight}
    (returned : preflightPriorCandidates value = some result)
    (conclusive : result.finding ≠ .incomplete) :
    ∃ query pages items, Supplies value query pages items ∧
      FullCoverage query pages items ∧ NamesPrior query items result := by
  obtain ⟨query, values, state, reads, notEmpty, taken, rfl⟩ :=
    preflight_conclusive returned conclusive
  obtain ⟨pages, items, readPages, readItems, goesOn, pagesTaken, itemsTaken⟩ :=
    takePages_eq_ok .start .start taken
  simp only [List.nil_append] at pagesTaken itemsTaken
  have somePage : pages ≠ [] := by
    rintro rfl
    exact notEmpty (List.map_eq_nil_iff.mp readPages)
  exact ⟨query, pages, items, ⟨⟨values, reads, readPages⟩, readItems⟩,
    .of_taken goesOn pagesTaken itemsTaken somePage conclusive, .of_taken itemsTaken conclusive⟩

theorem ReadAs.unique {α : Type} {read : Json → Option α} {values : List Json}
    {results others : List α} (first : ReadAs read values results)
    (second : ReadAs read values others) : results = others :=
  List.map_injective_iff.mpr (Option.some_injective α) (first.symm.trans second)

/-- An input consists of one list of pages and one list of items. -/
theorem Supplies.unique {value : Json} {query other : PreflightQuery}
    {pages others : List CandidatePage} {items rest : List CandidateItem}
    (first : Supplies value query pages items) (second : Supplies value other others rest) :
    query = other ∧ items = rest := by
  obtain ⟨⟨values, reads, readPages⟩, readItems⟩ := first
  obtain ⟨⟨again, readsAgain, readPagesAgain⟩, readItemsAgain⟩ := second
  rw [reads, Option.some.injEq, Prod.mk.injEq] at readsAgain
  obtain ⟨rfl, rfl⟩ := readsAgain
  obtain rfl := readPages.unique readPagesAgain
  exact ⟨rfl, readItems.unique readItemsAgain⟩

/-- A preflight whose finding is not incomplete has covered all open incidents and names
exactly the prior ones; it depends on the items of its input only, not on their pages or
order.  What it names is a prior item of its input in every case. -/
theorem preflight_complete_or_incomplete :
    (∀ value result, preflightPriorCandidates value = some result →
      result.finding ≠ .incomplete →
      ∃ query pages items, Supplies value query pages items ∧
        FullCoverage query pages items ∧ NamesPrior query items result) ∧
    (∀ query value other result otherResult pages otherPages items otherItems,
      preflightPriorCandidates value = some result → result.finding ≠ .incomplete →
      preflightPriorCandidates other = some otherResult →
      otherResult.finding ≠ .incomplete →
      Supplies value query pages items → Supplies other query otherPages otherItems →
      (∀ item, item ∈ items ↔ item ∈ otherItems) → result = otherResult) ∧
    ∀ value result, preflightPriorCandidates value = some result →
      ∃ query values, readQuery value = some (query, values) ∧
        ∀ id ∈ result.priorIncidentIds,
          ∃ item, Supplied values item ∧ Qualifies query item ∧ item.incidentId = id := by
  refine ⟨fun value result => preflight_covers, ?_, ?_⟩
  · intro query value other result otherResult pages otherPages items otherItems
      returned conclusive otherReturned otherConclusive supplies otherSupplies same
    obtain ⟨_, _, _, suppliesHere, _, names⟩ := preflight_covers returned conclusive
    obtain ⟨_, _, _, suppliesThere, _, otherNames⟩ :=
      preflight_covers otherReturned otherConclusive
    obtain ⟨rfl, rfl⟩ := suppliesHere.unique supplies
    obtain ⟨rfl, rfl⟩ := suppliesThere.unique otherSupplies
    exact names.unique otherNames same
  · intro value result returned
    obtain ⟨query, values, reads, finds⟩ := preflight_finds returned
    refine ⟨query, values, reads, fun id member => ?_⟩
    obtain ⟨prior, found, isPrior⟩ := finds id member
    simpa using takePages_finds found id isPrior

def sampleQuery : PreflightQuery :=
  ⟨"00000000-0000-4000-8000-000000000001", ⟨2026, 1, 5, 12, 0, 0, 0, by decide⟩⟩

/-- The value of an open incident of another rehearsal. -/
def sampleIncident (incidentId createdAt : String) : Json :=
  .obj [("incident_id", .str incidentId), ("status", .str "open"), ("created_at", .str createdAt),
    ("origin_rehearsal_id", .str "00000000-0000-4000-8000-000000000002")]

/-- An incident of the last half hour and one from before it. -/
def sampleIncidents : List Json :=
  [sampleIncident "10002" "2026-01-05T11:45:00.000000Z",
    sampleIncident "10001" "2026-01-05T11:15:00.000000Z"]

def sampleItems : List CandidateItem :=
  [⟨"10002", "open", ⟨2026, 1, 5, 11, 45, 0, 0, by decide⟩,
      some "00000000-0000-4000-8000-000000000002"⟩,
    ⟨"10001", "open", ⟨2026, 1, 5, 11, 15, 0, 0, by decide⟩,
      some "00000000-0000-4000-8000-000000000002"⟩]

/-- The value of a page of a snapshot of two incidents. -/
def samplePage (cursorIn cursorOut : Json) (exhausted : Bool) (items : List Json) : Json :=
  .obj [("snapshot_marker", .str "snapshot-1"), ("cursor_in", cursorIn), ("cursor_out", cursorOut),
    ("exhausted", .bool exhausted), ("total_count", .num 2), ("elapsed_ms", .num 10),
    ("items", .arr items)]

def samplePreflight (pages : List Json) : Json :=
  .obj [("current_rehearsal_id", .str "00000000-0000-4000-8000-000000000001"),
    ("jira_now", .str "2026-01-05T12:00:00.000000Z"), ("pages", .arr pages)]

/-- The incidents on two pages. -/
def samplePaged : List Json :=
  [samplePage .null (.str "next") false (sampleIncidents.take 1),
    samplePage (.str "next") .null true (sampleIncidents.drop 1)]

/-- The incidents on one page, in the other order. -/
def sampleWhole : List Json := [samplePage .null .null true sampleIncidents.reverse]

theorem samplePaged_supplies :
    ∃ pages, Supplies (samplePreflight samplePaged) sampleQuery pages sampleItems := by
  refine ⟨[⟨"snapshot-1", none, some "next", false, 2, 10, sampleIncidents.take 1⟩,
      ⟨"snapshot-1", some "next", none, true, 2, 10, sampleIncidents.drop 1⟩],
    ⟨samplePaged, ?_, ?_⟩, ?_⟩
  all_goals decide +kernel

theorem sampleWhole_supplies :
    ∃ pages, Supplies (samplePreflight sampleWhole) sampleQuery pages sampleItems.reverse := by
  refine ⟨[⟨"snapshot-1", none, none, true, 2, 10, sampleIncidents.reverse⟩],
    ⟨sampleWhole, ?_, ?_⟩, ?_⟩
  all_goals decide +kernel

/-- Two pages and one page with the same incidents, one of which qualifies. -/
theorem preflight_complete_or_incomplete_sample : ∃ result,
    preflightPriorCandidates (samplePreflight samplePaged) = some result ∧
      preflightPriorCandidates (samplePreflight sampleWhole) = some result ∧
      result.finding = .priorEligible ∧
      (∃ pages, Supplies (samplePreflight samplePaged) sampleQuery pages sampleItems ∧
        FullCoverage sampleQuery pages sampleItems) ∧
      NamesPrior sampleQuery sampleItems result := by
  obtain ⟨covers, agrees, _⟩ := preflight_complete_or_incomplete
  have eligible : (preflightPriorCandidates (samplePreflight samplePaged)).map (·.finding) =
      some .priorEligible := by
    decide +kernel
  have otherEligible : (preflightPriorCandidates (samplePreflight sampleWhole)).map (·.finding) =
      some .priorEligible := by
    decide +kernel
  obtain ⟨result, returned, finds⟩ := Option.map_eq_some_iff.mp eligible
  obtain ⟨otherResult, otherReturned, otherFinds⟩ := Option.map_eq_some_iff.mp otherEligible
  have conclusive : result.finding ≠ .incomplete := by simp [finds]
  obtain ⟨pages, supplies⟩ := samplePaged_supplies
  obtain ⟨otherPages, otherSupplies⟩ := sampleWhole_supplies
  obtain ⟨_, pages, _, suppliesHere, covered, names⟩ := covers _ _ returned conclusive
  obtain ⟨rfl, rfl⟩ := suppliesHere.unique supplies
  have same : result = otherResult :=
    agrees _ _ _ _ _ _ _ _ _ returned conclusive otherReturned (by simp [otherFinds]) supplies
      otherSupplies (by simp)
  exact ⟨result, returned, same ▸ otherReturned, finds, ⟨pages, suppliesHere, covered⟩, names⟩

end ManyAlerts
