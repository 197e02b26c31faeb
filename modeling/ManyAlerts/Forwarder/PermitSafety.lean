import ManyAlerts.Forwarder.Permits

/-!
# A permit passes each fence at most once

`PermitStep` is everything a call can do to the book: nothing, stage one entry,
close one open entry, or let one entry pass a fence.  `Logged` ties the entries to
the calls made so far, and the claims about passes are read off it.
-/

namespace ManyAlerts

variable {book next : PermitBook} {turn : PermitTurn} {turns : List PermitTurn}

namespace PermitTurn

/-- The call staged a binding at this place. -/
def Stages (turn : PermitTurn) (index : Nat) (binding : PermitBinding) : Prop :=
  (∃ nowUs, turn.call = .stage (some binding) nowUs) ∧ turn.result = .ok (.staged (.issued index))

/-- The call was a pass of a fence on this handle, for the binding it presented. -/
def Passes (turn : PermitTurn) (fence : PermitFence) (index : Nat) (binding : PermitBinding) :
    Prop :=
  (∃ bootId generation nowUs,
      turn.call = .attempt fence (.issued index) (some binding) bootId generation nowUs) ∧
    turn.result = .ok (.decided ⟨fence, none, some fence.reached⟩)

/-- A denied attempt on this handle, or its close. -/
def Retires (turn : PermitTurn) (index : Nat) : Prop :=
  turn.call = .close (.issued index) ∨
    ∃ fence expected bootId generation nowUs denial phase,
      turn.call = .attempt fence (.issued index) expected bootId generation nowUs ∧
      turn.result = .ok (.decided ⟨fence, some denial, phase⟩)

theorem Retires.unique {index place : Nat} (retires : turn.Retires index)
    (again : turn.Retires place) : index = place := by
  rcases retires with closes | ⟨_, _, _, _, _, _, _, attempts, -⟩ <;>
    rcases again with closesAgain | ⟨_, _, _, _, _, _, _, attemptsAgain, -⟩
  · simpa [closes] using closesAgain
  · simp [closes] at attemptsAgain
  · simp [attempts] at closesAgain
  · rw [attempts] at attemptsAgain
    injection attemptsAgain with _ same
    injection same

/-- The call staged something. -/
def staging (turn : PermitTurn) : Bool :=
  match turn.result with
  | .ok (.staged _) => true
  | _ => false

/-- The call neither staged a binding nor was decided with a pass, on any handle. -/
structure Idle (turn : PermitTurn) : Prop where
  staging : turn.staging = false
  denied : ∀ decision, turn.result = .ok (.decided decision) → decision.denial ≠ none

theorem Idle.passed (idle : turn.Idle) (fence : PermitFence) (index : Nat)
    (binding : PermitBinding) : ¬turn.Passes fence index binding :=
  fun passes => idle.denied _ passes.2 rfl

theorem Idle.of_error {call : PermitCall} {code : PermitErrorCode} : Idle ⟨call, .error code⟩ where
  staging := rfl
  denied _ decided := by cases decided

theorem Idle.of_denial {call : PermitCall} {fence : PermitFence} {denial : PermitDenial}
    {phase : Option PermitPhase} : Idle ⟨call, .ok (.decided ⟨fence, some denial, phase⟩)⟩ where
  staging := rfl
  denied _ decided := by
    cases decided
    simp

end PermitTurn

/-! ## Steps -/

/-- An attempt that a fence admits. -/
structure Admits (book : PermitBook) (fence : PermitFence) (entry : PermitEntry)
    (expected : Option PermitBinding) (receiverBootId forwarderGeneration : Option String)
    (nowUs : Option Int) : Prop where
  binding : expected = some entry.binding
  valid : entry.binding.valid book.bootId book.generation = true
  phase : entry.phase = fence.required
  bootId : receiverBootId = some book.bootId
  generation : forwarderGeneration = some book.generation
  inTime : ∃ now, nowUs = some now ∧ now < entry.binding.expiresUs

theorem admits_of_denial {fence : PermitFence} {entry : PermitEntry}
    {expected : Option PermitBinding} {receiverBootId forwarderGeneration : Option String}
    {nowUs : Option Int}
    (passed : book.denial fence entry expected receiverBootId forwarderGeneration nowUs = none) :
    Admits book fence entry expected receiverBootId forwarderGeneration nowUs := by
  unfold PermitBook.denial at passed
  split at passed
  case h_2 => cases passed
  case h_1 snapshot now bootId generation boundEq timeEq bootEq generationEq =>
      split_ifs at passed with phase context late other
      rw [PermitBook.snapshotBinding, Option.filter_eq_some_iff] at boundEq
      rw [permitTime, Option.filter_eq_some_iff] at timeEq
      rw [Option.filter_eq_some_iff] at bootEq generationEq
      rw [not_not] at phase other
      rw [not_or, not_not, not_not] at context
      subst other
      exact
        { binding := boundEq.1
          valid := boundEq.2
          phase := phase
          bootId := context.1 ▸ bootEq.1
          generation := context.2 ▸ generationEq.1
          inTime := ⟨now, timeEq.1, not_le.mp late⟩ }

/-- What a call does to the book. -/
inductive PermitStep (book : PermitBook) : PermitTurn → PermitBook → Prop where
  | idle {turn : PermitTurn} (idle : turn.Idle)
      (dead : ∀ index entry, turn.Retires index → book.entries[index]? = some entry →
        entry.phase = .closed) : PermitStep book turn book
  | stage {binding : PermitBinding} {nowUs : Option Int}
      (valid : binding.valid book.bootId book.generation = true)
      (permit : binding.permitId ∉ book.permitIds)
      (operation : binding.operationId ∉ book.operationIds)
      (room : book.openCount < maxOpenPermits) (few : book.entries.length < maxLifetimePermits) :
      PermitStep book ⟨.stage (some binding) nowUs, .ok (.staged (.issued book.entries.length))⟩
        (book.addEntry binding)
  | close {turn : PermitTurn} {index : Nat} {entry : PermitEntry} (idle : turn.Idle)
      (retires : turn.Retires index) (found : book.entries[index]? = some entry)
      (isOpen : entry.phase.isOpen = true) :
      PermitStep book turn
        { book.setPhase index entry .closed with openCount := book.openCount - 1 }
  | pass {fence : PermitFence} {index : Nat} {entry : PermitEntry}
      {expected : Option PermitBinding} {receiverBootId forwarderGeneration : Option String}
      {nowUs : Option Int} (found : book.entries[index]? = some entry)
      (admits : Admits book fence entry expected receiverBootId forwarderGeneration nowUs) :
      PermitStep book
        ⟨.attempt fence (.issued index) expected receiverBootId forwarderGeneration nowUs,
          .ok (.decided ⟨fence, none, some fence.reached⟩)⟩
        (book.setPhase index entry fence.reached)

theorem step_closeEntry {index : Nat} {entry : PermitEntry} (idle : turn.Idle)
    (retires : turn.Retires index) (found : book.entries[index]? = some entry) :
    PermitStep book turn (book.closeEntry index entry) := by
  unfold PermitBook.closeEntry
  split_ifs with isOpen
  · exact .close idle retires found isOpen
  · refine .idle idle fun place other again stored => ?_
    obtain rfl := retires.unique again
    obtain rfl := Option.some.inj (found.symm.trans stored)
    simpa [PermitPhase.isOpen] using isOpen

theorem entry_eq_some {handle : PermitHandle} {index : Nat} {entry : PermitEntry} :
    book.entry handle = some (index, entry) ↔
      handle = .issued index ∧ book.entries[index]? = some entry := by
  cases handle with
  | foreign => simp [PermitBook.entry]
  | issued place =>
      simp only [PermitBook.entry, Option.map_eq_some_iff, Prod.mk.injEq,
        PermitHandle.issued.injEq]
      constructor
      · rintro ⟨other, found, rfl, rfl⟩
        exact ⟨rfl, found⟩
      · rintro ⟨rfl, found⟩
        exact ⟨entry, found, rfl, rfl⟩

/-- A call that raises, or whose handle is unknown, changes nothing. -/
theorem step_unknown {handle : PermitHandle} (idle : turn.Idle)
    (unknown : book.entry handle = none)
    (named : ∀ index, turn.Retires index → handle = .issued index) : PermitStep book turn book := by
  refine .idle idle fun index entry retires stored => ?_
  rw [entry_eq_some.mpr ⟨named index retires, stored⟩] at unknown
  cases unknown

theorem not_retires_stage {binding : Option PermitBinding} {nowUs : Option Int} {index : Nat}
    {result : Except PermitErrorCode PermitAnswer} :
    ¬PermitTurn.Retires ⟨.stage binding nowUs, result⟩ index := by
  rintro (closes | ⟨_, _, _, _, _, _, _, attempts, -⟩)
  · cases closes
  · cases attempts

theorem not_retires_phase {handle : PermitHandle} {index : Nat}
    {result : Except PermitErrorCode PermitAnswer} :
    ¬PermitTurn.Retires ⟨.phase handle, result⟩ index := by
  rintro (closes | ⟨_, _, _, _, _, _, _, attempts, -⟩)
  · cases closes
  · cases attempts

theorem perform_step (call : PermitCall) :
    Ensures call.perform book (fun answer next => PermitStep book ⟨call, .ok answer⟩ next)
      fun code next => PermitStep book ⟨call, .error code⟩ next := by
  cases call with
  | stage binding nowUs =>
      have refused : ∀ code, PermitStep book ⟨.stage binding nowUs, .error code⟩ book :=
        fun code => .idle .of_error fun _ _ retires => absurd retires not_retires_stage
      simp only [PermitCall.perform, PermitBook.stage, ensures_map, ensures_bind, ensures_get,
        ensures_orRaise, ensures_refuse, ensures_set, ensures_pure, not_or, not_le]
      refine ⟨fun _ => refused _, fun snapshot bound => ⟨fun _ => refused _, fun now _ =>
        ⟨fun _ => refused _, fun _ => ⟨fun _ => refused _, fun fresh =>
          ⟨fun _ => refused _, fun room => ?_⟩⟩⟩⟩⟩
      rw [PermitBook.snapshotBinding, Option.filter_eq_some_iff] at bound
      rw [bound.1]
      exact .stage bound.2 fresh.1 fresh.2 room.1 room.2
  | attempt fence handle expected receiverBootId forwarderGeneration nowUs =>
      simp only [PermitCall.perform, PermitBook.attempt, ensures_map, ensures_bind, ensures_get]
      cases found : book.entry handle with
      | none =>
          refine step_unknown .of_denial found fun index retires => ?_
          rcases retires with closes | ⟨_, _, _, _, _, _, _, attempts, -⟩
          · cases closes
          · injection attempts
      | some place =>
          obtain ⟨index, entry⟩ := place
          obtain ⟨rfl, stored⟩ := entry_eq_some.mp found
          dsimp only
          cases denied : book.denial fence entry expected receiverBootId forwarderGeneration
              nowUs with
          | some denial =>
              refine step_closeEntry .of_denial (.inr ?_) stored
              exact ⟨fence, expected, receiverBootId, forwarderGeneration, nowUs, denial,
                some .closed, rfl, rfl⟩
          | none => exact .pass stored (admits_of_denial denied)
  | close handle =>
      simp only [PermitCall.perform, PermitBook.close, ensures_map, ensures_bind, ensures_get,
        ensures_orRaise, ensures_set]
      constructor
      · intro unknown
        refine step_unknown .of_error unknown fun index retires => ?_
        rcases retires with closes | ⟨_, _, _, _, _, _, _, attempts, -⟩
        · injection closes
        · cases attempts
      · intro place found
        obtain ⟨index, entry⟩ := place
        obtain ⟨rfl, stored⟩ := entry_eq_some.mp found
        exact step_closeEntry ⟨rfl, fun _ decided => by cases decided⟩ (.inl rfl) stored
  | phase handle =>
      simp only [PermitCall.perform, PermitBook.phase, ensures_map, ensures_bind, ensures_get,
        ensures_orRaise, ensures_pure]
      have alive : ∀ result index entry, PermitTurn.Retires ⟨.phase handle, result⟩ index →
          book.entries[index]? = some entry → entry.phase = .closed :=
        fun _ _ _ retires => absurd retires not_retires_phase
      exact ⟨fun _ => .idle .of_error (alive _),
        fun place found => .idle ⟨rfl, fun _ decided => by cases decided⟩ (alive _)⟩

/-! ## The calls behind the entries -/

/-- The entries of a book and the calls that led to them. -/
structure Logged (turns : List PermitTurn) (book : PermitBook) : Prop where
  permits : book.permitIds = book.entries.map fun entry => entry.binding.permitId
  operations : book.operationIds = book.entries.map fun entry => entry.binding.operationId
  permitsNodup : book.permitIds.Nodup
  operationsNodup : book.operationIds.Nodup
  counter : book.openCount = book.entries.countP fun entry => entry.phase.isOpen
  room : book.openCount ≤ maxOpenPermits
  few : book.entries.length ≤ maxLifetimePermits
  stagings : (turns.filter PermitTurn.staging).length = book.entries.length
  staged : ∀ index entry, book.entries[index]? = some entry →
    ∃ turn ∈ turns, turn.Stages index entry.binding
  passed : ∀ turn ∈ turns, ∀ fence index binding, turn.Passes fence index binding →
    ∃ entry, book.entries[index]? = some entry ∧ entry.binding = binding ∧
      entry.phase ≠ .offered ∧ (fence = .l2 → entry.phase ≠ .consumedL1)
  once : turns.Pairwise fun earlier later => ∀ fence index first second,
    earlier.Passes fence index first → ¬later.Passes fence index second
  consumed : ∀ index entry, book.entries[index]? = some entry → entry.phase = .consumedL1 →
    ∃ before turn after, turns = before ++ turn :: after ∧
      turn.Passes .l1 index entry.binding ∧ ∀ later ∈ after, ¬later.Retires index

theorem Logged.create {receiverBootId forwarderGeneration : Option String}
    (created : PermitBook.create receiverBootId forwarderGeneration = .ok book) :
    Logged [] book := by
  simp only [PermitBook.create, bind_eq_ok, pure_eq_ok] at created
  obtain ⟨bootId, -, generation, -, rfl⟩ := created
  constructor <;> simp [maxOpenPermits, maxLifetimePermits]

/-- Setting the phase of one entry keeps every binding. -/
theorem get_setPhase {index place : Nat} {entry found : PermitEntry} {phase : PermitPhase}
    (stored : book.entries[index]? = some entry)
    (later : (book.setPhase index entry phase).entries[place]? = some found) :
    (place = index ∧ found = { entry with phase := phase }) ∨
      (place ≠ index ∧ book.entries[place]? = some found) := by
  by_cases same : place = index
  · subst same
    left
    have bound : place < book.entries.length := (List.getElem?_eq_some_iff.mp stored).1
    simp only [PermitBook.setPhase, List.getElem?_set_self bound, Option.some.injEq] at later
    exact ⟨rfl, later.symm⟩
  · right
    simp only [PermitBook.setPhase, List.getElem?_set_ne (Ne.symm same)] at later
    exact ⟨same, later⟩

theorem setPhase_get {index place : Nat} {entry found : PermitEntry} (phase : PermitPhase)
    (stored : book.entries[index]? = some entry) (earlier : book.entries[place]? = some found) :
    ∃ later, (book.setPhase index entry phase).entries[place]? = some later ∧
      later.binding = found.binding ∧
      ((place = index ∧ later.phase = phase) ∨ (place ≠ index ∧ later = found)) := by
  by_cases same : place = index
  · subst same
    obtain rfl := Option.some.inj (stored.symm.trans earlier)
    have bound : place < book.entries.length := (List.getElem?_eq_some_iff.mp stored).1
    exact ⟨_, List.getElem?_set_self bound, rfl, .inl ⟨rfl, rfl⟩⟩
  · refine ⟨found, ?_, rfl, .inr ⟨same, rfl⟩⟩
    simp only [PermitBook.setPhase, List.getElem?_set_ne (Ne.symm same), earlier]

theorem map_setPhase {α : Type} {index : Nat} {entry : PermitEntry} {phase : PermitPhase}
    (stored : book.entries[index]? = some entry) (read : PermitBinding → α) :
    (book.setPhase index entry phase).entries.map (fun entry => read entry.binding) =
      book.entries.map fun entry => read entry.binding := by
  apply List.ext_getElem?
  intro place
  simp only [List.getElem?_map]
  cases earlier : book.entries[place]? with
  | none =>
      have bound := List.getElem?_eq_none_iff.mp earlier
      rw [List.getElem?_eq_none_iff.mpr (by simpa [PermitBook.setPhase] using bound)]
  | some found =>
      obtain ⟨later, there, binding, -⟩ := setPhase_get phase stored earlier
      rw [there, Option.map_some, Option.map_some, binding]

/-- The part of a log that is about passes, after a call that passed no fence. -/
theorem Logged.quiet (next : PermitBook) (logged : Logged turns book)
    (quiet : ∀ fence index binding, ¬turn.Passes fence index binding)
    (kept : ∀ (index : Nat) (entry : PermitEntry), book.entries[index]? = some entry →
      entry.phase ≠ .offered → ∃ later : PermitEntry, next.entries[index]? = some later ∧
        later.binding = entry.binding ∧ later.phase ≠ .offered ∧
        (entry.phase ≠ .consumedL1 → later.phase ≠ .consumedL1)) :
    (∀ other ∈ turns ++ [turn], ∀ fence index binding, other.Passes fence index binding →
      ∃ entry, next.entries[index]? = some entry ∧ entry.binding = binding ∧
        entry.phase ≠ .offered ∧ (fence = .l2 → entry.phase ≠ .consumedL1)) ∧
    (turns ++ [turn]).Pairwise fun earlier later => ∀ fence index first second,
      earlier.Passes fence index first → ¬later.Passes fence index second := by
  constructor
  · intro other member fence index binding passes
    rcases List.mem_append.mp member with early | last
    · obtain ⟨entry, stored, bound, used, spent⟩ := logged.passed other early fence index binding
        passes
      obtain ⟨later, there, sameBinding, stillUsed, stillSpent⟩ := kept index entry stored used
      exact ⟨later, there, sameBinding.trans bound, stillUsed,
        fun second => stillSpent (spent second)⟩
    · obtain rfl := List.mem_singleton.mp last
      exact absurd passes (quiet fence index binding)
  · refine List.pairwise_append.mpr ⟨logged.once, List.pairwise_singleton _ _, ?_⟩
    intro earlier _ later last fence index first second _
    obtain rfl := List.mem_singleton.mp last
    exact quiet fence index second

theorem Logged.staged_snoc (turn : PermitTurn) (logged : Logged turns book) {index : Nat}
    {entry : PermitEntry} (stored : book.entries[index]? = some entry) :
    ∃ other ∈ turns ++ [turn], other.Stages index entry.binding := by
  obtain ⟨other, member, stages⟩ := logged.staged index entry stored
  exact ⟨other, List.mem_append_left _ member, stages⟩

theorem Logged.consumed_snoc (logged : Logged turns book) {index : Nat} {entry : PermitEntry}
    (stored : book.entries[index]? = some entry) (consumed : entry.phase = .consumedL1)
    (alive : ¬turn.Retires index) :
    ∃ before other after, turns ++ [turn] = before ++ other :: after ∧
      other.Passes .l1 index entry.binding ∧ ∀ later ∈ after, ¬later.Retires index := by
  obtain ⟨before, other, after, rfl, passes, calm⟩ := logged.consumed index entry stored consumed
  refine ⟨before, other, after ++ [turn], by simp, passes, ?_⟩
  intro later member
  rcases List.mem_append.mp member with early | last
  · exact calm later early
  · obtain rfl := List.mem_singleton.mp last
    exact alive

theorem Logged.stagings_snoc (logged : Logged turns book) (silent : turn.staging = false) :
    ((turns ++ [turn]).filter PermitTurn.staging).length = book.entries.length := by
  rw [List.filter_append, List.filter_singleton, silent]
  simpa using logged.stagings

/-! ## One lemma for each kind of step -/

theorem Logged.idle (logged : Logged turns book) (idle : turn.Idle)
    (dead : ∀ index entry, turn.Retires index → book.entries[index]? = some entry →
      entry.phase = .closed) : Logged (turns ++ [turn]) book := by
  obtain ⟨passed, once⟩ := logged.quiet book idle.passed fun index entry stored used =>
    ⟨entry, stored, rfl, used, id⟩
  refine
    { logged with
      stagings := logged.stagings_snoc idle.staging
      staged := fun index entry => logged.staged_snoc turn
      passed := passed, once := once, consumed := ?_ }
  intro index entry stored consumed
  apply logged.consumed_snoc stored consumed
  intro retires
  rw [dead index entry retires stored] at consumed
  cases consumed

theorem get_addEntry {binding : PermitBinding} {index : Nat} {found : PermitEntry}
    (later : (book.addEntry binding).entries[index]? = some found) :
    book.entries[index]? = some found ∨
      (index = book.entries.length ∧ found = ⟨binding, .offered⟩) := by
  rw [PermitBook.addEntry, List.getElem?_append] at later
  split_ifs at later with early
  · exact .inl later
  · right
    rw [List.getElem?_singleton] at later
    split_ifs at later with first
    exact ⟨by omega, (Option.some.inj later).symm⟩

theorem addEntry_get {binding : PermitBinding} {index : Nat} {found : PermitEntry}
    (earlier : book.entries[index]? = some found) :
    (book.addEntry binding).entries[index]? = some found := by
  obtain ⟨bound, -⟩ := List.getElem?_eq_some_iff.mp earlier
  rw [PermitBook.addEntry, List.getElem?_append_left bound, earlier]

theorem Logged.stage (logged : Logged turns book) {binding : PermitBinding} {nowUs : Option Int}
    (permit : binding.permitId ∉ book.permitIds)
    (operation : binding.operationId ∉ book.operationIds)
    (room : book.openCount < maxOpenPermits) (few : book.entries.length < maxLifetimePermits) :
    Logged (turns ++ [⟨.stage (some binding) nowUs, .ok (.staged (.issued book.entries.length))⟩])
      (book.addEntry binding) := by
  have silent : ∀ fence index other, ¬PermitTurn.Passes
      ⟨.stage (some binding) nowUs, .ok (.staged (.issued book.entries.length))⟩ fence index
      other := by
    rintro _ _ _ ⟨-, ⟨⟩⟩
  obtain ⟨passed, once⟩ := logged.quiet (book.addEntry binding) silent
    fun index entry stored used => ⟨entry, addEntry_get stored, rfl, used, id⟩
  refine
    { permits := ?_, operations := ?_, permitsNodup := ?_, operationsNodup := ?_, counter := ?_
      room := ?_, few := ?_, stagings := ?_, staged := ?_
      passed := passed, once := once, consumed := ?_ }
  · simp [PermitBook.addEntry, logged.permits]
  · simp [PermitBook.addEntry, logged.operations]
  · exact List.nodup_append.mpr ⟨logged.permitsNodup, List.nodup_singleton _, by
      rintro _ member _ last rfl
      exact permit (List.mem_singleton.mp last ▸ member)⟩
  · exact List.nodup_append.mpr ⟨logged.operationsNodup, List.nodup_singleton _, by
      rintro _ member _ last rfl
      exact operation (List.mem_singleton.mp last ▸ member)⟩
  · simp [PermitBook.addEntry, logged.counter, List.countP_append, PermitPhase.isOpen]
  · simp only [PermitBook.addEntry]
    omega
  · simp only [PermitBook.addEntry, List.length_append, List.length_singleton]
    omega
  · rw [List.filter_append, List.length_append, logged.stagings, PermitBook.addEntry,
      List.length_append]
    rfl
  · intro index entry later
    rcases get_addEntry later with earlier | ⟨rfl, rfl⟩
    · exact logged.staged_snoc _ earlier
    · exact ⟨_, List.mem_append_right _ (List.mem_singleton_self _), ⟨nowUs, rfl⟩, rfl⟩
  · intro index entry later consumed
    rcases get_addEntry later with earlier | ⟨rfl, rfl⟩
    · exact logged.consumed_snoc earlier consumed not_retires_stage
    · cases consumed

/-- The number of open entries after a change of one phase. -/
theorem countP_setPhase {index : Nat} {entry : PermitEntry} (phase : PermitPhase)
    (stored : book.entries[index]? = some entry) (isOpen : entry.phase.isOpen = true) :
    (((book.setPhase index entry phase).entries.countP fun entry => entry.phase.isOpen : Nat) : Int)
      = (book.entries.countP fun entry => entry.phase.isOpen) - 1 +
        if phase.isOpen then 1 else 0 := by
  obtain ⟨bound, rfl⟩ := List.getElem?_eq_some_iff.mp stored
  have positive : 0 < book.entries.countP fun entry => entry.phase.isOpen :=
    List.countP_pos_iff.mpr ⟨_, List.getElem_mem bound, isOpen⟩
  rw [PermitBook.setPhase, List.countP_set bound, if_pos isOpen]
  split_ifs <;> omega

theorem Logged.close (logged : Logged turns book) {index : Nat} {entry : PermitEntry}
    (idle : turn.Idle) (retires : turn.Retires index)
    (stored : book.entries[index]? = some entry) (isOpen : entry.phase.isOpen = true) :
    Logged (turns ++ [turn])
      { book.setPhase index entry .closed with openCount := book.openCount - 1 } := by
  obtain ⟨passed, once⟩ := logged.quiet
    { book.setPhase index entry .closed with openCount := book.openCount - 1 } idle.passed
    fun place found earlier used => by
      obtain ⟨later, there, binding, ⟨-, closed⟩ | ⟨-, rfl⟩⟩ := setPhase_get .closed stored earlier
      · exact ⟨later, there, binding, by simp [closed], by simp [closed]⟩
      · exact ⟨later, there, rfl, used, id⟩
  refine
    { permits := ?_, operations := ?_, permitsNodup := logged.permitsNodup
      operationsNodup := logged.operationsNodup, counter := ?_
      room := ?_, few := ?_, stagings := ?_, staged := ?_
      passed := passed, once := once, consumed := ?_ }
  · exact logged.permits.trans (map_setPhase stored PermitBinding.permitId).symm
  · exact logged.operations.trans (map_setPhase stored PermitBinding.operationId).symm
  · rw [countP_setPhase .closed stored isOpen, logged.counter]
    simp [PermitPhase.isOpen]
  · have bound := logged.room
    dsimp only
    omega
  · simpa [PermitBook.setPhase] using logged.few
  · simpa [PermitBook.setPhase] using logged.stagings_snoc idle.staging
  · intro place found later
    rcases get_setPhase stored later with ⟨rfl, rfl⟩ | ⟨-, earlier⟩
    · exact (logged.staged_snoc turn stored :)
    · exact logged.staged_snoc turn earlier
  · intro place found later consumed
    rcases get_setPhase stored later with ⟨rfl, rfl⟩ | ⟨other, earlier⟩
    · cases consumed
    · exact logged.consumed_snoc earlier consumed fun again => other (again.unique retires)

theorem Logged.pass (logged : Logged turns book) {fence : PermitFence} {index : Nat}
    {entry : PermitEntry} {expected : Option PermitBinding}
    {receiverBootId forwarderGeneration : Option String} {nowUs : Option Int}
    (stored : book.entries[index]? = some entry)
    (admits : Admits book fence entry expected receiverBootId forwarderGeneration nowUs)
    (called : turn = ⟨.attempt fence (.issued index) expected receiverBootId forwarderGeneration
      nowUs, .ok (.decided ⟨fence, none, some fence.reached⟩)⟩) :
    Logged (turns ++ [turn]) (book.setPhase index entry fence.reached) := by
  have isOpen : entry.phase.isOpen = true := by
    rw [admits.phase]
    cases fence <;> rfl
  have reachedOpen : fence.reached.isOpen = true := by cases fence <;> rfl
  have own : turn.Passes fence index entry.binding := by
    subst called
    exact ⟨⟨receiverBootId, forwarderGeneration, nowUs, by rw [admits.binding]⟩, rfl⟩
  have unique : ∀ other place binding, turn.Passes other place binding →
      other = fence ∧ place = index ∧ binding = entry.binding := by
    rintro other place binding ⟨⟨_, _, _, same⟩, -⟩
    rw [called] at same
    injection same with sameFence sameHandle sameBinding
    injection sameHandle with samePlace
    exact ⟨sameFence.symm, samePlace.symm,
      (Option.some.inj (admits.binding.symm.trans sameBinding)).symm⟩
  have alive : ∀ place, ¬turn.Retires place := by
    rintro place (closes | ⟨_, _, _, _, _, _, _, -, denied⟩)
    · rw [called] at closes
      cases closes
    · rw [called] at denied
      cases denied
  have staging : turn.staging = false := by
    subst called
    rfl
  refine
    { permits := ?_, operations := ?_, permitsNodup := logged.permitsNodup
      operationsNodup := logged.operationsNodup, counter := ?_
      room := logged.room, few := ?_, stagings := ?_, staged := ?_
      passed := ?_, once := ?_, consumed := ?_ }
  · exact logged.permits.trans (map_setPhase stored PermitBinding.permitId).symm
  · exact logged.operations.trans (map_setPhase stored PermitBinding.operationId).symm
  · rw [countP_setPhase fence.reached stored isOpen, if_pos reachedOpen, ← logged.counter]
    exact (sub_add_cancel book.openCount 1).symm
  · simpa [PermitBook.setPhase] using logged.few
  · simpa [PermitBook.setPhase] using logged.stagings_snoc staging
  · intro place found later
    rcases get_setPhase stored later with ⟨rfl, rfl⟩ | ⟨-, earlier⟩
    · exact (logged.staged_snoc turn stored :)
    · exact logged.staged_snoc turn earlier
  · intro other member otherFence place binding passes
    rcases List.mem_append.mp member with early | last
    · obtain ⟨found, earlier, bound, used, spent⟩ :=
        logged.passed other early otherFence place binding passes
      obtain ⟨later, there, sameBinding, ⟨rfl, phase⟩ | ⟨-, rfl⟩⟩ :=
        setPhase_get fence.reached stored earlier
      · obtain rfl := Option.some.inj (stored.symm.trans earlier)
        refine ⟨later, there, sameBinding.trans bound, ?_, fun second => ?_⟩
        · rw [phase]
          cases fence <;> simp [PermitFence.reached]
        -- a second pass behind the entry leaves the first fence nothing to pass
        · have fresh := spent second
          rw [admits.phase] at fresh used
          cases fence with
          | l1 => exact absurd rfl used
          | l2 => exact absurd rfl fresh
      · exact ⟨later, there, sameBinding.trans bound, used, spent⟩
    · obtain rfl := List.mem_singleton.mp last
      obtain ⟨rfl, rfl, rfl⟩ := unique otherFence place binding passes
      obtain ⟨later, there, sameBinding, ⟨-, phase⟩ | ⟨differs, -⟩⟩ :=
        setPhase_get otherFence.reached stored stored
      · refine ⟨later, there, sameBinding, ?_, fun second => ?_⟩
        · rw [phase]
          cases otherFence <;> simp [PermitFence.reached]
        · rw [phase, second]
          simp [PermitFence.reached]
      · exact absurd rfl differs
  · refine List.pairwise_append.mpr ⟨logged.once, List.pairwise_singleton _ _, ?_⟩
    intro earlier member later last otherFence place first second passes again
    obtain rfl := List.mem_singleton.mp last
    obtain ⟨rfl, rfl, rfl⟩ := unique otherFence place second again
    obtain ⟨found, there, -, used, spent⟩ :=
      logged.passed earlier member otherFence place first passes
    obtain rfl := Option.some.inj (stored.symm.trans there)
    rw [admits.phase] at used spent
    cases otherFence with
    | l1 => exact used rfl
    | l2 => exact spent rfl rfl
  · intro place found later consumed
    rcases get_setPhase stored later with ⟨rfl, rfl⟩ | ⟨-, earlier⟩
    · cases fence with
      | l1 => exact ⟨turns, turn, [], rfl, own, by simp⟩
      | l2 => cases consumed
    · exact logged.consumed_snoc earlier consumed (alive place)

theorem PermitStep.logged (step : PermitStep book turn next) (logged : Logged turns book) :
    Logged (turns ++ [turn]) next := by
  cases step with
  | idle idle dead => exact logged.idle idle dead
  | stage _ permit operation room few => exact logged.stage permit operation room few
  | close idle retires found isOpen => exact logged.close idle retires found isOpen
  | pass found admits => exact logged.pass found admits rfl

/-! ## Runs -/

theorem PermitStep.context (step : PermitStep book turn next) :
    next.bootId = book.bootId ∧ next.generation = book.generation := by
  cases step <;> exact ⟨rfl, rfl⟩

theorem PermitStep.closed (step : PermitStep book turn next) {index : Nat} {entry : PermitEntry}
    (stored : book.entries[index]? = some entry) (closed : entry.phase = .closed) :
    next.entries[index]? = some entry := by
  cases step with
  | idle => exact stored
  | stage => exact addEntry_get stored
  | close _ _ found isOpen =>
      obtain ⟨later, there, -, ⟨rfl, -⟩ | ⟨-, rfl⟩⟩ := setPhase_get .closed found stored
      · obtain rfl := Option.some.inj (found.symm.trans stored)
        rw [closed] at isOpen
        cases isOpen
      · exact there
  | @pass fence _ _ _ _ _ _ found admits =>
      obtain ⟨later, there, -, ⟨rfl, -⟩ | ⟨-, rfl⟩⟩ := setPhase_get fence.reached found stored
      · obtain rfl := Option.some.inj (found.symm.trans stored)
        rw [admits.phase] at closed
        cases fence <;> cases closed
      · exact there

variable {last : PermitBook}

theorem step_of_outcome {call : PermitCall} {result : Except PermitErrorCode PermitAnswer}
    (ended : outcome call.perform book = (result, next)) :
    PermitStep book ⟨call, result⟩ next := by
  let ending : Except PermitErrorCode PermitAnswer → PermitBook → Prop := fun result next =>
    PermitStep book ⟨call, result⟩ next
  have ensured : Ensures call.perform book (fun answer => ending (.ok answer))
      fun code => ending (.error code) := perform_step call
  exact ensured.of_outcome ended

theorem PermitRun.logged (run : PermitRun book turns last) (logged : Logged [] book) :
    Logged turns last := by
  induction run with
  | start => exact logged
  | call _ ended induction => exact (step_of_outcome ended).logged induction

theorem PermitRun.context (run : PermitRun book turns last) :
    last.bootId = book.bootId ∧ last.generation = book.generation := by
  induction run with
  | start => exact ⟨rfl, rfl⟩
  | call _ ended induction =>
      have kept := (step_of_outcome ended).context
      exact ⟨kept.1.trans induction.1, kept.2.trans induction.2⟩

theorem PermitRun.closed (run : PermitRun book turns last) {index : Nat} {entry : PermitEntry}
    (stored : book.entries[index]? = some entry) (closed : entry.phase = .closed) :
    last.entries[index]? = some entry := by
  induction run with
  | start => exact stored
  | call _ ended induction => exact (step_of_outcome ended).closed induction closed

/-- The book at the time of a call of a run. -/
theorem PermitRun.of_split (run : PermitRun book turns last) {before after : List PermitTurn}
    (split : turns = before ++ turn :: after) :
    ∃ reached next, PermitRun book before reached ∧ PermitStep reached turn next := by
  induction run generalizing after with
  | start => simp at split
  | @call earlier reached next call result run ended induction =>
      rcases List.eq_nil_or_concat after with rfl | ⟨rest, final, rfl⟩
      · obtain ⟨rfl, same⟩ := List.append_inj' split rfl
        obtain rfl := List.singleton_inj.mp same
        exact ⟨reached, next, run, step_of_outcome ended⟩
      · rw [List.concat_eq_append, ← List.cons_append, ← List.append_assoc] at split
        exact induction (List.append_inj_left' split rfl)

/-! ## The claims -/

/-- What a pass says about the calls before it: the binding was staged with this
handle, is valid for the book, is presented in every field and has not expired. -/
structure ExactPass (book : PermitBook) (before : List PermitTurn) (turn : PermitTurn)
    (index : Nat) (binding : PermitBinding) : Prop where
  staged : ∃ earlier ∈ before, earlier.Stages index binding
  valid : binding.valid book.bootId book.generation = true
  presented : ∃ fence now, now < binding.expiresUs ∧ turn.call =
    .attempt fence (.issued index) (some binding) (some book.bootId) (some book.generation)
      (some now)

/-- The rules of a book, over the calls made on it since it was created. -/
structure OneUse (book : PermitBook) (turns : List PermitTurn) (last : PermitBook) : Prop where
  passing : ∀ before turn after decision, turns = before ++ turn :: after →
    turn.result = .ok (.decided decision) → decision.denial = none →
      ∃ index binding, turn.Passes decision.fence index binding ∧
        ∃ earlier ∈ before, earlier.Stages index binding
  once : turns.Pairwise fun earlier later => ∀ fence index place first second,
    earlier.Passes fence index first → later.Passes fence place second →
      first.operationId ≠ second.operationId ∧ first.permitId ≠ second.permitId
  exactly : ∀ before turn after fence index binding, turns = before ++ turn :: after →
    turn.Passes fence index binding → ExactPass book before turn index binding
  ordered : ∀ before turn after index binding, turns = before ++ turn :: after →
    turn.Passes .l2 index binding → ∃ early first between, before = early ++ first :: between ∧
      first.Passes .l1 index binding ∧ ∀ later ∈ between, ¬later.Retires index
  closed : ∀ before after reached, turns = before ++ after → PermitRun book before reached →
    PermitRun reached after last → ∀ (index : Nat) (entry : PermitEntry),
      reached.entries[index]? = some entry → entry.phase = .closed →
        last.entries[index]? = some entry
  counter : last.openCount = (last.entries.countP fun entry => entry.phase.isOpen) ∧
    last.openCount ≤ maxOpenPermits
  lifetime : (turns.filter PermitTurn.staging).length ≤ maxLifetimePermits

theorem Logged.entry_inj {α : Type} {read : PermitBinding → α} {index place : Nat}
    {first second : PermitEntry}
    (nodup : (book.entries.map fun entry => read entry.binding).Nodup)
    (found : book.entries[index]? = some first) (other : book.entries[place]? = some second)
    (same : read first.binding = read second.binding) : index = place := by
  have bound := (List.getElem?_eq_some_iff.mp found).1
  apply (List.getElem?_inj (by simpa using bound) nodup).mp
  rw [List.getElem?_map, List.getElem?_map, found, other, Option.map_some, Option.map_some, same]

theorem PermitStep.admits {fence : PermitFence} {index : Nat} {binding : PermitBinding}
    (step : PermitStep book turn next) (passes : turn.Passes fence index binding) :
    ∃ entry receiverBootId forwarderGeneration nowUs, book.entries[index]? = some entry ∧
      entry.binding = binding ∧
      Admits book fence entry (some binding) receiverBootId forwarderGeneration nowUs ∧
      turn.call = .attempt fence (.issued index) (some binding) receiverBootId
        forwarderGeneration nowUs := by
  cases step with
  | stage => cases passes.2
  | idle idle | close idle => exact absurd passes (idle.passed fence index binding)
  | @pass own place entry expected receiverBootId forwarderGeneration nowUs found admits =>
      obtain ⟨⟨_, _, _, same⟩, -⟩ := passes
      cases same
      exact ⟨entry, _, _, _, found, Option.some.inj admits.binding.symm, admits, rfl⟩

/-- A pass is decided only for an entry of the book and its own binding. -/
theorem PermitStep.passing (step : PermitStep book turn next) {decision : PermitDecision}
    (decided : turn.result = .ok (.decided decision)) (passed : decision.denial = none) :
    ∃ index entry, book.entries[index]? = some entry ∧
      turn.Passes decision.fence index entry.binding := by
  cases step with
  | stage => cases decided
  | idle idle | close idle => exact absurd passed (idle.denied decision decided)
  | @pass fence index entry expected receiverBootId forwarderGeneration nowUs found admits =>
      cases decided
      exact ⟨index, entry, found, ⟨receiverBootId, forwarderGeneration, nowUs,
        by rw [admits.binding]⟩, rfl⟩

/-- Every permit passes each fence at most once, and only as it was staged. -/
theorem permits_pass_once {receiverBootId forwarderGeneration : Option String}
    (created : PermitBook.create receiverBootId forwarderGeneration = .ok book)
    (run : PermitRun book turns last) : OneUse book turns last := by
  have logged := run.logged (.create created)
  refine
    { passing := ?_, once := ?_, exactly := ?_, ordered := ?_, closed := ?_
      counter := ⟨logged.counter, logged.room⟩
      lifetime := logged.stagings.trans_le logged.few }
  · intro before turn after decision split decided passed
    obtain ⟨reached, next, early, step⟩ := run.of_split split
    obtain ⟨index, entry, found, passes⟩ := step.passing decided passed
    exact ⟨index, entry.binding, passes, (early.logged (.create created)).staged index entry found⟩
  · refine logged.once.imp_of_mem ?_
    intro earlier later member member' apart fence index place first second passes again
    obtain ⟨one, found, rfl, -⟩ := logged.passed earlier member fence index first passes
    obtain ⟨other, there, rfl, -⟩ := logged.passed later member' fence place second again
    have distinct : index ≠ place := by
      rintro rfl
      exact apart fence index _ _ passes again
    have operations := logged.operations ▸ logged.operationsNodup
    have permits := logged.permits ▸ logged.permitsNodup
    exact ⟨fun same => distinct (Logged.entry_inj operations found there same),
      fun same => distinct (Logged.entry_inj permits found there same)⟩
  · intro before turn after fence index binding split passes
    obtain ⟨reached, next, early, step⟩ := run.of_split split
    obtain ⟨entry, bootId, generation, nowUs, found, rfl, admits, called⟩ := step.admits passes
    obtain ⟨sameBoot, sameGeneration⟩ := early.context
    obtain ⟨now, read, inTime⟩ := admits.inTime
    refine ⟨(early.logged (.create created)).staged index entry found, ?_, fence, now, inTime, ?_⟩
    · rw [← sameBoot, ← sameGeneration]
      exact admits.valid
    · rw [called, admits.bootId, admits.generation, read, sameBoot, sameGeneration]
  · intro before turn after index binding split passes
    obtain ⟨reached, next, early, step⟩ := run.of_split split
    obtain ⟨entry, bootId, generation, nowUs, found, rfl, admits, -⟩ := step.admits passes
    exact (early.logged (.create created)).consumed index entry found admits.phase
  · intro before after reached _ _ rest index entry stored closed
    exact rest.closed stored closed

def samplePermit : PermitBinding where
  permitId := "permit"
  receiverBootId := "boot"
  forwarderGeneration := "generation"
  runId := "run"
  attemptId := "attempt"
  operationId := "operation"
  effectIntentId := "intent"
  grantId := "grant"
  flightId := "flight"
  service := "jira"
  routeId := "jira.issue.get"
  requestDigest := zeroDigest
  targetDigest := zeroDigest
  expiresUs := 10

/-- A copied handle is turned away, the permit passes both fences, and a repeated attempt
closes it. -/
def samplePermitCalls : List PermitCall :=
  [.stage (some samplePermit) (some 1),
    .attempt .l1 .foreign (some samplePermit) (some "boot") (some "generation") (some 2),
    .attempt .l1 (.issued 0) (some samplePermit) (some "boot") (some "generation") (some 2),
    .attempt .l2 (.issued 0) (some samplePermit) (some "boot") (some "generation") (some 3),
    .attempt .l2 (.issued 0) (some samplePermit) (some "boot") (some "generation") (some 4)]

/-- The turns of calls made one after the other. -/
def playPermits (book : PermitBook) : List PermitCall → List PermitTurn × PermitBook
  | [] => ([], book)
  | call :: calls =>
      let (result, next) := outcome call.perform book
      let (turns, last) := playPermits next calls
      (⟨call, result⟩ :: turns, last)

theorem PermitRun.playPermits {start : PermitBook} (calls : List PermitCall)
    (run : PermitRun start turns book) :
    PermitRun start (turns ++ (playPermits book calls).1) (playPermits book calls).2 := by
  induction calls generalizing turns book with
  | nil => simpa [playPermits] using run
  | cons call calls induction =>
      have more := induction (run.call (Prod.mk.eta (p := outcome call.perform book)).symm)
      rw [List.append_assoc] at more
      exact more

def samplePermitBook : PermitBook := ⟨"boot", "generation", [], [], [], 0⟩

theorem permits_pass_once_sample :
    (playPermits samplePermitBook samplePermitCalls).2.entries = [⟨samplePermit, .closed⟩] ∧
      OneUse samplePermitBook (playPermits samplePermitBook samplePermitCalls).1
        (playPermits samplePermitBook samplePermitCalls).2 := by
  have created : PermitBook.create (some "boot") (some "generation") = .ok samplePermitBook := by
    decide +kernel
  constructor
  · decide +kernel
  · exact permits_pass_once created (PermitRun.start.playPermits samplePermitCalls)

end ManyAlerts
