import ManyAlerts.Journal.Payload

/-!
# Commit frames

The grouping of a journal reads nothing of a record but its position, so it is
studied here for anything that has one.  A frame says what a whole commit is
without running the grouping: one sequence number, one size that is the number
of records, and the places in order.  A sequence is framed in at most one way,
and the grouping finds it: the groups it hands out are the frames of the longest
prefix that has any, and the error at the end says what comes after them.
-/

namespace ManyAlerts

/-! ## Numbered positions -/

/-- Positions of one commit of a given size, from its first place on. -/
structure Numbered (seq size : Nat) (positions : List Position) : Prop where
  seq : ∀ position ∈ positions, position.commitSeq = seq
  size : ∀ position ∈ positions, position.commitSize = size
  index : positions.map Position.commitIndex = List.range positions.length

/-- The positions of a whole commit. -/
structure Frame (positions : List Position) : Prop where
  nonempty : positions ≠ []
  numbered : ∃ seq, Numbered seq positions.length positions

/-- A non-empty proper prefix of a frame. -/
structure Begun (positions : List Position) : Prop where
  nonempty : positions ≠ []
  continued : ∃ frame, Frame frame ∧ positions <+: frame ∧ positions ≠ frame

theorem numbered_nil {seq size : Nat} : Numbered seq size [] :=
  ⟨by simp, by simp, rfl⟩

theorem numbered_concat {seq size : Nat} {positions : List Position} {position : Position} :
    Numbered seq size (positions ++ [position]) ↔
      Numbered seq size positions ∧ position.commitSeq = seq ∧ position.commitSize = size ∧
        position.commitIndex = positions.length := by
  constructor
  · intro numbered
    have index := numbered.index
    simp only [List.map_append, List.map_cons, List.map_nil, List.length_append,
      List.length_singleton, List.range_succ] at index
    obtain ⟨before, last⟩ := List.append_inj' index rfl
    refine ⟨⟨?_, ?_, before⟩, ?_, ?_, List.cons.inj last |>.1⟩
    · intro earlier member
      exact numbered.seq earlier (List.mem_append_left _ member)
    · intro earlier member
      exact numbered.size earlier (List.mem_append_left _ member)
    · exact numbered.seq position (by simp)
    · exact numbered.size position (by simp)
  · intro ⟨numbered, seq, size, index⟩
    refine ⟨?_, ?_, ?_⟩
    · intro one member
      rcases List.mem_append.mp member with earlier | last
      · exact numbered.seq one earlier
      · rw [List.mem_singleton.mp last, seq]
    · intro one member
      rcases List.mem_append.mp member with earlier | last
      · exact numbered.size one earlier
      · rw [List.mem_singleton.mp last, size]
    · simp [List.range_succ, numbered.index, index]

theorem Numbered.left {seq size : Nat} {front rest : List Position}
    (numbered : Numbered seq size (front ++ rest)) : Numbered seq size front := by
  induction rest using List.reverseRecOn with
  | nil => simpa using numbered
  | append_singleton rest last induction =>
      rw [← List.append_assoc] at numbered
      exact induction (numbered_concat.mp numbered).1

/-- Positions of a commit go on for as long as one likes. -/
theorem Numbered.extend {seq size : Nat} {positions : List Position}
    (numbered : Numbered seq size positions) (count : Nat) :
    ∃ more, more.length = count ∧ Numbered seq size (positions ++ more) := by
  induction count with
  | zero => exact ⟨[], rfl, by simpa using numbered⟩
  | succ count induction =>
      obtain ⟨more, length, extended⟩ := induction
      refine ⟨more ++ [⟨1, 1, seq, (positions ++ more).length, size, ""⟩], ?_, ?_⟩
      · simp [length]
      · rw [← List.append_assoc]
        exact numbered_concat.mpr ⟨extended, rfl, rfl, rfl⟩

theorem begun_iff {positions : List Position} :
    Begun positions ↔ positions ≠ [] ∧
      ∃ seq size, Numbered seq size positions ∧ positions.length < size := by
  constructor
  · intro ⟨nonempty, frame, whole, ⟨rest, extended⟩, proper⟩
    obtain ⟨seq, numbered⟩ := whole.numbered
    rw [← extended] at numbered
    refine ⟨nonempty, seq, (positions ++ rest).length, numbered.left, ?_⟩
    have more : rest ≠ [] := by
      intro none
      apply proper
      rw [← extended, none, List.append_nil]
    have counted := List.length_pos_iff.mpr more
    rw [List.length_append]
    omega
  · intro ⟨nonempty, seq, size, numbered, short⟩
    obtain ⟨more, length, extended⟩ := numbered.extend (size - positions.length)
    have counted : (positions ++ more).length = size := by
      rw [List.length_append, length]
      omega
    refine ⟨nonempty, positions ++ more, ⟨?_, seq, ?_⟩, List.prefix_append _ _, ?_⟩
    · simp [nonempty]
    · rwa [counted]
    · intro same
      have lengths := congrArg List.length same
      rw [counted] at lengths
      omega

section Grouping

variable {Rec : Type} (position : Rec → Position)

/-! ## The grouping -/

/-- `group_commits` with the records of the open group, for anything that has a
position. -/
def groupPlaced (current : List Rec) : List Rec → List (List Rec) × Option Failure
  | [] => ([], if current.isEmpty then none else some (.replay .tailIncomplete))
  | record :: records =>
      let first := position (current.headD record)
      if (position record).commitSeq ≠ first.commitSeq ∨
          (position record).commitSize ≠ first.commitSize ∨
          (position record).commitIndex ≠ current.length then
        ([], some (.replay .framing))
      else if current.length + 1 = first.commitSize then
        let (groups, failure) := groupPlaced [] records
        ((current ++ [record]) :: groups, failure)
      else groupPlaced (current ++ [record]) records

variable {position} {current records : List Rec} {record : Rec}

/-- The first record of the open group says what it is a group of. -/
theorem Numbered.first {seq size : Nat}
    (numbered : Numbered seq size ((current ++ [record]).map position)) :
    (position (current.headD record)).commitSeq = seq ∧
      (position (current.headD record)).commitSize = size := by
  have member : position (current.headD record) ∈ (current ++ [record]).map position := by
    cases current <;> simp
  exact ⟨numbered.seq _ member, numbered.size _ member⟩

theorem groupPlaced_placed {seq size : Nat}
    (numbered : Numbered seq size ((current ++ [record]).map position)) :
    groupPlaced position current (record :: records) =
      if current.length + 1 = size then
        ((current ++ [record]) :: (groupPlaced position [] records).1,
          (groupPlaced position [] records).2)
      else groupPlaced position (current ++ [record]) records := by
  obtain ⟨firstSeq, firstSize⟩ := numbered.first
  rw [List.map_append, List.map_singleton, numbered_concat, List.length_map] at numbered
  obtain ⟨_, seqs, sizes, index⟩ := numbered
  rw [groupPlaced]
  simp only [firstSeq, firstSize, seqs, sizes, index, ne_eq, not_true_eq_false, or_self,
    if_false]

/-- What the open group satisfies between two records. -/
def Filling (position : Rec → Position) (current : List Rec) : Prop :=
  ∃ seq size, Numbered seq size (current.map position) ∧ current.length < size

theorem filling_nil : Filling position [] :=
  ⟨0, 1, numbered_nil, Nat.zero_lt_one⟩

theorem Filling.first (filling : Filling position current)
    (sized : 1 ≤ (position record).commitSize) :
    Numbered (position (current.headD record)).commitSeq
        (position (current.headD record)).commitSize (current.map position) ∧
      current.length < (position (current.headD record)).commitSize := by
  obtain ⟨seq, size, numbered, short⟩ := filling
  cases current with
  | nil => exact ⟨numbered_nil, sized⟩
  | cons opening current =>
      have seqs := numbered.seq (position opening) (by simp)
      have sizes := numbered.size (position opening) (by simp)
      rw [List.headD_cons, seqs, sizes]
      exact ⟨numbered, short⟩

/-- Everything one record can do to an open group. -/
theorem groupPlaced_cons (filling : Filling position current)
    (sized : 1 ≤ (position record).commitSize) :
    groupPlaced position current (record :: records) = ([], some (.replay .framing)) ∨
      (Frame ((current ++ [record]).map position) ∧
        groupPlaced position current (record :: records) =
          ((current ++ [record]) :: (groupPlaced position [] records).1,
            (groupPlaced position [] records).2)) ∨
      (Filling position (current ++ [record]) ∧
        groupPlaced position current (record :: records) =
          groupPlaced position (current ++ [record]) records) := by
  obtain ⟨opened, short⟩ := filling.first sized
  by_cases misplaced : (position record).commitSeq ≠ (position (current.headD record)).commitSeq ∨
      (position record).commitSize ≠ (position (current.headD record)).commitSize ∨
      (position record).commitIndex ≠ current.length
  · left
    rw [groupPlaced]
    exact if_pos misplaced
  · push Not at misplaced
    obtain ⟨seqs, sizes, index⟩ := misplaced
    have numbered : Numbered (position (current.headD record)).commitSeq
        (position (current.headD record)).commitSize ((current ++ [record]).map position) := by
      rw [List.map_append, List.map_singleton, numbered_concat, List.length_map]
      exact ⟨opened, seqs, sizes, index⟩
    right
    by_cases whole : current.length + 1 = (position (current.headD record)).commitSize
    · left
      refine ⟨⟨by simp, (position (current.headD record)).commitSeq, ?_⟩,
        by rw [groupPlaced_placed numbered, if_pos whole]⟩
      rw [List.length_map, List.length_append, List.length_singleton, whole]
      exact numbered
    · right
      refine ⟨⟨_, _, numbered, ?_⟩, by rw [groupPlaced_placed numbered, if_neg whole]⟩
      rw [List.length_append, List.length_singleton]
      omega

/-! ## What is grouped is framed -/

variable (position)

/-- A sequence cut into whole commits. -/
structure Framed (groups : List (List Rec)) (records : List Rec) : Prop where
  joined : groups.flatten = records
  frames : ∀ group ∈ groups, Frame (group.map position)

/-- The groups handed out, the records after them, and the error met there. -/
structure Grouped (records : List Rec) (outcome : List (List Rec) × Option Failure)
    (rest : List Rec) : Prop where
  joined : outcome.1.flatten ++ rest = records
  frames : ∀ group ∈ outcome.1, Frame (group.map position)
  ended : (outcome.2 = none ∧ rest = []) ∨
    (outcome.2 = some (.replay .tailIncomplete) ∧ Begun (rest.map position)) ∨
    outcome.2 = some (.replay .framing)

variable {position}

theorem grouped_groupPlaced (filling : Filling position current)
    (sized : ∀ record ∈ records, 1 ≤ (position record).commitSize) :
    ∃ rest, Grouped position (current ++ records) (groupPlaced position current records) rest := by
  -- The induction is on the records still to come, for every open group.
  induction records generalizing current with
  | nil =>
      refine ⟨current, by simp [groupPlaced], by simp [groupPlaced], ?_⟩
      by_cases empty : current = []
      · left
        simp [groupPlaced, empty]
      · right
        left
        obtain ⟨seq, size, numbered, short⟩ := filling
        refine ⟨by simp [groupPlaced, empty], begun_iff.mpr ⟨by simpa using empty, ?_⟩⟩
        exact ⟨seq, size, numbered, by simpa using short⟩
  | cons record records induction =>
      have later : ∀ other ∈ records, 1 ≤ (position other).commitSize := by
        intro other member
        exact sized other (List.mem_cons_of_mem _ member)
      rcases groupPlaced_cons filling (sized record List.mem_cons_self) with
        failed | ⟨frame, grouped⟩ | ⟨filled, grouped⟩
      · rw [failed]
        exact ⟨current ++ record :: records, by simp, by simp, .inr (.inr rfl)⟩
      · obtain ⟨rest, joined, frames, ended⟩ := induction filling_nil later
        rw [grouped]
        refine ⟨rest, ?_, ?_, ended⟩
        · rw [List.flatten_cons, List.append_assoc, joined]
          simp
        · intro group member
          rcases List.mem_cons.mp member with rfl | other
          · exact frame
          · exact frames group other
      · obtain ⟨rest, joined, frames, ended⟩ := induction filled later
        rw [grouped]
        exact ⟨rest, by rw [joined]; simp, frames, ended⟩

/-! ## What is framed is grouped -/

/-- Records numbered from the first place on make up one group once there are
enough of them, and an incomplete tail before. -/
theorem groupPlaced_numbered {seq size : Nat}
    (numbered : Numbered seq size ((current ++ records).map position))
    (nonempty : current ++ records ≠ []) (fits : (current ++ records).length ≤ size)
    (short : current.length < size) :
    groupPlaced position current records =
      if (current ++ records).length = size then ([current ++ records], none)
      else ([], some (.replay .tailIncomplete)) := by
  induction records generalizing current with
  | nil =>
      rw [List.append_nil] at nonempty ⊢
      rw [if_neg (Nat.ne_of_lt short)]
      simp [groupPlaced, nonempty]
  | cons record records induction =>
      have split : current ++ record :: records = (current ++ [record]) ++ records := by simp
      rw [split] at numbered nonempty fits ⊢
      have placed : Numbered seq size ((current ++ [record]).map position) := by
        rw [List.map_append] at numbered
        exact numbered.left
      rw [groupPlaced_placed placed]
      have counted : (current ++ [record]).length = current.length + 1 := by simp
      by_cases whole : current.length + 1 = size
      · -- The commit is complete, so nothing of it can be left.
        have finished : records = [] := by
          rw [List.length_append, counted] at fits
          exact List.length_eq_zero_iff.mp (by omega)
        subst finished
        simp [groupPlaced, whole]
      · rw [if_neg whole]
        exact induction numbered nonempty fits (by omega)

theorem groupPlaced_alone {seq size : Nat}
    (numbered : Numbered seq size (records.map position)) (nonempty : records ≠ [])
    (fits : records.length ≤ size) :
    groupPlaced position [] records =
      if records.length = size then ([records], none)
      else ([], some (.replay .tailIncomplete)) := by
  have counted := List.length_pos_iff.mpr nonempty
  exact groupPlaced_numbered numbered nonempty fits (Nat.lt_of_lt_of_le counted fits)

theorem groupPlaced_append {front rest : List Rec} {groups : List (List Rec)}
    (grouped : groupPlaced position current front = (groups, none)) :
    groupPlaced position current (front ++ rest) =
      (groups ++ (groupPlaced position [] rest).1, (groupPlaced position [] rest).2) := by
  induction front generalizing current groups with
  | nil =>
      simp only [groupPlaced, Prod.mk.injEq, ite_eq_left_iff, reduceCtorEq, imp_false,
        not_not, List.isEmpty_iff] at grouped
      obtain ⟨rfl, rfl⟩ := grouped
      rfl
  | cons record front induction =>
      rw [groupPlaced] at grouped
      rw [List.cons_append, groupPlaced]
      dsimp only at grouped ⊢
      split_ifs at grouped ⊢ with misplaced whole
      · cases grouped
      · cases result : groupPlaced position [] front with
        | mk others failure =>
            simp only [result, Prod.mk.injEq] at grouped
            obtain ⟨rfl, rfl⟩ := grouped
            rw [induction result]
            rfl
      · exact induction grouped

theorem groupPlaced_framed {groups : List (List Rec)}
    (framed : Framed position groups records) :
    groupPlaced position [] records = (groups, none) := by
  obtain ⟨rfl, frames⟩ := framed
  induction groups with
  | nil => rfl
  | cons group groups induction =>
      obtain ⟨nonempty, seq, numbered⟩ := frames group List.mem_cons_self
      rw [List.length_map] at numbered
      have present : group ≠ [] := by
        intro empty
        simp [empty] at nonempty
      have alone : groupPlaced position [] group = ([group], none) := by
        rw [groupPlaced_alone numbered present (Nat.le_refl _), if_pos rfl]
      have others := induction fun other member => frames other (List.mem_cons_of_mem _ member)
      rw [List.flatten_cons, groupPlaced_append alone, others]
      rfl

theorem groupPlaced_begun (begun : Begun (records.map position)) :
    groupPlaced position [] records = ([], some (.replay .tailIncomplete)) := by
  obtain ⟨nonempty, seq, size, numbered, short⟩ := begun_iff.mp begun
  rw [List.length_map] at short
  have present : records ≠ [] := by
    intro empty
    simp [empty] at nonempty
  rw [groupPlaced_alone numbered present (Nat.le_of_lt short), if_neg (Nat.ne_of_lt short)]

/-! ## The framing of a sequence -/

variable (position)

/-- What an outcome of the grouping says about a sequence. -/
structure CommitFraming (records : List Rec) (outcome : List (List Rec) × Option Failure) :
    Prop where
  /-- Without an error the groups are the sequence cut into whole commits. -/
  whole : outcome.2 = none → Framed position outcome.1 records
  /-- With one they are the whole commits of the longest prefix that has any. -/
  failed : outcome.2 ≠ none →
    (∀ groups, ¬ Framed position groups records) ∧
      ∃ front, front <+: records ∧ Framed position outcome.1 front ∧
        ∀ other groups, other <+: records → Framed position groups other →
          other.length ≤ front.length
  failure : outcome.2 = none ∨ outcome.2 = some (.replay .framing) ∨
    outcome.2 = some (.replay .tailIncomplete)
  tail : outcome.2 = some (.replay .tailIncomplete) ↔
    ∃ front tail groups, front ++ tail = records ∧ Framed position groups front ∧
      Begun (tail.map position)
  unique : ∀ left right, Framed position left records → Framed position right records →
    left = right

variable {position}

theorem commitFraming_groupPlaced
    (sized : ∀ record ∈ records, 1 ≤ (position record).commitSize) :
    CommitFraming position records (groupPlaced position [] records) := by
  obtain ⟨rest, joined, frames, ended⟩ := grouped_groupPlaced filling_nil sized
  rw [List.nil_append] at joined
  refine ⟨?_, ?_, ?_, ?_, ?_⟩
  · intro succeeded
    rcases ended with ⟨_, rfl⟩ | ⟨failed, _⟩ | failed
    · exact ⟨by simpa using joined, frames⟩
    · rw [succeeded] at failed
      cases failed
    · rw [succeeded] at failed
      cases failed
  · intro failed
    refine ⟨?_, _, ⟨rest, joined⟩, ⟨rfl, frames⟩, ?_⟩
    · intro groups framed
      rw [groupPlaced_framed framed] at failed
      exact failed rfl
    · -- The groups of a framed prefix are the first ones handed out.
      intro other groups ⟨more, extended⟩ framed
      rw [← extended, groupPlaced_append (groupPlaced_framed framed), List.flatten_append,
        framed.joined, List.length_append]
      exact Nat.le_add_right _ _
  · rcases ended with ⟨none, _⟩ | ⟨tail, _⟩ | framing
    · exact .inl none
    · exact .inr (.inr tail)
    · exact .inr (.inl framing)
  · constructor
    · intro failed
      rcases ended with ⟨succeeded, _⟩ | ⟨_, begun⟩ | framing
      · rw [failed] at succeeded
        cases succeeded
      · exact ⟨_, rest, _, joined, ⟨rfl, frames⟩, begun⟩
      · rw [failed] at framing
        cases framing
    · intro ⟨front, tail, groups, whole, framed, begun⟩
      rw [← whole, groupPlaced_append (groupPlaced_framed framed), groupPlaced_begun begun]
  · intro left right leftFramed rightFramed
    have same := (groupPlaced_framed leftFramed).symm.trans (groupPlaced_framed rightFramed)
    exact congrArg Prod.fst same

end Grouping

end ManyAlerts
