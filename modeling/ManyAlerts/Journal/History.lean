import ManyAlerts.Journal.Guarantees
import ManyAlerts.Library.HashChain

/-!
# The head of the journal

The records of a journal form a hash chain, across commits and restarts, and the head of
the projection is the last of them.  A head digest, kept anywhere, therefore pins down the
journal up to it.
-/

namespace ManyAlerts

variable {records front back : List Record} {p q : Projection} {delta : Delta}

def journalChain : HashChain Record where
  tag := ascii recordTag
  body := Record.body
  place record := record.position.eventSeq
  previous record := record.position.prevRecordDigest
  zero := zeroDigest
  readsBack one other same := by
    have envelopes := sortKeys_eq_of_canonicalJson (same ▸ one.encoded) other.encoded
    unfold envelope at envelopes
    have fields := Json.sortKeys_obj_injective envelopes rfl
    simp only [List.map_cons, List.map_nil, Json.sortKeys_str, Json.nat_sortKeys,
      List.cons.injEq, Json.str.injEq, Json.nat_inj, and_true] at fields
    obtain ⟨-, -, -, eventSeq, -, -, -, -, -, -, -, -, -, -, prevDigest⟩ := fields
    exact ⟨eventSeq, prevDigest⟩

/-- The head of a projection is the last record. -/
structure Headed (records : List Record) (p : Projection) : Prop where
  linked : journalChain.Linked records
  eventSeq : (p.head.map Head.eventSeq).getD 0 = records.length
  digest : p.head.map Head.recordDigest = records.getLast?.map Record.recordDigest

theorem Headed.step (headed : Headed records p) {commit : List Record}
    (step : CommitStep p commit delta) : Headed (records ++ commit) (applyDelta p delta) := by
  have first (record : Record) (eventSeq : record.position.eventSeq = (nextPosition p).eventSeq)
      (previous : record.position.prevRecordDigest = (nextPosition p).prevRecordDigest) :
      journalChain.Linked (records ++ [record]) := by
    apply headed.linked.snoc
    · exact eventSeq.trans (congrArg (· + 1) headed.eventSeq)
    · exact previous.trans (congrArg (·.getD zeroDigest) headed.digest)
  have single (record : Record) (position : record.position = nextPosition p)
      (head : delta.head.eventSeq = record.position.eventSeq ∧
        delta.head.recordDigest = record.recordDigest) :
      Headed (records ++ [record]) (applyDelta p delta) := by
    constructor
    · exact first record (by rw [position]) (by rw [position])
    · simp [applyDelta, head.1, position, nextPosition, headed.eventSeq]
    · simp [applyDelta, head.2]
  cases step with
  | genesis payload position headless anonymous => exact single _ position ⟨rfl, rfl⟩
  | restart payload position fresh previous headEq recovered boundsEq fits =>
      exact single _ position ⟨rfl, rfl⟩
  | current position boot clock claim =>
      exact single _ position ⟨by rw [claim.basic.head], by rw [claim.basic.head]⟩
  | @admission admission dedupe _ _ _ _ _ position dedupePosition stamp boot clock pair =>
      rw [List.append_cons]
      constructor
      · apply (first admission (by rw [position]) (by rw [position])).snoc
        · simp [journalChain, dedupePosition, nextPosition, headed.eventSeq]
        · rw [HashChain.head_snoc]
          exact congrArg Position.prevRecordDigest dedupePosition
      · simp [applyDelta, admissionDelta, claimDelta, Record.headAfter, dedupePosition,
          nextPosition, headed.eventSeq]
      · simp [applyDelta, admissionDelta, claimDelta, Record.headAfter]

theorem headed_of_replay (replayed : replay records = .ok p) : Headed records p := by
  obtain ⟨groups, grouped, commits⟩ := replay_eq_ok.mp replayed
  obtain rfl : groups.flatten = records := flatten_of_groupCommits grouped
  refine commits.history (fun done p => Headed done.flatten p) ?_ ⟨.nil, rfl, rfl⟩
  intro done p commit delta headed accepted
  simpa using headed.step (verifyCommit_iff.mp accepted)

/-- The head digest commits to every record: another journal that has it anywhere begins
with the same records. -/
theorem journal_head_commits (headReplayed : replay records = .ok p)
    (replayed : replay (front ++ back) = .ok q)
    (apart : HashesApart ((records ++ front).map journalChain.text))
    (same : p.head.map Head.recordDigest = front.getLast?.map Record.recordDigest) :
    records.map Record.body = front.map Record.body := by
  have headed := headed_of_replay headReplayed
  rw [headed.digest] at same
  apply headed.linked.bodies_eq (headed_of_replay replayed).linked.of_append apart
  · simpa using congrArg (· = none) same
  · exact congrArg (·.getD zeroDigest) same

theorem Plays.flatten_digests {journal : List SampleCommit} {groups : List (List Record)}
    (plays : Plays p journal groups) :
    groups.flatten.map Record.recordDigest = journal.flatMap SampleCommit.digests := by
  rw [List.map_flatten, plays.digests, List.flatMap_def]

/-- The head of the first ten records of the sample journal pins them down in the journal of
all sixteen. -/
theorem journal_head_commits_sample : ∃ records front back : List Record,
    records.length = 10 ∧ back.length = 6 ∧ replay records = .ok (sampleAfter 9) ∧
      replay (front ++ back) = .ok (sampleAfter 13) ∧
      HashesApart ((records ++ front).map journalChain.text) ∧
      records.map Record.body = front.map Record.body := by
  obtain ⟨groups, plays⟩ := sample_plays
  have digests := plays.flatten_digests
  have distinct : (groups.flatten.map Record.recordDigest).Nodup := by
    rw [digests]
    decide +kernel
  have hashes : HashesApart (groups.flatten.map journalChain.text) := by
    apply hashesApart_of_hex
    rw [List.map_map]
    exact distinct
  have split : (groups.take 9).flatten ++ (groups.drop 9).flatten = groups.flatten := by
    rw [← List.flatten_append, List.take_append_drop]
  have apart : HashesApart (((groups.take 9).flatten ++ (groups.take 9).flatten).map
      journalChain.text) := by
    refine hashes.mono fun text member => ?_
    simp only [List.map_append, List.mem_append, or_self] at member
    rw [← split, List.map_append]
    exact List.mem_append_left _ member
  have replayed := plays.replayed 9
  have all : groups.take 13 = groups := List.take_of_length_le plays.length_eq.le
  have whole := plays.replayed 13
  have total := plays.length_take 13
  rw [all, ← split] at whole total
  have counted : (groups.take 9).flatten.length = 10 := plays.length_take 9
  have remaining : (groups.drop 9).flatten.length = 6 := by
    rw [List.length_append, counted] at total
    exact Nat.add_left_cancel total
  have same := (headed_of_replay replayed).digest
  exact ⟨_, _, _, counted, remaining, replayed, whole, apart,
    journal_head_commits replayed whole apart same⟩

end ManyAlerts
