import ManyAlerts.Journal.CommitFrames
import ManyAlerts.Journal.Verify

/-!
# Replay

Records are grouped into commits, each commit is verified on the projection so
far and its delta applied.  Grouping is lazy: a framing error is met only after
the commits before it have been accepted.
-/

namespace ManyAlerts

/-- `group_commits` with the records of the open group: the whole commits, and
the error that ends the grouping. -/
def groupCommits (current : List Record) :
    List Record → List (List Record) × Option Failure
  | [] => ([], if current.isEmpty then none else some (.replay .tailIncomplete))
  | record :: records =>
      let first := current.headD record
      if record.position.commitSeq ≠ first.position.commitSeq ∨
          record.position.commitSize ≠ first.position.commitSize ∨
          record.position.commitIndex ≠ current.length then
        ([], some (.replay .framing))
      else if current.length + 1 = first.position.commitSize then
        let (groups, failure) := groupCommits [] records
        ((current ++ [record]) :: groups, failure)
      else groupCommits (current ++ [record]) records

/-- One commit of a replay. -/
def replayCommit (p : Projection) (records : List Record) : Except Failure Projection := do
  let delta ← verifyCommit p records
  return applyDelta p delta

def replay (records : List Record) : Except Failure Projection := do
  let (groups, failure) := groupCommits [] records
  let p ← groups.foldlM replayCommit newProjection
  match failure with
  | none => return p
  | some failure => .error failure

/-- A projection some journal replays to. -/
def Reachable (p : Projection) : Prop := ∃ records, replay records = .ok p

/-- Whole commits that lead from one projection to another. -/
def Commits (p : Projection) (groups : List (List Record)) (q : Projection) : Prop :=
  groups.foldlM replayCommit p = .ok q

theorem replay_eq_ok {records : List Record} {p : Projection} :
    replay records = .ok p ↔
      ∃ groups, groupCommits [] records = (groups, none) ∧ Commits newProjection groups p := by
  unfold replay Commits
  obtain ⟨groups, failure⟩ := groupCommits [] records
  cases failure with
  | none => simp
  | some failure => simp

theorem commits_nil {p q : Projection} : Commits p [] q ↔ p = q := by
  simp [Commits]

theorem commits_append {p q : Projection} {before after : List (List Record)} :
    Commits p (before ++ after) q ↔ ∃ middle, Commits p before middle ∧ Commits middle after q := by
  simp [Commits]

theorem commits_cons {p q : Projection} {group : List Record} {groups : List (List Record)} :
    Commits p (group :: groups) q ↔
      ∃ delta, verifyCommit p group = .ok delta ∧ Commits (applyDelta p delta) groups q := by
  simp [Commits, replayCommit]

theorem commits_singleton {p q : Projection} {group : List Record} :
    Commits p [group] q ↔ ∃ delta, verifyCommit p group = .ok delta ∧ applyDelta p delta = q := by
  simp [commits_cons, commits_nil]

/-- What every accepted commit preserves holds after any number of them. -/
theorem Commits.preserves (Holds : Projection → Prop)
    (preserved : ∀ p records delta,
      Holds p → verifyCommit p records = .ok delta → Holds (applyDelta p delta))
    {p q : Projection} {groups : List (List Record)} (initial : Holds p)
    (commits : Commits p groups q) : Holds q := by
  refine foldlM_preserves (fun state item next holds stepped => ?_) initial commits
  simp only [replayCommit, bind_eq_ok, pure_eq_ok] at stepped
  obtain ⟨delta, accepted, rfl⟩ := stepped
  exact preserved state item delta holds accepted

/-- The same for a relation with the commits taken so far. -/
theorem Commits.history (History : List (List Record) → Projection → Prop)
    (preserved : ∀ done p records delta,
      History done p → verifyCommit p records = .ok delta →
        History (done ++ [records]) (applyDelta p delta))
    {p q : Projection} {groups : List (List Record)} (initial : History [] p)
    (commits : Commits p groups q) : History groups q := by
  refine foldlM_history (fun done state item next holds stepped => ?_) initial commits
  simp only [replayCommit, bind_eq_ok, pure_eq_ok] at stepped
  obtain ⟨delta, accepted, rfl⟩ := stepped
  exact preserved done state item delta holds accepted

/-- Grouping keeps every record. -/
theorem flatten_of_groupCommits {current records : List Record} {groups : List (List Record)}
    (grouped : groupCommits current records = (groups, none)) :
    groups.flatten = current ++ records := by
  induction records generalizing current groups with
  | nil =>
      simp only [groupCommits, Prod.mk.injEq, ite_eq_left_iff, reduceCtorEq, imp_false,
        not_not, List.isEmpty_iff] at grouped
      obtain ⟨rfl, rfl⟩ := grouped
      rfl
  | cons record records induction =>
      rw [groupCommits] at grouped
      dsimp only at grouped
      split_ifs at grouped with misplaced whole
      · cases grouped
      · cases result : groupCommits [] records with
        | mk rest failure =>
            simp only [result, Prod.mk.injEq] at grouped
            obtain ⟨rfl, rfl⟩ := grouped
            simp [induction result]
      · simp [induction grouped]

/-- Sealed records are grouped by their positions. -/
theorem groupCommits_eq (current records : List Record) :
    groupCommits current records = groupPlaced Record.position current records := by
  induction records generalizing current with
  | nil => rfl
  | cons record records induction =>
      rw [groupCommits, groupPlaced]
      simp only [induction]

/-- Whole commits at the front are grouped on their own. -/
theorem groupCommits_append {current front rest : List Record} {groups : List (List Record)}
    (grouped : groupCommits current front = (groups, none)) :
    groupCommits current (front ++ rest) =
      (groups ++ (groupCommits [] rest).1, (groupCommits [] rest).2) := by
  rw [groupCommits_eq] at grouped
  rw [groupCommits_eq, groupCommits_eq, groupPlaced_append grouped]

/-- Replaying more records goes on from where the first ones led. -/
theorem replay_append {front rest : List Record} {p q : Projection}
    (first : replay front = .ok p) (whole : replay (front ++ rest) = .ok q) :
    ∃ groups, groupCommits [] rest = (groups, none) ∧ Commits p groups q := by
  obtain ⟨groups, grouped, commits⟩ := replay_eq_ok.mp first
  obtain ⟨all, allGrouped, allCommits⟩ := replay_eq_ok.mp whole
  rw [groupCommits_append grouped, Prod.mk.injEq] at allGrouped
  obtain ⟨rfl, failure⟩ := allGrouped
  obtain ⟨middle, start, finish⟩ := commits_append.mp allCommits
  obtain rfl : middle = p := Except.ok.inj (start.symm.trans commits)
  exact ⟨(groupCommits [] rest).1, Prod.ext rfl failure, finish⟩

/-! ## Framing -/

theorem Record.commitSize_pos (record : Record) : 1 ≤ record.position.commitSize := by
  have sealed := sealBody_eq_ok.mp record.isSealed
  have valid := validateEnvelope_eq_ok.mp sealed.1
  obtain ⟨_, _, _, _, ⟨least, _⟩, _⟩ := valid
  exact least

/-- The grouping cuts a sequence into whole commits in the only way there is, or
hands out those of the longest prefix that can be cut and says whether what
follows is the beginning of a commit.  A sealed record always has a size. -/
theorem commit_framing {Rec : Type} (position : Rec → Position) (records : List Rec)
    (sized : ∀ record ∈ records, 1 ≤ (position record).commitSize) :
    CommitFraming position records (groupPlaced position [] records) ∧
      ∀ journal : List Record,
        CommitFraming Record.position journal (groupCommits [] journal) := by
  refine ⟨commitFraming_groupPlaced sized, ?_⟩
  intro journal
  rw [groupCommits_eq]
  exact commitFraming_groupPlaced fun record _ => record.commitSize_pos

/-- A commit of two records and the first of the next. -/
def tornPositions : List Position :=
  [⟨1, 1, 1, 0, 2, zeroDigest⟩, ⟨1, 2, 1, 1, 2, zeroDigest⟩, ⟨1, 3, 2, 0, 2, zeroDigest⟩]

theorem commit_framing_torn :
    groupPlaced id [] tornPositions =
        ([tornPositions.take 2], some (.replay .tailIncomplete)) ∧
      CommitFraming id tornPositions (groupPlaced id [] tornPositions) := by
  refine ⟨by decide, (commit_framing id tornPositions ?_).1⟩
  decide

end ManyAlerts
