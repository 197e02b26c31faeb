import Mathlib.Data.List.Infix

/-!
# Lines in byte strings

Searching a byte string for a pattern, cutting it at line ends, and what both do to
lines that were joined: the lines hold no carriage return, so the first line end is
where the first line stops, and a blank line is found only after the last.
-/

namespace ManyAlerts

def carriageReturn : UInt8 := 0x0d
def lineFeed : UInt8 := 0x0a

/-- What ends a line. -/
def lineEnd : List UInt8 := [0x0d, 0x0a]

/-- What ends a head: the end of its last line and a blank line. -/
def blankLine : List UInt8 := [0x0d, 0x0a, 0x0d, 0x0a]

/-- `find`: where a pattern occurs first. -/
def findBytes (pattern : List UInt8) : List UInt8 → Option Nat
  | [] => if pattern.isEmpty then some 0 else none
  | byte :: rest =>
      if pattern.isPrefixOf (byte :: rest) then some 0
      else (findBytes pattern rest).map (· + 1)

/-- `split` at line ends. -/
def splitAtLineEnds : List UInt8 → List (List UInt8)
  | [] => [[]]
  | 0x0d :: 0x0a :: rest => [] :: splitAtLineEnds rest
  | byte :: rest => (splitAtLineEnds rest).modifyHead (byte :: ·)

/-- `replace` of line ends by nothing. -/
def dropLineEnds : List UInt8 → List UInt8
  | [] => []
  | 0x0d :: 0x0a :: rest => dropLineEnds rest
  | byte :: rest => byte :: dropLineEnds rest

/-- Lines with line ends between them. -/
def joinLines : List (List UInt8) → List UInt8
  | [] => []
  | [line] => line
  | line :: lines => line ++ (lineEnd ++ joinLines lines)

/-! ## Searching -/

theorem findBytes_append {first : UInt8} {pattern front : List UInt8} (absent : first ∉ front)
    (rest : List UInt8) :
    findBytes (first :: pattern) (front ++ rest) =
      (findBytes (first :: pattern) rest).map (front.length + ·) := by
  induction front with
  | nil => simp
  | cons byte front induction =>
      rw [List.mem_cons, not_or] at absent
      have apart : ¬(first :: pattern).isPrefixOf (byte :: (front ++ rest)) = true := by
        simp [List.isPrefixOf, absent.1]
      rw [List.cons_append, findBytes, if_neg apart, induction absent.2, Option.map_map]
      congr 1
      funext index
      simp only [Function.comp_apply, List.length_cons]
      omega

theorem findBytes_here {pattern rest : List UInt8} (present : pattern ≠ []) :
    findBytes pattern (pattern ++ rest) = some 0 := by
  cases pattern with
  | nil => exact absurd rfl present
  | cons byte pattern =>
      rw [List.cons_append, findBytes]
      exact if_pos (by simp)

theorem findBytes_lineEnd {line rest : List UInt8} (whole : carriageReturn ∉ line) :
    findBytes lineEnd (line ++ (lineEnd ++ rest)) = some line.length := by
  have found : findBytes lineEnd (line ++ (lineEnd ++ rest)) =
      (findBytes lineEnd (lineEnd ++ rest)).map (line.length + ·) := findBytes_append whole _
  rw [found, findBytes_here (by decide)]
  rfl

/-- A line end that is followed by a line is no blank line. -/
theorem findBytes_blankLine_skip {byte : UInt8} (other : byte ≠ carriageReturn)
    (rest : List UInt8) :
    findBytes blankLine (lineEnd ++ byte :: rest) =
      (findBytes blankLine (byte :: rest)).map (2 + ·) := by
  have first : ¬blankLine.isPrefixOf (0x0d :: 0x0a :: byte :: rest) = true := by
    simp only [blankLine, List.isPrefixOf, beq_self_eq_true, Bool.true_and, Bool.and_eq_true,
      not_and]
    intro same
    exact absurd (eq_of_beq same).symm other
  have second : ¬blankLine.isPrefixOf (0x0a :: byte :: rest) = true := by
    simp [blankLine, List.isPrefixOf]
  change findBytes blankLine (0x0d :: 0x0a :: byte :: rest) = _
  rw [findBytes, if_neg first, findBytes, if_neg second, Option.map_map]
  congr 1
  funext index
  simp only [Function.comp_apply]
  omega

/-! ## Joined lines -/

/-- A line of a head. -/
def IsLine (line : List UInt8) : Prop :=
  line ≠ [] ∧ carriageReturn ∉ line ∧ lineFeed ∉ line

theorem joinLines_cons {line : List UInt8} {lines : List (List UInt8)} (more : lines ≠ []) :
    joinLines (line :: lines) = line ++ (lineEnd ++ joinLines lines) := by
  cases lines with
  | nil => exact absurd rfl more
  | cons _ _ => rfl

theorem head_joinLines {lines : List (List UInt8)} (some : lines ≠ [])
    (each : ∀ line ∈ lines, IsLine line) :
    ∃ byte rest, joinLines lines = byte :: rest ∧ byte ≠ carriageReturn := by
  cases lines with
  | nil => exact absurd rfl some
  | cons line lines =>
      obtain ⟨present, noReturn, _⟩ := each line List.mem_cons_self
      cases line with
      | nil => exact absurd rfl present
      | cons byte line =>
          have differs : byte ≠ carriageReturn := by
            intro same
            exact noReturn (same ▸ List.mem_cons_self)
          cases lines with
          | nil => exact ⟨byte, line, rfl, differs⟩
          | cons next lines => exact ⟨byte, _, rfl, differs⟩

theorem findBytes_blankLine {lines : List (List UInt8)} (some : lines ≠ [])
    (each : ∀ line ∈ lines, IsLine line) (rest : List UInt8) :
    findBytes blankLine (joinLines lines ++ (blankLine ++ rest)) =
      .some (joinLines lines).length := by
  induction lines with
  | nil => exact absurd rfl some
  | cons line lines induction =>
      obtain ⟨_, noReturn, _⟩ := each line List.mem_cons_self
      have skip (after : List UInt8) : findBytes blankLine (line ++ after) =
          (findBytes blankLine after).map (line.length + ·) := findBytes_append noReturn after
      by_cases more : lines = []
      · subst more
        rw [joinLines, skip, findBytes_here (by decide)]
        rfl
      · have others := fun other inside => each other (List.mem_cons_of_mem _ inside)
        have later := induction more others
        obtain ⟨byte, tail, shape, differs⟩ := head_joinLines more others
        rw [joinLines_cons more, List.append_assoc, List.append_assoc, skip]
        rw [shape, List.cons_append] at later ⊢
        rw [findBytes_blankLine_skip differs, later]
        simp [lineEnd]
        omega

theorem splitAtLineEnds_append {line rest : List UInt8} (whole : carriageReturn ∉ line) :
    splitAtLineEnds (line ++ rest) = (splitAtLineEnds rest).modifyHead (line ++ ·) := by
  induction line with
  | nil =>
      rw [List.nil_append]
      cases splitAtLineEnds rest <;> rfl
  | cons byte line induction =>
      rw [List.mem_cons, not_or] at whole
      rw [List.cons_append, splitAtLineEnds, induction whole.2, List.modifyHead_modifyHead]
      · rfl
      · intro _ same
        exact absurd same.symm whole.1

theorem splitAtLineEnds_joinLines {lines : List (List UInt8)} (some : lines ≠ [])
    (each : ∀ line ∈ lines, IsLine line) : splitAtLineEnds (joinLines lines) = lines := by
  induction lines with
  | nil => exact absurd rfl some
  | cons line lines induction =>
      obtain ⟨_, noReturn, _⟩ := each line List.mem_cons_self
      by_cases more : lines = []
      · subst more
        rw [joinLines, ← List.append_nil line, splitAtLineEnds_append noReturn]
        rfl
      · have later := induction more fun other inside => each other (List.mem_cons_of_mem _ inside)
        rw [joinLines_cons more, splitAtLineEnds_append noReturn]
        change ([] :: splitAtLineEnds (joinLines lines)).modifyHead (line ++ ·) = _
        rw [later, List.modifyHead_cons, List.append_nil]

theorem dropLineEnds_append {line rest : List UInt8} (whole : carriageReturn ∉ line) :
    dropLineEnds (line ++ rest) = line ++ dropLineEnds rest := by
  induction line with
  | nil => rfl
  | cons byte line induction =>
      rw [List.mem_cons, not_or] at whole
      rw [List.cons_append, dropLineEnds, induction whole.2]
      · rfl
      · intro _ same
        exact absurd same.symm whole.1

/-- Nothing but the ends of lines holds a carriage return or a line feed. -/
theorem dropLineEnds_joinLines {lines : List (List UInt8)} (each : ∀ line ∈ lines, IsLine line)
    (rest : List UInt8) :
    dropLineEnds (joinLines lines ++ rest) = lines.flatten ++ dropLineEnds rest := by
  induction lines with
  | nil => rfl
  | cons line lines induction =>
      obtain ⟨_, noReturn, _⟩ := each line List.mem_cons_self
      by_cases more : lines = []
      · subst more
        rw [joinLines, dropLineEnds_append noReturn]
        simp
      · have later := induction fun other inside => each other (List.mem_cons_of_mem _ inside)
        rw [joinLines_cons more, List.append_assoc, dropLineEnds_append noReturn]
        change line ++ dropLineEnds (0x0d :: 0x0a :: (joinLines lines ++ rest)) = _
        rw [dropLineEnds, later, List.flatten_cons, List.append_assoc]

end ManyAlerts
