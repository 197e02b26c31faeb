import ManyAlerts.Library.Checked
import ManyAlerts.Library.Json
import ManyAlerts.Library.Splitting

/-!
# The path of a request

A request target is split into its path and its query.  The path may hold escapes,
but none that a later reader could take for the structure of the path: the bytes that
need no escape, the slash, the dot, the backslash and the percent sign are refused.
So an accepted path is a sequence of pieces, each a literal byte or an escape, and
decoding it works piece by piece and can be done once only.

Text that is ASCII by its checks is represented by its bytes.
-/

namespace ManyAlerts

/-- `HTTPBoundaryError`, which says nothing but its code. -/
inductive HttpBoundaryError where
  | invalidRequest
deriving DecidableEq

/-! ## Bytes -/

/-- A byte of a set that the source writes as a text. -/
def byteIn (members : String) (byte : UInt8) : Bool := (ascii members).contains byte

def isUnreserved (byte : UInt8) : Bool :=
  byteIn "-._~0123456789ABCDEFGHIJKLMNOPQRSTUVWXYZabcdefghijklmnopqrstuvwxyz" byte

def isPchar (byte : UInt8) : Bool := isUnreserved byte || byteIn "!$&'()*+,;=:@%" byte

def isHexByte (byte : UInt8) : Bool := byteIn "0123456789ABCDEFabcdef" byte

/-- Neither below the space nor above the tilde. -/
def isPrintableByte (byte : UInt8) : Bool := 0x20 ≤ byte && byte ≤ 0x7e

def hexByteValue (byte : UInt8) : Nat :=
  if byte ≤ 0x39 then byte.toNat - 48
  else if byte ≤ 0x46 then byte.toNat - 55
  else byte.toNat - 87

/-- `int(escaped, 16)`. -/
def escapedByte (high low : UInt8) : UInt8 :=
  UInt8.ofNat (16 * hexByteValue high + hexByteValue low)

/-! ## Decoding -/

/-- The loop of `_decode_percent`. -/
def decodeBytes : Bytes → Except HttpBoundaryError Bytes
  | [] => .ok []
  | 0x25 :: high :: low :: rest => do
      failIf (¬(isHexByte high = true ∧ isHexByte low = true)) .invalidRequest
      let decoded ← decodeBytes rest
      return escapedByte high low :: decoded
  | 0x25 :: _ => .error .invalidRequest
  | byte :: rest => do
      let decoded ← decodeBytes rest
      return byte :: decoded

/-- `_decode_percent`. -/
def decodePercent (value : Bytes) : Except HttpBoundaryError Bytes := do
  let decoded ← decodeBytes value
  failIf (decoded.all isPrintableByte = false) .invalidRequest
  return decoded

/-! ## The path -/

/-- A byte that may not come from an escape. -/
def isRefusedEscape (byte : UInt8) : Bool :=
  isUnreserved byte || [0x2f, 0x5c, 0x2e, 0x25].contains byte || !isPrintableByte byte

/-- The loop of `_parse_path` over the escapes. -/
def checkEscapes : Bytes → Except HttpBoundaryError Unit
  | [] => .ok ()
  | 0x25 :: high :: low :: rest => do
      failIf (¬(isHexByte high = true ∧ isHexByte low = true)) .invalidRequest
      failIf (isRefusedEscape (escapedByte high low) = true) .invalidRequest
      checkEscapes rest
  | 0x25 :: _ => .error .invalidRequest
  | _ :: rest => checkEscapes rest

/-- `partition`: what stands before the first separator, and what after it. -/
def partitionAt (separator : UInt8) (target : Bytes) : Bytes × Option Bytes :=
  match target.span (· ≠ separator) with
  | (before, []) => (before, none)
  | (before, _ :: after) => (before, some after)

/-- `_parse_path`. -/
def parsePath (target : Bytes) : Except HttpBoundaryError (Bytes × Option Bytes) := do
  let (path, query) := partitionAt 0x3f target
  failIf (path.head? ≠ some 0x2f ∨ [0x2f, 0x2f] <:+: path ∨
    target.all isPrintableByte = false ∨ 0x23 ∈ target ∨ 0x5c ∈ target) .invalidRequest
  failIf (query = some []) .invalidRequest
  failIf (∃ text ∈ query, 0x3f ∈ text) .invalidRequest
  failIf ((path.any fun byte => !isPchar byte && byte ≠ 0x2f) = true) .invalidRequest
  checkEscapes path
  failIf (((path.splitOn 0x2f).any fun segment =>
    segment = [0x2e] || segment = [0x2e, 0x2e]) = true) .invalidRequest
  return (path, query)

/-! ## Pieces -/

/-- A byte of a path as it stands, or an escape for one. -/
inductive PathPiece where
  | literal (byte : UInt8)
  | escape (high low : UInt8)
deriving DecidableEq

namespace PathPiece

def text : PathPiece → Bytes
  | .literal byte => [byte]
  | .escape high low => [0x25, high, low]

/-- The byte that a piece stands for. -/
def byte : PathPiece → UInt8
  | .literal byte => byte
  | .escape high low => escapedByte high low

def isEscape : PathPiece → Bool
  | .literal _ => false
  | .escape _ _ => true

/-- What the path of a request is made of. -/
def Allowed : PathPiece → Prop
  | .literal byte => byte ≠ 0x25 ∧ byte ≠ 0x5c ∧ isPrintableByte byte = true
  | .escape high low => isHexByte high = true ∧ isHexByte low = true ∧
      isRefusedEscape (escapedByte high low) = false

end PathPiece

theorem pieces_of_checkEscapes {path : Bytes} (checked : checkEscapes path = .ok ())
    (literal : ∀ byte ∈ path, byte ≠ 0x5c ∧ isPrintableByte byte = true) :
    ∃ pieces : List PathPiece, path = pieces.flatMap PathPiece.text ∧
      ∀ piece ∈ pieces, piece.Allowed := by
  induction path using checkEscapes.induct with
  | case1 => exact ⟨[], rfl, by simp⟩
  | case2 high low rest induction =>
      simp only [checkEscapes, bind_eq_ok, failIf_eq_ok, exists_unit, not_not,
        Bool.not_eq_true] at checked
      obtain ⟨⟨isHigh, isLow⟩, fine, later⟩ := checked
      obtain ⟨pieces, rfl, allowed⟩ := induction later fun byte inside =>
        literal byte (List.mem_cons_of_mem _ (List.mem_cons_of_mem _
          (List.mem_cons_of_mem _ inside)))
      refine ⟨.escape high low :: pieces, rfl, ?_⟩
      exact List.forall_mem_cons.mpr ⟨⟨isHigh, isLow, fine⟩, allowed⟩
  | case3 rest short =>
      rw [checkEscapes] at checked
      · cases checked
      · exact short
  | case4 byte rest notEscape noPercent induction =>
      rw [checkEscapes] at checked
      · obtain ⟨pieces, rfl, allowed⟩ := induction checked fun other inside =>
          literal other (List.mem_cons_of_mem _ inside)
        refine ⟨.literal byte :: pieces, rfl, ?_⟩
        exact List.forall_mem_cons.mpr ⟨⟨noPercent, literal byte List.mem_cons_self⟩, allowed⟩
      · exact notEscape
      · exact noPercent

theorem decodeBytes_pieces {pieces : List PathPiece}
    (allowed : ∀ piece ∈ pieces, piece.Allowed) :
    decodeBytes (pieces.flatMap PathPiece.text) = .ok (pieces.map PathPiece.byte) := by
  induction pieces with
  | nil => rfl
  | cons piece pieces induction =>
      have first := allowed piece List.mem_cons_self
      have rest := induction fun other inside => allowed other (List.mem_cons_of_mem _ inside)
      cases piece with
      | literal byte =>
          change decodeBytes (byte :: pieces.flatMap PathPiece.text) = _
          rw [decodeBytes, rest]
          · rfl
          · intro _ _ _ percent
            exact absurd percent first.1
          · exact first.1
      | escape high low =>
          change decodeBytes (0x25 :: high :: low :: pieces.flatMap PathPiece.text) = _
          rw [decodeBytes, failIf_of_not (not_not.mpr ⟨first.1, first.2.1⟩), ok_bind, rest]
          rfl

namespace PathPiece

variable {piece : PathPiece}

/-- An escape stands for none of the bytes that structure a path. -/
theorem Allowed.escaped (allowed : piece.Allowed) (escape : piece.isEscape = true) :
    piece.byte ≠ 0x2e ∧ piece.byte ≠ 0x2f := by
  cases piece with
  | literal byte => cases escape
  | escape high low =>
      obtain ⟨_, _, fine⟩ := allowed
      constructor
      · intro dot
        change escapedByte high low = 0x2e at dot
        rw [dot] at fine
        revert fine
        decide
      · intro slash
        change escapedByte high low = 0x2f at slash
        rw [slash] at fine
        revert fine
        decide

theorem Allowed.byte_ok (allowed : piece.Allowed) :
    isPrintableByte piece.byte = true ∧ piece.byte ≠ 0x25 ∧ piece.byte ≠ 0x5c := by
  cases piece with
  | literal byte => exact ⟨allowed.2.2, allowed.1, allowed.2.1⟩
  | escape high low =>
      have fine : isRefusedEscape (escapedByte high low) = false := allowed.2.2
      refine ⟨?_, ?_, ?_⟩
      · simp only [isRefusedEscape, Bool.or_eq_false_iff, Bool.not_eq_false'] at fine
        exact fine.2
      · intro percent
        change escapedByte high low = 0x25 at percent
        rw [percent] at fine
        revert fine
        decide
      · intro backslash
        change escapedByte high low = 0x5c at backslash
        rw [backslash] at fine
        revert fine
        decide

def isSlash (piece : PathPiece) : Bool := piece = .literal 0x2f

/-- A slash is a literal one, before and after decoding. -/
theorem Allowed.no_slash (allowed : piece.Allowed) (other : piece.isSlash = false) :
    0x2f ∉ piece.text ∧ 0x2f ≠ piece.byte := by
  cases piece with
  | literal byte =>
      have differs : byte ≠ 0x2f := by
        intro same
        simp [isSlash, same] at other
      exact ⟨fun member => differs (List.mem_singleton.mp member).symm, differs.symm⟩
  | escape high low =>
      refine ⟨?_, (allowed.escaped rfl).2.symm⟩
      intro member
      have digit : isHexByte 0x2f = false := by decide
      simp only [text, List.mem_cons, List.not_mem_nil, or_false] at member
      rcases member with percent | isHigh | isLow
      · revert percent
        decide
      · have hex := allowed.1
        rw [← isHigh, digit] at hex
        cases hex
      · have hex := allowed.2.1
        rw [← isLow, digit] at hex
        cases hex

end PathPiece

theorem decodePercent_pieces {pieces : List PathPiece}
    (allowed : ∀ piece ∈ pieces, piece.Allowed) :
    decodePercent (pieces.flatMap PathPiece.text) = .ok (pieces.map PathPiece.byte) := by
  have printable : (pieces.map PathPiece.byte).all isPrintableByte = true := by
    rw [List.all_map, List.all_eq_true]
    intro piece inside
    exact (allowed piece inside).byte_ok.1
  rw [decodePercent, decodeBytes_pieces allowed, ok_bind, failIf_of_not (by simp [printable]),
    ok_bind]
  rfl

/-- Bytes that are none of an escape are literal pieces. -/
theorem decodePercent_plain {bytes : Bytes}
    (each : ∀ byte ∈ bytes, isPrintableByte byte = true ∧ byte ≠ 0x25 ∧ byte ≠ 0x5c) :
    decodePercent bytes = .ok bytes := by
  have allowed : ∀ piece ∈ bytes.map PathPiece.literal, piece.Allowed := by
    intro piece inside
    obtain ⟨byte, member, rfl⟩ := List.mem_map.mp inside
    obtain ⟨printable, percent, backslash⟩ := each byte member
    exact ⟨percent, backslash, printable⟩
  have texts : (bytes.map PathPiece.literal).flatMap PathPiece.text = bytes := by
    rw [List.flatMap_map]
    exact List.flatMap_singleton' bytes
  have values : (bytes.map PathPiece.literal).map PathPiece.byte = bytes := by
    rw [List.map_map]
    exact List.map_id bytes
  have decoded := decodePercent_pieces allowed
  rwa [texts, values] at decoded

theorem splitOn_text {pieces : List PathPiece} (allowed : ∀ piece ∈ pieces, piece.Allowed) :
    (pieces.flatMap PathPiece.text).splitOn 0x2f =
      (pieces.splitOnP PathPiece.isSlash).map fun part => part.flatMap PathPiece.text := by
  apply splitOn_flatMap
  · intro piece _ slash
    rw [of_decide_eq_true slash]
    rfl
  · intro piece inside other
    exact ((allowed piece inside).no_slash other).1

theorem splitOn_byte {pieces : List PathPiece} (allowed : ∀ piece ∈ pieces, piece.Allowed) :
    (pieces.map PathPiece.byte).splitOn 0x2f =
      (pieces.splitOnP PathPiece.isSlash).map fun part => part.map PathPiece.byte := by
  have single : ∀ part : List PathPiece,
      part.map PathPiece.byte = part.flatMap fun piece => [piece.byte] := fun part =>
    List.map_eq_flatMap
  simp only [single]
  apply splitOn_flatMap
  · intro piece _ slash
    rw [of_decide_eq_true slash]
    rfl
  · intro piece inside other member
    exact ((allowed piece inside).no_slash other).2 (List.mem_singleton.mp member)

/-- Pieces that stand for dots are dots. -/
theorem text_of_dots {pieces : List PathPiece} (allowed : ∀ piece ∈ pieces, piece.Allowed)
    (dots : ∀ piece ∈ pieces, piece.byte = 0x2e) :
    pieces.flatMap PathPiece.text = pieces.map PathPiece.byte := by
  rw [List.map_eq_flatMap]
  apply List.flatMap_congr
  intro piece inside
  cases piece with
  | literal byte => rfl
  | escape high low => exact absurd (dots _ inside) ((allowed _ inside).escaped rfl).1

/-! ## Accepted paths -/

/-- What the decoding of a path is. -/
structure StablePath (path decoded : Bytes) : Prop where
  decodes : decodePercent path = .ok decoded
  printable : ∀ byte ∈ decoded, 0x20 ≤ byte ∧ byte ≤ 0x7e
  noPercent : 0x25 ∉ decoded
  noBackslash : 0x5c ∉ decoded
  again : decodePercent decoded = .ok decoded
  /-- Segment by segment, and so as many. -/
  segments : List.Forall₂ (fun segment part => decodePercent segment = .ok part)
    (path.splitOn 0x2f) (decoded.splitOn 0x2f)
  inner : ∀ part ∈ (decoded.splitOn 0x2f).tail.dropLast, part ≠ []
  dots : ∀ part ∈ decoded.splitOn 0x2f, part ≠ [0x2e] ∧ part ≠ [0x2e, 0x2e]
  /-- Byte by byte: an escape stands for neither a dot nor a slash. -/
  origin : ∃ pieces : List PathPiece, path = pieces.flatMap PathPiece.text ∧
    decoded = pieces.map PathPiece.byte ∧
    (∀ byte, .literal byte ∈ pieces → byte ≠ 0x25) ∧
    ∀ piece ∈ pieces, piece.isEscape = true → piece.byte ≠ 0x2e ∧ piece.byte ≠ 0x2f

theorem mem_of_mem_partitionAt {separator byte : UInt8} {target : Bytes}
    (inside : byte ∈ (partitionAt separator target).1) : byte ∈ target := by
  have taken : (partitionAt separator target).1 = target.takeWhile (· ≠ separator) := by
    rw [partitionAt, List.span_eq_takeWhile_dropWhile]
    split <;> simp_all
  rw [taken] at inside
  exact (List.takeWhile_sublist _).subset inside

theorem pieces_of_parsePath {target path : Bytes} {query : Option Bytes}
    (accepted : parsePath target = .ok (path, query)) :
    (∃ pieces : List PathPiece, path = pieces.flatMap PathPiece.text ∧
      ∀ piece ∈ pieces, piece.Allowed) ∧ ¬[0x2f, 0x2f] <:+: path ∧
      ∀ segment ∈ path.splitOn 0x2f, segment ≠ [0x2e] ∧ segment ≠ [0x2e, 0x2e] := by
  simp only [parsePath, bind_eq_ok, failIf_eq_ok, exists_unit, pure_eq_ok, Prod.mk.injEq, not_or,
    Bool.not_eq_false, Bool.not_eq_true, List.any_eq_false, List.all_eq_true, Bool.or_eq_true,
    decide_eq_true_eq] at accepted
  obtain ⟨⟨_, apart, printable, _, backslash⟩, _, _, _, checked, dots, rfl, _⟩ := accepted
  refine ⟨pieces_of_checkEscapes checked ?_, apart, dots⟩
  intro byte inside
  have member := mem_of_mem_partitionAt inside
  refine ⟨?_, printable byte member⟩
  intro same
  rw [same] at member
  exact backslash member

/-- Percent-decoding an accepted path once is all there is to decode, and keeps its
segments. -/
theorem accepted_path_stable (target path : Bytes) (query : Option Bytes)
    (accepted : parsePath target = .ok (path, query)) :
    ∃ decoded, StablePath path decoded := by
  obtain ⟨⟨pieces, rfl, allowed⟩, apart, dots⟩ := pieces_of_parsePath accepted
  have byteOk : ∀ byte ∈ pieces.map PathPiece.byte,
      isPrintableByte byte = true ∧ byte ≠ 0x25 ∧ byte ≠ 0x5c := by
    intro byte inside
    obtain ⟨piece, member, rfl⟩ := List.mem_map.mp inside
    exact (allowed piece member).byte_ok
  have partAllowed : ∀ part ∈ pieces.splitOnP PathPiece.isSlash,
      ∀ piece ∈ part, piece.Allowed := by
    intro part inside piece here
    exact allowed piece (mem_of_mem_splitOnP inside here)
  refine ⟨pieces.map PathPiece.byte, decodePercent_pieces allowed, ?_, ?_, ?_, ?_, ?_, ?_, ?_, ?_⟩
  · intro byte inside
    have printable := (byteOk byte inside).1
    simpa [isPrintableByte] using printable
  · intro percent
    exact (byteOk _ percent).2.1 rfl
  · intro backslash
    exact (byteOk _ backslash).2.2 rfl
  · exact decodePercent_plain byteOk
  · rw [splitOn_text allowed, splitOn_byte allowed, List.forall₂_map_left_iff,
      List.forall₂_map_right_iff, List.forall₂_same]
    intro part inside
    exact decodePercent_pieces (partAllowed part inside)
  · intro part inside empty
    rw [splitOn_byte allowed, ← List.map_tail, ← List.map_dropLast] at inside
    obtain ⟨raw, member, rfl⟩ := List.mem_map.mp inside
    refine splitOn_inner_ne_nil apart (raw.flatMap PathPiece.text) ?_ ?_
    · rw [splitOn_text allowed, ← List.map_tail, ← List.map_dropLast]
      exact List.mem_map_of_mem member
    · rw [List.map_eq_nil_iff.mp empty]
      rfl
  · intro part inside
    rw [splitOn_byte allowed] at inside
    obtain ⟨raw, member, rfl⟩ := List.mem_map.mp inside
    have segment := dots (raw.flatMap PathPiece.text) (by
      rw [splitOn_text allowed]
      exact List.mem_map_of_mem member)
    have same (all : ∀ byte ∈ raw.map PathPiece.byte, byte = 0x2e) :
        raw.flatMap PathPiece.text = raw.map PathPiece.byte :=
      text_of_dots (partAllowed raw member) fun piece here => all _ (List.mem_map_of_mem here)
    constructor
    · intro dot
      apply segment.1
      rw [same (by simp [dot]), dot]
    · intro dotDot
      apply segment.2
      rw [same (by simp [dotDot]), dotDot]
  · refine ⟨pieces, rfl, rfl, ?_, ?_⟩
    · intro byte inside
      exact (allowed _ inside).1
    · intro piece inside
      exact (allowed piece inside).escaped

/-- A path with an escaped space. -/
def sampleTarget : Bytes := ascii "/rest/a%20b/?x"

theorem accepted_path_stable_sample :
    parsePath sampleTarget = .ok (ascii "/rest/a%20b/", some (ascii "x")) ∧
      decodePercent (ascii "/rest/a%20b/") = .ok (ascii "/rest/a b/") ∧
      ∃ decoded, StablePath (ascii "/rest/a%20b/") decoded := by
  have accepted : parsePath sampleTarget = .ok (ascii "/rest/a%20b/", some (ascii "x")) := by
    decide +kernel
  exact ⟨accepted, by decide +kernel, accepted_path_stable _ _ _ accepted⟩

end ManyAlerts
