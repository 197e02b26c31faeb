import ManyAlerts.Forwarder.ResponseParse
import ManyAlerts.Library.JsonText

/-!
# Writing and reading responses

What the forwarder writes it reads back, whatever the bytes of the body: the head is
made of lines, so the first blank line is its end, and the declared length is that of
the body.  Reading forgets everything but the status and the body, and what was read
can always be written.
-/

namespace ManyAlerts

/-! ## Digits -/

theorem isDigitByte_iff {byte : UInt8} :
    isDigitByte byte = true ↔ 48 ≤ byte.toNat ∧ byte.toNat ≤ 57 := by
  simp [isDigitByte, UInt8.le_iff_toNat_le]

theorem digitBytes_of_chars {digits : List Char}
    (decimal : ∀ digit ∈ digits, digit.isDigit = true) :
    (digits.map fun digit => UInt8.ofNat digit.toNat).all isDigitByte = true ∧
      (digits.map fun digit => UInt8.ofNat digit.toNat).map
        (fun byte => Char.ofNat byte.toNat) = digits := by
  have bounds : ∀ digit ∈ digits, 48 ≤ digit.toNat ∧ digit.toNat ≤ 57 := by
    intro digit inside
    simpa [Char.isDigit, UInt32.le_iff_toNat_le] using decimal digit inside
  have small : ∀ digit ∈ digits, (UInt8.ofNat digit.toNat).toNat = digit.toNat := by
    intro digit inside
    have bound := bounds digit inside
    rw [UInt8.toNat_ofNat']
    exact Nat.mod_eq_of_lt (by omega)
  constructor
  · rw [List.all_map, List.all_eq_true]
    intro digit inside
    rw [Function.comp_apply, isDigitByte_iff, small digit inside]
    exact bounds digit inside
  · rw [List.map_map]
    conv_rhs => rw [← List.map_id digits]
    apply List.map_congr_left
    intro digit inside
    rw [Function.comp_apply, small digit inside, Char.ofNat_toNat]
    rfl

theorem isDigit_toDigits (number : Nat) :
    ∀ digit ∈ Nat.toDigits 10 number, digit.isDigit = true := by
  intro digit inside
  exact Nat.isDigit_of_mem_toDigits (by decide) (by decide) inside

theorem all_encodeNat (number : Nat) : (encodeNat number).all isDigitByte = true :=
  (digitBytes_of_chars (isDigit_toDigits number)).1

theorem decimalValue_encodeNat (number : Nat) : decimalValue (encodeNat number) = number := by
  rw [decimalValue, encodeNat, (digitBytes_of_chars (isDigit_toDigits number)).2]
  exact Nat.ofDigitChars_ten_toDigits

theorem isCanonicalLength_encodeNat {number : Nat} (positive : 0 < number) :
    isCanonicalLength (encodeNat number) = true := by
  obtain ⟨digit, digits, shape, notZero⟩ := toDigits_head positive
  have decimal : digit.isDigit = true :=
    isDigit_toDigits number digit (shape ▸ List.mem_cons_self)
  have bounds : 48 ≤ digit.toNat ∧ digit.toNat ≤ 57 := by
    simpa [Char.isDigit, UInt32.le_iff_toNat_le] using decimal
  have leading : UInt8.ofNat digit.toNat ≠ 0x30 := by
    intro same
    have value := congrArg UInt8.toNat same
    rw [UInt8.toNat_ofNat', Nat.mod_eq_of_lt (by omega)] at value
    apply notZero
    rw [← Char.ofNat_toNat digit, value]
    rfl
  have all := all_encodeNat number
  have head : (encodeNat number).head? = some (UInt8.ofNat digit.toNat) := by
    rw [encodeNat, shape]
    rfl
  simp only [isCanonicalLength, all, head, Option.any_some, Bool.true_and, Bool.or_eq_true,
    decide_eq_true_eq]
  exact .inr leading

/-- A valid status has three digits. -/
theorem length_encodeNat_status {status : Nat} (low : 100 ≤ status) (high : status ≤ 999) :
    (encodeNat status).length = 3 := by
  have atMost : (Nat.toDigits 10 status).length ≤ 3 := by
    rw [Nat.length_toDigits_le_iff (by decide) (by decide)]
    omega
  have atLeast : ¬(Nat.toDigits 10 status).length ≤ 2 := by
    rw [Nat.length_toDigits_le_iff (by decide) (by decide)]
    omega
  rw [encodeNat, List.length_map]
  omega

theorem not_mem_of_digits {digits : Bytes} (all : digits.all isDigitByte = true) {byte : UInt8}
    (other : isDigitByte byte = false) : byte ∉ digits := by
  intro member
  have digit := List.all_eq_true.mp all byte member
  rw [other] at digit
  cases digit

/-! ## The status line -/

theorem partitionAt_append {separator : UInt8} {before : Bytes} (absent : separator ∉ before)
    (after : Bytes) :
    partitionAt separator (before ++ separator :: after) = (before, some after) := by
  have kept : ∀ byte ∈ before, decide (byte ≠ separator) = true := by
    intro byte inside
    rw [decide_eq_true_eq]
    intro same
    exact absent (same ▸ inside)
  rw [partitionAt, List.span_eq_takeWhile_dropWhile, List.takeWhile_append_of_pos kept,
    List.dropWhile_append_of_pos kept]
  simp

/-- The status line that is written for a status. -/
def statusLine (status : Nat) : Bytes :=
  ascii "HTTP/1.1" ++ 0x20 :: (encodeNat status ++ 0x20 :: ascii "Response")

theorem statusLine_isLine (status : Nat) : IsLine (statusLine status) := by
  have all := all_encodeNat status
  have apart (byte : UInt8) (other : isDigitByte byte = false)
      (first : byte ∉ ascii "HTTP/1.1" ++ [0x20]) (second : byte ∉ 0x20 :: ascii "Response") :
      byte ∉ statusLine status := by
    intro member
    simp only [statusLine, List.mem_append, List.mem_cons] at member
    simp only [List.mem_append, List.mem_cons, List.not_mem_nil, or_false, not_or] at first second
    rcases member with inside | same | inside | same | inside
    · exact first.1 inside
    · exact first.2 same
    · exact not_mem_of_digits all other inside
    · exact second.1 same
    · exact second.2 inside
  refine ⟨by simp [statusLine], ?_, ?_⟩
  · exact apart carriageReturn (by decide) (by decide) (by decide)
  · exact apart lineFeed (by decide) (by decide) (by decide)

theorem parseStatusLine_statusLine {status : Nat} (valid : validStatus status = true)
    (rest : Bytes) :
    parseStatusLine (statusLine status ++ (lineEnd ++ rest)) =
      .ok ((status : Int), (statusLine status).length + 2) := by
  have range : 200 ≤ status ∧ status ≤ 599 := by
    simp only [validStatus, Bool.or_eq_true, Bool.and_eq_true, decide_eq_true_eq] at valid
    omega
  have three := length_encodeNat_status (by omega : 100 ≤ status) (by omega)
  have digits := all_encodeNat status
  have length : (statusLine status).length = 21 := by
    simp only [statusLine, List.length_append, List.length_cons, three]
    decide
  have taken : (statusLine status ++ (lineEnd ++ rest)).take (statusLine status).length =
      statusLine status := List.take_left
  have version : partitionAt 0x20 (statusLine status) =
      (ascii "HTTP/1.1", some (encodeNat status ++ 0x20 :: ascii "Response")) :=
    partitionAt_append (by decide) _
  have code : partitionAt 0x20 (encodeNat status ++ 0x20 :: ascii "Response") =
      (encodeNat status, some (ascii "Response")) :=
    partitionAt_append (not_mem_of_digits digits (by decide)) _
  have reason : (ascii "Response").all isPrintableByte = true := by decide
  have present : ascii "Response" ≠ [] ∧ (ascii "Response").head? ≠ some 0x20 := by decide
  rw [parseStatusLine, findBytes_lineEnd (statusLine_isLine status).2.1]
  simp only [bind_eq_ok, failIf_eq_ok, exists_unit, orFail_eq_ok, pure_eq_ok, Option.some.injEq,
    exists_eq_left', taken, version, code]
  refine ⟨?_, ?_, ?_, ?_, ?_, ?_⟩
  · rw [length]
    decide
  · simp [three]
  · simp [digits, present]
  · simp [reason]
  · simp [decimalValue_encodeNat, valid]
  · rw [decimalValue_encodeNat]

/-! ## Header fields -/

theorem stripBlanks_space {value : Bytes} (plain : ∀ byte ∈ value, isBlankByte byte = false) :
    stripBlanks (0x20 :: value) = value := by
  have kept (bytes : Bytes) (each : ∀ byte ∈ bytes, isBlankByte byte = false) :
      bytes.dropWhile isBlankByte = bytes := by
    cases bytes with
    | nil => rfl
    | cons byte bytes => simp [each byte List.mem_cons_self]
  have leading : (0x20 :: value).dropWhile isBlankByte = value := by
    rw [List.dropWhile_cons_of_pos (by decide), kept value plain]
  rw [stripBlanks, leading, kept value.reverse, List.reverse_reverse]
  intro byte inside
  exact plain byte (List.mem_reverse.mp inside)

theorem parseField_contentLength {digits : Bytes} (all : digits.all isDigitByte = true) :
    parseField (ascii "Content-Length: " ++ digits) = .ok (ascii "content-length", digits) := by
  have shape : ascii "Content-Length: " ++ digits =
      ascii "Content-Length" ++ (ascii ":" ++ 0x20 :: digits) := rfl
  have found : findBytes (ascii ":") (ascii "Content-Length: " ++ digits) = some 14 := by
    have skipped : findBytes (ascii ":") (ascii "Content-Length" ++ (ascii ":" ++ 0x20 :: digits)) =
        (findBytes (ascii ":") (ascii ":" ++ 0x20 :: digits)).map (14 + ·) :=
      findBytes_append (by decide) _
    rw [shape, skipped, findBytes_here (by decide)]
    rfl
  have name : (ascii "Content-Length: " ++ digits).take 14 = ascii "Content-Length" := rfl
  have value : (ascii "Content-Length: " ++ digits).drop 15 = 0x20 :: digits := rfl
  have plain : ∀ byte ∈ digits, isBlankByte byte = false ∧ isPrintableByte byte = true := by
    intro byte inside
    have bounds := isDigitByte_iff.mp (List.all_eq_true.mp all byte inside)
    simp only [isBlankByte, isPrintableByte, Bool.or_eq_false_iff, decide_eq_false_iff_not,
      Bool.and_eq_true, decide_eq_true_eq, UInt8.le_iff_toNat_le, ← UInt8.toNat_inj]
    refine ⟨⟨?_, ?_⟩, ?_, ?_⟩
    · intro same
      rw [same] at bounds
      revert bounds
      decide
    · intro same
      rw [same] at bounds
      revert bounds
      decide
    · exact le_trans (by decide) bounds.1
    · exact le_trans bounds.2 (by decide)
  have stripped := stripBlanks_space fun byte inside => (plain byte inside).1
  have noTab : (0x09 : UInt8) ∉ digits := not_mem_of_digits all (by decide)
  have printable :
      ((0x20 :: digits).all fun byte => byte = 0x09 || isPrintableByte byte) = true := by
    rw [List.all_eq_true]
    intro byte inside
    rcases List.mem_cons.mp inside with rfl | later
    · decide
    · simp [(plain byte later).2]
  have lowered : (ascii "Content-Length").map lowerByte = ascii "content-length" := by decide
  have tokens : (ascii "Content-Length").all isTokenByte = true := by decide
  have allowed : ascii "content-length" ∉ forbiddenHeaders := by decide
  have tail : (ascii "Content-Length").getLast?.any isBlankByte = false := by decide
  rw [parseField, found]
  simp only [bind_eq_ok, failIf_eq_ok, exists_unit, orFail_eq_ok, pure_eq_ok, Option.some.injEq,
    exists_eq_left', name, value, lowered, tokens, allowed, tail, stripped, printable, noTab,
    not_or, Bool.true_eq_false, Bool.false_eq_true, not_false_eq_true, and_true, false_and,
    OfNat.ofNat_ne_zero]

/-! ## The head -/

/-- A head of so many lines. -/
def responseHead (first : Bytes) (lines : List Bytes) : Bytes :=
  first ++ (lineEnd ++ (joinLines lines ++ blankLine))

section Head

variable {first : Bytes} {lines : List Bytes}

theorem responseHead_append (body : Bytes) :
    responseHead first lines ++ body =
      first ++ (lineEnd ++ (joinLines lines ++ (blankLine ++ body))) := by
  simp [responseHead]

theorem drop_first (rest : Bytes) :
    (first ++ (lineEnd ++ rest)).drop (first.length + 2) = rest := by
  rw [← List.append_assoc]
  exact List.drop_left' (by simp [lineEnd])

/-- The lines after the status line are no blank line. -/
theorem slice_lines (some : lines ≠ []) (each : ∀ line ∈ lines, IsLine line) (rest : Bytes) :
    slice (first ++ (lineEnd ++ (joinLines lines ++ rest))) (first.length + 2)
      (first.length + 4) ≠ lineEnd := by
  obtain ⟨byte, tail, shape, differs⟩ := head_joinLines some each
  rw [slice, drop_first, shape, Nat.add_sub_add_left]
  intro same
  exact differs (List.cons.inj same).1

theorem bodyStart_responseHead (isFirst : IsLine first) (some : lines ≠ [])
    (each : ∀ line ∈ lines, IsLine line) (body : Bytes) :
    bodyStart (responseHead first lines ++ body) = .some (responseHead first lines).length := by
  rw [responseHead_append, bodyStart, findBytes_lineEnd isFirst.2.1]
  simp only [Option.bind_eq_bind, Option.bind_some, if_neg (slice_lines some each _)]
  rw [drop_first, findBytes_blankLine some each]
  simp only [Option.bind_some, Option.pure_def, Option.some.injEq, responseHead,
    List.length_append]
  simp [lineEnd, blankLine]
  omega

theorem parseHeaders_responseHead (some : lines ≠ []) (each : ∀ line ∈ lines, IsLine line)
    {headers : Dict Bytes Bytes} (fields : lines.foldlM addField .empty = .ok headers)
    (few : lines.length ≤ maxResponseFields)
    (short : (joinLines lines).length + 4 ≤ maxResponseHeaderBytes)
    (connection : ∀ value ∈ headers.get? (ascii "connection"), validConnection value = true) :
    parseHeaders (responseHead first lines) (first.length + 2) =
      .ok (headers, (responseHead first lines).length) := by
  have found : findBytes blankLine ((responseHead first lines).drop (first.length + 2)) =
      .some (joinLines lines).length := by
    rw [responseHead, drop_first, ← List.append_nil blankLine]
    exact findBytes_blankLine some each []
  have block : slice (responseHead first lines) (first.length + 2)
      (first.length + 2 + (joinLines lines).length) = joinLines lines := by
    rw [slice, responseHead, drop_first, Nat.add_sub_cancel_left]
    exact List.take_left
  have present : (joinLines lines).length ≠ 0 := by
    obtain ⟨byte, tail, shape, _⟩ := head_joinLines some each
    rw [shape]
    simp
  have total : first.length + 2 + (joinLines lines).length + 4 =
      (responseHead first lines).length := by
    simp [responseHead, lineEnd, blankLine]
    omega
  have notBlank : slice (responseHead first lines) (first.length + 2) (first.length + 2 + 2) ≠
      lineEnd := slice_lines some each blankLine
  rw [parseHeaders, if_neg notBlank, found]
  simp only [bind_eq_ok, failIf_eq_ok, exists_unit, orFail_eq_ok, pure_eq_ok,
    Option.some.injEq, exists_eq_left', if_neg present, block, splitAtLineEnds_joinLines some each,
    fields, total, Except.ok.injEq]
  refine ⟨not_lt.mpr short, not_lt.mpr few, ?_, trivial⟩
  rintro ⟨value, inside, refused⟩
  rw [connection value inside] at refused
  cases refused

/-- Without its line ends a head holds no carriage return and no line feed. -/
theorem not_mem_dropLineEnds (isFirst : IsLine first) (each : ∀ line ∈ lines, IsLine line) :
    0x0d ∉ dropLineEnds (responseHead first lines) ∧
      0x0a ∉ dropLineEnds (responseHead first lines) := by
  have dropped : dropLineEnds (responseHead first lines) = first ++ lines.flatten := by
    rw [responseHead, dropLineEnds_append isFirst.2.1]
    change first ++ dropLineEnds (0x0d :: 0x0a :: (joinLines lines ++ blankLine)) = _
    rw [dropLineEnds, dropLineEnds_joinLines each]
    change first ++ (lines.flatten ++ []) = _
    rw [List.append_nil]
  rw [dropped]
  simp only [List.mem_append, List.mem_flatten, not_or, not_exists, not_and]
  exact ⟨⟨isFirst.2.1, fun line inside => (each line inside).2.1⟩,
    isFirst.2.2, fun line inside => (each line inside).2.2⟩

end Head

/-! ## Written responses -/

/-- The lines that are written for a body. -/
def responseLines (length : Nat) : List Bytes :=
  [ascii "Content-Type: application/json", ascii "Content-Length: " ++ encodeNat length,
    ascii "Connection: close"]

def writtenHeaders (length : Nat) : Dict Bytes Bytes :=
  ((Dict.empty.set (ascii "content-type") (ascii "application/json")).set
    (ascii "content-length") (encodeNat length)).set (ascii "connection") (ascii "close")

theorem responseLines_isLine (length : Nat) : ∀ line ∈ responseLines length, IsLine line := by
  have digits := all_encodeNat length
  intro line inside
  simp only [responseLines, List.mem_cons, List.not_mem_nil, or_false] at inside
  rcases inside with rfl | rfl | rfl
  · exact ⟨by decide, by decide, by decide⟩
  · refine ⟨by simp [ascii], ?_, ?_⟩
    · rw [List.mem_append, not_or]
      exact ⟨by decide, not_mem_of_digits digits (by decide)⟩
    · rw [List.mem_append, not_or]
      exact ⟨by decide, not_mem_of_digits digits (by decide)⟩
  · exact ⟨by decide, by decide, by decide⟩

theorem addField_responseLines (length : Nat) :
    (responseLines length).foldlM addField .empty = .ok (writtenHeaders length) := by
  have kind : parseField (ascii "Content-Type: application/json") =
      .ok (ascii "content-type", ascii "application/json") := by decide
  have connection : parseField (ascii "Connection: close") =
      .ok (ascii "connection", ascii "close") := by decide
  have declared := parseField_contentLength (all_encodeNat length)
  simp only [responseLines, List.foldlM_cons, List.foldlM_nil, addField, kind, declared, connection,
    ok_bind]
  rfl

theorem length_encodeNat_body {length : Nat} (small : length ≤ maxResponseBodyBytes) :
    (encodeNat length).length ≤ (encodeNat maxResponseBodyBytes).length := by
  have most : (encodeNat maxResponseBodyBytes).length = 7 := by decide
  have digits : (Nat.toDigits 10 length).length ≤ 7 := by
    rw [Nat.length_toDigits_le_iff (by decide) (by decide)]
    exact lt_of_le_of_lt small (by decide)
  rw [most, encodeNat, List.length_map]
  exact digits

theorem bodyLength_written {status length : Nat} (other : status ≠ 204 ∧ status ≠ 205)
    (present : 0 < length) (small : length ≤ maxResponseBodyBytes) :
    bodyLength status (writtenHeaders length) = .ok length := by
  have declared : (writtenHeaders length).get? (ascii "content-length") =
      some (encodeNat length) := rfl
  have kind : (writtenHeaders length).get? (ascii "content-type") =
      some (ascii "application/json") := rfl
  have notNoContent : ¬(status : Int) = 204 := by
    have := other.1
    omega
  have notReset : ¬(status : Int) = 205 := by
    have := other.2
    omega
  rw [bodyLength, if_neg notNoContent, if_neg notReset, declared, kind]
  simp only [bind_eq_ok, failIf_eq_ok, exists_unit, orFail_eq_ok, pure_eq_ok, Option.some.injEq,
    exists_eq_left', decimalValue_encodeNat, not_or, isCanonicalLength_encodeNat present]
  exact ⟨⟨not_lt.mpr (length_encodeNat_body small), by decide, by simp⟩,
    ⟨not_lt.mpr small, Nat.pos_iff_ne_zero.mp present⟩, trivial⟩

theorem parseResponse_written {status : Nat} {body : Bytes} (valid : validStatus status = true)
    (other : status ≠ 204 ∧ status ≠ 205) (present : body ≠ [])
    (small : body.length ≤ maxResponseBodyBytes) :
    parseResponse (responseHead (statusLine status) (responseLines body.length) ++ body) =
      .ok ⟨status, body⟩ := by
  have isFirst := statusLine_isLine status
  have lines := responseLines_isLine body.length
  have some : responseLines body.length ≠ [] := List.cons_ne_nil _ _
  have start := bodyStart_responseHead isFirst some lines body
  have digits := length_encodeNat_body small
  have most : (encodeNat maxResponseBodyBytes).length = 7 := by decide
  have block : (joinLines (responseLines body.length)).length ≤ 74 := by
    have kind : (ascii "Content-Type: application/json").length = 30 := by decide
    have name : (ascii "Content-Length: ").length = 16 := by decide
    have connection : (ascii "Connection: close").length = 17 := by decide
    simp only [responseLines, joinLines, lineEnd, List.length_append, List.length_cons,
      List.length_nil, kind, name, connection]
    omega
  have total : (responseHead (statusLine status) (responseLines body.length)).length ≤ 101 := by
    have range : 200 ≤ status ∧ status ≤ 599 := by
      simp only [validStatus, Bool.or_eq_true, Bool.and_eq_true, decide_eq_true_eq] at valid
      omega
    have three := length_encodeNat_status (by omega : 100 ≤ status) (by omega)
    have version : (ascii "HTTP/1.1").length = 8 := by decide
    have reason : (ascii "Response").length = 8 := by decide
    simp only [responseHead, statusLine, lineEnd, blankLine, List.length_append, List.length_cons,
      List.length_nil, three, version, reason]
    omega
  have few : (responseLines body.length).length ≤ maxResponseFields := by
    change 3 ≤ maxResponseFields
    decide
  have connection : ∀ value ∈ (writtenHeaders body.length).get? (ascii "connection"),
      validConnection value = true := by
    intro value inside
    obtain rfl : ascii "close" = value := Option.some.inj inside
    decide
  have fields : parseHeaders (responseHead (statusLine status) (responseLines body.length))
      ((statusLine status).length + 2) = .ok (writtenHeaders body.length,
        (responseHead (statusLine status) (responseLines body.length)).length) :=
    parseHeaders_responseHead some lines (addField_responseLines body.length) few
      (by unfold maxResponseHeaderBytes; omega) connection
  have head : parseResponseHead (responseHead (statusLine status) (responseLines body.length)) =
      .ok ⟨status, body.length⟩ := by
    have parsed := parseStatusLine_statusLine valid
      (joinLines (responseLines body.length) ++ blankLine)
    have clean := not_mem_dropLineEnds isFirst lines
    rw [parseResponseHead, failIf_of_not (by unfold maxStatusLineBytes; omega), ok_bind]
    change (parseStatusLine (statusLine status ++ (lineEnd ++
      (joinLines (responseLines body.length) ++ blankLine))) >>= _) = _
    rw [parsed, ok_bind]
    dsimp only
    rw [fields, ok_bind, failIf_of_not (by simp), ok_bind, failIf_of_not (by tauto), ok_bind,
      bodyLength_written other (List.length_pos_iff.mpr present) small, ok_bind]
    rfl
  have bounded : (responseHead (statusLine status) (responseLines body.length) ++ body).length ≤
      maxStatusLineBytes + maxResponseHeaderBytes + maxResponseBodyBytes := by
    rw [List.length_append]
    unfold maxStatusLineBytes maxResponseHeaderBytes
    omega
  rw [parseResponse, failIf_of_not (not_lt.mpr bounded), ok_bind, start, orFail, ok_bind,
    List.take_left, head, ok_bind, List.drop_left]
  dsimp only
  rw [failIf_of_not (by simp [small]), ok_bind]
  rfl

/-- What is written has the head above. -/
theorem serializeResponse_written {status : Nat} {body : Bytes}
    (other : status ≠ 204 ∧ status ≠ 205) {bytes : Bytes}
    (written : serializeResponse ⟨status, body⟩ = some bytes) :
    validStatus status = true ∧ body ≠ [] ∧ body.length ≤ maxResponseBodyBytes ∧
      bytes = responseHead (statusLine status) (responseLines body.length) ++ body := by
  have notNoContent : ¬(status : Int) = 204 := by
    have := other.1
    omega
  have notReset : ¬(status : Int) = 205 := by
    have := other.2
    omega
  rw [serializeResponse] at written
  simp only [if_neg notNoContent, if_neg notReset, Option.ite_none_left_eq_some,
    Option.some.injEq, Bool.or_eq_true, Bool.not_eq_true', not_or, Bool.not_eq_false,
    decide_eq_true_eq, not_lt, List.isEmpty_iff] at written
  obtain ⟨⟨valid, small⟩, present, rfl⟩ := written
  refine ⟨valid, present, small, ?_⟩
  have positive : ¬(status : Int) < 0 := by omega
  rw [responseHead_append, statusLine, encodeInt, if_neg positive]
  have opening : ascii "HTTP/1.1 " = ascii "HTTP/1.1" ++ [0x20] := rfl
  have middle : ascii " Response\r\nContent-Type: application/json\r\nContent-Length: " =
      0x20 :: (ascii "Response" ++ (lineEnd ++ (ascii "Content-Type: application/json" ++
        (lineEnd ++ ascii "Content-Length: ")))) := rfl
  have closing : ascii "\r\nConnection: close\r\n\r\n" =
      lineEnd ++ (ascii "Connection: close" ++ blankLine) := rfl
  rw [opening, middle, closing]
  simp [responseLines, joinLines]

/-! ## The codec -/

theorem parseResponse_serializeResponse {response : ParsedResponse} {bytes : Bytes}
    (written : serializeResponse response = some bytes) : parseResponse bytes = .ok response := by
  obtain ⟨status, body⟩ := response
  have natural : 0 ≤ status := by
    rw [serializeResponse, Option.ite_none_left_eq_some] at written
    have valid := written.1
    simp only [validStatus, Bool.or_eq_true, Bool.not_eq_true', Bool.or_eq_false_iff,
      Bool.and_eq_false_iff, decide_eq_false_iff_not, decide_eq_true_eq] at valid
    omega
  obtain ⟨status, rfl⟩ := Int.eq_ofNat_of_zero_le natural
  by_cases noContent : status = 204
  · subst noContent
    simp only [serializeResponse, Option.ite_none_left_eq_some, Option.ite_none_right_eq_some,
      Nat.cast_ofNat, if_true, Option.some.injEq, List.isEmpty_iff] at written
    obtain ⟨-, rfl, rfl⟩ := written
    decide +kernel
  by_cases reset : status = 205
  · subst reset
    have apart : ¬(205 : Int) = 204 := by decide
    simp only [serializeResponse, Option.ite_none_left_eq_some, Option.ite_none_right_eq_some,
      if_neg apart, Nat.cast_ofNat, if_true, Option.some.injEq, List.isEmpty_iff] at written
    obtain ⟨-, rfl, rfl⟩ := written
    decide +kernel
  obtain ⟨valid, present, small, rfl⟩ := serializeResponse_written ⟨noContent, reset⟩ written
  exact parseResponse_written valid ⟨noContent, reset⟩ present small

theorem bodyLength_eq_ok {status : Int} {headers : Dict Bytes Bytes} {length : Nat}
    (found : bodyLength status headers = .ok length) :
    if status = 204 ∨ status = 205 then length = 0
    else 0 < length ∧ length ≤ maxResponseBodyBytes := by
  rw [bodyLength] at found
  by_cases noContent : status = 204
  · rw [if_pos noContent] at found
    simp only [bind_eq_ok, failIf_eq_ok, exists_unit, pure_eq_ok] at found
    rw [if_pos (.inl noContent)]
    exact found.2.symm
  by_cases reset : status = 205
  · rw [if_neg noContent, if_pos reset] at found
    simp only [bind_eq_ok, failIf_eq_ok, exists_unit, pure_eq_ok] at found
    rw [if_pos (.inr reset)]
    exact found.2.symm
  rw [if_neg noContent, if_neg reset] at found
  simp only [bind_eq_ok, failIf_eq_ok, exists_unit, orFail_eq_ok, pure_eq_ok, not_or,
    not_lt] at found
  obtain ⟨text, -, -, ⟨small, present⟩, rfl⟩ := found
  rw [if_neg (by tauto)]
  exact ⟨Nat.pos_of_ne_zero present, small⟩

theorem parseResponse_eq_ok {data : Bytes} {response : ParsedResponse}
    (parsed : parseResponse data = .ok response) :
    validStatus response.status = true ∧ response.body.length ≤ maxResponseBodyBytes ∧
      (response.body = [] ↔ response.status = 204 ∨ response.status = 205) := by
  simp only [parseResponse, parseResponseHead, bind_eq_ok, failIf_eq_ok, exists_unit, orFail_eq_ok,
    pure_eq_ok, not_or, not_lt, ne_eq, not_not] at parsed
  obtain ⟨-, start, -, head, ⟨-, status, found, headers, -, -, -, length, declared, rfl⟩,
    ⟨small, same⟩, rfl⟩ := parsed
  have valid : validStatus status.1 = true := by
    simp only [parseStatusLine, bind_eq_ok, failIf_eq_ok, exists_unit, orFail_eq_ok, pure_eq_ok,
      Bool.not_eq_false] at found
    obtain ⟨_, -, -, _, -, _, -, -, -, -, valid, rfl⟩ := found
    exact valid
  refine ⟨valid, small, ?_⟩
  have lengths := bodyLength_eq_ok declared
  rw [← List.length_eq_zero_iff, same]
  split_ifs at lengths with empty
  · exact iff_of_true lengths empty
  · exact iff_of_false (Nat.pos_iff_ne_zero.mp lengths.1) empty

theorem serializeResponse_of_parsed {data : Bytes} {response : ParsedResponse}
    (parsed : parseResponse data = .ok response) :
    ∃ bytes, serializeResponse response = some bytes := by
  obtain ⟨valid, small, empty⟩ := parseResponse_eq_ok parsed
  have fits : ¬(!validStatus response.status ||
      maxResponseBodyBytes < response.body.length) = true := by
    simp [valid, small]
  rw [serializeResponse, if_neg fits]
  by_cases noContent : response.status = 204
  · rw [if_pos noContent, empty.mpr (.inl noContent)]
    exact ⟨_, rfl⟩
  by_cases reset : response.status = 205
  · rw [if_neg noContent, if_pos reset, empty.mpr (.inr reset)]
    exact ⟨_, rfl⟩
  have present : ¬response.body.isEmpty = true := by
    rw [List.isEmpty_iff, empty]
    tauto
  rw [if_neg noContent, if_neg reset, if_neg present]
  exact ⟨_, rfl⟩

/-- What the two halves of the codec do to each other. -/
structure ResponseCodec : Prop where
  reads : ∀ response bytes, serializeResponse response = some bytes →
    parseResponse bytes = .ok response
  normalizes : ∀ data response, parseResponse data = .ok response →
    ∃ bytes, serializeResponse response = some bytes ∧ parseResponse bytes = .ok response
  injective : ∀ left right bytes, serializeResponse left = some bytes →
    serializeResponse right = some bytes → left = right

theorem response_codec_normalizes : ResponseCodec where
  reads := by
    intro response bytes written
    exact parseResponse_serializeResponse written
  normalizes := by
    intro data response parsed
    obtain ⟨bytes, written⟩ := serializeResponse_of_parsed parsed
    exact ⟨bytes, written, parseResponse_serializeResponse written⟩
  injective := by
    intro left right bytes first second
    have leftRead := parseResponse_serializeResponse first
    rw [parseResponse_serializeResponse second] at leftRead
    exact (Except.ok.inj leftRead).symm

/-- A response whose head is not written as the serializer writes it. -/
def sampleResponse : Bytes :=
  ascii "HTTP/1.1 200 OK\r\ncontent-length: 2\r\nCONTENT-TYPE:application/json\r\n\r\n\x7b\x7d"

theorem response_codec_normalizes_sample : ∃ bytes,
    parseResponse sampleResponse = .ok ⟨200, ascii "\x7b\x7d"⟩ ∧
      serializeResponse ⟨200, ascii "\x7b\x7d"⟩ = some bytes ∧ bytes ≠ sampleResponse ∧
      parseResponse bytes = .ok ⟨200, ascii "\x7b\x7d"⟩ ∧
      ∀ other, serializeResponse other = some bytes → other = ⟨200, ascii "\x7b\x7d"⟩ := by
  have parsed : parseResponse sampleResponse = .ok ⟨200, ascii "\x7b\x7d"⟩ := by decide +kernel
  have differs : serializeResponse ⟨200, ascii "\x7b\x7d"⟩ ≠ some sampleResponse := by
    decide +kernel
  obtain ⟨bytes, written, readBack⟩ := response_codec_normalizes.normalizes _ _ parsed
  refine ⟨bytes, parsed, written, ?_, readBack, ?_⟩
  · rintro rfl
    exact differs written
  · intro other same
    exact response_codec_normalizes.injective other _ bytes same written

end ManyAlerts
