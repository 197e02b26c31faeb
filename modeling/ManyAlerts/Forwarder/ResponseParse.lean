import ManyAlerts.Forwarder.RequestPath
import ManyAlerts.Library.Lines

/-!
# Responses on the wire

A response is a status and a body; `serializeResponse` writes the fixed head the
forwarder sends with it.  The parser of upstream responses takes one complete response:
a status line, at most 64 header fields and a body of the declared length.  It keeps the
status and the body and forgets the rest, so writing what it read gives a normal form.

Names and values of header fields are ASCII by their checks and are represented by
their bytes.
-/

namespace ManyAlerts

/-! ## Writing -/

def maxResponseBodyBytes : Nat := 1048576

structure ParsedResponse where
  status : Int
  body : Bytes
deriving DecidableEq

/-- `_valid_status`. -/
def validStatus (status : Int) : Bool :=
  200 ≤ status && status ≤ 299 || 400 ≤ status && status ≤ 599

/-- `serialize_response`; a response that it refuses is `none`. -/
def serializeResponse (response : ParsedResponse) : Option Bytes :=
  if !validStatus response.status || maxResponseBodyBytes < response.body.length then none
  else if response.status = 204 then
    if response.body.isEmpty then
      some (ascii "HTTP/1.1 204 No Content\r\nConnection: close\r\n\r\n")
    else none
  else if response.status = 205 then
    if response.body.isEmpty then
      some (ascii
        "HTTP/1.1 205 Reset Content\r\nContent-Length: 0\r\nConnection: close\r\n\r\n")
    else none
  else if response.body.isEmpty then none
  else
    some (ascii "HTTP/1.1 " ++ encodeInt response.status ++
      ascii " Response\r\nContent-Type: application/json\r\nContent-Length: " ++
      encodeNat response.body.length ++ ascii "\r\nConnection: close\r\n\r\n" ++ response.body)

/-! ## Reading -/

def maxStatusLineBytes : Nat := 2048
def maxResponseHeaderBytes : Nat := 16384
def maxResponseFields : Nat := 64

/-- `HTTPResponseError`, which says nothing but its code. -/
inductive HttpResponseError where
  | invalidResponse
deriving DecidableEq

/-! ## Bytes -/

/-- `_TOKEN`. -/
def isTokenByte (byte : UInt8) : Bool :=
  byteIn "!#$%&'*+-.^_\x60|~0123456789ABCDEFGHIJKLMNOPQRSTUVWXYZabcdefghijklmnopqrstuvwxyz" byte

def isDigitByte (byte : UInt8) : Bool := 0x30 ≤ byte && byte ≤ 0x39

/-- `lower` of ASCII. -/
def lowerByte (byte : UInt8) : UInt8 :=
  if 0x41 ≤ byte && byte ≤ 0x5a then byte + 0x20 else byte

def isBlankByte (byte : UInt8) : Bool := byte = 0x20 || byte = 0x09

/-- `strip(" \t")`. -/
def stripBlanks (value : Bytes) : Bytes :=
  ((value.dropWhile isBlankByte).reverse.dropWhile isBlankByte).reverse

/-- `int` of decimal digits. -/
def decimalValue (digits : Bytes) : Nat :=
  Nat.ofDigitChars 10 (digits.map fun byte => Char.ofNat byte.toNat) 0

/-- `data[start:stop]`. -/
def slice (data : Bytes) (start stop : Nat) : Bytes := (data.drop start).take (stop - start)

/-! ## The head -/

/-- `_parse_status_line`. -/
def parseStatusLine (data : Bytes) : Except HttpResponseError (Int × Nat) := do
  let lineLength ← orFail .invalidResponse (findBytes lineEnd data)
  failIf (maxStatusLineBytes < lineLength + 2) .invalidResponse
  let (version, afterVersion) := partitionAt 0x20 (data.take lineLength)
  let afterVersion ← orFail .invalidResponse afterVersion
  let (code, reason) := partitionAt 0x20 afterVersion
  let reason ← orFail .invalidResponse reason
  failIf (version ≠ ascii "HTTP/1.1" ∨ code.length ≠ 3) .invalidResponse
  failIf (code.all isDigitByte = false ∨ reason = [] ∨ reason.head? = some 0x20) .invalidResponse
  failIf (reason.all isPrintableByte = false) .invalidResponse
  let status : Int := decimalValue code
  failIf (validStatus status = false) .invalidResponse
  return (status, lineLength + 2)

def forbiddenHeaders : List Bytes :=
  [ascii "transfer-encoding", ascii "trailer", ascii "content-encoding", ascii "upgrade"]

/-- One header line: its name in lower case and its value without blanks around it. -/
def parseField (line : Bytes) : Except HttpResponseError (Bytes × Bytes) := do
  let colon ← orFail .invalidResponse (findBytes (ascii ":") line)
  let name := line.take colon
  let value := line.drop (colon + 1)
  failIf (colon = 0 ∨ name.getLast?.any isBlankByte = true) .invalidResponse
  failIf (name.all isTokenByte = false) .invalidResponse
  failIf ((value.all fun byte => byte = 0x09 || isPrintableByte byte) = false) .invalidResponse
  let lowered := name.map lowerByte
  failIf (lowered ∈ forbiddenHeaders) .invalidResponse
  let normalized := stripBlanks value
  failIf (0x09 ∈ normalized ∧ lowered ≠ ascii "connection") .invalidResponse
  return (lowered, normalized)

def addField (headers : Dict Bytes Bytes) (line : Bytes) :
    Except HttpResponseError (Dict Bytes Bytes) := do
  let (name, value) ← parseField line
  failIf (headers.contains name = true) .invalidResponse
  return headers.set name value

/-- The check of the connection tokens. -/
def validConnection (connection : Bytes) : Bool :=
  ((connection.splitOn 0x2c).map stripBlanks).all fun token =>
    !token.isEmpty && token.all isTokenByte &&
      !([ascii "content-length", ascii "content-type"].contains (token.map lowerByte))

/-- `_parse_headers`. -/
def parseHeaders (data : Bytes) (start : Nat) :
    Except HttpResponseError (Dict Bytes Bytes × Nat) := do
  if slice data start (start + 2) = lineEnd then return (.empty, start + 2)
  let length ← orFail .invalidResponse (findBytes blankLine (data.drop start))
  failIf (maxResponseHeaderBytes < length + 4) .invalidResponse
  let lines := if length = 0 then [] else splitAtLineEnds (slice data start (start + length))
  failIf (maxResponseFields < lines.length) .invalidResponse
  let headers ← lines.foldlM addField .empty
  failIf (∃ connection ∈ headers.get? (ascii "connection"),
    validConnection connection = false) .invalidResponse
  return (headers, start + length + 4)

/-- `_CANONICAL_LENGTH`: `0` or digits without a leading zero. -/
def isCanonicalLength (text : Bytes) : Bool :=
  text = [0x30] || text.all isDigitByte && (text.head?.any fun byte => byte ≠ 0x30)

/-- `_body_length`. -/
def bodyLength (status : Int) (headers : Dict Bytes Bytes) : Except HttpResponseError Nat := do
  let length := headers.get? (ascii "content-length")
  let kind := headers.get? (ascii "content-type")
  if status = 204 then
    failIf (length ≠ none ∨ kind ≠ none) .invalidResponse
    return 0
  if status = 205 then
    failIf (length ≠ some (ascii "0") ∨ kind ≠ none) .invalidResponse
    return 0
  let text ← orFail .invalidResponse length
  failIf ((encodeNat maxResponseBodyBytes).length < text.length ∨
    isCanonicalLength text = false ∨ kind ≠ some (ascii "application/json")) .invalidResponse
  let declared := decimalValue text
  failIf (maxResponseBodyBytes < declared ∨ declared = 0) .invalidResponse
  return declared

structure ParsedResponseHead where
  status : Int
  bodyLength : Nat
deriving DecidableEq

/-- `parse_response_head`. -/
def parseResponseHead (data : Bytes) : Except HttpResponseError ParsedResponseHead := do
  failIf (maxStatusLineBytes + maxResponseHeaderBytes < data.length) .invalidResponse
  let (status, headerStart) ← parseStatusLine data
  let (headers, bodyStart) ← parseHeaders data headerStart
  failIf (bodyStart ≠ data.length) .invalidResponse
  failIf (0x0d ∈ dropLineEnds data ∨ 0x0a ∈ dropLineEnds data) .invalidResponse
  let length ← bodyLength status headers
  return ⟨status, length⟩

/-- Where the body of a response starts. -/
def bodyStart (data : Bytes) : Option Nat := do
  let statusEnd ← findBytes lineEnd data
  if slice data (statusEnd + 2) (statusEnd + 4) = lineEnd then return statusEnd + 4
  let length ← findBytes blankLine (data.drop (statusEnd + 2))
  return statusEnd + 2 + length + 4

/-- `parse_response`. -/
def parseResponse (data : Bytes) : Except HttpResponseError ParsedResponse := do
  failIf (maxStatusLineBytes + maxResponseHeaderBytes + maxResponseBodyBytes < data.length)
    .invalidResponse
  let start ← orFail .invalidResponse (bodyStart data)
  let head ← parseResponseHead (data.take start)
  let body := data.drop start
  failIf (maxResponseBodyBytes < body.length ∨ body.length ≠ head.bodyLength) .invalidResponse
  return ⟨head.status, body⟩

end ManyAlerts
