import ManyAlerts.Log.Redact

/-!
# Rendering the events of a Run

`format_event` turns one JSON value into lines for the log, and `format_stream` a
sequence of texts.  What only the interpreter knows is an `Interpreter`: the text of a
float, the decoding of bytes and the reading of JSON.  A computation that raises is
`none`.
-/

namespace ManyAlerts

variable {φ : Type}

/-! ## Values -/

inductive LogNumber (φ : Type) where
  | int (value : Int)
  | float (value : φ)

/-- A value of `json.loads`. -/
abbrev LogValue (φ : Type) : Type := JsonTree (LogNumber φ)

/-- How reading a text as JSON ends: with a `ValueError`, or another exception. -/
inductive Loaded (φ : Type) where
  | value (value : LogValue φ)
  | invalid
  | raised

structure Interpreter (φ : Type) extends CharTable where
  /-- `repr` of a float. -/
  floatText : φ → LogText
  /-- The text of a float in `json.dumps`. -/
  floatJson : φ → LogText
  isZero : φ → Bool
  sameNumber : LogNumber φ → LogNumber φ → Bool
  /-- `f"{number / 1000:.1f}"`. -/
  seconds : LogNumber φ → Option LogText
  /-- `f"{number:.4f}"`. -/
  dollars : LogNumber φ → Option LogText
  /-- A value that is nested too deeply, or holds an integer too long, to get a text. -/
  refuses : LogValue φ → Bool
  takesTexts : ∀ text, refuses (.text text) = false
  /-- `bytes.decode("utf-8", errors="replace")`. -/
  decode : Bytes → LogText
  loads : LogText → Loaded φ

def intPoints (value : Int) : LogText := pointsOf (toString value)

/-- So many hexadecimal digits of a number, in lower case. -/
def hexPoints : Nat → Nat → LogText
  | 0, _ => []
  | count + 1, value => hexPoints count (value / 16) ++ [(hexChar (value % 16)).toNat]

def joinPoints (separator : LogText) (texts : List LogText) : LogText :=
  (texts.intersperse separator).flatten

section Repr

variable (table : CharTable)

/-- One character of a text in its `repr`. -/
def reprPoint (quote point : Nat) : LogText :=
  if point = quote ∨ point = 92 then [92, point]
  else if point = 9 then pointsOf "\\t"
  else if point = 10 then pointsOf "\\n"
  else if point = 13 then pointsOf "\\r"
  else if point < 32 ∨ point = 127 then pointsOf "\\x" ++ hexPoints 2 point
  else if point < 127 ∨ table.printable point then [point]
  else if point < 256 then pointsOf "\\x" ++ hexPoints 2 point
  else if point < 65536 then pointsOf "\\u" ++ hexPoints 4 point
  else pointsOf "\\U" ++ hexPoints 8 point

/-- `repr` of a text. -/
def reprText (text : LogText) : LogText :=
  let quote := if text.contains 39 && !text.contains 34 then 34 else 39
  quote :: text.flatMap (reprPoint table quote) ++ [quote]

end Repr

section Texts

variable (interpreter : Interpreter φ)

def numberText : LogNumber φ → LogText
  | .int value => intPoints value
  | .float value => interpreter.floatText value

mutual

def reprPoints : LogValue φ → LogText
  | .null => pointsOf "None"
  | .bool value => pointsOf (if value then "True" else "False")
  | .number value => numberText interpreter value
  | .text text => reprText interpreter.toCharTable text
  | .array items => pointsOf "[" ++ joinPoints (pointsOf ", ") (reprItems items) ++ pointsOf "]"
  | .object members =>
      pointsOf "\x7b" ++ joinPoints (pointsOf ", ") (reprMembers members) ++ pointsOf "\x7d"

def reprItems : List (LogValue φ) → List LogText
  | [] => []
  | item :: items => reprPoints item :: reprItems items

def reprMembers : List (LogText × LogValue φ) → List LogText
  | [] => []
  | (key, value) :: members =>
      (reprText interpreter.toCharTable key ++ pointsOf ": " ++ reprPoints value) ::
        reprMembers members

end

/-- `repr(value)`. -/
def pyRepr (value : LogValue φ) : Option LogText :=
  if interpreter.refuses value then none else some (reprPoints interpreter value)

/-- `str(value)`. -/
def pyStr : LogValue φ → Option LogText
  | .text text => some text
  | value => pyRepr interpreter value

/-- One character of a text in `json.dumps`. -/
def dumpPoint (point : Nat) : LogText :=
  if point = 34 then pointsOf "\\\""
  else if point = 92 then pointsOf "\\\\"
  else if point = 10 then pointsOf "\\n"
  else if point = 13 then pointsOf "\\r"
  else if point = 9 then pointsOf "\\t"
  else if point = 12 then pointsOf "\\f"
  else if point = 8 then pointsOf "\\b"
  else if 32 ≤ point ∧ point < 127 then [point]
  else if point < 65536 then pointsOf "\\u" ++ hexPoints 4 point
  else
    pointsOf "\\u" ++ hexPoints 4 (0xd800 + (point - 65536) / 1024) ++
      pointsOf "\\u" ++ hexPoints 4 (0xdc00 + (point - 65536) % 1024)

def dumpText (text : LogText) : LogText := 34 :: text.flatMap dumpPoint ++ [34]

mutual

/-- `json.dumps(value, sort_keys=True)`. -/
def dumpPoints : LogValue φ → LogText
  | .null => pointsOf "null"
  | .bool value => pointsOf (if value then "true" else "false")
  | .number (.int value) => intPoints value
  | .number (.float value) => interpreter.floatJson value
  | .text text => dumpText text
  | .array items => pointsOf "[" ++ joinPoints (pointsOf ", ") (dumpItems items) ++ pointsOf "]"
  | .object members =>
      let sorted := (dumpMembers members).mergeSort fun left right => !decide (right.1 < left.1)
      pointsOf "\x7b" ++ joinPoints (pointsOf ", ") (sorted.map Prod.snd) ++ pointsOf "\x7d"

def dumpItems : List (LogValue φ) → List LogText
  | [] => []
  | item :: items => dumpPoints item :: dumpItems items

/-- The texts of the members, under their keys. -/
def dumpMembers : List (LogText × LogValue φ) → List (LogText × LogText)
  | [] => []
  | (key, value) :: members =>
      (key, dumpText key ++ pointsOf ": " ++ dumpPoints value) :: dumpMembers members

end

def dumps (value : LogValue φ) : Option LogText :=
  if interpreter.refuses value then none else some (dumpPoints interpreter value)

/-- Whether a value counts as true. -/
def truthy : LogValue φ → Bool
  | .null => false
  | .bool value => value
  | .number (.int value) => value ≠ 0
  | .number (.float value) => !interpreter.isZero value
  | .text text => text ≠ []
  | .array items => !items.isEmpty
  | .object members => !members.isEmpty

end Texts

/-- The members of an object. -/
abbrev LogMembers (φ : Type) : Type := List (LogText × LogValue φ)

/-- A member, if there is one. -/
def LogMembers.find (members : LogMembers φ) (key : String) : Option (LogValue φ) :=
  (List.find? (fun member => member.1 = pointsOf key) members).map Prod.snd

/-- `members.get(key)`. -/
def LogMembers.get (members : LogMembers φ) (key : String) : LogValue φ :=
  (members.find key).getD .null

/-- `members.get(key, default)`, with a text for a default. -/
def LogMembers.getOr (members : LogMembers φ) (key default : String) : LogValue φ :=
  (members.find key).getD (.text (pointsOf default))

/-- `value == text`. -/
def isText (text : String) : LogValue φ → Bool
  | .text points => points = pointsOf text
  | _ => false

/-- What a loop over a value goes through. -/
def iterated : LogValue φ → Option (List (LogValue φ))
  | .array items => some items
  | .object members => some (members.map fun member => .text member.1)
  | .text text => some (text.map fun point => .text [point])
  | _ => none

def hashable : LogValue φ → Bool
  | .array _ | .object _ => false
  | _ => true

/-- The number that a value compares as. -/
def numberOf : LogValue φ → Option (LogNumber φ)
  | .number value => some value
  | .bool value => some (.int (if value then 1 else 0))
  | _ => none

/-- `left == right`, for hashable values. -/
def sameKey (interpreter : Interpreter φ) (left right : LogValue φ) : Bool :=
  match numberOf left, numberOf right with
  | some left, some right => interpreter.sameNumber left right
  | none, none =>
      match left, right with
      | .null, .null => true
      | .text left, .text right => left = right
      | _, _ => false
  | _, _ => false

/-! ## Lines -/

inductive LogLabel where
  | run
  | assistant
  | tool
  | output
  | error
  | denied
  | result
  | diagnostic

def LogLabel.text : LogLabel → String
  | .run => "[run]"
  | .assistant => "[claude]"
  | .tool => "[tool]"
  | .output => "[out]"
  | .error => "[err]"
  | .denied => "[DENIED]"
  | .result => "[result]"
  | .diagnostic => "[?]"

def labelWidth : Nat := 8
def trimLines : Nat := 5
def trimChars : Nat := 200

/-- `_line`. -/
def logLine (label : LogLabel) (text : LogText) : LogText :=
  let shown := pointsOf label.text
  shown ++ List.replicate (labelWidth - shown.length) 32 ++ 32 :: text

/-- The ends of lines, except for the pair. -/
def isLineEnd (point : Nat) : Bool :=
  10 ≤ point && point ≤ 13 || 28 ≤ point && point ≤ 30 || [0x85, 0x2028, 0x2029].contains point

/-- `splitlines`, behind the start of a line. -/
def splitLinesFrom (current : LogText) : LogText → List LogText
  | [] => if current = [] then [] else [current]
  | 13 :: 10 :: rest => current :: splitLinesFrom [] rest
  | point :: rest =>
      if isLineEnd point then current :: splitLinesFrom [] rest
      else splitLinesFrom (current ++ [point]) rest

def splitLines (text : LogText) : List LogText := splitLinesFrom [] text

def strip (text : LogText) : LogText :=
  ((text.dropWhile isSpace).reverse.dropWhile isSpace).reverse

/-- The lines with something on them. -/
def shownLines (text : LogText) : List LogText :=
  (splitLines text).filter fun line => strip line ≠ []

/-- `_trimmed_lines`. -/
def trimmedLines (text : LogText) : List LogText :=
  let lines := shownLines text
  let remaining := lines.length - (lines.take trimLines).length
  lines.take trimLines ++
    if 0 < remaining then [pointsOf "+ " ++ intPoints remaining ++ pointsOf " more lines"] else []

/-- `_truncated`. -/
def truncated (text : LogText) : LogText :=
  if text.length ≤ trimChars then text else text.take trimChars ++ pointsOf "..."

/-- What stands before the first blank behind a full stop. -/
def sentenceFrom (afterStop : Bool) : LogText → LogText
  | [] => []
  | point :: rest =>
      if afterStop && isSpace point then [] else point :: sentenceFrom (point = 46) rest

/-- `_first_sentence`. -/
def firstSentence (text : LogText) : LogText := sentenceFrom false (strip text)

/-! ## Renderers -/

section Renderers

variable (interpreter : Interpreter φ)

/-- A loop over `value or []`. -/
def iteratedOrEmpty (value : LogValue φ) : Option (List (LogValue φ)) :=
  if truthy interpreter value then iterated value else some []

/-- `_tool_input`. -/
def toolInput : LogValue φ → Option LogText
  | .null => some []
  | .object members =>
      match LogMembers.get members "command", LogMembers.get members "file_path" with
      | .text (first :: command), _ => some (first :: command)
      | _, .text (first :: path) => some (first :: path)
      | _, _ => dumps interpreter (.object members)
  | value => pyStr interpreter value

/-- `_tool_call`. -/
def toolCall (name input : LogValue φ) : Option LogText := do
  let tool ← if truthy interpreter name then pyStr interpreter name else some (pointsOf "a tool")
  let call ← toolInput interpreter input
  return if call = [] then tool else tool ++ pointsOf ": " ++ call

/-- The objects of a list. -/
def objects (items : List (LogValue φ)) : List (LogMembers φ) :=
  items.filterMap fun
    | .object members => some members
    | _ => none

/-- `_content_blocks`. -/
def contentBlocks (event : LogMembers φ) : Option (List (LogMembers φ)) :=
  match event.find "message" with
  | some (.object message) =>
      match LogMembers.get message "content" with
      | .array items => some (objects items)
      | _ => some []
  | _ => none

/-- `_as_text`. -/
def asText : LogValue φ → Option LogText
  | .text text => some text
  | .array items => do
      let texts ← ((objects items).filter fun block => isText "text" (block.get "type")).mapM
        fun block => pyStr interpreter (block.getOr "text" "")
      return joinPoints (pointsOf "\n") texts
  | .null => some []
  | value => pyStr interpreter value

/-- `_tool_calls_that_never_ran`. -/
def toolCallsThatNeverRan (event : LogMembers φ) : Option (List (LogValue φ)) :=
  match event.get "tool_result_meta" with
  | .array items =>
      ((objects items).filter fun entry =>
        truthy interpreter (entry.get "non_execution_kind") && (entry.find "id").isSome).mapM
          fun entry => if hashable (entry.get "id") then some (entry.get "id") else none
  | _ => some []

def renderSystem (event : LogMembers φ) : Option (List LogText) :=
  if isText "init" (event.get "subtype") then do
    let tools ← iteratedOrEmpty interpreter (event.get "tools")
    let model ← pyStr interpreter (event.getOr "model" "unknown")
    let mode ← pyStr interpreter (event.getOr "permissionMode" "unknown")
    let names ← tools.mapM (pyStr interpreter)
    return [logLine .run (truncated (pointsOf "model=" ++ model ++ pointsOf " permission-mode=" ++
      mode ++ pointsOf " tools=" ++ joinPoints (pointsOf ",") names))]
  else if isText "permission_denied" (event.get "subtype") then do
    let message ← match event.get "message" with
      | .text text => some text
      | value => if truthy interpreter value then none else some []
    let sentence := firstSentence message
    let reason ←
      if sentence = [] then do
        let kind ← pyStr interpreter (event.getOr "decision_reason_type" "no reason given")
        some (pointsOf "denied (" ++ kind ++ pointsOf ")")
      else some sentence
    let name ← pyStr interpreter (event.getOr "tool_name" "a tool")
    return [logLine .denied (truncated (name ++ pointsOf ": " ++ reason))]
  else some []

def renderAssistantBlock (block : LogMembers φ) : Option (List LogText) :=
  if isText "text" (block.get "type") then do
    let text ← pyStr interpreter (block.getOr "text" "")
    return (shownLines text).map (logLine .assistant)
  else if isText "tool_use" (block.get "type") then do
    let call ← toolCall interpreter (block.get "name") (block.get "input")
    return (trimmedLines call).map (logLine .tool)
  else some []

def renderAssistant (event : LogMembers φ) : Option (List LogText) := do
  let blocks ← contentBlocks event
  let lines ← blocks.mapM (renderAssistantBlock interpreter)
  return lines.flatten

def renderUserBlock (neverRan : List (LogValue φ)) (block : LogMembers φ) :
    Option (List LogText) :=
  if !isText "tool_result" (block.get "type") then some []
  else if !hashable (block.get "tool_use_id") then none
  else if neverRan.any (sameKey interpreter (block.get "tool_use_id")) then some []
  else do
    let label := if truthy interpreter (block.get "is_error") then LogLabel.error else .output
    let text ← asText interpreter (block.get "content")
    return (trimmedLines text).map fun line => logLine label (truncated line)

def renderUser (event : LogMembers φ) : Option (List LogText) := do
  let neverRan ← toolCallsThatNeverRan interpreter event
  let blocks ← contentBlocks event
  let lines ← blocks.mapM (renderUserBlock interpreter neverRan)
  return lines.flatten

def renderResult (event : LogMembers φ) : Option (List LogText) := do
  let duration ← match numberOf (event.get "duration_ms") with
    | some number => (interpreter.seconds number).map fun text => text ++ pointsOf "s"
    | none => some (pointsOf "unknown")
  let cost ← match numberOf (event.get "total_cost_usd") with
    | some number => (interpreter.dollars number).map fun text => pointsOf ", $" ++ text
    | none => some []
  let turns ← match event.get "num_turns" with
    | .null => some []
    | value => (pyStr interpreter value).map fun text => pointsOf ", " ++ text ++ pointsOf " turns"
  let denials ← iteratedOrEmpty interpreter (event.get "permission_denials")
  let calls ← (objects denials).mapM fun denial =>
    toolCall interpreter (denial.get "tool_name") (denial.get "tool_input")
  let subtype ← pyStr interpreter (event.getOr "subtype" "finished")
  return calls.map (logLine .denied) ++
    [logLine .result (subtype ++ pointsOf " in " ++ duration ++ turns ++ cost)]

/-- The keys of `_RENDERERS`. -/
inductive EventKind where
  | system
  | assistant
  | user
  | result
  | rateLimit

def EventKind.name : EventKind → String
  | .system => "system"
  | .assistant => "assistant"
  | .user => "user"
  | .result => "result"
  | .rateLimit => "rate_limit_event"

def eventKinds : List EventKind := [.system, .assistant, .user, .result, .rateLimit]

/-- The kind of event that a `type` names. -/
def eventKind (type : LogValue φ) : Option EventKind :=
  eventKinds.find? fun kind => isText kind.name type

def render : EventKind → LogMembers φ → Option (List LogText)
  | .system => renderSystem interpreter
  | .assistant => renderAssistant interpreter
  | .user => renderUser interpreter
  | .result => renderResult interpreter
  | .rateLimit => fun _ => some []

/-! ## Events and streams -/

def notAnObjectLine : LogText := logLine .diagnostic (pointsOf "event is not a JSON object")

def unrenderedLine (kind : EventKind) : LogText :=
  logLine .diagnostic (reprText interpreter.toCharTable (pointsOf kind.name) ++
    pointsOf " event could not be rendered")

def notJsonLine : LogText := logLine .diagnostic (pointsOf "line is not JSON")

/-- What stands before the `repr` of an unknown `type`. -/
def unrecognised : LogText := logLine .diagnostic (pointsOf "unrecognised event type ")

def formatEvent : LogValue φ → Option (List LogText)
  | .object members =>
      match eventKind (LogMembers.get members "type") with
      | none => do
          let text ← pyRepr interpreter (LogMembers.get members "type")
          return [unrecognised ++ text]
      | some kind =>
          match render interpreter kind members with
          | none => some [unrenderedLine interpreter kind]
          | some lines => some (lines.map (redact interpreter.toCharTable))
  | _ => some [notAnObjectLine]

inductive LogChunk where
  | text (text : LogText)
  | bytes (bytes : Bytes)

def chunkText : LogChunk → LogText
  | .text text => strip text
  | .bytes bytes => strip (interpreter.decode bytes)

/-- `format_stream`: the lines up to the end or to an exception. -/
def formatStream : List LogChunk → List LogText
  | [] => []
  | chunk :: chunks =>
      if chunkText interpreter chunk = [] then formatStream chunks
      else
        match interpreter.loads (chunkText interpreter chunk) with
        | .invalid => notJsonLine :: formatStream chunks
        | .raised => []
        | .value event =>
            match formatEvent interpreter event with
            | none => []
            | some lines => lines ++ formatStream chunks

/-- The events of a stream that are formatted. -/
def streamEvents : List LogChunk → List (LogValue φ)
  | [] => []
  | chunk :: chunks =>
      if chunkText interpreter chunk = [] then streamEvents chunks
      else
        match interpreter.loads (chunkText interpreter chunk) with
        | .invalid => streamEvents chunks
        | .raised => []
        | .value event =>
            event :: if (formatEvent interpreter event).isSome then streamEvents chunks else []

end Renderers

end ManyAlerts
