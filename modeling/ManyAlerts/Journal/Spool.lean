import ManyAlerts.Journal.Sealing
import ManyAlerts.Library.Directory
import ManyAlerts.Library.Runs

/-!
# The body spool

`JournalSpool` keeps the bytes of every admitted notification in one directory, under
the digest of the bytes.  A body is written to a temporary file, which is then
renamed.  Every call of the operating system may fail or end the process; what it
did before stays.  A file of the directory is one the spool made, so it is a regular
file of its owner with one link, and a crash leaves the directory as the calls left
it.
-/

namespace ManyAlerts

def bodyTag : String := "rj.body.v1"

/-- `body_digest`. -/
def bodyDigest (body : Bytes) : String := sha256Hex (ascii bodyTag ++ [0] ++ body)

inductive SpoolCode where
  | spoolArgument
  | spoolPathInvalid
  | spoolFull
  | spoolConflict
  | spoolWriteFailed
  | spoolBroken
deriving DecidableEq

structure JournalSpool where
  maxBytes : Int
  maxEntries : Int
  bytes : Nat
  entries : Nat
  verified : List String := []
  broken : Option SpoolCode := none
  writtenThisBoot : Nat := 0
  fullRefusalsThisBoot : Nat := 0
deriving DecidableEq

/-- How a call of the spool ends without an answer. -/
inductive SpoolStop where
  | refused (code : SpoolCode)
  /-- The process ended. -/
  | died
deriving DecidableEq

inductive Stored where
  | written
  | present
deriving DecidableEq

/-- The directory, and the handle on it. -/
structure SpoolState where
  directory : Directory
  spool : JournalSpool

abbrev SpoolM : Type → Type := EStateM SpoolStop SpoolState

namespace SpoolState

def onDirectory (change : Directory → Directory) (state : SpoolState) : SpoolState :=
  { state with directory := change state.directory }

def onSpool (change : JournalSpool → JournalSpool) (state : SpoolState) : SpoolState :=
  { state with spool := change state.spool }

end SpoolState

/-- Latch the handle and raise. -/
def breakSpool {α : Type} (code : SpoolCode) : SpoolM α := do
  modify (.onSpool fun spool => { spool with broken := some code })
  throw (.refused code)

/-- A call that is not reported as done breaks the handle. -/
def requireDone (code : SpoolCode) (done : Bool) : SpoolM Unit :=
  if done then pure () else breakSpool code

/-- A call that changes nothing: a sync or a close. -/
def flush (fate : CallFate) : SpoolM Bool := attempt .died id fate

/-! ## An entry that exists -/

/-- What becomes of the calls of `_verify_entry`. -/
structure VerifyFates where
  opens : ReadFate
  /-- The most bytes the read returns, if it returns. -/
  reads : Option Nat
  dies : Bool
  closes : ReadFate

/-- `_maybe_present`; only an absent name is reported as absent. -/
def maybePresent (name : String) : ReadFate → SpoolM Bool
  | .answers => do pure ((← get).directory.contains name)
  | .fails => pure true
  | .dies => throw .died

/-- The content read matches the name. -/
def contentMatches (content read : Bytes) (digest : String) : Bool :=
  content.length ≤ maxIngressBodyBytes && read.length = content.length && bodyDigest read = digest

/-- The read returns, and what it returned is the entry. -/
def VerifyFates.accepts (fates : VerifyFates) (content : Bytes) (digest : String) : Bool :=
  match fates.reads with
  | none => false
  | some count => contentMatches content (content.take count) digest

/-- `_verify_entry`. -/
def verifyEntry (digest : String) (fates : VerifyFates) : SpoolM Bool := do
  match fates.opens with
  | .dies => throw .died
  | .fails => pure false
  | .answers =>
      match (← get).directory.get? digest with
      | none => pure false
      | some content =>
          refuse (fates.dies = true) .died
          match fates.closes with
          | .answers => pure (fates.accepts content digest)
          | .fails => throw (.refused .spoolWriteFailed)
          | .dies => throw .died

/-- `_verify_existing`; a close that fails breaks the handle too. -/
def verifyExisting (digest : String) (fates : VerifyFates) (sync : CallFate) : SpoolM Stored := do
  let ok ← tryCatch (verifyEntry digest fates) fun stop =>
    match stop with
    | .died => throw .died
    | .refused code => breakSpool code
  requireDone .spoolConflict ok
  requireDone .spoolWriteFailed (← flush sync)
  modify (.onSpool fun spool => { spool with verified := spool.verified ++ [digest] })
  pure .present

/-! ## A new entry -/

/-- What becomes of a write: how many bytes reach the file, and how it ends. -/
structure WriteFate where
  count : Nat
  ends : ReadFate

structure WriteFates where
  token : String
  create : CallFate
  write : WriteFate
  sync : CallFate
  close : CallFate
  rename : CallFate
  syncDirectory : CallFate

def tempName (digest token : String) : String := ".tmp-" ++ digest ++ "-" ++ token

/-- `os.open` with `O_CREAT` and `O_EXCL`. -/
def createTemp (name : String) (fate : CallFate) : SpoolM Bool := do
  if (← get).directory.contains name then
    match fate with
    | .died _ => throw .died
    | _ => pure false
  else attempt .died (.onDirectory fun directory => directory.set name []) fate

/-- `os.write`; whether the whole body was written. -/
def writeTemp (name : String) (body : Bytes) (fate : WriteFate) : SpoolM Bool := do
  modify (.onDirectory fun directory => directory.set name (body.take fate.count))
  match fate.ends with
  | .answers => pure (decide (body.length ≤ fate.count))
  | .fails => pure false
  | .dies => throw .died

/-- The body is written, synced and closed. -/
def fillTemp (name : String) (body : Bytes) (fates : WriteFates) : SpoolM Bool := do
  let whole ← writeTemp name body fates.write
  -- a short write is not synced
  let synced ← if whole then flush fates.sync else pure false
  let closed ← flush fates.close
  pure (whole && synced && closed)

/-- There is no room. -/
def refuseFull {α : Type} : SpoolM α := do
  modify (.onSpool fun spool =>
    { spool with fullRefusalsThisBoot := spool.fullRefusalsThisBoot + 1 })
  throw (.refused .spoolFull)

/-- `_write_new`. -/
def writeNew (body : Bytes) (digest : String) (fates : WriteFates) : SpoolM Stored := do
  let spool := (← get).spool
  if (spool.bytes + body.length : Int) > spool.maxBytes ∨
      (spool.entries + 1 : Int) > spool.maxEntries then refuseFull else
  let temp := tempName digest fates.token
  requireDone .spoolWriteFailed (← createTemp temp fates.create)
  -- the temporary is an entry from here on
  modify (.onSpool fun spool => { spool with entries := spool.entries + 1 })
  requireDone .spoolWriteFailed (← fillTemp temp body fates)
  let renamed ← attempt .died (.onDirectory fun directory => directory.rename temp digest)
    fates.rename
  requireDone .spoolWriteFailed renamed
  requireDone .spoolWriteFailed (← flush fates.syncDirectory)
  modify (.onSpool fun spool => { spool with
    bytes := spool.bytes + body.length
    verified := spool.verified ++ [digest]
    writtenThisBoot := spool.writtenThisBoot + 1 })
  pure .written

/-! ## The calls -/

structure StoreFates where
  look : ReadFate
  verify : VerifyFates
  verifySync : CallFate
  write : WriteFates

/-- `store`, with the block under its lock. -/
def storeBody (body : Bytes) (digest : String) (fates : StoreFates) : SpoolM Stored := do
  refuse (digest ≠ bodyDigest body) (.refused .spoolArgument)
  let spool := (← get).spool
  refuse (spool.broken ≠ none) (.refused .spoolBroken)
  if digest ∈ spool.verified then pure .present
  else if ← maybePresent digest fates.look then verifyExisting digest fates.verify fates.verifySync
  else writeNew body digest fates.write

/-- `JournalSpool.open`, when the scan succeeds. -/
def JournalSpool.ofDirectory (directory : Directory) (maxBytes maxEntries : Int) :
    JournalSpool where
  maxBytes := maxBytes
  maxEntries := maxEntries
  bytes := directory.bytes isHex64
  entries := directory.size

/-- What is done with one spool directory. -/
inductive SpoolCall where
  | open (maxBytes maxEntries : Int) (scan : ReadFate)
  | store (body : Bytes) (digest : String) (fates : StoreFates)
  /-- The process ends between calls. -/
  | crash

/-- The directory, and the handle if one is open. -/
structure SpoolSystem where
  directory : Directory
  handle : Option JournalSpool

/-- The process that held the handle has ended. -/
def handleGone : Except SpoolStop Stored → Bool
  | .error .died => true
  | _ => false

/-- What a call answers; a store needs a handle. -/
def SpoolSystem.call (system : SpoolSystem) :
    SpoolCall → Option (Except SpoolStop Stored) × SpoolSystem
  | .open maxBytes maxEntries scan =>
      match scan with
      | .answers => (none, { system with
          handle := some (.ofDirectory system.directory maxBytes maxEntries) })
      | _ => (none, { system with handle := none })
  | .crash => (none, { system with handle := none })
  | .store body digest fates =>
      match system.handle with
      | none => (none, system)
      | some spool =>
          let (answer, state) := outcome (storeBody body digest fates) ⟨system.directory, spool⟩
          (some answer, ⟨state.directory, if handleGone answer then none else some state.spool⟩)

/-- A directory that `create_spool` has made. -/
def freshSpool : SpoolSystem := ⟨.empty, none⟩

/-- One call after another. -/
abbrev SpoolRun : SpoolSystem → List SpoolCall → SpoolSystem → Prop :=
  Run fun system call next => (system.call call).2 = next

end ManyAlerts
