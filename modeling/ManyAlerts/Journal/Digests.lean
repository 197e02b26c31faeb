import ManyAlerts.Journal.Projection

/-!
# State digests

Digests of parts of the projection.  Sets of unbounded size (pending entries,
baselines) go through `listDigest`, which hashes each item on its own.
-/

namespace ManyAlerts

def bytesLe (left right : Bytes) : Prop :=
  left.map UInt8.toNat ≤ right.map UInt8.toNat

instance : DecidableRel bytesLe := fun left right =>
  inferInstanceAs (Decidable (left.map UInt8.toNat ≤ right.map UInt8.toNat))

/-- A number below `2 ^ 32` in four big-endian bytes. -/
def bigEndian4 (value : Nat) : Bytes :=
  (List.range 4).map fun index => UInt8.ofNat (value >>> (8 * (3 - index)) % 256)

def listDigest (tag : String) (items : List Json) : Except Failure String := do
  let encoded ← collect (items.map fun item => liftJson (canonicalJson true item))
  let canonical := encoded.insertionSort bytesLe
  return sha256Hex (ascii tag ++ 0x00 :: bigEndian4 canonical.length ++
    canonical.flatMap sha256)

def pendingEntryJson (entry : PendingEntry) : Json :=
  .arr [.str entry.fingerprint, .str entry.admissionId, .nat entry.arrivalSeq,
    .str entry.sourceGroup, .str entry.status.text, .optional valuesJson entry.values]

def pendingDigest (p : Projection) : Except Failure String :=
  listDigest "rj.pending-set.v1" (p.pending.values.map pendingEntryJson)

/-! ## The journal state and the front door -/

def headJson (head : Head) : Json :=
  .obj [("commit_seq", .nat head.commitSeq), ("event_seq", .nat head.eventSeq),
    ("generation", .nat head.generation), ("record_digest", .str head.recordDigest)]

def baselineItemJson (entry : String × Baseline) : Json :=
  .arr [.str entry.1, .str entry.2.admissionId, .bool entry.2.complete, .str entry.2.dedupeKey]

def holdItemJson (entry : HoldCode × Nat) : Json :=
  .arr [.str entry.1.text, .nat entry.2]

def stateDigest (p : Projection) : Except Failure String := do
  let pending ← pendingDigest p
  let baselines ← listDigest "rj.baseline-set.v1" (p.baselines.entries.map baselineItemJson)
  let holds := p.dispatchHolds.entries.insertionSort fun left right =>
    left.1.text ≤ right.1.text
  liftJson (taggedDigest "rj.state.v1"
    (.obj [("journal_uuid", .optional .str p.journalUuid), ("generation", .nat p.generation),
      ("head", .optional headJson p.head), ("admission_count", .nat p.admissionCount),
      ("last_arrival_seq", .nat p.lastArrivalSeq), ("logical_bytes", .nat p.logicalBytes),
      ("dispatch_holds", .arr (holds.map holdItemJson)), ("pending_digest", .str pending),
      ("baseline_digest", .str baselines)]))

end ManyAlerts
