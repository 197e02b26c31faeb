import ManyAlerts.Forwarder.Scope
import ManyAlerts.Library.Hashes

/-!
# Scope manifests as bytes

The reader of a scope manifest takes the parsed document apart with its own
checks and builds the manifest again; bytes that are not the canonical bytes of
the result are refused.  Every manifest that can be built passes the reader, so
its bytes and its digest stand for it.
-/

namespace ManyAlerts

/-- What building or reading a manifest raises: a `RouteConfigError`, or the
`JSONPolicyError` of the canonical encoding. -/
inductive ManifestError where
  | config (code : RouteConfigCode)
  | json (code : JsonErrorCode)
deriving DecidableEq

/-! ## Constructors -/

/-- `ScopedIssue.__post_init__`. -/
def buildIssue (issueId issueKey : String) : Except ManifestError ScopedIssue :=
  if wellFormed : (isNumericId issueId && isIssueKey issueKey) = true then
    .ok ⟨issueId, issueKey, wellFormed⟩
  else .error (.config .manifestInvalid)

/-- `JiraScope.__post_init__`. -/
def buildScope (issues : List ScopedIssue) (searchLabels : List String) :
    Except ManifestError JiraScope :=
  if valid : validScope issues searchLabels = true then .ok ⟨issues, searchLabels, valid⟩
  else .error (.config .manifestInvalid)

/-- `ScopeManifest.__post_init__`. -/
def buildManifest (fields : ManifestFields) : Except ManifestError ScopeManifest :=
  if valid : fields.valid = true then
    match encoded : canonicalJson true fields.document with
    | .error code => .error (.json code)
    | .ok canonicalBytes =>
        if small : canonicalBytes.length ≤ maxManifestBytes then
          .ok { fields with canonicalBytes, valid, encoded, small }
        else .error (.config .manifestTooLarge)
  else .error (.config .manifestInvalid)

/-- The service that a text names; a text that names none is as invalid as any
service but `jira`. -/
def serviceNamed (text : String) : Option Service :=
  [Service.anthropic, .confluence, .grafana, .jira, .kubernetes].find? (·.text = text)

/-! ## The reader -/

/-- A value of type `str`. -/
def takeText : Json → Except ManifestError String
  | .str text => .ok text
  | _ => .error (.config .manifestInvalid)

/-- A value of type `tuple`. -/
def takeTuple : Json → Except ManifestError (List Json)
  | .arr items => .ok items
  | _ => .error (.config .manifestInvalid)

def takeTexts (value : Json) : Except ManifestError (List String) := do
  let items ← takeTuple value
  items.mapM takeText

def manifestTopKeys : List String :=
  ["attempt_id", "policy_digest", "rehearsal_id", "revision", "routes", "run_id", "schema",
    "scope", "service"]

/-- One entry of the issues. -/
def issueFromDocument (entry : Json) : Except ManifestError ScopedIssue := do
  failIf (entry.hasExactKeys ["id", "key"] = false) (.config .manifestInvalid)
  let issueId ← takeText (entry.get "id")
  let issueKey ← takeText (entry.get "key")
  buildIssue issueId issueKey

/-- `_manifest_from_document`. -/
def manifestFromDocument (parsed : Json) : Except ManifestError ScopeManifest := do
  failIf (parsed.hasExactKeys manifestTopKeys = false) (.config .manifestInvalid)
  failIf (parsed.get "schema" ≠ .str "maoi.forwarder.scope.v1") (.config .manifestInvalid)
  let scopeDocument := parsed.get "scope"
  failIf (scopeDocument.hasExactKeys ["issues", "search_labels"] = false)
    (.config .manifestInvalid)
  let issuesDocument ← takeTuple (scopeDocument.get "issues")
  let issues ← issuesDocument.mapM issueFromDocument
  let searchLabels ← takeTexts (scopeDocument.get "search_labels")
  let scope ← buildScope issues searchLabels
  let routes ← takeTexts (parsed.get "routes")
  let serviceText ← takeText (parsed.get "service")
  let runId ← takeText (parsed.get "run_id")
  let attemptId ← takeText (parsed.get "attempt_id")
  let rehearsalId ← takeText (parsed.get "rehearsal_id")
  let revision ← takeText (parsed.get "revision")
  let policyDigest ← takeText (parsed.get "policy_digest")
  let service ← orFail (.config .manifestInvalid) (serviceNamed serviceText)
  buildManifest ⟨service, runId, attemptId, rehearsalId, revision, routes, policyDigest, scope⟩

/-- `parse_scope_manifest`. -/
def parseScopeManifest (data : Bytes) : Except ManifestError ScopeManifest := do
  failIf (maxManifestBytes < data.length) (.config .manifestTooLarge)
  let parsed ← (parseJson (.ascii maxManifestBytes) data).mapError fun _ =>
    .config .manifestInvalid
  let manifest ← manifestFromDocument parsed
  failIf (manifest.canonicalBytes ≠ data) (.config .manifestInvalid)
  return manifest

/-! ## The document in canonical order -/

theorem Json.sortKeys_obj_of_sorted {members : List (String × Json)}
    (sorted : ((members.map Prod.fst).map utf16).Pairwise (· ≤ ·))
    (values : ∀ member ∈ members, member.2.sortKeys = member.2) :
    (Json.obj members).sortKeys = .obj members := by
  have fixed : members.map (fun member => (member.1, member.2.sortKeys)) = members := by
    conv_rhs => rw [← List.map_id members]
    apply List.map_congr_left
    intro member inside
    rw [values member inside]
    rfl
  rw [List.pairwise_map, List.pairwise_map] at sorted
  have ordered : members.Pairwise ByKey := sorted
  rw [Json.sortKeys, Json.sortKeysMembers_eq_map, fixed, sortMembers, ordered.insertionSort_eq]

theorem Json.sortKeys_arr_of_sorted {items : List Json}
    (each : ∀ item ∈ items, item.sortKeys = item) : (Json.arr items).sortKeys = .arr items := by
  rw [Json.sortKeys_arr]
  congr 1
  conv_rhs => rw [← List.map_id items]
  exact List.map_congr_left each

def ScopedIssue.document (issue : ScopedIssue) : Json :=
  .obj [("id", .str issue.issueId), ("key", .str issue.issueKey)]

theorem ScopedIssue.sortKeys_document (issue : ScopedIssue) :
    issue.document.sortKeys = issue.document := by
  apply Json.sortKeys_obj_of_sorted
  · have sorted : (["id", "key"].map utf16).Pairwise (· ≤ ·) := by decide
    exact sorted
  · intro member inside
    simp only [List.mem_cons, List.not_mem_nil, or_false] at inside
    rcases inside with rfl | rfl <;> rfl

theorem sortKeys_texts (texts : List String) :
    (Json.arr (texts.map .str)).sortKeys = .arr (texts.map .str) := by
  apply Json.sortKeys_arr_of_sorted
  intro item inside
  obtain ⟨text, -, rfl⟩ := List.mem_map.mp inside
  rfl

def JiraScope.document (scope : JiraScope) : Json :=
  .obj [("issues", .arr (scope.issues.map ScopedIssue.document)),
    ("search_labels", .arr (scope.searchLabels.map .str))]

theorem JiraScope.sortKeys_document (scope : JiraScope) :
    scope.document.sortKeys = scope.document := by
  apply Json.sortKeys_obj_of_sorted
  · have sorted : (["issues", "search_labels"].map utf16).Pairwise (· ≤ ·) := by decide
    exact sorted
  · intro member inside
    simp only [List.mem_cons, List.not_mem_nil, or_false] at inside
    rcases inside with rfl | rfl
    · apply Json.sortKeys_arr_of_sorted
      intro item listed
      obtain ⟨issue, -, rfl⟩ := List.mem_map.mp listed
      exact issue.sortKeys_document
    · exact sortKeys_texts scope.searchLabels

namespace ManifestFields

theorem sortKeys_document (fields : ManifestFields) :
    fields.document.sortKeys = fields.document := by
  apply Json.sortKeys_obj_of_sorted
  · have sorted : (manifestTopKeys.map utf16).Pairwise (· ≤ ·) := by decide
    exact sorted
  · intro member inside
    simp only [List.mem_cons, List.not_mem_nil, or_false] at inside
    rcases inside with rfl | rfl | rfl | rfl | rfl | rfl | rfl | rfl | rfl
    case inr.inr.inr.inr.inl => exact sortKeys_texts fields.routes
    case inr.inr.inr.inr.inr.inr.inr.inl => exact fields.scope.sortKeys_document
    all_goals rfl

theorem keysDistinct_document (fields : ManifestFields) : fields.document.KeysDistinct := by
  have texts (texts : List String) : (Json.arr (texts.map .str)).KeysDistinct := by
    refine Json.keysDistinctItems_iff.mpr fun item inside => ?_
    obtain ⟨text, -, rfl⟩ := List.mem_map.mp inside
    trivial
  have issues : (Json.arr (fields.scope.issues.map ScopedIssue.document)).KeysDistinct := by
    refine Json.keysDistinctItems_iff.mpr fun item inside => ?_
    obtain ⟨issue, -, rfl⟩ := List.mem_map.mp inside
    exact ⟨by simp, trivial, trivial, trivial⟩
  have keys : manifestTopKeys.Nodup := by decide
  refine ⟨keys, trivial, trivial, trivial, trivial, texts fields.routes, trivial, trivial,
    ⟨by simp, issues, texts fields.scope.searchLabels, trivial⟩, trivial, trivial⟩

end ManifestFields

/-! ## Reading a manifest back -/

theorem mapM_ok {α β ε : Type} {read : α → Except ε β} {value : α → β} {items : List α}
    (each : ∀ item ∈ items, read item = .ok (value item)) :
    items.mapM read = .ok (items.map value) := by
  induction items with
  | nil => rfl
  | cons item items induction =>
      have rest := induction fun other inside => each other (List.mem_cons_of_mem _ inside)
      rw [List.mapM_cons, each item List.mem_cons_self, ok_bind, rest]
      rfl

theorem mapM_map_ok {α β ε : Type} {read : β → Except ε α} {write : α → β} {items : List α}
    (each : ∀ item ∈ items, read (write item) = .ok item) :
    (items.map write).mapM read = .ok items := by
  have composed : items.mapM (read ∘ write) = .ok (items.map id) := mapM_ok each
  rw [List.mapM_map, composed, List.map_id]

theorem takeTexts_texts (texts : List String) :
    takeTexts (.arr (texts.map .str)) = .ok texts :=
  mapM_map_ok fun _ _ => rfl

theorem issueFromDocument_document (issue : ScopedIssue) :
    issueFromDocument issue.document = .ok issue :=
  dif_pos issue.wellFormed

theorem buildScope_scope (scope : JiraScope) :
    buildScope scope.issues scope.searchLabels = .ok scope :=
  dif_pos scope.valid

theorem buildManifest_manifest (manifest : ScopeManifest) :
    buildManifest manifest.toManifestFields = .ok manifest := by
  rw [buildManifest, dif_pos manifest.valid]
  split
  · rename_i code failed
    cases failed.symm.trans manifest.encoded
  · rename_i bytes encoded
    obtain rfl : bytes = manifest.canonicalBytes :=
      Except.ok.inj (encoded.symm.trans manifest.encoded)
    exact dif_pos manifest.small

theorem manifestFromDocument_document (manifest : ScopeManifest) :
    manifestFromDocument manifest.document = .ok manifest := by
  have service : serviceNamed manifest.service.text = some manifest.service := by
    cases manifest.service <;> decide
  have issues : (manifest.scope.issues.map ScopedIssue.document).mapM issueFromDocument =
      .ok manifest.scope.issues := mapM_map_ok fun issue _ => issueFromDocument_document issue
  have keys : manifest.document.hasExactKeys manifestTopKeys = true := rfl
  have scopeKeys : manifest.scope.document.hasExactKeys ["issues", "search_labels"] = true := rfl
  have scope : manifest.document.get "scope" = manifest.scope.document := rfl
  have schema : manifest.document.get "schema" = .str "maoi.forwarder.scope.v1" := rfl
  simp only [manifestFromDocument, bind_eq_ok, failIf_eq_ok, exists_unit, orFail_eq_ok, keys, scope,
    scopeKeys, schema, Bool.true_eq_false, not_false_eq_true, ne_eq, not_true_eq_false, true_and]
  exact ⟨_, rfl, _, issues, _, takeTexts_texts _, _, buildScope_scope manifest.scope,
    _, takeTexts_texts _, _, rfl, _, rfl, _, rfl, _, rfl, _, rfl, _, rfl, _, service,
    buildManifest_manifest manifest⟩

theorem parseScopeManifest_canonicalBytes (manifest : ScopeManifest) :
    parseScopeManifest manifest.canonicalBytes = .ok manifest := by
  have parsed : parseJson (.ascii maxManifestBytes) manifest.canonicalBytes =
      .ok manifest.document := by
    rw [← manifest.sortKeys_document]
    exact parseJson_canonicalJson manifest.encoded manifest.keysDistinct_document (by decide)
      (by decide) manifest.small
  rw [parseScopeManifest, failIf_of_not (not_lt.mpr manifest.small), ok_bind, parsed]
  simp only [Except.mapError, ok_bind, manifestFromDocument_document, bind_eq_ok, failIf_eq_ok,
    exists_unit, ne_eq, not_true_eq_false, not_false_eq_true, true_and, pure_eq_ok]

theorem canonicalBytes_of_parseScopeManifest {data : Bytes} {manifest : ScopeManifest}
    (parsed : parseScopeManifest data = .ok manifest) : manifest.canonicalBytes = data := by
  simp only [parseScopeManifest, bind_eq_ok, failIf_eq_ok, exists_unit, pure_eq_ok, ne_eq,
    not_not] at parsed
  obtain ⟨-, document, -, built, -, same, rfl⟩ := parsed
  exact same

/-! ## Digests -/

/-- What the digest of a manifest is the hash of. -/
def ScopeManifest.digestText (manifest : ScopeManifest) : Bytes :=
  ascii scopeDigestTag ++ 0x00 :: manifest.canonicalBytes

/-- The bytes of a manifest say which it is, because they are read back. -/
theorem ScopeManifest.eq_of_canonicalBytes {left right : ScopeManifest}
    (same : left.canonicalBytes = right.canonicalBytes) : left = right := by
  have parsed := parseScopeManifest_canonicalBytes left
  rw [same, parseScopeManifest_canonicalBytes right] at parsed
  exact (Except.ok.inj parsed).symm

/-- A digest names its manifest. -/
theorem ScopeManifest.eq_of_digest {texts : List Bytes} {left right : ScopeManifest}
    (apart : HashesApart texts) (leftIn : left.digestText ∈ texts)
    (rightIn : right.digestText ∈ texts) (same : left.digest = right.digest) : left = right := by
  have texts := apart.hex leftIn rightIn same
  apply ScopeManifest.eq_of_canonicalBytes
  exact (List.cons.inj (List.append_cancel_left texts)).2

/-- What is accepted is exactly the canonical bytes of manifests, and neither two
byte strings nor two digests stand for the same one. -/
structure ManifestCodec : Prop where
  reads : ∀ manifest : ScopeManifest, parseScopeManifest manifest.canonicalBytes = .ok manifest
  canonical : ∀ data manifest, parseScopeManifest data = .ok manifest →
    manifest.canonicalBytes = data
  unique : ∀ data other manifest, parseScopeManifest data = .ok manifest →
    parseScopeManifest other = .ok manifest → data = other
  digest : ∀ left right : ScopeManifest, HashesApart [left.digestText, right.digestText] →
    left.digest = right.digest → left = right

theorem scope_manifest_codec : ManifestCodec where
  reads := parseScopeManifest_canonicalBytes
  canonical := by
    intro data manifest parsed
    exact canonicalBytes_of_parseScopeManifest parsed
  unique := by
    intro data other manifest parsed again
    rw [← canonicalBytes_of_parseScopeManifest parsed, canonicalBytes_of_parseScopeManifest again]
  digest := by
    intro left right apart same
    exact ScopeManifest.eq_of_digest apart (by simp) (by simp) same

/-- The fields of a manifest that allows one issue and the search for one label. -/
def sampleManifest (runId : String) : ManifestFields :=
  ⟨.jira, runId, "attempt-1", "rehearsal-1", "r1", ["jira.issue.get", "jira.search"],
    "".pushn 'a' 64, ⟨[⟨"10001", "OPS-1", by decide⟩], ["many-alerts"], by decide⟩⟩

/-- The manifests of two runs of the same attempt. -/
theorem scope_manifest_codec_sample : ∃ first second : ScopeManifest,
    buildManifest (sampleManifest "run-1") = .ok first ∧
      buildManifest (sampleManifest "run-2") = .ok second ∧
      parseScopeManifest first.canonicalBytes = .ok first ∧
      (∀ data, parseScopeManifest data = .ok first → data = first.canonicalBytes) ∧
      HashesApart [first.digestText, second.digestText] ∧ first.digest ≠ second.digest := by
  have built : (buildManifest (sampleManifest "run-1")).toOption.map (·.canonicalBytes) =
      some (sampleManifest "run-1").document.encode := by
    decide +kernel
  have otherBuilt : (buildManifest (sampleManifest "run-2")).toOption.map (·.canonicalBytes) =
      some (sampleManifest "run-2").document.encode := by
    decide +kernel
  obtain ⟨first, isFirst, bytes⟩ := Option.map_eq_some_iff.mp built
  obtain ⟨second, isSecond, otherBytes⟩ := Option.map_eq_some_iff.mp otherBuilt
  have apart : HashesApart [first.digestText, second.digestText] := by
    rw [ScopeManifest.digestText, ScopeManifest.digestText, bytes, otherBytes]
    exact hashesApart_of_hex (by decide +kernel)
  have parsed := scope_manifest_codec.reads first
  refine ⟨first, second, toOption_eq_some.mp isFirst, toOption_eq_some.mp isSecond, parsed, ?_,
    apart, ?_⟩
  · intro data again
    exact scope_manifest_codec.unique _ _ _ again parsed
  · intro same
    obtain rfl := scope_manifest_codec.digest first second apart same
    have different : (sampleManifest "run-1").document.encode ≠
        (sampleManifest "run-2").document.encode := by
      decide +kernel
    exact different (bytes.symm.trans otherBytes)

end ManyAlerts
