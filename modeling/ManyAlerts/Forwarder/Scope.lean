import ManyAlerts.Forwarder.ParseJson
import ManyAlerts.Journal.Vocabulary

/-!
# What a lease may reach

A scope manifest names the issues and the search labels that one attempt may
reach, and the routes on which it may reach them.  Its digest is what a lease is
bound to.
-/

namespace ManyAlerts

def maxManifestBytes : Nat := 16384
def maxScopedIssues : Nat := 256
def maxSearchLabels : Nat := 256

/-- The codes of `RouteConfigError`. -/
inductive RouteConfigCode where
  | policyInvalid
  | policyTooLarge
  | manifestInvalid
  | manifestTooLarge
  | manifestBindingMismatch
  | digestInputInvalid
deriving DecidableEq

/-! ## The catalog of routes

Whether a route is enabled, and what it still misses, is for operators only. -/

/-- `_ROUTE_DEFINITIONS`. -/
def routeDefinitions : List (String × Service) :=
  [("jira.issue.get", .jira), ("jira.search", .jira), ("jira.issue.create", .jira),
    ("jira.issue.update", .jira), ("jira.comment.add", .jira), ("jira.comments.list", .jira),
    ("jira.comment.get", .jira), ("jira.transition", .jira), ("reference.read", .confluence),
    ("draft.create", .confluence), ("draft.read", .confluence), ("draft.update", .confluence),
    ("pod_list", .kubernetes), ("pod_status", .kubernetes), ("pod_events", .kubernetes),
    ("service_endpoints", .kubernetes), ("metrics_instant", .grafana), ("metrics_range", .grafana),
    ("logs_range", .grafana), ("traces_search", .grafana), ("trace_get", .grafana),
    ("eyes.run_telemetry_query", .grafana), ("eyes.change_query", .grafana),
    ("grafana_health", .grafana), ("anthropic.messages", .anthropic)]

/-- The service of a route of `ROUTE_CATALOG`. -/
def routeService (routeId : String) : Option Service :=
  (routeDefinitions.find? fun route => route.1 = routeId).map Prod.snd

/-! ## Patterns -/

/-- `[1-9][0-9]{0,17}`. -/
def isNumericChars : List Char → Bool
  | [] => false
  | first :: rest =>
      first.isDigit && first ≠ '0' && rest.length ≤ 17 && rest.all Char.isDigit

/-- `_NUMERIC_ID_RE`. -/
def isNumericId (text : String) : Bool := isNumericChars text.toList

/-- `[A-Z][A-Z0-9_]{1,9}`. -/
def isProjectKeyChars : List Char → Bool
  | [] => false
  | first :: rest =>
      first.isUpper && 1 ≤ rest.length && rest.length ≤ 9 &&
        rest.all fun character => character.isUpper || character.isDigit || character = '_'

/-- `_ISSUE_KEY_RE`: a project key, a hyphen and a number. -/
def isIssueKey (text : String) : Bool :=
  match text.toList.span (· ≠ '-') with
  | (project, _ :: number) => isProjectKeyChars project && isNumericChars number
  | (_, []) => false

/-- `_SEARCH_LABEL_RE`. -/
def isSearchLabel (text : String) : Bool :=
  match text.toList with
  | [] => false
  | first :: rest =>
      (first.isLower || first.isDigit) && rest.length ≤ 127 &&
        rest.all fun character => character.isLower || character.isDigit || character = '.' ||
          character = '_' || character = '-'

/-- `_valid_tuple`: so many valid texts, strictly ascending. -/
def validTuple (minLength maxLength : Nat) (itemOk : String → Bool) (items : List String) : Bool :=
  minLength ≤ items.length && items.length ≤ maxLength && items.all itemOk &&
    decide (items.IsChain (· < ·))

/-! ## Manifests -/

structure ScopedIssue where
  issueId : String
  issueKey : String
  wellFormed : (isNumericId issueId && isIssueKey issueKey) = true
deriving DecidableEq

/-- The number that an issue identifier writes. -/
def ScopedIssue.number (issue : ScopedIssue) : Int := lexemeValue issue.issueId.toList

/-- What the constructor of `JiraScope` checks. -/
def validScope (issues : List ScopedIssue) (searchLabels : List String) : Bool :=
  issues.length ≤ maxScopedIssues &&
    decide ((issues.map ScopedIssue.issueId).Nodup) &&
    decide ((issues.map ScopedIssue.issueKey).Nodup) &&
    decide ((issues.map ScopedIssue.number).IsChain (· < ·)) &&
    validTuple 0 maxSearchLabels isSearchLabel searchLabels

structure JiraScope where
  issues : List ScopedIssue
  searchLabels : List String
  valid : validScope issues searchLabels = true
deriving DecidableEq

/-- `MATCHABLE_ROUTE_IDS`. -/
inductive MatchableRoute where
  | issueGet
  | search
deriving DecidableEq

def MatchableRoute.text : MatchableRoute → String
  | .issueGet => "jira.issue.get"
  | .search => "jira.search"

/-- The arguments of a scope manifest. -/
structure ManifestFields where
  service : Service
  runId : String
  attemptId : String
  rehearsalId : String
  revision : String
  routes : List String
  policyDigest : String
  scope : JiraScope
deriving DecidableEq

namespace ManifestFields

/-- What the constructor of `ScopeManifest` checks. -/
def valid (fields : ManifestFields) : Bool :=
  fields.service = .jira &&
    [fields.runId, fields.attemptId, fields.rehearsalId, fields.revision].all isId &&
    validTuple 1 2 (fun route => [MatchableRoute.issueGet.text, MatchableRoute.search.text].contains
      route) fields.routes &&
    isHex64 fields.policyDigest &&
    (!fields.scope.issues.isEmpty) = fields.routes.contains MatchableRoute.issueGet.text &&
    (!fields.scope.searchLabels.isEmpty) = fields.routes.contains MatchableRoute.search.text

/-- The document that is hashed. -/
def document (fields : ManifestFields) : Json :=
  .obj
    [("attempt_id", .str fields.attemptId),
      ("policy_digest", .str fields.policyDigest),
      ("rehearsal_id", .str fields.rehearsalId),
      ("revision", .str fields.revision),
      ("routes", .arr (fields.routes.map .str)),
      ("run_id", .str fields.runId),
      ("schema", .str "maoi.forwarder.scope.v1"),
      ("scope", .obj
        [("issues", .arr (fields.scope.issues.map fun issue =>
            .obj [("id", .str issue.issueId), ("key", .str issue.issueKey)])),
          ("search_labels", .arr (fields.scope.searchLabels.map .str))]),
      ("service", .str fields.service.text)]

end ManifestFields

/-- A manifest with its canonical bytes. -/
structure ScopeManifest extends ManifestFields where
  canonicalBytes : Bytes
  valid : toManifestFields.valid = true
  encoded : canonicalJson true toManifestFields.document = .ok canonicalBytes
  small : canonicalBytes.length ≤ maxManifestBytes
deriving DecidableEq

def scopeDigestTag : String := "maoi.forwarder.scope.v1"

/-- The tagged digest of a manifest's document. -/
def ScopeManifest.digest (manifest : ScopeManifest) : String :=
  sha256Hex (ascii scopeDigestTag ++ 0x00 :: manifest.canonicalBytes)

end ManyAlerts
