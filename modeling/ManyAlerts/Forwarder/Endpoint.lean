import ManyAlerts.Forwarder.ManifestCodec
import ManyAlerts.Journal.Sealing
import ManyAlerts.Library.Splitting

/-!
# Upstream endpoints

An endpoint is described by a document whose digest binds credentials and
connectors to it.  The digest is computed from the canonical encoding; the bytes
that the endpoint hands out are written by an encoder of its own, which knows the
thirteen members and their order.  What the validation of the arguments lets
through is plain enough for both encoders to write the same text.
-/

namespace ManyAlerts

/-- The codes of `UpstreamConfigError`. -/
inductive UpstreamConfigCode where
  | endpointInvalid
  | trustInvalid
  | endpointUnqualified
  | credentialInvalid
  | credentialMismatch
  | credentialClaimed
deriving DecidableEq

/-- What building an endpoint raises. -/
inductive EndpointFailure where
  | config (code : UpstreamConfigCode)
  | json (code : JsonErrorCode)
  | keyError
  | typeError
deriving DecidableEq

def maxTrustCertificates : Nat := 16

/-! ## Grammar -/

/-- `[a-z0-9]`. -/
def isLabelEdge (character : Char) : Bool := character.isLower || character.isDigit

/-- `[a-z0-9](?:[a-z0-9-]{0,61}[a-z0-9])?`. -/
def isHostLabel (label : List Char) : Bool :=
  label.length ≤ 63 && label.head?.any isLabelEdge && label.getLast?.any isLabelEdge &&
    label.all fun character => isLabelEdge character || character = '-'

/-- `_HOST_GRAMMAR`: at least two labels, the last of which starts with a letter. -/
def matchesHost (host : List Char) : Bool :=
  4 ≤ host.length && host.length ≤ 253 && 2 ≤ (host.splitOn '.').length &&
    (host.splitOn '.').all isHostLabel &&
    (host.splitOn '.').getLast?.any fun label => label.head?.any Char.isLower

def endsWith (text ending : String) : Bool := ending.toList.isSuffixOf text.toList

/-- `_valid_host`. -/
def validHost (host : String) : Bool :=
  matchesHost host.toList && host ≠ "localhost" && !endsWith host ".localhost" &&
    !endsWith host ".local"

/-- `25[0-5]|2[0-4][0-9]|1[0-9]{2}|[1-9]?[0-9]`. -/
def isOctet : List Char → Bool
  | [ones] => ones.isDigit
  | [tens, ones] => tens.isDigit && tens ≠ '0' && ones.isDigit
  | [hundreds, tens, ones] =>
      hundreds = '1' && tens.isDigit && ones.isDigit ||
        hundreds = '2' && tens.isDigit && tens ≤ '4' && ones.isDigit ||
        hundreds = '2' && tens = '5' && ones.isDigit && ones ≤ '5'
  | _ => false

/-- An address as a number of 32 bits. -/
def quad (first second third fourth : Nat) : Nat :=
  ((first * 256 + second) * 256 + third) * 256 + fourth

/-- `_valid_address`: what `_DOTTED_QUAD` accepts is the text of the address that
`ipaddress` reads in it. -/
def validAddress (text : String) : Option Nat :=
  match text.toList.splitOn '.' with
  | [first, second, third, fourth] =>
      if [first, second, third, fourth].all isOctet then
        some (quad (Nat.ofDigitChars 10 first 0) (Nat.ofDigitChars 10 second 0)
          (Nat.ofDigitChars 10 third 0) (Nat.ofDigitChars 10 fourth 0))
      else none
  | _ => none

/-! ## Networks -/

structure Network where
  base : Nat
  bits : Nat

def Network.contains (network : Network) (address : Nat) : Bool :=
  address / 2 ^ (32 - network.bits) = network.base / 2 ^ (32 - network.bits)

def syntheticNetworks : List Network :=
  [⟨quad 192 0 2 0, 24⟩, ⟨quad 198 51 100 0, 24⟩, ⟨quad 203 0 113 0, 24⟩]

def deniedNetworks : List Network :=
  [⟨quad 0 0 0 0, 8⟩, ⟨quad 127 0 0 0, 8⟩, ⟨quad 169 254 0 0, 16⟩, ⟨quad 224 0 0 0, 4⟩,
    ⟨quad 240 0 0 0, 4⟩]

/-- `is_loopback`, `is_link_local`, `is_multicast`, `is_reserved` and `is_unspecified`. -/
def isSpecialAddress (address : Nat) : Bool :=
  Network.contains ⟨quad 127 0 0 0, 8⟩ address ||
    Network.contains ⟨quad 169 254 0 0, 16⟩ address ||
    Network.contains ⟨quad 224 0 0 0, 4⟩ address ||
    Network.contains ⟨quad 240 0 0 0, 4⟩ address || address = 0

/-! ## The document -/

/-- The arguments of `_validate_endpoint_core`. -/
structure EndpointCore where
  service : String
  revision : String
  host : String
  address : String
  port : Int
  credentialId : String
deriving DecidableEq

/-- `CREDENTIAL_PROFILES`. -/
def credentialProfile (service : String) : Option String :=
  if service = "jira" then some "basic" else none

/-- `_validate_endpoint_core`. -/
def validateEndpointCore (core : EndpointCore) : Except EndpointFailure Nat := do
  failIf ((credentialProfile core.service).isNone) (.config .endpointInvalid)
  failIf (isId core.revision = false ∨ isId core.credentialId = false)
    (.config .endpointInvalid)
  failIf (validHost core.host = false) (.config .endpointInvalid)
  let address ← orFail (.config .endpointInvalid) (validAddress core.address)
  failIf (deniedNetworks.any fun network => network.contains address) (.config .endpointInvalid)
  failIf (isSpecialAddress address) (.config .endpointInvalid)
  failIf (¬(1 ≤ core.port ∧ core.port ≤ 65535)) (.config .endpointInvalid)
  return address

/-- `_valid_trust_tuple`. -/
def validTrustTuple (trustSha256 : List String) : Bool :=
  validTuple 1 maxTrustCertificates isHex64 trustSha256

def endpointSchema : String := "maoi.forwarder.upstream-endpoint.v1"

/-- The members of the document. -/
def EndpointCore.members (core : EndpointCore) (trustSha256 : List String) (profile : String) :
    List (String × Json) :=
  [("address", .str core.address),
    ("base_path", .str "/rest/api/3/"),
    ("credential_id", .str core.credentialId),
    ("credential_profile", .str profile),
    ("endpoint_policy", .str "synthetic-only.v1"),
    ("host", .str core.host),
    ("port", .num core.port),
    ("revision", .str core.revision),
    ("schema", .str endpointSchema),
    ("service", .str core.service),
    ("tls_profile", .str "maoi.forwarder.upstream-tls.v1"),
    ("trust_sha256", .arr (trustSha256.map .str)),
    ("wire_profile", .str "maoi.forwarder.upstream-wire.v1")]

/-- `endpoint_document`. -/
def endpointDocument (core : EndpointCore) (trustSha256 : List String) :
    Except EndpointFailure Json := do
  let address ← validateEndpointCore core
  failIf (validTrustTuple trustSha256 = false) (.config .trustInvalid)
  failIf (¬(endsWith core.host ".invalid" = true ∧
    (syntheticNetworks.any fun network => network.contains address) = true))
    (.config .endpointUnqualified)
  let profile ← orFail .keyError (credentialProfile core.service)
  return .obj (core.members trustSha256 profile)

/-! ## The encoder of the endpoint -/

/-- `str.replace` of one character. -/
def replaceChar (old : Char) (new : List Char) (text : List Char) : List Char :=
  text.flatMap fun character => if character = old then new else [character]

/-- `_encode_json_string`; of the ASCII characters, `isprintable` holds of those
from the space to the tilde. -/
def encodeJsonString (value : String) : Except EndpointFailure (List Char) := do
  failIf (value.toList.all isPrintable = false) (.config .endpointInvalid)
  let escaped := replaceChar '"' ['\\', '"'] (replaceChar '\\' ['\\', '\\'] value.toList)
  return '"' :: (escaped ++ ['"'])

inductive MemberKind where
  | str
  | int
  | list

def endpointMembers : List (String × MemberKind) :=
  [("address", .str), ("base_path", .str), ("credential_id", .str), ("credential_profile", .str),
    ("endpoint_policy", .str), ("host", .str), ("port", .int), ("revision", .str),
    ("schema", .str), ("service", .str), ("tls_profile", .str), ("trust_sha256", .list),
    ("wire_profile", .str)]

def encodeListItem : Json → Except EndpointFailure (List Char)
  | .str text => encodeJsonString text
  | _ => .error .typeError

def encodeMemberValue : MemberKind → Json → Except EndpointFailure (List Char)
  | .int, .num value => .ok (intChars value)
  | .list, .arr items => do
      let parts ← items.mapM encodeListItem
      return '[' :: (joinChars parts ++ [']'])
  | .str, .str text => encodeJsonString text
  | _, _ => .error .typeError

def renderMember (member : String × Json × MemberKind) : Except EndpointFailure (List Char) := do
  let encodedValue ← encodeMemberValue member.2.2 member.2.1
  let encodedKey ← encodeJsonString member.1
  return encodedKey ++ ':' :: encodedValue

/-- `_endpoint_canonical_bytes`. -/
def endpointCanonicalBytes (document : Json) : Except EndpointFailure Bytes := do
  let members ← endpointMembers.mapM fun member => do
    let value ← orFail .keyError (document.field member.1)
    return (member.1, value, member.2)
  let rendered ← members.mapM renderMember
  return ascii (String.ofList ('{' :: (joinChars rendered ++ ['}'])))

/-! ## Endpoints -/

structure UpstreamEndpoint where
  core : EndpointCore
  trustSha256 : List String
  document : Json
  canonical : Bytes
  digest : String
deriving DecidableEq

/-- `UpstreamEndpoint.__post_init__`.  Reading the certificates, their digests and the
context that is built from them are one parameter. -/
def UpstreamEndpoint.build (readTrust : String → Except EndpointFailure (List String))
    (core : EndpointCore) (caPem : String) : Except EndpointFailure UpstreamEndpoint := do
  let _ ← validateEndpointCore core
  let trustSha256 ← readTrust caPem
  let document ← endpointDocument core trustSha256
  let canonical ← endpointCanonicalBytes document
  let digest ← (taggedDigest endpointSchema document).mapError .json
  return { core, trustSha256, document, canonical, digest }

/-! ## What the grammar accepts is plain -/

theorem isIdChar_of_isLabelEdge {character : Char} (edge : isLabelEdge character = true) :
    isIdChar character = true := by
  simp only [isLabelEdge, Bool.or_eq_true] at edge
  simp only [isIdChar, Char.isAlphanum]
  delta Char.isAlpha
  simp only [Bool.or_eq_true]
  tauto

theorem isIdChar_of_isDigit {character : Char} (digit : character.isDigit = true) :
    isIdChar character = true := by
  simp [isIdChar, Char.isAlphanum, digit]

theorem plain_of_splitOn {text : String}
    (each : ∀ part ∈ text.toList.splitOn '.', ∀ character ∈ part, isIdChar character = true) :
    Plain text := by
  intro character member
  apply isPlainChar_of_isIdChar
  rcases mem_splitOn_of_mem '.' member with rfl | ⟨part, inside, here⟩
  · decide
  · exact each part inside character here

theorem fits_host {depth : Nat} {host : String} (valid : validHost host = true) :
    Fits depth 255 (.str host) := by
  simp only [validHost, matchesHost, Bool.and_eq_true, decide_eq_true_eq, List.all_eq_true] at valid
  obtain ⟨⟨⟨⟨⟨⟨⟨_, short⟩, _⟩, labels⟩, _⟩, _⟩, _⟩, _⟩ := valid
  rw [String.length_toList] at short
  refine fits_plain (plain_of_splitOn ?_) short (by decide)
  intro label inside character member
  have one := labels label inside
  simp only [isHostLabel, Bool.and_eq_true, List.all_eq_true, Bool.or_eq_true,
    decide_eq_true_eq] at one
  rcases one.2 character member with edge | rfl
  · exact isIdChar_of_isLabelEdge edge
  · decide

theorem digits_of_isOctet {octet : List Char} (valid : isOctet octet = true) :
    octet.length ≤ 3 ∧ ∀ character ∈ octet, character.isDigit = true := by
  match octet, valid with
  | [ones], valid => exact ⟨by simp, by simpa [isOctet] using valid⟩
  | [tens, ones], valid =>
      simp only [isOctet, Bool.and_eq_true] at valid
      exact ⟨by simp, by simp [valid.1.1, valid.2]⟩
  | [hundreds, tens, ones], valid =>
      simp only [isOctet, Bool.or_eq_true, Bool.and_eq_true, decide_eq_true_eq] at valid
      refine ⟨by simp, ?_⟩
      rcases valid with (⟨⟨rfl, ten⟩, one⟩ | ⟨⟨⟨rfl, ten⟩, _⟩, one⟩) | ⟨⟨⟨rfl, rfl⟩, one⟩, _⟩
      · simp [ten, one]
      · simp [ten, one]
      · simp [one]

theorem fits_address {depth address : Nat} {text : String}
    (valid : validAddress text = some address) : Fits depth 17 (.str text) := by
  unfold validAddress at valid
  split at valid
  · rename_i first second third fourth parts
    rw [Option.ite_none_right_eq_some, List.all_eq_true] at valid
    obtain ⟨octets, _⟩ := valid
    have joined : ['.'].intercalate (text.toList.splitOn '.') = text.toList :=
      List.intercalate_splitOn '.'
    rw [parts] at joined
    have short : text.length ≤ 15 := by
      have one := (digits_of_isOctet (octets first (by simp))).1
      have two := (digits_of_isOctet (octets second (by simp))).1
      have three := (digits_of_isOctet (octets third (by simp))).1
      have four := (digits_of_isOctet (octets fourth (by simp))).1
      rw [← String.length_toList, ← joined]
      simp [List.intercalate, List.intersperse]
      omega
    refine fits_plain (plain_of_splitOn ?_) short (by decide)
    rw [parts]
    intro octet inside character member
    exact isIdChar_of_isDigit ((digits_of_isOctet (octets octet inside)).2 character member)
  · cases valid

/-! ## Both encoders write the same text -/

theorem replaceChar_escapes {character : Char} (printable : isPrintable character = true) :
    replaceChar '"' ['\\', '"'] (replaceChar '\\' ['\\', '\\'] [character]) =
      escapeText character := by
  by_cases quote : character = '"'
  · rw [quote]
    rfl
  by_cases backslash : character = '\\'
  · rw [backslash]
    rfl
  simp only [isPrintable, Bool.and_eq_true, decide_eq_true_eq] at printable
  have control (other : Char) (small : other.toNat < 32) : character ≠ other := by
    intro same
    rw [same] at printable
    omega
  simp only [replaceChar, escapeText, List.flatMap_singleton, if_neg quote, if_neg backslash,
    if_neg (control '\n' (by decide)), if_neg (control '\r' (by decide)),
    if_neg (control '\t' (by decide))]
  rw [if_neg (by omega), if_neg (by omega), if_neg (by omega)]

theorem encodeJsonString_eq {text : String}
    (printable : ∀ character ∈ text.toList, isPrintable character = true) :
    encodeJsonString text = .ok (textChars text) := by
  have escaped (characters : List Char)
      (each : ∀ character ∈ characters, isPrintable character = true) :
      replaceChar '"' ['\\', '"'] (replaceChar '\\' ['\\', '\\'] characters) =
        characters.flatMap escapeText := by
    induction characters with
    | nil => rfl
    | cons character characters induction =>
        have first := replaceChar_escapes (each character List.mem_cons_self)
        have rest := induction fun other inside => each other (List.mem_cons_of_mem _ inside)
        rw [List.flatMap_cons, ← first, ← rest]
        simp [replaceChar]
  have all : text.toList.all isPrintable = true := List.all_eq_true.mpr printable
  rw [encodeJsonString, failIf_of_not (by simp [all]), ok_bind, escaped _ printable]
  rfl

/-- A value of the kind that its member is written as. -/
inductive OfKind : MemberKind → Json → Prop
  | str (text : String) : OfKind .str (.str text)
  | int (value : Int) : OfKind .int (.num value)
  | list (texts : List String) : OfKind .list (.arr (texts.map .str))

theorem itemChars_eq_map (items : List Json) : Json.itemChars items = items.map Json.chars := by
  induction items with
  | nil => rfl
  | cons item items induction => rw [Json.itemChars, induction, List.map_cons]

theorem encodeMemberValue_eq {kind : MemberKind} {value : Json} {depth : Nat}
    (ofKind : OfKind kind value) (within : Within true depth value) :
    encodeMemberValue kind value = .ok value.chars := by
  cases ofKind with
  | str text => exact encodeJsonString_eq (within.2.1 rfl)
  | int value => rfl
  | list texts =>
      have items := withinItems_iff.mp within.2.2
      have parts : (texts.map Json.str).mapM encodeListItem =
          .ok ((texts.map Json.str).map Json.chars) := by
        apply mapM_ok
        intro item inside
        obtain ⟨text, -, rfl⟩ := List.mem_map.mp inside
        have textWithin : TextWithin true text := items (.str text) inside
        exact encodeJsonString_eq (textWithin.2.1 rfl)
      rw [encodeMemberValue, parts, ok_bind, Json.chars, itemChars_eq_map]
      rfl

/-- Members with their kinds are written as an object's members are. -/
theorem mapM_renderMember {members : List (String × Json)} {kinds : List (String × MemberKind)}
    {depth : Nat} (each : List.Forall₂ (fun member kind => OfKind kind.2 member.2) members kinds)
    (within : WithinMembers true depth members) :
    (List.zipWith (fun member kind => (member.1, member.2, kind.2)) members kinds).mapM
      renderMember = .ok (Json.memberChars members) := by
  induction each with
  | nil => rfl
  | @cons member kind members kinds ofKind _ induction =>
      obtain ⟨key, value⟩ := member
      obtain ⟨keyWithin, valueWithin, rest⟩ := within
      have first : renderMember (key, value, kind.2) =
          .ok (textChars key ++ ':' :: value.chars) := by
        rw [renderMember, encodeMemberValue_eq ofKind valueWithin, ok_bind,
          encodeJsonString_eq (keyWithin.2.1 rfl)]
        rfl
      rw [List.zipWith_cons_cons, List.mapM_cons, first, ok_bind, induction rest]
      rfl

/-- Printable text is written in ASCII as in UTF-8. -/
theorem ascii_ofList {characters : List Char}
    (printable : ∀ character ∈ characters, isPrintable character = true) :
    ascii (String.ofList characters) = utf8Bytes characters := by
  rw [ascii, characters_eq_toList, String.toList_ofList]
  induction characters with
  | nil => rfl
  | cons character characters induction =>
      have rest := induction fun other inside => printable other (List.mem_cons_of_mem _ inside)
      rw [List.map_cons, rest, utf8Bytes_cons]
      have first := printable character List.mem_cons_self
      simp only [isPrintable, Bool.and_eq_true, decide_eq_true_eq] at first
      have single : String.utf8EncodeChar character = [UInt8.ofNat character.toNat] := by
        rw [← Char.ofNat_toNat character]
        generalize character.toNat = code at first
        obtain ⟨low, high⟩ := first
        interval_cases code <;> rfl
      rw [single]
      rfl

/-! ## Documents -/

structure EndpointOk (core : EndpointCore) (trustSha256 : List String) : Prop where
  service : core.service = "jira"
  revision : isId core.revision = true
  credentialId : isId core.credentialId = true
  host : validHost core.host = true
  address : ∃ address, validAddress core.address = some address
  port : 1 ≤ core.port ∧ core.port ≤ 65535
  trust : validTrustTuple trustSha256 = true

theorem endpointOk_of_document {core : EndpointCore} {trustSha256 : List String} {document : Json}
    (built : endpointDocument core trustSha256 = .ok document) :
    EndpointOk core trustSha256 ∧ document = .obj (core.members trustSha256 "basic") := by
  simp only [endpointDocument, validateEndpointCore, bind_eq_ok, failIf_eq_ok, exists_unit,
    orFail_eq_ok, pure_eq_ok, not_or, Bool.not_eq_false, not_not] at built
  obtain ⟨_, ⟨_, ⟨revision, credentialId⟩, host, address, isAddress, _, _, port, rfl⟩, trust, _,
    profile, isProfile, rfl⟩ := built
  simp only [credentialProfile, Option.ite_none_right_eq_some, Option.some.injEq] at isProfile
  obtain ⟨service, rfl⟩ := isProfile
  exact ⟨⟨service, revision, credentialId, host, ⟨address, isAddress⟩, port, trust⟩, rfl⟩

namespace EndpointOk

variable {core : EndpointCore} {trustSha256 : List String}

theorem trust_within (accepted : EndpointOk core trustSha256) :
    ∀ text ∈ trustSha256, isHex64 text = true := by
  have trust := accepted.trust
  simp only [validTrustTuple, validTuple, Bool.and_eq_true, List.all_eq_true] at trust
  exact trust.1.2

theorem fits (accepted : EndpointOk core trustSha256) :
    ∃ size, Fits 1 size (.obj (core.members trustSha256 "basic")) := by
  obtain ⟨address, isAddress⟩ := accepted.address
  have trust := accepted.trust
  simp only [validTrustTuple, validTuple, Bool.and_eq_true, decide_eq_true_eq] at trust
  have few : trustSha256.length ≤ maxTrustCertificates := trust.1.1.2
  have port : Json.num core.port = .nat core.port.toNat := by
    rw [Json.nat, Int.toNat_of_nonneg (by have := accepted.port; omega)]
  have safe : core.port.toNat ≤ maxSafeInteger := by
    have := accepted.port
    unfold maxSafeInteger
    omega
  rw [EndpointCore.members, accepted.service, port]
  exact ⟨_, fits_obj (by decide) <|
    fitsMembers_cons rfl (fits_address isAddress) <|
    fitsMembers_cons rfl (fits_literal rfl) <|
    fitsMembers_cons rfl (fits_id accepted.credentialId) <|
    fitsMembers_cons rfl (fits_literal rfl) <|
    fitsMembers_cons rfl (fits_literal rfl) <|
    fitsMembers_cons rfl (fits_host accepted.host) <|
    fitsMembers_cons rfl (fits_nat safe) <|
    fitsMembers_cons rfl (fits_id accepted.revision) <|
    fitsMembers_cons rfl (fits_literal rfl) <|
    fitsMembers_cons rfl (fits_literal rfl) <|
    fitsMembers_cons rfl (fits_literal rfl) <|
    fitsMembers_cons rfl (fits_arr (by decide) few (by decide) fun text listed =>
      fits_hex64 (accepted.trust_within text listed)) <|
    fitsMembers_cons rfl (fits_literal rfl) fitsMembers_nil⟩

theorem canonicalBytes_eq (accepted : EndpointOk core trustSha256) :
    endpointCanonicalBytes (.obj (core.members trustSha256 "basic")) =
      .ok (Json.obj (core.members trustSha256 "basic")).encode := by
  obtain ⟨size, within, _⟩ := accepted.fits
  have kinds : List.Forall₂ (fun member kind => OfKind kind.2 member.2)
      (core.members trustSha256 "basic") endpointMembers :=
    .cons (.str _) <| .cons (.str _) <| .cons (.str _) <| .cons (.str _) <| .cons (.str _) <|
    .cons (.str _) <| .cons (.int _) <| .cons (.str _) <| .cons (.str _) <| .cons (.str _) <|
    .cons (.str _) <| .cons (.list _) <| .cons (.str _) .nil
  have found : (endpointMembers.mapM fun member => do
      let value ← orFail EndpointFailure.keyError
        ((Json.obj (core.members trustSha256 "basic")).field member.1)
      return (member.1, value, member.2)) =
      .ok (List.zipWith (fun member kind => (member.1, member.2, kind.2))
        (core.members trustSha256 "basic") endpointMembers) := rfl
  rw [endpointCanonicalBytes, found, ok_bind, mapM_renderMember kinds within.2, ok_bind, pure_eq_ok]
  have printable := printable_chars 1 (.obj (core.members trustSha256 "basic")) within
  rw [← Json.utf8Bytes_chars, ← ascii_ofList printable]
  rfl

end EndpointOk

theorem EndpointCore.sortKeys_members (core : EndpointCore) (trustSha256 : List String)
    (profile : String) :
    (Json.obj (core.members trustSha256 profile)).sortKeys =
      .obj (core.members trustSha256 profile) := by
  apply Json.sortKeys_obj_of_sorted
  · have sorted : ((endpointMembers.map Prod.fst).map utf16).Pairwise (· ≤ ·) := by decide
    exact sorted
  · intro member inside
    simp only [EndpointCore.members, List.mem_cons, List.not_mem_nil, or_false] at inside
    rcases inside with rfl | rfl | rfl | rfl | rfl | rfl | rfl | rfl | rfl | rfl | rfl | rfl | rfl
    all_goals first | rfl | exact sortKeys_texts trustSha256

/-- The encoder of the endpoint writes the canonical encoding of the document, so the
digest of an endpoint is that of the bytes it hands out. -/
theorem endpoint_bytes_canonical (core : EndpointCore) (trustSha256 : List String)
    (document : Json) (built : endpointDocument core trustSha256 = .ok document) :
    ∃ bytes, endpointCanonicalBytes document = .ok bytes ∧
      canonicalJson true document = .ok bytes ∧
      ∀ readTrust caPem, readTrust caPem = .ok trustSha256 →
        UpstreamEndpoint.build readTrust core caPem =
          .ok ⟨core, trustSha256, document, bytes,
            sha256Hex (ascii endpointSchema ++ 0x00 :: bytes)⟩ := by
  obtain ⟨accepted, rfl⟩ := endpointOk_of_document built
  obtain ⟨size, within, _⟩ := accepted.fits
  have canonical : canonicalJson true (.obj (core.members trustSha256 "basic")) =
      .ok (Json.obj (core.members trustSha256 "basic")).encode := by
    rw [canonicalJson_eq_ok, core.sortKeys_members]
    exact ⟨within, rfl⟩
  refine ⟨_, accepted.canonicalBytes_eq, canonical, ?_⟩
  intro readTrust caPem read
  have digest : taggedDigest endpointSchema (.obj (core.members trustSha256 "basic")) =
      .ok (sha256Hex (ascii endpointSchema ++ 0x00 ::
        (Json.obj (core.members trustSha256 "basic")).encode)) := by
    rw [taggedDigest_eq_ok (by decide), tagged, core.sortKeys_members]
    exact ⟨within, rfl⟩
  have valid : ∃ address, validateEndpointCore core = .ok address := by
    simp only [endpointDocument, bind_eq_ok] at built
    obtain ⟨address, isValid, _⟩ := built
    exact ⟨address, isValid⟩
  obtain ⟨address, isValid⟩ := valid
  rw [UpstreamEndpoint.build, isValid, ok_bind, read, ok_bind, built, ok_bind,
    accepted.canonicalBytes_eq, ok_bind, digest]
  rfl

def sampleEndpoint : EndpointCore :=
  ⟨"jira", "r1", "jira.example.invalid", "192.0.2.7", 443, "c1"⟩

/-- A reader that finds one certificate in one text, and none in any other. -/
def sampleTrust (caPem : String) : Except EndpointFailure (List String) :=
  if caPem = "certificate" then .ok [zeroDigest] else .error (.config .trustInvalid)

/-- An endpoint whose trust is read from a text. -/
theorem endpoint_bytes_canonical_sample :
    ∃ document bytes, endpointDocument sampleEndpoint [zeroDigest] = .ok document ∧
      canonicalJson true document = .ok bytes ∧
      sampleTrust "certificate" = .ok [zeroDigest] ∧
      UpstreamEndpoint.build sampleTrust sampleEndpoint "certificate" =
        .ok ⟨sampleEndpoint, [zeroDigest], document, bytes,
          sha256Hex (ascii endpointSchema ++ 0x00 :: bytes)⟩ := by
  have built : endpointDocument sampleEndpoint [zeroDigest] =
      .ok (.obj (sampleEndpoint.members [zeroDigest] "basic")) := by
    decide +kernel
  have read : sampleTrust "certificate" = .ok [zeroDigest] := by decide
  obtain ⟨bytes, _, canonical, builds⟩ :=
    endpoint_bytes_canonical sampleEndpoint [zeroDigest] _ built
  exact ⟨_, bytes, built, canonical, read, builds sampleTrust "certificate" read⟩

end ManyAlerts
