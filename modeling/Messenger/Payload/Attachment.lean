import Messenger.Payload.Kinds

/-!
# `Payload.Attachment` — encrypted attachments in three schemas

The body of an encrypted attachment, with its current schema and the two earlier ones that are still
read. The schema is part of the value: a body that was read under an earlier schema is written under
it again.

Decoding the secret reference and the fetch grant, reading an address and deriving a public key are
`AttachmentRules`. A locator is read here (`parseHTTPSLocator`). The source parses it as a URL and
then demands that it is its own canonical form, which leaves one form for each host; that form is
what is checked.
-/

namespace Messenger.Payload

open Canon Lib

/-! ## What is decoded elsewhere -/

/-- What the body reads of a secret reference. -/
structure AttachmentReference where
  /-- The digest of its manifest, if it has one. -/
  manifestDigest : Option Bytes
  plaintextBytes : UInt64
  chunkDigests : List Bytes
  expiresAtUnix : UInt64
  deriving DecidableEq, Repr

/-- What the body reads of a fetch grant. -/
structure AttachmentGrant where
  manifestDigest : Bytes
  ciphertextBytes : UInt64
  retainUntilUnix : UInt64
  chunkDigests : List Bytes
  operations : List Bytes
  capabilityPublicKeyHex : Bytes
  deriving DecidableEq, Repr

/-- The decoders and the key derivation. -/
structure AttachmentRules where
  decodeReferenceJSON : Bytes → Except Failure AttachmentReference
  decodeGrantJSON : Bytes → Except Failure AttachmentGrant
  /-- The public half of a private key. -/
  publicKey : Bytes → Bytes
  /-- `netip.ParseAddr` accepts. -/
  parseAddr : Bytes → Bool
  /-- An address without a zone is plain text. -/
  parseAddr_ascii : ∀ host, parseAddr host → 37 ∉ host → ∀ byte ∈ host, byte < 128

/-! ## Locators -/

def locatorPathPrefix : Bytes := lit "/.well-known/tos-messenger/attachments/"

def dnsLabel (text : Bytes) : Bool :=
  text ≠ [] && text.length ≤ 63 && text.head? ≠ some 45 && text.getLast? ≠ some 45 &&
    text.all fun byte => byte == 45 || lower byte || digit byte

/-- A name of several labels that is not all digits. -/
def validDNSName (host : Bytes) : Bool :=
  host.length ≤ 253 && host.contains 46 && (host.splitOn 46).all dnsLabel && !host.all fun byte =>
    byte == 46 || digit byte

/-- The host of an authority, without the brackets of an address. -/
def hostname (authority : Bytes) : Bytes :=
  if authority.head? = some 91 ∧ authority.getLast? = some 93 then authority.tail.dropLast else authority

/-- How a host is written in a locator. -/
def bracketed (host : Bytes) : Bytes := if 58 ∈ host then 91 :: host ++ [93] else host

def parseHTTPSLocator (rules : AttachmentRules) (reference manifestDigest : Bytes) : Except Failure Unit := do
  failIf (¬validDigestText manifestDigest) "invalid attachment locator manifest digest"
  let rest := reference.drop 8
  let authority := rest.takeWhile (· ≠ 47)
  failIf (¬(lit "https://").isPrefixOf reference ∨ authority = [] ∨
    rest.dropWhile (· ≠ 47) ≠ locatorPathPrefix ++ manifestDigest.drop 7) "invalid attachment HTTPS locator"
  let host := hostname authority
  failIf (host = [] ∨ host.any (fun byte => 65 ≤ byte && byte ≤ 90) ∨ host.getLast? = some 46 ∨ 37 ∈ host)
    "attachment HTTPS authority is not canonical"
  failIf (¬rules.parseAddr host ∧ ¬validDNSName host)
    "attachment HTTPS authority is not a canonical absolute DNS name"
  failIf (authority ≠ bracketed host) "attachment HTTPS authority is not canonical"

/-- A byte of a text is a separator, or stands in one of the parts. -/
theorem mem_splitOn (separator : UInt8) {byte : UInt8} {text : Bytes} (h : byte ∈ text) :
    byte = separator ∨ ∃ part ∈ text.splitOn separator, byte ∈ part := by
  have joined : ∀ parts : List Bytes, byte ∈ [separator].intercalate parts →
      byte = separator ∨ ∃ part ∈ parts, byte ∈ part := by
    intro parts hjoin
    obtain ⟨block, hblock, hby⟩ := List.mem_flatten.mp hjoin
    clear hjoin
    induction parts with
    | nil => exact absurd hblock List.not_mem_nil
    | cons part rest ih =>
      cases rest with
      | nil =>
        rw [List.intersperse_singleton, List.mem_singleton] at hblock
        exact .inr ⟨part, List.mem_cons_self, hblock ▸ hby⟩
      | cons next rest =>
        rw [List.intersperse_cons_cons, List.mem_cons, List.mem_cons] at hblock
        rcases hblock with rfl | rfl | hblock
        · exact .inr ⟨block, List.mem_cons_self, hby⟩
        · exact .inl (List.mem_singleton.mp hby)
        rcases ih hblock with hsm | ⟨found, hfnd, hby⟩
        · exact .inl hsm
        · exact .inr ⟨found, List.mem_cons_of_mem _ hfnd, hby⟩
  apply joined
  rw [List.intercalate_splitOn]
  exact h

variable {rules : AttachmentRules}

theorem host_ascii {host : Bytes} (hzone : 37 ∉ host)
    (h : ¬(¬rules.parseAddr host ∧ ¬validDNSName host)) : ∀ byte ∈ host, byte < 128 := by
  by_cases haddr : rules.parseAddr host
  · exact rules.parseAddr_ascii host haddr hzone
  have hnm : validDNSName host := not_not.mp fun hnm => h ⟨haddr, hnm⟩
  intro byte hby
  simp only [validDNSName, Bool.and_eq_true, List.all_eq_true] at hnm
  rcases mem_splitOn 46 hby with rfl | ⟨part, hpart, hby⟩
  · decide
  have hlabel := hnm.1.2 part hpart
  simp only [dnsLabel, Bool.and_eq_true, List.all_eq_true, Bool.or_eq_true, beq_iff_eq] at hlabel
  rcases hlabel.2 byte hby with (rfl | hlower) | hdg
  · decide
  · exact lower_ascii hlower
  · exact digit_ascii hdg

theorem bracketed_ascii {host : Bytes} (h : ∀ byte ∈ host, byte < 128) : ∀ byte ∈ bracketed host, byte < 128 := by
  intro byte hby
  unfold bracketed at hby
  split_ifs at hby with hcolon
  · simp only [List.cons_append, List.mem_cons, List.mem_append, List.not_mem_nil, or_false] at hby
    rcases hby with rfl | hby | rfl
    · decide
    · exact h byte hby
    · decide
  · exact h byte hby

/-- **A locator that is accepted is plain text.** -/
theorem locator_ascii {reference manifestDigest : Bytes}
    (h : parseHTTPSLocator rules reference manifestDigest = .ok ()) : ∀ byte ∈ reference, byte < 128 := by
  simp only [parseHTTPSLocator, seq_ok] at h
  obtain ⟨_, hdig, _, hshape, _, hcanon, _, hhost, hauth⟩ := h
  rw [failIf_ok, not_not] at hdig hauth
  rw [failIf_ok, not_or, not_or, not_not, not_not] at hshape
  rw [failIf_ok] at hcanon hhost
  simp only [not_or] at hcanon
  obtain ⟨hscheme, -, hpa⟩ := hshape
  obtain ⟨rest, rfl⟩ := List.isPrefixOf_iff_prefix.mp hscheme
  have hlen : (lit "https://").length = 8 := by decide +kernel
  have hdrop : (lit "https://" ++ rest).drop 8 = rest := List.drop_left' hlen
  rw [hdrop] at hpa hauth hhost hcanon
  intro byte hby
  rcases List.mem_append.mp hby with hby | hby
  · have hplain : ∀ byte ∈ lit "https://", byte < 128 := by decide +kernel
    exact hplain byte hby
  rw [← List.takeWhile_append_dropWhile (p := (· ≠ 47)) (l := rest)] at hby
  rcases List.mem_append.mp hby with hby | hby
  · rw [hauth] at hby
    exact bracketed_ascii (host_ascii hcanon.2.2.2 hhost) byte hby
  rw [hpa] at hby
  rcases List.mem_append.mp hby with hby | hby
  · have hplain : ∀ byte ∈ locatorPathPrefix, byte < 128 := by decide +kernel
    exact hplain byte hby
  unfold validDigestText taggedBytes hashText at hdig
  simp only [Bool.and_eq_true] at hdig
  have hlen : (Field.utf8 "sha256:").length = 7 := by decide +kernel
  exact hexByte_ascii (List.all_eq_true.mp hdig.1.2.2 byte hby)

/-! ## The body -/

/-- The schema a body was made or read under. -/
inductive AttachmentSchema where
  | v1
  | v2
  | v3
  deriving DecidableEq, Repr

def AttachmentSchema.name : AttachmentSchema → String
  | .v1 => "tos.messaging.payload.encrypted-attachment.v1"
  | .v2 => "tos.messaging.payload.encrypted-attachment.v2"
  | .v3 => "tos.messaging.payload.encrypted-attachment.v3"

/-- A secret reference, a hint where to retrieve it, and from the third schema on the authority to
    fetch it. -/
structure EncryptedAttachment where
  manifestDigest : Bytes
  referenceJSON : Bytes
  locator : Bytes
  fetchGrantJSON : Bytes
  fetchCapabilityPrivateKeyHex : Bytes
  schema : AttachmentSchema
  deriving DecidableEq, Repr

namespace EncryptedAttachment

/-- The earlier schema a body was read under; a body of the current schema keeps none. -/
def earlier (a : EncryptedAttachment) : Option String :=
  match a.schema with
  | .v3 => none
  | schema => some schema.name

variable {a : EncryptedAttachment}

theorem earlier_of_schema {schema : AttachmentSchema} (h : a.schema = schema) :
    a.earlier = if schema = .v3 then none else some schema.name := by
  subst h
  unfold earlier
  cases a.schema <;> rfl

def privateKeySize : Nat := 64

def operationFetch : Bytes := lit "fetch"

/-- The authority to fetch: a grant, and the private key of the public key it names. -/
def fetchAccess (rules : AttachmentRules) (a : EncryptedAttachment) : Except Failure AttachmentGrant := do
  failIf (a.schema ≠ .v3 ∨ a.fetchGrantJSON = [] ∨ maxOpaqueBytes < a.fetchGrantJSON.length)
    "encrypted attachment has no bounded v3 fetch grant"
  let grant ← rules.decodeGrantJSON a.fetchGrantJSON
  let key := (hexRead a.fetchCapabilityPrivateKeyHex).getD []
  failIf (hexRead a.fetchCapabilityPrivateKeyHex = none ∨ key.length ≠ privateKeySize ∨
    hexText key ≠ a.fetchCapabilityPrivateKeyHex) "invalid attachment fetch capability private key"
  failIf (hexRead grant.capabilityPublicKeyHex ≠ some (rules.publicKey key))
    "attachment fetch capability key does not match its grant"
  pure grant

/-- A grant is for fetching exactly what the reference refers to. -/
def checkGrant (a : EncryptedAttachment) (reference : AttachmentReference)
    (grant : AttachmentGrant) : Except Failure Unit := do
  failIf (grant.manifestDigest ≠ a.manifestDigest ∨
    grant.ciphertextBytes ≠ reference.plaintextBytes + UInt64.ofNat reference.chunkDigests.length * 16 ∨
    grant.retainUntilUnix ≠ reference.expiresAtUnix ∨
    grant.chunkDigests.length ≠ reference.chunkDigests.length)
    "attachment fetch grant does not match its secret reference"
  failIf (grant.chunkDigests ≠ reference.chunkDigests) "attachment fetch grant substituted a ciphertext object"
  failIf (grant.operations ≠ [operationFetch]) "attachment recipient grant must be fetch-only"

/-- What each schema asks of the locator and the authority to fetch. -/
def checkSchema (rules : AttachmentRules) (a : EncryptedAttachment)
    (reference : AttachmentReference) : Except Failure Unit :=
  match a.schema with
  | .v1 => requireText "attachment locator" a.locator maxShortTextBytes
  | .v2 => do
    failIf (a.locator = [] ∨ maxShortTextBytes < a.locator.length) "invalid attachment locator size"
    parseHTTPSLocator rules a.locator a.manifestDigest
    failIf (a.fetchGrantJSON ≠ [] ∨ a.fetchCapabilityPrivateKeyHex ≠ [])
      "historical encrypted attachment carries fetch authority"
  | .v3 => do
    failIf (a.locator = [] ∨ maxShortTextBytes < a.locator.length) "invalid attachment locator size"
    parseHTTPSLocator rules a.locator a.manifestDigest
    let grant ← a.fetchAccess rules
    a.checkGrant reference grant

def validate (rules : AttachmentRules) (a : EncryptedAttachment) : Except Failure Unit := do
  requireDigest "attachment manifest digest" a.manifestDigest
  failIf (a.referenceJSON = [] ∨ maxOpaqueBytes < a.referenceJSON.length)
    "invalid encrypted attachment reference size"
  let reference ← rules.decodeReferenceJSON a.referenceJSON
  failIf (reference.manifestDigest ≠ some a.manifestDigest)
    "encrypted attachment reference does not match its manifest digest"
  a.checkSchema rules reference

def encode (a : EncryptedAttachment) : Bytes :=
  Write.text a.manifestDigest ++ Write.bytes a.referenceJSON ++ Write.text a.locator ++
    if a.schema = .v3 then Write.bytes a.fetchGrantJSON ++ Write.text a.fetchCapabilityPrivateKeyHex else []

def decode : Read EncryptedAttachment := do
  let manifestDigest ← Read.text maxDigestBytes
  let referenceJSON ← Read.bytes maxOpaqueBytes
  let locator ← Read.text maxShortTextBytes
  let fetchGrantJSON ← Read.bytes maxOpaqueBytes
  let fetchCapabilityPrivateKeyHex ← Read.text (2 * privateKeySize)
  pure { manifestDigest, referenceJSON, locator, fetchGrantJSON, fetchCapabilityPrivateKeyHex, schema := .v3 }

/-- The decoders of the earlier schemas. -/
def decodeEarlier (schema : AttachmentSchema) : Read EncryptedAttachment := do
  let manifestDigest ← Read.text maxDigestBytes
  let referenceJSON ← Read.bytes maxOpaqueBytes
  let locator ← Read.text maxShortTextBytes
  pure { manifestDigest, referenceJSON, locator, fetchGrantJSON := [], fetchCapabilityPrivateKeyHex := [], schema }

def decodeV2 : Read EncryptedAttachment := decodeEarlier .v2

def decodeV1 : Read EncryptedAttachment := decodeEarlier .v1

/-- The texts every schema writes. -/
def FitsEarlier (a : EncryptedAttachment) : Prop :=
  FitsText maxDigestBytes a.manifestDigest ∧ a.referenceJSON.length ≤ maxOpaqueBytes ∧
    FitsText maxShortTextBytes a.locator

/-- The texts a reader of the current schema accepts. -/
def Fits (a : EncryptedAttachment) : Prop :=
  a.FitsEarlier ∧ a.fetchGrantJSON.length ≤ maxOpaqueBytes ∧
    FitsText (2 * privateKeySize) a.fetchCapabilityPrivateKeyHex ∧ a.schema = .v3

theorem decode_exact : Exact decode encode Fits := by
  refine ExactWhere.record (.field manifestDigest digest_exact <|
    .field referenceJSON (bytes_exact (by decide)) <| .field locator short_exact <|
    .field fetchGrantJSON (bytes_exact (by decide)) <|
    .field fetchCapabilityPrivateKeyHex (text_exact (by decide)) <|
    .fixed (EncryptedAttachment.schema · = .v3) fun a => ?_) (fun a hft => ?_) fun a => ?_
  · cases a; simp [and_assoc]; tauto
  · rw [encode, if_pos hft.2.2.2.2.2]
    simp
  · simp [Fits, FitsEarlier, and_assoc]

theorem decodeEarlier_exact {schema : AttachmentSchema} (hsch : schema ≠ .v3) :
    Exact (decodeEarlier schema) encode fun a =>
      a.FitsEarlier ∧ a.fetchGrantJSON = [] ∧ a.fetchCapabilityPrivateKeyHex = [] ∧ a.schema = schema := by
  refine ExactWhere.record (.field manifestDigest digest_exact <|
    .field referenceJSON (bytes_exact (by decide)) <| .field locator short_exact <|
    .fixed (fun a : EncryptedAttachment =>
      a.fetchGrantJSON = [] ∧ a.fetchCapabilityPrivateKeyHex = [] ∧ a.schema = schema) fun a => ?_)
        (fun a hft => ?_) fun a => ?_
  · cases a; simp [and_assoc]; tauto
  · rw [encode, if_neg (by rw [hft.2.2.2.2.2]; exact hsch)]
    simp
  · simp [FitsEarlier, and_assoc]

theorem fetchAccess_key {grant : AttachmentGrant}
    (h : a.fetchAccess rules = .ok grant) :
    a.fetchGrantJSON.length ≤ maxOpaqueBytes ∧ FitsText (2 * privateKeySize) a.fetchCapabilityPrivateKeyHex := by
  simp only [fetchAccess, seq_ok] at h
  obtain ⟨_, hgnt, _, -, _, hkey, -⟩ := h
  rw [failIf_ok, not_or, not_or, not_lt] at hgnt
  rw [failIf_ok, not_or, not_or, not_not, not_not] at hkey
  obtain ⟨-, hlen, htext⟩ := hkey
  refine ⟨hgnt.2.2, ?_⟩
  rw [← htext]
  exact hexText_fits hlen

/-- **A valid body fits the reader of its kind exactly when it is of the current schema.** -/
theorem fits_iff (h : a.validate rules = .ok ()) : a.Fits ↔ a.schema = .v3 := by
  constructor
  · intro hft
    exact hft.2.2.2
  intro hsch
  simp only [validate, seq_ok] at h
  obtain ⟨_, hdig, _, hreference, _, -, _, -, h⟩ := h
  rw [failIf_ok, not_or, not_lt] at hreference
  rw [checkSchema, hsch] at h
  simp only [seq_ok] at h
  obtain ⟨_, hsi, _, hloc, grant, haccess, -⟩ := h
  rw [failIf_ok, not_or, not_lt] at hsi
  obtain ⟨hgnt, hkey⟩ := fetchAccess_key haccess
  have hplain : FitsText maxShortTextBytes a.locator := fitsText_ascii hsi.2 (locator_ascii hloc)
  exact ⟨⟨requireDigest_fits hdig, hreference.2, hplain⟩, hgnt, hkey, hsch⟩

end EncryptedAttachment

end Messenger.Payload
