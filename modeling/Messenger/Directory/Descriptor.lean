import Messenger.E2ee.Devices

/-!
# `Directory.Descriptor` — contact descriptors, locators and their verifiers

An endpoint publishes a signed descriptor of how it is reached, and a short-lived signed locator
that points at it (`pkg/directory/descriptor.go`, `locator.go`, `policy.go`). Both are admitted only
under a live delegation.

- **Windows.** `bind`, `verifyLocator` and `bindBundle` each check one object at one instant. What
  their acceptance says about the object's window is `bind_live`, `verifyLocator_live` and
  `bindBundleSet_live`.
- **References.** `url.Parse` is not modelled: an address is its text with what the parser makes of
  it (`Address`).
-/

namespace Messenger.Directory

open Identity
open Canon (Field)
open E2ee (Bundle validateSet validateBundle bundleSigningBytes setDigest)

def descriptorSchema : String := "tos.messaging.contact-descriptor.v2"
def descriptorPolicySchema : String := "tos.messaging.descriptor-policy.v1"
def domainContactDescriptor : String := "tos.messaging.contact-descriptor.v2\x00"
def domainDescriptorPolicy : String := "tos.messaging.descriptor-policy.v1\x00"
def domainDHTLocator : String := "tos.messaging.dht-locator.v1\x00"
def maxDescriptorLifetimeSeconds : Nat := 7 * 24 * 60 * 60
def maxLocatorLifetimeSeconds : Nat := 24 * 60 * 60
def maxDescriptorLocatorBytes : Nat := 256
def maxHTTPSEndpointBytes : Nat := 512
def maxProtocolVersions : Nat := 16
def maxAdapterVersions : Nat := 8
def maxAdapterVersionBytes : Nat := 32
def minEnvelopeBytes : Nat := 4 * 1024
def maxEnvelopeBytes : Nat := 1024 * 1024
def locatorVersion : UInt8 := 1

/-- What a delegation says besides `Identity.Delegation`. Its digest is the identity package's. -/
structure Authority where
  delegation : Delegation
  digest : BitVec 256
  adnlID : Option (BitVec 256)
  allowedProtocolVersions : List Nat
  contactDescriptorPolicyDigest : BitVec 256
  inboxAdmissionPolicyDigest : BitVec 256
  deriving DecidableEq

/-! ## Addresses -/

/-- The parts of a parsed URL that are looked at. -/
structure Url where
  scheme : String
  user : Bool
  host : String
  hostname : String
  path : String
  rawQuery : Bool
  /-- A question mark with nothing behind it. -/
  forceQuery : Bool
  fragment : Bool
  deriving DecidableEq

/-- A text and what `url.Parse` makes of it. -/
structure Address where
  text : String
  parsed : Option Url
  deriving DecidableEq

/-- The white space `strings.TrimSpace` removes. -/
def isSpace (c : Char) : Bool :=
  c.toNat ∈ [0x09, 0x0a, 0x0b, 0x0c, 0x0d, 0x20, 0x85, 0xa0, 0x1680, 0x2028, 0x2029, 0x202f, 0x205f, 0x3000] ||
    (0x2000 ≤ c.toNat && c.toNat ≤ 0x200a)

/-- Does the text neither begin nor end with white space? -/
def trimmed (text : String) : Bool := !text.toList.head?.any isSpace && !text.toList.getLast?.any isSpace

def loopback (u : Url) : Bool := u.hostname = "127.0.0.1" || u.hostname = "localhost" || u.hostname = "::1"

def validateHTTPSEndpoint (endpoint : Option Address) : Except Failure Unit :=
  match endpoint with
  | none => .ok ()
  | some a => do
    failIf (maxHTTPSEndpointBytes < a.text.utf8ByteSize ∨ ¬trimmed a.text) "invalid descriptor HTTPS endpoint"
    match a.parsed with
    | none => .error (.other "invalid descriptor HTTPS endpoint")
    | some u => do
      failIf (u.user ∨ u.rawQuery ∨ u.fragment ∨ u.host = "") "invalid descriptor HTTPS endpoint"
      failIf (¬(u.scheme = "https" ∨ (u.scheme = "http" ∧ loopback u)))
        "descriptor HTTPS endpoint must use HTTPS outside loopback"

def validateDescriptorLocator (a : Address) : Except Failure Unit := do
  failIf (a.text = "" ∨ maxDescriptorLocatorBytes < a.text.utf8ByteSize ∨ ¬trimmed a.text)
    "invalid descriptor locator reference"
  match a.parsed with
  | none => .error (.other "invalid descriptor locator reference")
  | some u => do
    failIf (u.user ∨ u.rawQuery ∨ u.forceQuery ∨ u.fragment ∨ u.host = "") "invalid descriptor locator reference"
    failIf (¬(u.scheme ∈ ["https", "adnl", "rldp"] ∨ (u.scheme = "http" ∧ loopback u)))
      "descriptor locator reference uses an unsupported scheme"

/-! ## Policies and descriptors -/

/-- What an Agent lets its endpoint advertise. -/
structure DescriptorPolicy where
  maxEnvelopeBytes : Nat
  maxLifetimeSeconds : Nat
  allowHTTPSEndpoint : Bool
  requireADNL : Bool
  deriving DecidableEq

variable (p : DescriptorPolicy)

def DescriptorPolicy.validate : Except Failure Unit := do
  failIf (p.maxEnvelopeBytes < minEnvelopeBytes ∨ Directory.maxEnvelopeBytes < p.maxEnvelopeBytes)
    "invalid descriptor policy envelope bound"
  failIf (p.maxLifetimeSeconds = 0 ∨ maxDescriptorLifetimeSeconds < p.maxLifetimeSeconds)
    "invalid descriptor policy lifetime bound"
  failIf (¬p.allowHTTPSEndpoint ∧ ¬p.requireADNL) "a descriptor policy must leave at least one route open"

variable (c : Crypto) (a : Authority)

def DescriptorPolicy.digest : Except Failure (BitVec 256) := do
  p.validate
  pure (c.sum256 (Canon.preimage domainDescriptorPolicy [.text descriptorPolicySchema, .uint32 p.maxEnvelopeBytes,
    .uint64 p.maxLifetimeSeconds, .uint32 p.allowHTTPSEndpoint.toNat, .uint32 p.requireADNL.toNat]))

/-- A signed contact descriptor. A digest that is no digest is zero; an optional one that is absent
    is `none`. -/
structure Descriptor where
  network : Option Network
  agentID : AgentID
  endpointID : EndpointID
  delegationDigest : BitVec 256
  supportedMessagingVersions : List Nat
  supportedA2AVersions : List String
  supportedMCPVersions : List String
  adnlID : Option (BitVec 256)
  httpsEndpoint : Option Address
  prekeyBundleDigest : BitVec 256
  mailboxRelaySetDigest : Option (BitVec 256)
  inboxAdmissionPolicyDigest : BitVec 256
  attachmentServiceDigest : Option (BitVec 256)
  maximumEnvelopeBytes : Nat
  issuedAt : Nat
  expiresAt : Nat
  endpointSignature : Bytes
  deriving DecidableEq

def DescriptorPolicy.permits (d : Descriptor) : Except Failure Unit := do
  p.validate
  failIf (p.maxEnvelopeBytes < d.maximumEnvelopeBytes)
    "descriptor advertises a larger envelope than its Agent committed"
  failIf (p.maxLifetimeSeconds < d.expiresAt - d.issuedAt) "descriptor lives longer than its Agent committed"
  failIf (¬p.allowHTTPSEndpoint ∧ d.httpsEndpoint.isSome)
    "descriptor advertises an HTTPS endpoint its Agent did not permit"
  failIf (p.requireADNL ∧ d.adnlID = none) "descriptor advertises no ADNL identity where its Agent required one"

def validateMessagingVersions (versions : List Nat) : Except Failure Unit := do
  failIf (versions = [] ∨ maxProtocolVersions < versions.length ∨ 0 ∈ versions) "invalid descriptor messaging versions"
  failIf (¬versions.Pairwise (· < ·)) "descriptor messaging versions must be sorted and unique"

/-- `^[0-9a-z][0-9a-z.\-]{0,31}$` -/
def adapterVersionPattern (text : String) : Bool :=
  let plain (c : Char) : Bool := ('0' ≤ c && c ≤ '9') || ('a' ≤ c && c ≤ 'z')
  text.toList.head?.any plain && text.toList.all (fun c => plain c || c = '.' || c = '-') && text.length ≤ 32

def validateAdapterVersions (versions : List String) : Except Failure Unit := do
  failIf (maxAdapterVersions < versions.length) "too many descriptor adapter versions"
  failIf (¬versions.all fun v => v.utf8ByteSize ≤ maxAdapterVersionBytes && adapterVersionPattern v)
    "invalid descriptor adapter version"
  failIf (¬versions.Pairwise (· < ·)) "descriptor adapter versions must be sorted and unique"

variable (d : Descriptor)

/-- The structural rules that do not look at the window. -/
def validateContent : Except Failure Unit := do
  failIf (¬d.network.any Network.valid) "invalid descriptor network domain"
  failIf (d.delegationDigest = 0 ∨ d.prekeyBundleDigest = 0 ∨ d.inboxAdmissionPolicyDigest = 0)
    "invalid descriptor digest"
  failIf (d.mailboxRelaySetDigest = some 0) "invalid descriptor Relay set digest"
  failIf (d.attachmentServiceDigest = some 0) "invalid descriptor attachment service digest"
  validateMessagingVersions d.supportedMessagingVersions
  validateAdapterVersions d.supportedA2AVersions
  validateAdapterVersions d.supportedMCPVersions
  failIf (d.adnlID = none ∧ d.httpsEndpoint = none) "descriptor advertises no reachable route"
  validateHTTPSEndpoint d.httpsEndpoint
  failIf (d.maximumEnvelopeBytes < minEnvelopeBytes ∨ maxEnvelopeBytes < d.maximumEnvelopeBytes)
    "invalid descriptor envelope bound"

def validateDescriptor (signed : Bool) : Except Failure Unit := do
  validateContent d
  failIf (d.issuedAt = 0 ∨ d.expiresAt ≤ d.issuedAt ∨ maxDescriptorLifetimeSeconds < d.expiresAt - d.issuedAt)
    "invalid descriptor validity window"
  failIf (signed ∧ d.endpointSignature.length ≠ signatureSize) "invalid descriptor signature"

/-- An optional digest in a preimage: absent, it is the empty text. -/
def optionalText (digest : Option (BitVec 256)) : Field := .text (digest.elim "" Canon.digestText)

/-- The fields of a descriptor that its endpoint signs. -/
def Descriptor.fields (network : List Field) : List Field :=
  [.text descriptorSchema] ++ network ++
    [.text d.agentID.text, .text d.endpointID.text, .text (Canon.digestText d.delegationDigest),
      .uint32 d.supportedMessagingVersions.length] ++ d.supportedMessagingVersions.map .uint32 ++
    .uint32 d.supportedA2AVersions.length :: d.supportedA2AVersions.map .text ++
    .uint32 d.supportedMCPVersions.length :: d.supportedMCPVersions.map .text ++
    [.text (d.adnlID.elim "" fun id => Canon.hexEncode (Canon.bigEndian 32 id.toNat)),
      .text (d.httpsEndpoint.elim "" Address.text), .text (Canon.digestText d.prekeyBundleDigest),
      optionalText d.mailboxRelaySetDigest, .text (Canon.digestText d.inboxAdmissionPolicyDigest),
      optionalText d.attachmentServiceDigest, .uint32 d.maximumEnvelopeBytes, .uint64 d.issuedAt, .uint64 d.expiresAt]

def signingBytes : Except Failure Bytes := do
  validateDescriptor d false
  match d.network.bind Network.fields with
  | none => .error (.other "invalid canonical 32-byte hash")
  | some network => pure (Canon.preimage domainContactDescriptor (d.fields network))

def descriptorDigest (d : Descriptor) : Except Failure (BitVec 256) := do
  let preimage ← signingBytes d
  pure (c.sum256 preimage)

/-! ## Locators -/

/-- The signed pointer that is published in the DHT. -/
structure Locator where
  endpointID : EndpointID
  descriptorDigest : BitVec 256
  descriptorLocator : Address
  issuedAt : Nat
  expiresAt : Nat
  endpointSignature : Bytes
  deriving DecidableEq

variable (l : Locator)

def validateLocator (signed : Bool) : Except Failure Unit := do
  failIf (l.descriptorDigest = 0) "invalid locator descriptor digest"
  validateDescriptorLocator l.descriptorLocator
  failIf (l.issuedAt = 0 ∨ l.expiresAt ≤ l.issuedAt ∨ maxLocatorLifetimeSeconds < l.expiresAt - l.issuedAt)
    "invalid locator validity window"
  failIf (signed ∧ l.endpointSignature.length ≠ signatureSize) "invalid locator signature"

def locatorSigningBytes : Except Failure Bytes := do
  validateLocator l false
  pure (Field.utf8 domainDHTLocator ++ [locatorVersion] ++ Canon.bigEndian 32 l.endpointID.digest.toNat ++
    Canon.bigEndian 32 l.descriptorDigest.toNat ++
    [Field.uint64 l.issuedAt, .uint64 l.expiresAt, .text l.descriptorLocator.text].flatMap Field.encode)

def newLocator (d : Descriptor) (reference : Address) (issuedAt expiresAt : Nat) : Except Failure Locator := do
  let digest ← descriptorDigest c d
  failIf (d.expiresAt < expiresAt) "locator outlives its descriptor"
  let locator : Locator := ⟨d.endpointID, digest, reference, issuedAt, expiresAt, []⟩
  validateLocator locator false
  pure locator

/-- Does a fetched descriptor match what the locator commits? -/
def matchesDescriptor (d : Descriptor) : Except Failure Unit := do
  let digest ← descriptorDigest c d
  failIf (digest ≠ l.descriptorDigest) "retrieved descriptor does not match the locator commitment"
  failIf (d.endpointID ≠ l.endpointID) "retrieved descriptor belongs to another endpoint"

/-! ## Admission under a delegation -/

def verifyLocator (l : Locator) (now : Time) : Except Failure Unit := do
  validateLocator l true
  checkWindow a.delegation now
  failIf (l.endpointID ≠ a.delegation.endpointID) "locator does not match its delegation"
  failIf (a.delegation.expiresAt < l.expiresAt) "locator outlives its delegation"
  failIf (now < 0 ∨ l.expiresAt ≤ now.toNat) "locator is expired"
  failIf (now.toNat < l.issuedAt) "locator is not yet issued"
  let preimage ← locatorSigningBytes l
  failIf (¬c.verify a.delegation.identityPublicKey preimage l.endpointSignature)
    "locator signature is not from the delegated endpoint key"

def bind (d : Descriptor) (policy : DescriptorPolicy) (now : Time) : Except Failure Unit := do
  validateDescriptor d true
  checkWindow a.delegation now
  failIf (d.delegationDigest ≠ a.digest) "descriptor does not commit its delegation"
  failIf (d.agentID ≠ a.delegation.agentID ∨ d.endpointID ≠ a.delegation.endpointID)
    "descriptor identity does not match its delegation"
  failIf (d.network ≠ a.delegation.network) "descriptor network tuple does not match its delegation"
  failIf (d.adnlID ≠ a.adnlID) "descriptor advertises an undelegated ADNL identity"
  failIf (¬d.supportedMessagingVersions ⊆ a.allowedProtocolVersions)
    "descriptor advertises an undelegated protocol version"
  failIf (a.delegation.expiresAt < d.expiresAt) "descriptor outlives its delegation"
  let policyDigest ← policy.digest c
  failIf (policyDigest ≠ a.contactDescriptorPolicyDigest) "descriptor policy is not the one the Agent committed"
  policy.permits d
  failIf (d.inboxAdmissionPolicyDigest ≠ a.inboxAdmissionPolicyDigest)
    "descriptor advertises an inbox policy its Agent did not commit"
  failIf (now < 0 ∨ d.expiresAt ≤ now.toNat) "descriptor is expired"
  failIf (now.toNat < d.issuedAt) "descriptor is not yet issued"
  let preimage ← signingBytes d
  failIf (¬c.verify a.delegation.identityPublicKey preimage d.endpointSignature)
    "descriptor signature is not from the delegated endpoint key"

def bindBundle (b : Bundle) (now : Time) : Except Failure Unit := do
  validateBundle b true
  checkWindow a.delegation now
  failIf (b.agentID ≠ a.delegation.agentID ∨ b.endpointID ≠ a.delegation.endpointID)
    "bundle identity does not match its delegation"
  failIf (b.network ≠ a.delegation.network) "bundle network tuple does not match its delegation"
  failIf (a.delegation.expiresAt < b.expiresAt.toNat) "bundle outlives its delegation"
  failIf (now < 0 ∨ b.expiresAt.toNat ≤ now.toNat) "bundle is expired"
  failIf (now.toNat < b.issuedAt.toNat) "bundle is not yet issued"
  let preimage ← bundleSigningBytes b
  failIf (¬c.verify a.delegation.identityPublicKey preimage b.endpointSignature)
    "bundle signature is not from the delegated endpoint key"

/-- Admit a published device set that reproduces the digest a descriptor committed. -/
def bindBundleSet (bundles : List Bundle) (committed : BitVec 256) (now : Time) : Except Failure Unit := do
  validateSet bundles
  bundles.forM fun b => bindBundle c a b now
  failIf (committed = 0) "invalid committed prekey bundle digest"
  let digest ← setDigest c bundles
  failIf (digest ≠ committed) "published prekey material does not match the descriptor commitment"

/-! ## What acceptance says about the windows -/

/-- The window is open. -/
def Live (issuedAt expiresAt : Nat) (now : Time) : Prop := 0 ≤ now ∧ issuedAt ≤ now.toNat ∧ now.toNat < expiresAt

instance (issuedAt expiresAt : Nat) (now : Time) : Decidable (Live issuedAt expiresAt now) :=
  inferInstanceAs (Decidable (_ ∧ _))

/-- Within a narrower window, and until later. -/
theorem Live.later {issuedAt expiresAt expiresAt' : Nat} {now t : Time} (h : Live issuedAt expiresAt' now)
    (hle : now ≤ t) (hpre : t.toNat < expiresAt) : Live issuedAt expiresAt t :=
  ⟨le_trans h.1 hle, le_trans h.2.1 (Int.toNat_le_toNat hle), hpre⟩

theorem checkWindow_ok {d : Delegation} {now : Time} :
    checkWindow d now = .ok () ↔ Live d.notBefore d.expiresAt now := by
  constructor
  · intro h
    obtain ⟨_, hti, h⟩ := seq_ok.mp h
    obtain ⟨_, hbeg, hend⟩ := seq_ok.mp h
    exact ⟨not_lt.mp (failIf_ok.mp hti), not_lt.mp (failIf_ok.mp hbeg), not_le.mp (failIf_ok.mp hend)⟩
  rintro ⟨hti, hbeg, hend⟩
  refine failIf_then.mpr ⟨not_lt.mpr hti, ?_⟩
  exact failIf_then.mpr ⟨not_lt.mpr hbeg, failIf_ok.mpr (not_le.mpr hend)⟩

/-- Two checks of one window. -/
theorem windowChecks_ok {issuedAt expiresAt : Nat} {now : Time} (hend : ¬(now < 0 ∨ expiresAt ≤ now.toNat))
    (hbeg : ¬now.toNat < issuedAt) : Live issuedAt expiresAt now := by
  push Not at hend
  exact ⟨hend.1, not_lt.mp hbeg, hend.2⟩

variable {c : Crypto} {a : Authority} {now : Time}

/-- An accepted locator is live under a live delegation that it does not outlive. -/
theorem verifyLocator_live {l : Locator} (h : verifyLocator c a l now = .ok ()) :
    Live a.delegation.notBefore a.delegation.expiresAt now ∧ Live l.issuedAt l.expiresAt now ∧
      l.expiresAt ≤ a.delegation.expiresAt := by
  simp only [verifyLocator, seq_ok, failIf_ok] at h
  obtain ⟨_, -, _, hdel, _, -, _, houtlives, _, hend, _, hbeg, -⟩ := h
  exact ⟨checkWindow_ok.mp hdel, windowChecks_ok hend hbeg, not_lt.mp houtlives⟩

/-- An accepted descriptor is live. -/
theorem bind_live {d : Descriptor} {policy : DescriptorPolicy}
    (h : bind c a d policy now = .ok ()) : Live d.issuedAt d.expiresAt now := by
  simp only [bind, seq_ok, failIf_ok] at h
  obtain ⟨_, -, _, -, _, -, _, -, _, -, _, -, _, -, _, -, digest, -, _, -, _, -, _, -, _, hend, _, hbeg, -⟩ := h
  exact windowChecks_ok hend hbeg

theorem bindBundle_live {b : Bundle} (h : bindBundle c a b now = .ok ()) :
    Live b.issuedAt.toNat b.expiresAt.toNat now := by
  simp only [bindBundle, seq_ok, failIf_ok] at h
  obtain ⟨_, -, _, -, _, -, _, -, _, -, _, hend, _, hbeg, -⟩ := h
  exact windowChecks_ok hend hbeg

theorem forM_ok {α : Type} {f : α → Except Failure Unit} {l : List α} (h : l.forM f = .ok ()) :
    ∀ x ∈ l, f x = .ok () := by
  induction l with
  | nil => exact fun _ hx => nomatch hx
  | cons y l ih =>
    obtain ⟨_, hy, hre⟩ := seq_ok.mp h
    exact List.forall_mem_cons.mpr ⟨hy, ih hre⟩

/-- Every bundle of an accepted set is live. -/
theorem bindBundleSet_live {bundles : List Bundle} {committed : BitVec 256}
    (h : bindBundleSet c a bundles committed now = .ok ()) :
    ∀ b ∈ bundles, Live b.issuedAt.toNat b.expiresAt.toNat now := by
  obtain ⟨_, -, h⟩ := seq_ok.mp h
  obtain ⟨_, hbun, -⟩ := seq_ok.mp h
  exact fun b hb => bindBundle_live (forM_ok hbun b hb)

/-! ## A small endpoint -/

/-- A hash that tells lengths apart, and signatures that all verify. -/
def lengths : Crypto := ⟨fun bytes => BitVec.ofNat 256 (bytes.length + 1), fun _ _ _ => true⟩

def sampleNetwork : Network :=
  let hash := String.ofList (List.replicate 64 'a')
  ⟨Canon.Field.utf8 "tos", hash, hash⟩

def sampleBundle (device : BitVec 256) (issuedAt expiresAt : UInt64) : Bundle :=
  ⟨some sampleNetwork, ⟨1⟩, ⟨2⟩, ⟨device⟩, "tos.messaging.e2ee.pqxdh.v1", [1], issuedAt, expiresAt, List.replicate 64 0⟩

def samplePolicy (lifetime : Nat) : DescriptorPolicy := ⟨8192, lifetime, true, false⟩

def sampleAuthority (policy : DescriptorPolicy) : Authority where
  delegation := ⟨some sampleNetwork, ⟨1⟩, ⟨2⟩, List.replicate 32 1, [], 1, 2 ^ 40⟩
  digest := 1
  adnlID := none
  allowedProtocolVersions := [1]
  contactDescriptorPolicyDigest := (policy.digest lengths).toOption.getD 0
  inboxAdmissionPolicyDigest := 1

def sampleAddress : Address := ⟨"https://a", some ⟨"https", false, "a", "a", "", false, false, false⟩⟩

def sampleDescriptor (bundles : List Bundle) (issuedAt expiresAt : Nat) : Descriptor where
  network := some sampleNetwork
  agentID := ⟨1⟩
  endpointID := ⟨2⟩
  delegationDigest := 1
  supportedMessagingVersions := [1]
  supportedA2AVersions := []
  supportedMCPVersions := []
  adnlID := none
  httpsEndpoint := some sampleAddress
  prekeyBundleDigest := (setDigest lengths bundles).toOption.getD 0
  mailboxRelaySetDigest := none
  inboxAdmissionPolicyDigest := 1
  attachmentServiceDigest := none
  maximumEnvelopeBytes := 4096
  issuedAt := issuedAt
  expiresAt := expiresAt
  endpointSignature := List.replicate 64 0

end Messenger.Directory
