import Messenger.Directory.Manager

/-!
# `Directory.Publication` — renewing a generation's descriptor and locator

A publisher signs a descriptor and a locator for the device set of a generation and renews them once
an interval (`pkg/directory/generation_publication.go`, `https_publication.go`). So that retries are
byte-identical, the descriptor is issued at the start of a bucket of half the policy's lifetime, and
the locator with it.

The descriptor lives for two buckets, the locator for a day at most from the start of the first. A
publication covers its interval when the bucket has less than a day behind it by then, the
descriptor advertises delegated versions only and its address is one a locator can carry
(`publication_covers`); a policy of more than two days has buckets that outlive the locator
(`long_bucket_uncovered`).
-/

namespace Messenger.Directory

open Identity
open E2ee (Bundle)

/-- The device set of a generation, in the canonical order of its publication. -/
structure PublicGeneration where
  setDigest : BitVec 256
  bundles : List Bundle
  issuedAt : Nat
  expiresAt : Nat

/-- The holder of the Endpoint key. -/
structure Signer where
  publicKey : Bytes
  sign : Bytes → Bytes

def signEndpoint (c : Crypto) (signer : Signer) (preimage : Bytes) : Except Failure Bytes := do
  failIf (signer.publicKey.length ≠ publicKeySize) "Endpoint signer is not Ed25519"
  failIf ((signer.sign preimage).length ≠ signatureSize ∨ ¬c.verify signer.publicKey preimage (signer.sign preimage))
    "Endpoint signer returned an invalid signature"
  pure (signer.sign preimage)

structure GenerationPublisher where
  signer : Signer
  authority : Authority
  policy : DescriptorPolicy
  descriptor : Descriptor
  publishInterval : Int

namespace GenerationPublisher

/-- The length of a bucket, in seconds. -/
def activationStep (p : GenerationPublisher) : Nat := p.policy.maxLifetimeSeconds / 2

/-- The descriptor that stands for all that will be published. -/
def probe (p : GenerationPublisher) : Descriptor :=
  { p.descriptor with
    prekeyBundleDigest := 0x1111111111111111111111111111111111111111111111111111111111111111
    issuedAt := p.authority.delegation.notBefore
    expiresAt := succ64 p.authority.delegation.notBefore }

def validate (c : Crypto) (p : GenerationPublisher) : Except Failure Unit := do
  failIf (p.publishInterval < 60 * 1000000000 ∨ 3600 * 1000000000 < p.publishInterval)
    "generation publication interval is outside its bound"
  failIf (p.activationStep < 60 ∨ (p.activationStep : Int) * 1000000000 < p.publishInterval)
    "generation publication interval cannot cover the descriptor renewal window"
  failIf (p.signer.publicKey.length ≠ publicKeySize ∨ p.signer.publicKey ≠ p.authority.delegation.identityPublicKey)
    "generation publisher signer is not the delegated Endpoint key"
  failIf (p.policy.digest c ≠ .ok p.authority.contactDescriptorPolicyDigest)
    "generation publisher policy does not match its delegation"
  failIf (p.descriptor.network = none ∨ p.descriptor.agentID ≠ p.authority.delegation.agentID ∨
      p.descriptor.endpointID ≠ p.authority.delegation.endpointID ∨ p.descriptor.delegationDigest ≠ p.authority.digest ∨
      p.descriptor.adnlID ≠ p.authority.adnlID ∨
      p.descriptor.inboxAdmissionPolicyDigest ≠ p.authority.inboxAdmissionPolicyDigest ∨
      p.descriptor.network ≠ p.authority.delegation.network)
    "generation publisher descriptor does not match its delegation"
  validateDescriptor p.probe false
  p.policy.permits p.probe

end GenerationPublisher

/-- The bytes of a host that `URL.String` writes as they are. -/
def plainInHost (b : UInt8) : Bool :=
  (Char.ofNat b.toNat).isAlphanum || Char.ofNat b.toNat ∈ "-_.~!$&'()*+,;=:[]<>\"".toList

/-- A host as `URL.String` writes it. -/
def escapeHost (host : String) : String :=
  String.ofList ((Canon.Field.utf8 host).flatMap fun b =>
    if plainInHost b then [Char.ofNat b.toNat] else '%' :: (Canon.hexPair b).map Char.toUpper)

/-- The immutable address of a descriptor on a host. A bare question mark of the endpoint stays. -/
def Url.descriptorObject (u : Url) (digest : BitVec 256) : Address :=
  let path := "/.well-known/tos-messenger/descriptors/" ++ Canon.hexEncode (Canon.bigEndian 32 digest.toNat) ++ ".json"
  ⟨u.scheme ++ "://" ++ escapeHost u.host ++ path ++ (if u.forceQuery then "?" else ""), some { u with path }⟩

/-- A locator can carry the addresses of descriptors on a host: there is no bare question mark, and
    the host is short enough as it is written. -/
def Url.Referable (u : Url) : Prop :=
  u.forceQuery = false ∧ u.scheme.utf8ByteSize + (escapeHost u.host).utf8ByteSize + 111 ≤ maxDescriptorLocatorBytes

instance (u : Url) : Decidable u.Referable := inferInstanceAs (Decidable (_ ∧ _))

def descriptorObjectURL (endpoint : Option Address) (digest : BitVec 256) : Except Failure Address :=
  match validateHTTPSEndpoint endpoint, endpoint.bind Address.parsed with
  | .ok (), some u =>
    if digest = 0 then .error (.other "invalid descriptor digest") else .ok (u.descriptorObject digest)
  | _, _ => .error (.other "descriptor publication needs a valid HTTPS endpoint")

/-- Sign and verify everything before anything is published. -/
def activateHTTPSPublication (c : Crypto) (signer : Signer) (a : Authority) (policy : DescriptorPolicy)
    (template : Descriptor) (locatorIssuedAt locatorExpiresAt : Nat) (prekeyDigest : BitVec 256)
    (bundles : List Bundle) (now : Time) : Except Failure (Descriptor × Locator) := do
  bindBundleSet c a bundles prekeyDigest now
  let descriptor := { template with prekeyBundleDigest := prekeyDigest, endpointSignature := [] }
  let preimage ← signingBytes descriptor
  let signature ← signEndpoint c signer preimage
  let signed := { descriptor with endpointSignature := signature }
  bind c a signed policy now
  let digest ← descriptorDigest c signed
  let reference ← descriptorObjectURL signed.httpsEndpoint digest
  let locator ← newLocator c signed reference locatorIssuedAt locatorExpiresAt
  let preimage ← locatorSigningBytes locator
  let signature ← signEndpoint c signer preimage
  let locator := { locator with endpointSignature := signature }
  verifyLocator c a locator now
  pure (signed, locator)

namespace GenerationPublisher

variable (p : GenerationPublisher) (g : PublicGeneration) (now : Time)

/-- When the descriptor and the locator are issued. -/
def issued : Nat :=
  max (now.toNat / p.activationStep * p.activationStep) g.issuedAt

def descriptorExpiry : Nat :=
  min (min g.expiresAt (p.issued g now + p.policy.maxLifetimeSeconds)) p.authority.delegation.expiresAt

def locatorExpiry : Nat :=
  min (p.issued g now + maxLocatorLifetimeSeconds) (p.descriptorExpiry g now)

/-- Publish a generation, with sinks that work. -/
def publish (c : Crypto) (p : GenerationPublisher) (g : PublicGeneration) (now : Time) :
    Except Failure (Descriptor × Locator) := do
  p.validate c
  failIf (now < 0 ∨ g.issuedAt = 0 ∨ g.expiresAt ≤ g.issuedAt ∨ now.toNat < g.issuedAt ∨ g.expiresAt ≤ now.toNat)
    "public generation is outside its publication window"
  failIf (p.descriptorExpiry g now ≤ now.toNat) "descriptor window cannot cover publication time"
  let descriptor := { p.descriptor with issuedAt := p.issued g now, expiresAt := p.descriptorExpiry g now }
  activateHTTPSPublication c p.signer p.authority p.policy descriptor (p.issued g now) (p.locatorExpiry g now)
    g.setDigest g.bundles now

end GenerationPublisher

/-! ## What is signed passes the verifiers -/

/-- What a publication changes in its template. -/
def Descriptor.renewed (d : Descriptor) (digest : BitVec 256) (issuedAt expiresAt : Nat)
    (signature : Bytes) : Descriptor :=
  { d with prekeyBundleDigest := digest, issuedAt := issuedAt, expiresAt := expiresAt, endpointSignature := signature }

section
variable {d : Descriptor} {digest : BitVec 256} {issuedAt expiresAt : Nat} {signature : Bytes}

theorem validateContent_renewed (h : validateContent d = .ok ()) (hdig : digest ≠ 0) :
    validateContent (d.renewed digest issuedAt expiresAt signature) = .ok () := by
  obtain ⟨_, hnet, h⟩ := seq_ok.mp h
  obtain ⟨hds, h⟩ := failIf_then.mp h
  push Not at hds
  refine seq_ok.mpr ⟨(), hnet, failIf_then.mpr ⟨?_, h⟩⟩
  rintro (hz | hz | hz)
  · exact hds.1 hz
  · exact hdig hz
  · exact hds.2.2 hz

theorem permits_renewed {p : DescriptorPolicy} (h : p.permits d = .ok ())
    (hlife : expiresAt - issuedAt ≤ p.maxLifetimeSeconds) :
    p.permits (d.renewed digest issuedAt expiresAt signature) = .ok () := by
  obtain ⟨_, hval, h⟩ := seq_ok.mp h
  obtain ⟨_, henvelope, h⟩ := seq_ok.mp h
  obtain ⟨_, -, h⟩ := seq_ok.mp h
  exact seq_ok.mpr ⟨(), hval, seq_ok.mpr ⟨(), henvelope, failIf_then.mpr ⟨not_lt.mpr hlife, h⟩⟩⟩

end

/-- How long the address of a descriptor is. -/
theorem descriptorObject_size {u : Url} (hquery : u.forceQuery = false) (digest : BitVec 256) :
    (u.descriptorObject digest).text.utf8ByteSize
      = u.scheme.utf8ByteSize + (escapeHost u.host).utf8ByteSize + 111 := by
  have hhex : (Canon.hexEncode (Canon.bigEndian 32 digest.toNat)).utf8ByteSize = 64 := by
    rw [Canon.hexEncode_size, Canon.bigEndian_length]
  have hparts : (u.descriptorObject digest).text.utf8ByteSize =
      u.scheme.utf8ByteSize + 3 + (escapeHost u.host).utf8ByteSize +
        (39 + (Canon.hexEncode (Canon.bigEndian 32 digest.toNat)).utf8ByteSize + 5) + 0 := by
    simp only [Url.descriptorObject, hquery, String.utf8ByteSize_append]
    rfl
  omega

/-- The address of a descriptor, of a valid endpoint. -/
theorem descriptorObjectURL_ok {endpoint : Address} {u : Url} {digest : BitVec 256}
    (hvalid : validateHTTPSEndpoint (some endpoint) = .ok ()) (hparsed : endpoint.parsed = some u)
    (hdigest : digest ≠ 0) : descriptorObjectURL (some endpoint) digest = .ok (u.descriptorObject digest) := by
  unfold descriptorObjectURL
  rw [hvalid]
  simp only [Option.bind_some, hparsed, if_neg hdigest]

/-- The address of a descriptor is a valid reference exactly when a locator can carry it. -/
theorem descriptorObject_valid {endpoint : Address} {u : Url} (digest : BitVec 256)
    (hvalid : validateHTTPSEndpoint (some endpoint) = .ok ()) (hparsed : endpoint.parsed = some u) :
    validateDescriptorLocator (u.descriptorObject digest) = .ok () ↔ u.Referable := by
  obtain ⟨_, -, h⟩ := seq_ok.mp hvalid
  simp only [hparsed] at h
  obtain ⟨hparts, hscheme⟩ := failIf_then.mp h
  have hscheme := not_not.mp (failIf_ok.mp hscheme)
  constructor
  · intro hlocator
    obtain ⟨hshort, hlocator⟩ := failIf_then.mp hlocator
    obtain ⟨hquery, -⟩ := failIf_then.mp hlocator
    have hquery : u.forceQuery = false := eq_false_of_ne_true fun hforce => hquery (.inr (.inr (.inl hforce)))
    have hsize := descriptorObject_size hquery digest
    refine ⟨hquery, not_lt.mp fun hlong => hshort (.inr (.inl ?_))⟩
    rw [hsize]
    exact hlong
  rintro ⟨hquery, hfits⟩
  have hfirst : u.scheme.toList.head? = some 'h' := by
    rcases hscheme with heq | ⟨heq, -⟩ <;> rw [heq] <;> decide
  have hlast : ".json".toList.getLast? = some 'n' := by decide
  have htrimmed : trimmed (u.descriptorObject digest).text := by
    unfold trimmed Url.descriptorObject
    simp only [hquery, Bool.false_eq_true, if_false, String.append_empty, String.toList_append, List.append_assoc,
      List.head?_append, hfirst, List.getLast?_append, hlast, Option.some_or, Option.any_some]
    decide
  have hsize := descriptorObject_size hquery digest
  refine failIf_then.mpr ⟨?_, failIf_then.mpr ⟨?_, failIf_ok.mpr (not_not.mpr ?_)⟩⟩
  · rintro (hempty | hlong | hspace)
    · rw [hempty] at hsize
      change 0 = _ at hsize
      omega
    · omega
    · exact hspace htrimmed
  · rintro (huser | hraw | hforce | hrest)
    · exact hparts (.inl huser)
    · exact hparts (.inr (.inl hraw))
    · cases hquery.symm.trans hforce
    · exact hparts (.inr (.inr hrest))
  · rcases hscheme with heq | hloopback
    · exact .inl (List.mem_cons.mpr (.inl heq))
    · exact .inr hloopback

/-- A bound set shows that the network's genesis hashes decode. -/
theorem bindBundleSet_network {c : Crypto} {a : Authority} {bundles : List Bundle}
    {committed : BitVec 256} {now : Time} (h : bindBundleSet c a bundles committed now = .ok ()) :
    committed ≠ 0 ∧ ∃ fields, a.delegation.network.bind Network.fields = some fields := by
  simp only [bindBundleSet, seq_ok, failIf_ok] at h
  obtain ⟨_, hset, _, hbun, _, hcom, -⟩ := h
  refine ⟨hcom, ?_⟩
  cases bundles with
  | nil => cases hset
  | cons b rest =>
    have hb := forM_ok hbun b List.mem_cons_self
    simp only [bindBundle, seq_ok, failIf_ok] at hb
    obtain ⟨_, -, _, -, _, -, _, hnet, _, -, _, -, _, -, _, himg, -⟩ := hb
    obtain ⟨_, -, himg⟩ := seq_ok.mp himg
    rw [not_not.mp hnet] at himg
    split at himg
    · cases himg
    · next fields hfd => exact ⟨fields, hfd⟩

namespace GenerationPublisher

/-- A valid publisher with a short HTTPS host and a signer and a hash that work, a generation with a
    valid set, and a time inside the windows of the generation and the delegation. -/
structure Ready (c : Crypto) (p : GenerationPublisher) (g : PublicGeneration) (now : Time) : Prop where
  valid : p.validate c = .ok ()
  endpoint : ∃ a u, p.descriptor.httpsEndpoint = some a ∧ a.parsed = some u ∧ u.host.utf8ByteSize ≤ 128
  signs : ∀ m, (p.signer.sign m).length = signatureSize ∧ c.verify p.signer.publicKey m (p.signer.sign m)
  hashes : ∀ m, c.sum256 m ≠ 0
  set : bindBundleSet c p.authority g.bundles g.setDigest now = .ok ()
  issued : g.issuedAt ≠ 0
  generation : Live g.issuedAt g.expiresAt now
  delegation : Live p.authority.delegation.notBefore p.authority.delegation.expiresAt now

/-- A locator can carry the addresses of what is published. -/
def Referable (p : GenerationPublisher) : Prop :=
  ∃ a u, p.descriptor.httpsEndpoint = some a ∧ a.parsed = some u ∧ u.Referable

variable {c : Crypto} {p : GenerationPublisher} {g : PublicGeneration} {now : Time}

/-- What a valid publisher promises. -/
structure Promises (c : Crypto) (p : GenerationPublisher) : Prop where
  least : 60 * 1000000000 ≤ p.publishInterval
  interval : p.publishInterval ≤ (p.activationStep : Int) * 1000000000
  step : 60 ≤ p.activationStep
  key : p.signer.publicKey.length = publicKeySize ∧ p.signer.publicKey = p.authority.delegation.identityPublicKey
  policy : p.policy.digest c = .ok p.authority.contactDescriptorPolicyDigest
  agentID : p.descriptor.agentID = p.authority.delegation.agentID
  endpointID : p.descriptor.endpointID = p.authority.delegation.endpointID
  digest : p.descriptor.delegationDigest = p.authority.digest
  adnlID : p.descriptor.adnlID = p.authority.adnlID
  inbox : p.descriptor.inboxAdmissionPolicyDigest = p.authority.inboxAdmissionPolicyDigest
  network : p.descriptor.network = p.authority.delegation.network
  content : validateContent p.probe = .ok ()
  permits : p.policy.permits p.probe = .ok ()
  lifetime : p.policy.maxLifetimeSeconds ≤ maxDescriptorLifetimeSeconds

theorem validate_ok (h : p.validate c = .ok ()) : p.Promises c := by
  simp only [GenerationPublisher.validate, seq_ok, failIf_ok] at h
  obtain ⟨_, hinterval, _, hsp, _, hkey, _, hpol, _, hmatch, _, hprobe, hpmt⟩ := h
  obtain ⟨_, hco, -⟩ := seq_ok.mp hprobe
  obtain ⟨_, hval, -⟩ := seq_ok.mp hpmt
  obtain ⟨_, -, hval⟩ := seq_ok.mp hval
  obtain ⟨hlife, -⟩ := failIf_then.mp hval
  push Not at hsp hkey hmatch hlife
  obtain ⟨-, hagt, hept, hdig, hadnl, hinbox, hnet⟩ := hmatch
  exact ⟨not_lt.mp (not_or.mp hinterval).1, hsp.2, hsp.1, hkey, not_not.mp hpol, hagt, hept, hdig,
    hadnl, hinbox, hnet, hco, hpmt, hlife.2⟩

section
variable (h : Ready c p g now)

include h

/-- Where a publication stands in its bucket. -/
theorem Ready.times :
    1 ≤ p.issued g now ∧ p.issued g now ≤ now.toNat ∧ now.toNat < p.issued g now + p.activationStep ∧
      2 * p.activationStep ≤ p.policy.maxLifetimeSeconds ∧ now.toNat < p.descriptorExpiry g now := by
  have hsp : 60 ≤ p.activationStep := (validate_ok h.valid).step
  have hbucket : now.toNat / p.activationStep * p.activationStep ≤ now.toNat := Nat.div_mul_le_self _ _
  have hnx : now.toNat < now.toNat / p.activationStep * p.activationStep + p.activationStep :=
    Nat.lt_div_mul_add (by omega)
  have hhalf : 2 * p.activationStep ≤ p.policy.maxLifetimeSeconds := Nat.mul_div_le _ _
  have hbeg : 1 ≤ g.issuedAt := Nat.one_le_iff_ne_zero.mpr h.issued
  have hgen := h.generation.2
  have hdel := h.delegation.2
  unfold descriptorExpiry GenerationPublisher.issued
  omega

/-- The descriptor of a publication, and its locator. -/
def descriptorAt (p : GenerationPublisher) (g : PublicGeneration) (now : Time) (signature : Bytes) : Descriptor :=
  p.descriptor.renewed g.setDigest (p.issued g now) (p.descriptorExpiry g now) signature

def locatorAt (p : GenerationPublisher) (g : PublicGeneration) (now : Time) (u : Url)
    (digest : BitVec 256) (signature : Bytes) : Locator :=
  ⟨p.descriptor.endpointID, digest, u.descriptorObject digest, p.issued g now, p.locatorExpiry g now, signature⟩

/-- A descriptor of the publication is valid and has a preimage, with any signature. -/
theorem Ready.descriptor_valid (signature : Bytes) :
    validateDescriptor (p.descriptorAt g now signature) (decide (signature.length = signatureSize)) = .ok () ∧
      ∃ preimage, signingBytes (p.descriptorAt g now signature) = .ok preimage := by
  have hp := validate_ok h.valid
  obtain ⟨hdig, fields, hfd⟩ := bindBundleSet_network h.set
  obtain ⟨hbeg, hiss, -, -, hxy⟩ := h.times
  have hlife := hp.lifetime
  have hco : validateContent (p.descriptorAt g now signature) = .ok () :=
    validateContent_renewed (d := p.probe) hp.content hdig
  have hwin : ¬(p.issued g now = 0 ∨ p.descriptorExpiry g now ≤ p.issued g now ∨
      maxDescriptorLifetimeSeconds < p.descriptorExpiry g now - p.issued g now) := by
    have hcap : p.descriptorExpiry g now ≤ p.issued g now + p.policy.maxLifetimeSeconds :=
      (min_le_left _ _).trans (min_le_right _ _)
    omega
  have hval : ∀ signed : Bool, (signed → signature.length = signatureSize) →
      validateDescriptor (p.descriptorAt g now signature) signed = .ok () := fun signed hsig =>
    seq_ok.mpr ⟨(), hco, failIf_then.mpr ⟨hwin, failIf_ok.mpr fun hbad => hbad.2 (hsig hbad.1)⟩⟩
  refine ⟨hval _ (of_decide_eq_true ·), Canon.preimage domainContactDescriptor
    ((p.descriptorAt g now signature).fields fields), seq_ok.mpr ⟨(), hval false (nomatch ·), ?_⟩⟩
  have hnet : (p.descriptorAt g now signature).network.bind Network.fields = some fields :=
    (congrArg (Option.bind · Network.fields) hp.network).trans hfd
  simp only [hnet]
  rfl

theorem Ready.signs_ok (m : Bytes) : signEndpoint c p.signer m = .ok (p.signer.sign m) :=
  failIf_then.mpr ⟨not_not.mpr (validate_ok h.valid).key.1,
    failIf_then.mpr ⟨not_or.mpr ⟨not_not.mpr (h.signs m).1, not_not.mpr (h.signs m).2⟩, rfl⟩⟩

/-- The signed descriptor binds when its versions are delegated. -/
theorem Ready.binds
    (hve : p.descriptor.supportedMessagingVersions ⊆ p.authority.allowedProtocolVersions)
    {preimage : Bytes} (himg : signingBytes (p.descriptorAt g now []) = .ok preimage) :
    bind c p.authority (p.descriptorAt g now (p.signer.sign preimage)) p.policy now = .ok () := by
  have hp := validate_ok h.valid
  obtain ⟨-, hiss, -, -, hxy⟩ := h.times
  have hsig : signingBytes (p.descriptorAt g now (p.signer.sign preimage)) = .ok preimage := himg
  have hval := (h.descriptor_valid (p.signer.sign preimage)).1
  rw [decide_eq_true (h.signs preimage).1] at hval
  have hcap : p.descriptorExpiry g now - p.issued g now ≤ p.policy.maxLifetimeSeconds :=
    Nat.sub_le_iff_le_add'.mpr ((min_le_left _ _).trans (min_le_right _ _))
  refine seq_ok.mpr ⟨(), hval, seq_ok.mpr ⟨(), checkWindow_ok.mpr h.delegation, ?_⟩⟩
  refine failIf_then.mpr ⟨not_not.mpr hp.digest, ?_⟩
  refine failIf_then.mpr ⟨not_or.mpr ⟨not_not.mpr hp.agentID, not_not.mpr hp.endpointID⟩, ?_⟩
  refine failIf_then.mpr ⟨not_not.mpr hp.network, ?_⟩
  refine failIf_then.mpr ⟨not_not.mpr hp.adnlID, ?_⟩
  refine failIf_then.mpr ⟨not_not.mpr hve, ?_⟩
  refine failIf_then.mpr ⟨not_lt.mpr (min_le_right _ _), ?_⟩
  refine seq_ok.mpr ⟨_, hp.policy, failIf_then.mpr ⟨not_not.mpr rfl, ?_⟩⟩
  refine seq_ok.mpr ⟨(), permits_renewed (d := p.probe) hp.permits hcap, ?_⟩
  refine failIf_then.mpr ⟨not_not.mpr hp.inbox, ?_⟩
  refine failIf_then.mpr ⟨not_or.mpr ⟨not_lt.mpr h.delegation.1, not_le.mpr hxy⟩, ?_⟩
  refine failIf_then.mpr ⟨not_lt.mpr hiss, ?_⟩
  refine seq_ok.mpr ⟨preimage, hsig, failIf_ok.mpr (not_not.mpr ?_)⟩
  rw [← hp.key.2]
  exact (h.signs preimage).2

/-- The endpoint is one the verifier of descriptors accepts. -/
theorem Ready.https : validateHTTPSEndpoint p.descriptor.httpsEndpoint = .ok () := by
  obtain ⟨_, -, hcontent⟩ := seq_ok.mp (validate_ok h.valid).content
  iterate 7 obtain ⟨_, -, hcontent⟩ := seq_ok.mp hcontent
  exact (seq_ok.mp hcontent).choose_spec.1

/-- **A publication succeeds** when its versions are delegated, a locator can carry its address and
    the locator outlives the clock. -/
theorem Ready.publish_ok
    (hve : p.descriptor.supportedMessagingVersions ⊆ p.authority.allowedProtocolVersions) (href : p.Referable)
    (hday : now.toNat < p.issued g now + maxLocatorLifetimeSeconds) : ∃ d l, p.publish c g now = .ok (d, l) := by
  have hp := validate_ok h.valid
  obtain ⟨hbeg, hiss, -, -, hxy⟩ := h.times
  obtain ⟨a, u, hept, hpars, href⟩ := href
  obtain ⟨-, img, himg⟩ := h.descriptor_valid []
  have hbi := h.binds hve himg
  have hlv : now.toNat < p.locatorExpiry g now := lt_min hday hxy
  have hdig : descriptorDigest c (p.descriptorAt g now (p.signer.sign img)) = .ok (c.sum256 img) :=
    seq_ok.mpr ⟨img, himg, rfl⟩
  have hhttps : validateHTTPSEndpoint (some a) = .ok () := hept ▸ h.https
  have hreference := descriptorObjectURL_ok hhttps hpars (h.hashes img)
  have hval := (descriptorObject_valid (c.sum256 img) hhttps hpars).mpr href
  have hloc : ∀ signature : Bytes, ∀ signed : Bool, (signed → signature.length = signatureSize) →
      validateLocator (p.locatorAt g now u (c.sum256 img) signature) signed = .ok () := by
    intro signature signed hsig
    refine failIf_then.mpr ⟨h.hashes img, seq_ok.mpr ⟨(), hval, failIf_then.mpr ⟨?_, ?_⟩⟩⟩
    · have hcap : p.locatorExpiry g now ≤ p.issued g now + maxLocatorLifetimeSeconds := min_le_left _ _
      show ¬(p.issued g now = 0 ∨ p.locatorExpiry g now ≤ p.issued g now ∨
        maxLocatorLifetimeSeconds < p.locatorExpiry g now - p.issued g now)
      omega
    · exact failIf_ok.mpr fun hbad => hbad.2 (hsig hbad.1)
  obtain ⟨m, hm⟩ : ∃ m, locatorSigningBytes (p.locatorAt g now u (c.sum256 img) []) = .ok m :=
    ⟨_, seq_ok.mpr ⟨(), hloc [] false (nomatch ·), rfl⟩⟩
  have hver : verifyLocator c p.authority (p.locatorAt g now u (c.sum256 img) (p.signer.sign m)) now = .ok () := by
    refine seq_ok.mpr ⟨(), hloc _ true fun _ => (h.signs m).1, ?_⟩
    refine seq_ok.mpr ⟨(), checkWindow_ok.mpr h.delegation, failIf_then.mpr ⟨not_not.mpr hp.endpointID, ?_⟩⟩
    refine failIf_then.mpr ⟨not_lt.mpr ((min_le_right _ _).trans (min_le_right _ _)), ?_⟩
    refine failIf_then.mpr ⟨not_or.mpr ⟨not_lt.mpr h.delegation.1, not_le.mpr hlv⟩, ?_⟩
    refine failIf_then.mpr ⟨not_lt.mpr hiss, seq_ok.mpr ⟨m, hm, failIf_ok.mpr (not_not.mpr ?_)⟩⟩
    rw [← hp.key.2]
    exact (h.signs m).2
  have hwin : ¬(now < 0 ∨ g.issuedAt = 0 ∨ g.expiresAt ≤ g.issuedAt ∨ now.toNat < g.issuedAt ∨
      g.expiresAt ≤ now.toNat) := by
    have hgen := h.generation.2
    have hpos := h.issued
    rintro (hneg | hre)
    · exact absurd h.generation.1 (not_le.mpr hneg)
    · omega
  refine ⟨p.descriptorAt g now (p.signer.sign img), p.locatorAt g now u (c.sum256 img) (p.signer.sign m), ?_⟩
  refine seq_ok.mpr ⟨(), h.valid, failIf_then.mpr ⟨hwin, failIf_then.mpr ⟨not_le.mpr hxy, ?_⟩⟩⟩
  refine seq_ok.mpr ⟨(), h.set, seq_ok.mpr ⟨img, himg, ?_⟩⟩
  refine seq_ok.mpr ⟨_, h.signs_ok img, seq_ok.mpr ⟨(), hbi, seq_ok.mpr ⟨_, hdig, ?_⟩⟩⟩
  refine seq_ok.mpr ⟨_, (congrArg (descriptorObjectURL · _) hept).trans hreference, ?_⟩
  refine seq_ok.mpr ⟨p.locatorAt g now u (c.sum256 img) [], ?_, ?_⟩
  · exact seq_ok.mpr ⟨_, hdig, failIf_then.mpr ⟨not_lt.mpr (min_le_right _ _),
      seq_ok.mpr ⟨(), hloc [] false (nomatch ·), rfl⟩⟩⟩
  · exact seq_ok.mpr ⟨m, hm, seq_ok.mpr ⟨_, h.signs_ok m, seq_ok.mpr ⟨(), hver, rfl⟩⟩⟩

/-- The locator of a publication carries the address of its descriptor. -/
theorem Ready.publish_referable {d : Descriptor} {l : Locator}
    (hpublish : p.publish c g now = .ok (d, l)) : p.Referable := by
  obtain ⟨a, u, hendpoint, hparsed, -⟩ := h.endpoint
  have hhttps : validateHTTPSEndpoint (some a) = .ok () := hendpoint ▸ h.https
  iterate 7 obtain ⟨_, -, hpublish⟩ := seq_ok.mp hpublish
  obtain ⟨digest, hdigest, hpublish⟩ := seq_ok.mp hpublish
  obtain ⟨reference, hreference, hpublish⟩ := seq_ok.mp hpublish
  obtain ⟨_, hlocator, -⟩ := seq_ok.mp hpublish
  iterate 2 obtain ⟨_, -, hlocator⟩ := seq_ok.mp hlocator
  obtain ⟨_, hlocator, -⟩ := seq_ok.mp hlocator
  obtain ⟨_, -, hlocator⟩ := seq_ok.mp hlocator
  obtain ⟨_, hlocator, -⟩ := seq_ok.mp hlocator
  obtain ⟨preimage, -, hsum⟩ := seq_ok.mp hdigest
  cases hsum
  have hreference : descriptorObjectURL p.descriptor.httpsEndpoint (c.sum256 preimage) = .ok reference := hreference
  rw [hendpoint, descriptorObjectURL_ok hhttps hparsed (h.hashes preimage)] at hreference
  cases hreference
  exact ⟨a, u, hendpoint, hparsed, (descriptorObject_valid _ hhttps hparsed).mp hlocator⟩

end

/-- What a successful publication says about its objects. -/
theorem publish_windows {d : Descriptor} {l : Locator} (h : p.publish c g now = .ok (d, l)) :
    d.issuedAt = p.issued g now ∧ d.expiresAt = p.descriptorExpiry g now ∧
      l.issuedAt = p.issued g now ∧ l.expiresAt = p.locatorExpiry g now ∧
      p.descriptor.supportedMessagingVersions ⊆ p.authority.allowedProtocolVersions ∧
      Live d.issuedAt d.expiresAt now ∧ Live l.issuedAt l.expiresAt now := by
  iterate 6 obtain ⟨_, -, h⟩ := seq_ok.mp h
  obtain ⟨_, hbi, h⟩ := seq_ok.mp h
  iterate 2 obtain ⟨_, -, h⟩ := seq_ok.mp h
  obtain ⟨locator, hloc, h⟩ := seq_ok.mp h
  iterate 2 obtain ⟨_, -, h⟩ := seq_ok.mp h
  obtain ⟨_, hver, h⟩ := seq_ok.mp h
  iterate 3 obtain ⟨_, -, hloc⟩ := seq_ok.mp hloc
  cases hloc
  cases h
  have hve := hbi
  iterate 6 obtain ⟨_, -, hve⟩ := seq_ok.mp hve
  obtain ⟨hve, -⟩ := failIf_then.mp hve
  exact ⟨rfl, rfl, rfl, rfl, not_not.mp hve, bind_live hbi, (verifyLocator_live hver).2.1⟩

end GenerationPublisher

/-! ## Coverage of the interval -/

/-- Each second of an interval is reached in it. -/
theorem second_reached {now interval : Int} {second : Nat} (hnow : 0 ≤ now / 1000000000) (hinterval : 0 ≤ interval)
    (hle : second ≤ ((now + interval) / 1000000000).toNat) (hge : (now / 1000000000).toNat ≤ second) :
    ∃ t : Int, now ≤ t ∧ t ≤ now + interval ∧ 0 ≤ t / 1000000000 ∧ (t / 1000000000).toNat = second :=
  ⟨max now (second * 1000000000), by omega, by omega, by omega, by omega⟩

/-- How far an interval within one step reaches. -/
theorem seconds_within {now interval t : Int} {step : Nat} (hle : t ≤ now + interval)
    (hsp : interval ≤ (step : Int) * 1000000000) :
    (t / 1000000000).toNat ≤ ((now + interval) / 1000000000).toNat ∧
      (t / 1000000000).toNat ≤ (now / 1000000000).toNat + step := by
  omega

/-- **A publication covers its interval.** It succeeds, with a descriptor and a locator that are
    live and stay unexpired until the next one is due, exactly when the descriptor advertises
    delegated versions, a locator can carry its address and the last second to cover is within a day
    of the start of the bucket. -/
theorem publication_covers (c : Crypto) (p : GenerationPublisher) (g : PublicGeneration)
    (now : Instant) (h : p.Ready c g now.unix) :
    (∃ d l, p.publish c g now.unix = .ok (d, l) ∧ Live d.issuedAt d.expiresAt now.unix ∧
      Live l.issuedAt l.expiresAt now.unix ∧ ∀ t : Instant, now ≤ t → t ≤ now + p.publishInterval →
        Live g.issuedAt g.expiresAt t.unix →
        Live p.authority.delegation.notBefore p.authority.delegation.expiresAt t.unix →
        t.unix.toNat < d.expiresAt ∧ t.unix.toNat < l.expiresAt) ↔
    p.descriptor.supportedMessagingVersions ⊆ p.authority.allowedProtocolVersions ∧ p.Referable ∧
      min (Instant.unix (now + p.publishInterval)).toNat (min g.expiresAt p.authority.delegation.expiresAt - 1) <
        max (now.unix.toNat / p.activationStep * p.activationStep) g.issuedAt + maxLocatorLifetimeSeconds := by
  have hp := GenerationPublisher.validate_ok h.valid
  obtain ⟨hbeg, hiss, hbucket, htwo, hxy⟩ := h.times
  have hinterval : 0 ≤ p.publishInterval := le_trans (by decide) hp.least
  have hreach := (seconds_within (t := now) (le_add_of_nonneg_right hinterval) hp.interval).1
  have hpre : now.unix.toNat ≤ min g.expiresAt p.authority.delegation.expiresAt - 1 :=
    Nat.le_sub_one_of_lt (lt_min h.generation.2.2 h.delegation.2.2)
  constructor
  · rintro ⟨d, l, hpublish, -, -, hcvd⟩
    obtain ⟨-, -, -, hloc, hve, -⟩ := GenerationPublisher.publish_windows hpublish
    refine ⟨hve, h.publish_referable hpublish, ?_⟩
    -- the last second that is to be covered
    obtain ⟨(t : Instant), hle, hwi, hti, hsec⟩ := second_reached h.generation.1 hinterval (min_le_left _ _)
      (le_min hreach hpre)
    have hsec : t.unix.toNat = _ := hsec
    have hnow : now.unix.toNat ≤ t.unix.toNat := hsec ▸ le_min hreach hpre
    have hla : t.unix.toNat < min g.expiresAt p.authority.delegation.expiresAt :=
      hsec ▸ lt_of_le_of_lt (min_le_right _ _)
        (Nat.sub_lt (lt_of_le_of_lt (Nat.zero_le _) (lt_min h.generation.2.2 h.delegation.2.2)) Nat.one_pos)
    have hxs := (hcvd t hle hwi ⟨hti, h.generation.2.1.trans hnow, hla.trans_le (min_le_left _ _)⟩
      ⟨hti, h.delegation.2.1.trans hnow, hla.trans_le (min_le_right _ _)⟩).2
    rw [hloc] at hxs
    exact hsec ▸ hxs.trans_le (min_le_left _ _)
  · rintro ⟨hve, href, hday⟩
    obtain ⟨d, l, hpublish⟩ := h.publish_ok hve href (lt_of_le_of_lt (le_min hreach hpre) hday)
    obtain ⟨-, hdescriptor, -, hloc, -, hlv⟩ := GenerationPublisher.publish_windows hpublish
    refine ⟨d, l, hpublish, hlv.1, hlv.2, fun t _ hwi hgen hdel => ?_⟩
    obtain ⟨hsec, hsp⟩ := seconds_within hwi hp.interval
    have hfst : t.unix.toNat < p.descriptorExpiry g now.unix := by
      refine lt_min (lt_min hgen.2.2 ?_) hdel.2.2
      calc t.unix.toNat ≤ now.unix.toNat + p.activationStep := hsp
        _ < p.issued g now.unix + p.activationStep + p.activationStep := Nat.add_lt_add_right hbucket _
        _ ≤ p.issued g now.unix + p.policy.maxLifetimeSeconds := by omega
    have hsec : t.unix.toNat ≤ min _ (min g.expiresAt p.authority.delegation.expiresAt - 1) :=
      le_min hsec (Nat.le_sub_one_of_lt (lt_min hgen.2.2 hdel.2.2))
    rw [hdescriptor, hloc]
    exact ⟨hfst, lt_min (lt_of_le_of_lt hsec hday) hfst⟩

/-- A publisher that renews every minute, and a generation of one device. -/
def samplePublisher (lifetime : Nat) : GenerationPublisher where
  signer := ⟨List.replicate 32 1, fun _ => List.replicate 64 0⟩
  authority := { sampleAuthority (samplePolicy 7200) with contactDescriptorPolicyDigest := 1 }
  policy := samplePolicy lifetime
  descriptor := sampleDescriptor [] 0 0
  publishInterval := 60 * 1000000000

def sampleGeneration : PublicGeneration := ⟨1, [sampleBundle 1 1 600000], 1, 600000⟩

/-- A hash that is never zero, and signatures that all verify. -/
def accepting : Crypto := ⟨fun _ => 1, fun _ _ _ => true⟩

/-- The sample publisher is ready a day and an hour after the start of its generation. -/
theorem samplePublisher_ready {life : Nat} (h : (samplePublisher life).validate accepting = .ok ()) :
    (samplePublisher life).Ready accepting sampleGeneration (Instant.unix 90000000000000) := by
  have hset : bindBundleSet accepting (samplePublisher 7200).authority sampleGeneration.bundles
      sampleGeneration.setDigest (Instant.unix 90000000000000) = .ok () := by decide +kernel
  have hdel : Live (samplePublisher 7200).authority.delegation.notBefore
      (samplePublisher 7200).authority.delegation.expiresAt (Instant.unix 90000000000000) := by decide
  have hhash : (1 : BitVec 256) ≠ 0 := by decide
  exact ⟨h, ⟨sampleAddress, _, rfl, rfl, by decide⟩, fun _ => ⟨rfl, rfl⟩, fun _ => hhash, hset,
    by decide, by decide, hdel⟩

/-- A publication with a policy of two hours, and every moment until the next one a minute later. -/
theorem publication_covers_hourly :
    ∃ d l, (samplePublisher 7200).publish accepting sampleGeneration (Instant.unix 90000000000000) = .ok (d, l) ∧
      ∀ t : Instant, 90000000000000 ≤ t → t ≤ 90060000000000 →
        t.unix.toNat < d.expiresAt ∧ t.unix.toNat < l.expiresAt := by
  obtain ⟨d, l, hpublish, -, -, hcovers⟩ :=
    (publication_covers accepting (samplePublisher 7200) sampleGeneration 90000000000000
      (samplePublisher_ready (by decide +kernel))).mpr
        ⟨by decide, ⟨sampleAddress, _, rfl, rfl, by decide +kernel⟩, by decide⟩
  refine ⟨d, l, hpublish, fun (t : Int) (hle : 90000000000000 ≤ t) (hend : t ≤ 90060000000000) => ?_⟩
  have hlive : ∀ expiresAt : Nat, 90060 < expiresAt → Live 1 expiresAt (Instant.unix t) := by
    intro expiresAt hlate
    show 0 ≤ t / 1000000000 ∧ 1 ≤ (t / 1000000000).toNat ∧ (t / 1000000000).toNat < expiresAt
    omega
  exact hcovers t hle hend (hlive 600000 (by decide)) (hlive (2 ^ 40) (by decide))

/-- With a week's policy, a publication a day into its bucket is refused: its own locator has
    expired. -/
theorem long_bucket_uncovered :
    (samplePublisher 604800).Ready accepting sampleGeneration (Instant.unix 90000000000000) ∧
      (samplePublisher 604800).publish accepting sampleGeneration (Instant.unix 90000000000000) =
        .error (.other "locator is expired") :=
  ⟨samplePublisher_ready (by decide +kernel), by decide +kernel⟩

end Messenger.Directory
