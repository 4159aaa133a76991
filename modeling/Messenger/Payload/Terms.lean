import Messenger.Payload.Kinds

/-!
# `Payload.Terms` — negotiated terms on the wire

Terms as texts, the way a negotiation body carries them (`encodeTerms` and `decodeTerms`), and the
bodies that restate them. `Terms.validate` is the check of `pkg/negotiation` on those texts.

The check does not bound the class of the capability, and it does not ask that the version of the
capability or the name of the network be UTF-8. The reader asks for all three, and a valid body fits
exactly when they hold (`NegotiationTerms.fits_iff`).
-/

namespace Messenger.Payload

open Canon Lib

/-! ## Terms -/

/-- The identity of one network. -/
structure Network where
  id : Bytes
  genesisRootHash : Bytes
  genesisFileHash : Bytes
  deriving DecidableEq, Repr

def Network.validate (n : Network) : Except Failure Unit :=
  failIf (n.id = [] ∨ 128 < n.id.length ∨ ¬hashText n.genesisRootHash ∨ ¬hashText n.genesisFileHash)
    "invalid network identity"

/-- The identity of one asset. -/
structure Asset where
  network : Network
  workchain : Int32
  accountID : Bytes
  masterCodeHash : Bytes
  walletCodeHash : Bytes
  decimals : UInt32
  deriving DecidableEq, Repr

def maxDecimals : UInt32 := 36

/-- `^tvm-cell-sha256:[0-9a-f]{64}$` -/
def codeHashPattern : Bytes → Bool := taggedBytes (lit "tvm-cell-sha256:")

def Asset.validate (a : Asset) : Except Failure Unit := do
  a.network.validate.mapError fun _ => .other "asset names no network"
  failIf (a.workchain < -128 ∨ 127 < a.workchain) "asset workchain is outside the addressable range"
  failIf (¬hashText a.accountID) "asset names no master contract account"
  failIf (¬codeHashPattern a.masterCodeHash) "asset names no master code hash"
  failIf (¬codeHashPattern a.walletCodeHash) "asset names no wallet code hash"
  failIf (maxDecimals < a.decimals) "asset precision exceeds its bound"

/-- An exact quantity of one asset. -/
structure Money where
  asset : Asset
  atomic : Bytes
  deriving DecidableEq, Repr

variable (text : Bytes)

/-- `^(0|[1-9][0-9]{0,77})$` -/
def atomicPattern : Bool :=
  text == lit "0" || (text.length ≤ 78 && text.head?.any (fun byte => digit byte && byte ≠ 48) && text.all digit)

def Money.validate (m : Money) : Except Failure Unit := do
  m.asset.validate
  failIf (¬atomicPattern m.atomic) "an amount must be a canonical decimal count of atomic units"

/-- The exact conditions two parties say they intend to commit to. -/
structure Terms where
  capabilityID : Bytes
  capabilityVersion : Bytes
  capabilityClass : Bytes
  providerAgentID : Bytes
  manifestDigest : Bytes
  transportBindingDigest : Bytes
  price : Money
  escrowTermsDigest : Bytes
  disputePolicyDigest : Bytes
  notAfterUnix : UInt64
  deriving DecidableEq, Repr

variable (t : Terms)

/-- `^(?:sha256|tvm-cell-sha256):[0-9a-f]{64}$` -/
def digestPattern : Bool := taggedBytes (lit "sha256:") text || codeHashPattern text

/-- A cell digest under the common tag. -/
def normalizeDigest : Bytes :=
  if (lit "tvm-cell-sha256:").isPrefixOf text ∧ 16 < text.length then lit "sha256:" ++ text.drop 16 else text

def commitment (name : String) (text : Bytes) : Except Failure Unit :=
  failIf (¬digestPattern text ∨ ¬validDigestText (normalizeDigest text)) ("terms carry no " ++ name ++ " commitment")

/-- `^[a-z][a-z0-9]*(\.[a-z0-9]+)*$` -/
def capabilityClassPattern : Bytes → Bool := label (lit ".")

/-- Terms are complete. The source checks the four digests in the order of a map, so of several
    missing ones it may name another than the first. -/
def Terms.validate (t : Terms) : Except Failure Unit := do
  failIf (¬capabilityPattern t.capabilityID) "terms name no capability"
  failIf (t.capabilityVersion = [] ∨ 64 < t.capabilityVersion.length) "terms name no capability version"
  failIf (¬capabilityClassPattern t.capabilityClass) "terms name no capability class"
  failIf (¬agentPattern t.providerAgentID) "terms name no provider"
  commitment "manifest" t.manifestDigest
  commitment "transport binding" t.transportBindingDigest
  commitment "escrow terms" t.escrowTermsDigest
  commitment "dispute policy" t.disputePolicyDigest
  t.price.validate
  failIf (t.notAfterUnix = 0) "terms must expire"

def encodeTerms : Bytes :=
  Write.text t.capabilityID ++ Write.text t.capabilityVersion ++ Write.text t.capabilityClass ++
    Write.text t.providerAgentID ++ Write.text t.manifestDigest ++ Write.text t.transportBindingDigest ++
    Write.text t.price.asset.network.id ++ Write.hash32 t.price.asset.network.genesisRootHash ++
    Write.hash32 t.price.asset.network.genesisFileHash ++ Write.uint32 t.price.asset.workchain.toUInt32 ++
    Write.text t.price.asset.accountID ++ Write.text t.price.asset.masterCodeHash ++
    Write.text t.price.asset.walletCodeHash ++ Write.uint32 t.price.asset.decimals ++ Write.text t.price.atomic ++
    Write.text t.escrowTermsDigest ++ Write.text t.disputePolicyDigest ++ Write.uint64 t.notAfterUnix

def decodeTerms : Read Terms := do
  let capabilityID ← Read.text maxShortTextBytes
  let capabilityVersion ← Read.text maxShortTextBytes
  let capabilityClass ← Read.text maxShortTextBytes
  let providerAgentID ← Read.text maxShortTextBytes
  let manifestDigest ← Read.text maxDigestBytes
  let transportBindingDigest ← Read.text maxDigestBytes
  let id ← Read.text maxShortTextBytes
  let genesisRootHash ← Read.hash32
  let genesisFileHash ← Read.hash32
  let workchain ← Read.uint32
  let accountID ← Read.text maxShortTextBytes
  let masterCodeHash ← Read.text maxDigestBytes
  let walletCodeHash ← Read.text maxDigestBytes
  let decimals ← Read.uint32
  let atomic ← Read.text maxShortTextBytes
  let escrowTermsDigest ← Read.text maxDigestBytes
  let disputePolicyDigest ← Read.text maxDigestBytes
  let notAfterUnix ← Read.uint64
  let network : Network := { id, genesisRootHash, genesisFileHash }
  let asset : Asset :=
    { network, workchain := workchain.toInt32, accountID, masterCodeHash, walletCodeHash, decimals }
  pure {
    capabilityID, capabilityVersion, capabilityClass, providerAgentID, manifestDigest, transportBindingDigest
    price := { asset, atomic }
    escrowTermsDigest, disputePolicyDigest, notAfterUnix }

/-- The texts a reader accepts. -/
structure Terms.Fits : Prop where
  capabilityID : FitsText maxShortTextBytes t.capabilityID
  capabilityVersion : FitsText maxShortTextBytes t.capabilityVersion
  capabilityClass : FitsText maxShortTextBytes t.capabilityClass
  providerAgentID : FitsText maxShortTextBytes t.providerAgentID
  manifestDigest : FitsText maxDigestBytes t.manifestDigest
  transportBindingDigest : FitsText maxDigestBytes t.transportBindingDigest
  networkID : FitsText maxShortTextBytes t.price.asset.network.id
  genesisRootHash : IsHash t.price.asset.network.genesisRootHash
  genesisFileHash : IsHash t.price.asset.network.genesisFileHash
  accountID : FitsText maxShortTextBytes t.price.asset.accountID
  masterCodeHash : FitsText maxDigestBytes t.price.asset.masterCodeHash
  walletCodeHash : FitsText maxDigestBytes t.price.asset.walletCodeHash
  atomic : FitsText maxShortTextBytes t.price.atomic
  escrowTermsDigest : FitsText maxDigestBytes t.escrowTermsDigest
  disputePolicyDigest : FitsText maxDigestBytes t.disputePolicyDigest

theorem decodeTerms_exact : Exact decodeTerms encodeTerms Terms.Fits := by
  refine ExactWhere.record (.field Terms.capabilityID short_exact <|
    .field Terms.capabilityVersion short_exact <| .field Terms.capabilityClass short_exact <|
    .field Terms.providerAgentID short_exact <| .field Terms.manifestDigest digest_exact <|
    .field Terms.transportBindingDigest digest_exact <|
    .field (·.price.asset.network.id) short_exact <|
    .field (·.price.asset.network.genesisRootHash) hash32_exact <|
    .field (·.price.asset.network.genesisFileHash) hash32_exact <|
    .field (·.price.asset.workchain.toUInt32) uint32_exact <|
    .field (·.price.asset.accountID) short_exact <|
    .field (·.price.asset.masterCodeHash) digest_exact <|
    .field (·.price.asset.walletCodeHash) digest_exact <|
    .field (·.price.asset.decimals) uint32_exact <| .field (·.price.atomic) short_exact <|
    .field Terms.escrowTermsDigest digest_exact <|
    .field Terms.disputePolicyDigest digest_exact <| .field Terms.notAfterUnix uint64_exact <|
    .done fun t => ?_) (fun t _ => ?_) fun t => ?_
  · have hwc : ∀ (i : Int32) (u : UInt32), i.toUInt32 = u ↔ i = u.toInt32 := by
      intro i u
      constructor
      · rintro rfl
        exact (Int32.toInt32_toUInt32 i).symm
      · rintro rfl
        exact UInt32.toUInt32_toInt32 u
    obtain ⟨_, _, _, _, _, _, ⟨⟨⟨_, _, _⟩, _, _, _, _, _⟩, _⟩, _, _, _⟩ := t
    simp [and_assoc, hwc]
  · simp [encodeTerms]
  · constructor
    · rintro ⟨⟩
      simp_all
    · rintro ⟨h1, h2, h3, h4, h5, h6, h7, h8, h9, -, h10, h11, h12, -, h13, h14, h15, -⟩
      exact ⟨h1, h2, h3, h4, h5, h6, h7, h8, h9, h10, h11, h12, h13, h14, h15⟩

/-! ## What the check of the terms leaves open -/

theorem codeHash_fits {text : Bytes} (h : codeHashPattern text) : FitsText maxDigestBytes text :=
  taggedBytes_fits (by decide +kernel) (by decide +kernel) h

theorem commitment_fits {name : String} {text : Bytes} (h : commitment name text = .ok ()) :
    FitsText maxDigestBytes text := by
  rw [commitment, failIf_ok, not_or, not_not, digestPattern, Bool.or_eq_true] at h
  rcases h.1 with h | h
  · exact taggedBytes_fits (by decide +kernel) (by decide +kernel) h
  · exact codeHash_fits h

theorem hashText_fits {text : Bytes} (h : hashText text) : FitsText maxShortTextBytes text := by
  have htagged : taggedBytes [] text := h
  exact taggedBytes_fits (List.forall_mem_nil _) (by decide) htagged

theorem atomic_fits {text : Bytes} (h : atomicPattern text) : FitsText maxShortTextBytes text := by
  rw [atomicPattern, Bool.or_eq_true, beq_iff_eq, Bool.and_eq_true, Bool.and_eq_true, decide_eq_true_eq] at h
  rcases h with rfl | ⟨⟨hlen, -⟩, hdgt⟩
  · decide +kernel
  refine fitsText_ascii (hlen.trans (by decide)) ?_
  intro byte hby
  exact digit_ascii (List.all_eq_true.mp hdgt byte hby)

/-- The texts of terms that their check does not settle. -/
@[mk_iff]
structure Terms.Readable : Prop where
  capabilityVersion : validUTF8 t.capabilityVersion
  capabilityClass : t.capabilityClass.length ≤ maxShortTextBytes
  networkID : validUTF8 t.price.asset.network.id

instance (t : Terms) : Decidable t.Readable :=
  decidable_of_iff' _ (Terms.readable_iff t)

theorem Money.validate_ok {m : Money} (h : m.validate = .ok ()) :
    m.asset.network.validate = .ok () ∧ hashText m.asset.accountID ∧ codeHashPattern m.asset.masterCodeHash ∧
      codeHashPattern m.asset.walletCodeHash ∧ atomicPattern m.atomic := by
  obtain ⟨_, hast, hatomic⟩ := seq_ok.mp h
  simp only [Asset.validate, seq_ok] at hast
  obtain ⟨_, hnet, _, -, _, hact, _, hmaster, _, hwall, -⟩ := hast
  rw [failIf_ok, not_not] at hatomic hact hmaster hwall
  refine ⟨?_, hact, hmaster, hwall, hatomic⟩
  cases hval : m.asset.network.validate with
  | error failure =>
    rw [hval] at hnet
    cases hnet
  | ok u => rfl

/-- **Valid terms fit exactly when the texts their check leaves open do.** -/
theorem Terms.fits_iff {t : Terms} (h : t.validate = .ok ()) : t.Fits ↔ t.Readable := by
  simp only [Terms.validate, seq_ok] at h
  obtain ⟨_, hcap, _, hvn, _, hcls, _, hprovider, _, hmnf, _, htransport, _, hescrow, _, hdispute, _, hprice, -⟩ := h
  obtain ⟨hnet, hact, hmaster, hwall, hatomic⟩ := Money.validate_ok hprice
  rw [failIf_ok, not_not] at hcap hcls hprovider
  rw [failIf_ok, not_or, not_lt] at hvn
  rw [Network.validate, failIf_ok, not_or, not_or, not_or, not_lt, not_not, not_not] at hnet
  have hcls : FitsText maxShortTextBytes t.capabilityClass ↔ t.capabilityClass.length ≤ maxShortTextBytes :=
    label_fits_iff (by decide +kernel) hcls
  have htag : ∀ tag ∈ ["cap_", "agent_"], ShortTag tag := by decide +kernel
  constructor
  · intro hft
    exact ⟨hft.capabilityVersion.2, hcls.mp hft.capabilityClass, hft.networkID.2⟩
  intro hrdb
  exact {
    capabilityID := id_fits (htag _ (by simp)) hcap
    capabilityVersion := ⟨hvn.2.trans (by decide), hrdb.capabilityVersion⟩
    capabilityClass := hcls.mpr hrdb.capabilityClass
    providerAgentID := id_fits (htag _ (by simp)) hprovider
    manifestDigest := commitment_fits hmnf
    transportBindingDigest := commitment_fits htransport
    networkID := ⟨hnet.2.1.trans (by decide), hrdb.networkID⟩
    genesisRootHash := hashText_isHash hnet.2.2.1
    genesisFileHash := hashText_isHash hnet.2.2.2
    accountID := hashText_fits hact
    masterCodeHash := codeHash_fits hmaster
    walletCodeHash := codeHash_fits hwall
    atomic := atomic_fits hatomic
    escrowTermsDigest := commitment_fits hescrow
    disputePolicyDigest := commitment_fits hdispute }

/-! ## Negotiation bodies -/

/-- A body that restates terms: a proposal, a counterproposal or an accepted intent. -/
structure NegotiationTerms where
  negotiationID : Bytes
  terms : Terms
  deriving DecidableEq, Repr

namespace NegotiationTerms

def validate (n : NegotiationTerms) : Except Failure Unit := do
  requireText "negotiation identifier" n.negotiationID maxShortTextBytes
  n.terms.validate

def encode (n : NegotiationTerms) : Bytes :=
  Write.text n.negotiationID ++ encodeTerms n.terms

def decode : Read NegotiationTerms := do
  let negotiationID ← Read.text maxShortTextBytes
  let terms ← decodeTerms
  pure { negotiationID, terms }

def Fits (n : NegotiationTerms) : Prop :=
  FitsText maxShortTextBytes n.negotiationID ∧ n.terms.Fits

theorem decode_exact : Exact decode encode Fits := by
  refine ExactWhere.record (.field negotiationID short_exact <| .field terms decodeTerms_exact
    .done) (fun n _ => ?_) fun n => ?_
  · simp [encode]
  · simp [Fits]

theorem fits_iff {n : NegotiationTerms} (h : n.validate = .ok ()) : n.Fits ↔ n.terms.Readable := by
  obtain ⟨_, hnid, htms⟩ := seq_ok.mp h
  rw [← Terms.fits_iff htms]
  constructor
  · intro hft
    exact hft.2
  · intro hft
    exact ⟨requireText_fits hnid, hft⟩

end NegotiationTerms

/-- A body that ends an exchange: a withdrawal or a rejected intent. -/
structure NegotiationReason where
  negotiationID : Bytes
  reason : Bytes
  deriving DecidableEq, Repr

namespace NegotiationReason

def validate (n : NegotiationReason) : Except Failure Unit := do
  requireText "negotiation identifier" n.negotiationID maxShortTextBytes
  requireText "reason" n.reason maxShortTextBytes

def encode (n : NegotiationReason) : Bytes :=
  Write.text n.negotiationID ++ Write.text n.reason

def decode : Read NegotiationReason := do
  let negotiationID ← Read.text maxShortTextBytes
  let reason ← Read.text maxShortTextBytes
  pure { negotiationID, reason }

theorem roundTrip : RoundTrip decode encode (validate · = .ok ()) := by
  refine ExactWhere.roundTrip (.field negotiationID short_exact <| .field reason short_exact
    .done) (fun n _ => ?_) fun n h => ?_
  · simp [encode]
  · obtain ⟨_, hnid, hrsn⟩ := seq_ok.mp h
    exact ⟨requireText_fits hnid, requireText_fits hrsn, trivial⟩

end NegotiationReason

end Messenger.Payload
