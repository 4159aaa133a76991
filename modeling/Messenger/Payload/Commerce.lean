import Messenger.Payload.Kinds

/-!
# `Payload.Commerce` — gifts, agreements, profile events, outcomes and handoffs

Bodies that carry a canonical object of the service protocol next to the digests it is known by.
What the object says is for the protocol's own package to decode and check; those functions are
`CommerceRules`. Here a body is checked for its digests and its size, and for carrying the digests
the package finds in the object.

The bodies with one digest and one object are `Committed`, those with two digests `TwiceCommitted`.
The state of a handoff is the third text that is only matched against a pattern
(`PrivateHandoffStatus.fits_iff`).
-/

namespace Messenger.Payload

open Canon Lib

/-- What the service protocol's package says about a canonical object. -/
structure CommerceRules where
  maxProfileEventBytes : Nat
  maxProfileEventBytes_lt : maxProfileEventBytes < 2 ^ 32
  intentApplication : Bytes → Except Failure Unit
  /-- The digest of a valid body, if it has one. -/
  agreementBody : Bytes → Except Failure (Option Bytes)
  /-- The body an acceptance accepts. -/
  agreementAcceptance : Bytes → Except Failure Bytes
  /-- The body, and the digest of the evidence. -/
  agreementEvidence : Bytes → Option (Bytes × Option Bytes)
  /-- The body, and the digest of the offer. -/
  providerOffer : Bytes → Option (Bytes × Option Bytes)
  /-- The object's digest, its creation, and its canonical form. -/
  profileEvent : Bytes → Except Failure (Bytes × UInt64 × Option Bytes)
  /-- The operation, the digest of its envelope, and the canonical form of a valid request. -/
  operationRequest : Bytes → Option (Bytes × Bytes × Option Bytes)
  /-- The digest of a valid challenge. -/
  handoffChallenge : Bytes → Except Failure (Option Bytes)
  /-- The digest, and the challenge answered. -/
  handoffAuthorization : Bytes → Except Failure (Option Bytes × Bytes)
  handoffAcknowledgement : Bytes → Except Failure (Option Bytes × Bytes)

def maxGiftCanonicalBytes : Nat := 64 * 2 ^ 10
def maxIntentApplicationBytes : Nat := 64 * 2 ^ 10
def maxAgreementPromotionBytes : Nat := 96 * 2 ^ 10
def maxInlineOperationOutcomeBytes : Nat := 96 * 2 ^ 10
def maxPrivateHandoffControlBytes : Nat := 96 * 2 ^ 10

/-! ## Objects alone -/

/-- A body that is one canonical object: a gift, or an application. -/
structure Canonical where
  object : Bytes
  deriving DecidableEq, Repr

namespace Canonical

def encode (c : Canonical) : Bytes := Write.bytes c.object

def decode (maximum : Nat) : Read Canonical := do
  let object ← Read.bytes maximum
  pure { object }

def check (c : Canonical) (maximum : Nat) (refusal : String) : Except Failure Unit :=
  failIf (c.object = [] ∨ maximum < c.object.length) refusal

/-- A body whose check starts with the bounds of its object is read back. -/
theorem roundTrip {maximum : Nat} {refusal : String} {Valid : Canonical → Prop} (hmax : maximum < 2 ^ 32)
    (hchk : ∀ {c}, Valid c → c.check maximum refusal = .ok ()) : RoundTrip (decode maximum) encode Valid := by
  refine ExactWhere.roundTrip (.field object (bytes_exact hmax) .done) (fun c _ => ?_) fun c h => ?_
  · simp [encode]
  · exact ⟨not_lt.mp fun hlong => failIf_ok.mp (hchk h) (Or.inr hlong), trivial⟩

/-- The same check for the three gifts. -/
def validateGift (c : Canonical) : Except Failure Unit :=
  c.check maxGiftCanonicalBytes "canonical Agent Gift object has invalid size"

def validateIntentApplication (rules : CommerceRules) (c : Canonical) : Except Failure Unit := do
  c.check maxIntentApplicationBytes "Intent application is absent or oversized"
  rules.intentApplication c.object

end Canonical

/-! ## Objects under one digest -/

/-- A body of one digest and one canonical object. -/
structure Committed where
  digest : Bytes
  object : Bytes
  deriving DecidableEq, Repr

namespace Committed

def encode (c : Committed) : Bytes := Write.text c.digest ++ Write.bytes c.object

def decode (maximum : Nat) : Read Committed := do
  let digest ← Read.text maxDigestBytes
  let object ← Read.bytes maximum
  pure { digest, object }

def check (c : Committed) (maximum : Nat) (refusal : String) : Except Failure Unit :=
  failIf (¬validDigestText c.digest ∨ c.object = [] ∨ maximum < c.object.length) refusal

theorem roundTrip {maximum : Nat} {refusal : String} {Valid : Committed → Prop} (hmax : maximum < 2 ^ 32)
    (hchk : ∀ {c}, Valid c → c.check maximum refusal = .ok ()) : RoundTrip (decode maximum) encode Valid := by
  refine ExactWhere.roundTrip (.field digest digest_exact <| .field object (bytes_exact hmax)
    .done) (fun c _ => ?_) fun c h => ?_
  · simp [encode]
  have h := hchk h
  rw [check, failIf_ok, not_or, not_or, not_not, not_lt] at h
  exact ⟨digest_fits h.1, h.2.2, trivial⟩

variable (rules : CommerceRules) (c : Committed)

def validateAgreementPropose : Except Failure Unit := do
  c.check maxAgreementPromotionBytes "Agreement proposal is invalid or oversized"
  let digest ← rules.agreementBody c.object
  failIf (digest ≠ some c.digest) "Agreement proposal digest mismatch"

def validateAgreementAccept : Except Failure Unit := do
  c.check maxAgreementPromotionBytes "Agreement acceptance is invalid or oversized"
  let digest ← rules.agreementAcceptance c.object
  failIf (digest ≠ c.digest) "Agreement acceptance digest mismatch"

def validateCommerceProfileEvent : Except Failure Unit := do
  c.check rules.maxProfileEventBytes "commerce profile event payload is invalid or oversized"
  let (digest, createdAtUnix, canonical) ← rules.profileEvent c.object
  failIf (digest ≠ c.digest ∨ createdAtUnix = 0) "commerce profile event payload digest mismatch"
  failIf (canonical ≠ some c.object) "commerce profile event payload is not canonical"

def validatePrivateHandoffChallenge : Except Failure Unit := do
  c.check maxPrivateHandoffControlBytes "private handoff challenge payload is invalid"
  let digest ← rules.handoffChallenge c.object
  failIf (digest ≠ some c.digest) "private handoff challenge digest mismatch"

end Committed

/-! ## Objects under two digests -/

/-- A body of two digests and one canonical object. -/
structure TwiceCommitted where
  first : Bytes
  second : Bytes
  object : Bytes
  deriving DecidableEq, Repr

namespace TwiceCommitted

def encode (c : TwiceCommitted) : Bytes := Write.text c.first ++ Write.text c.second ++ Write.bytes c.object

def decode (maximum : Nat) : Read TwiceCommitted := do
  let first ← Read.text maxDigestBytes
  let second ← Read.text maxDigestBytes
  let object ← Read.bytes maximum
  pure { first, second, object }

def check (c : TwiceCommitted) (maximum : Nat) (refusal : String) : Except Failure Unit :=
  failIf (¬validDigestText c.first ∨ ¬validDigestText c.second ∨ c.object = [] ∨ maximum < c.object.length) refusal

theorem roundTrip {maximum : Nat} {refusal : String} {Valid : TwiceCommitted → Prop} (hmax : maximum < 2 ^ 32)
    (hchk : ∀ {c}, Valid c → c.check maximum refusal = .ok ()) : RoundTrip (decode maximum) encode Valid := by
  refine ExactWhere.roundTrip (.field first digest_exact <| .field second digest_exact <|
    .field object (bytes_exact hmax) .done) (fun c _ => ?_) fun c h => ?_
  · simp [encode]
  have h := hchk h
  rw [check, failIf_ok, not_or, not_or, not_or, not_not, not_not, not_lt] at h
  exact ⟨digest_fits h.1, digest_fits h.2.1, h.2.2.2, trivial⟩

variable (rules : CommerceRules) (c : TwiceCommitted)

def validateAgreementEvidence : Except Failure Unit := do
  c.check maxAgreementPromotionBytes "Agreement evidence is invalid or oversized"
  let evidence := rules.agreementEvidence c.object
  failIf (evidence.map Prod.fst ≠ some c.first) "Agreement evidence body mismatch"
  failIf (evidence.map Prod.snd ≠ some (some c.second)) "Agreement evidence digest mismatch"

def validatePaidDemandProviderOffer : Except Failure Unit := do
  c.check maxAgreementPromotionBytes "Paid Demand Provider Offer is invalid or oversized"
  let offer := rules.providerOffer c.object
  failIf (offer.map Prod.fst ≠ some c.first) "Paid Demand Provider Offer Agreement mismatch"
  failIf (offer.map Prod.snd ≠ some (some c.second)) "Paid Demand Provider Offer digest mismatch"

def validateOperationOutcome : Except Failure Unit := do
  c.check maxInlineOperationOutcomeBytes "operation outcome payload is invalid or oversized"
  let request := rules.operationRequest c.object
  failIf (request.map (fun r => (r.1, r.2.1)) ≠ some (c.first, c.second)) "operation outcome request binding is invalid"
  failIf (request.map (·.2.2) ≠ some (some c.object)) "operation outcome request is not canonical"

def validatePrivateHandoffAuthorization : Except Failure Unit := do
  c.check maxPrivateHandoffControlBytes "private handoff authorization payload is invalid"
  let (digest, challenge) ← rules.handoffAuthorization c.object
  failIf (digest ≠ some c.second ∨ challenge ≠ c.first) "private handoff authorization digest mismatch"

def validatePrivateHandoffAcknowledgement : Except Failure Unit := do
  c.check maxPrivateHandoffControlBytes "private handoff acknowledgement payload is invalid"
  let (digest, challenge) ← rules.handoffAcknowledgement c.object
  failIf (digest ≠ some c.second ∨ challenge ≠ c.first) "private handoff acknowledgement digest mismatch"

end TwiceCommitted

/-! ## Digests and texts -/

/-- A proposal that is taken back. -/
structure AgreementWithdraw where
  agreementBodyDigest : Bytes
  proposalActionID : Bytes
  reason : Bytes
  deriving DecidableEq, Repr

namespace AgreementWithdraw

def schema : String := "tos.messaging.payload.agreement-withdraw.v1"

def validate (a : AgreementWithdraw) : Except Failure Unit := do
  failIf (¬validDigestText a.agreementBodyDigest ∨ ¬validDigestText a.proposalActionID)
    "Agreement withdrawal does not bind its exact proposal"
  requireText "Agreement withdrawal reason" a.reason maxShortTextBytes

def encode (a : AgreementWithdraw) : Bytes :=
  Write.text a.agreementBodyDigest ++ Write.text a.proposalActionID ++ Write.text a.reason

def decode : Read AgreementWithdraw := do
  let agreementBodyDigest ← Read.text maxDigestBytes
  let proposalActionID ← Read.text maxDigestBytes
  let reason ← Read.text maxShortTextBytes
  pure { agreementBodyDigest, proposalActionID, reason }

theorem roundTrip : RoundTrip decode encode (validate · = .ok ()) := by
  refine ExactWhere.roundTrip (.field agreementBodyDigest digest_exact <|
    .field proposalActionID digest_exact <| .field reason short_exact
    .done) (fun a _ => ?_) fun a h => ?_
  · simp [encode]
  obtain ⟨_, hds, hrsn⟩ := seq_ok.mp h
  rw [failIf_ok, not_or, not_not, not_not] at hds
  exact ⟨digest_fits hds.1, digest_fits hds.2, requireText_fits hrsn, trivial⟩

end AgreementWithdraw

/-- A deliverable that is announced for one obligation. -/
structure AgreementDelivery where
  agreementBodyDigest : Bytes
  obligationID : Bytes
  deliverableManifestDigest : Bytes
  deriving DecidableEq, Repr

namespace AgreementDelivery

def schema : String := "tos.messaging.payload.agreement-delivery.v1"

def validate (a : AgreementDelivery) : Except Failure Unit := do
  failIf (¬validDigestText a.agreementBodyDigest ∨ ¬validDigestText a.deliverableManifestDigest)
    "Agreement delivery digest is invalid"
  requireText "Agreement delivery obligation" a.obligationID maxShortTextBytes

def encode (a : AgreementDelivery) : Bytes :=
  Write.text a.agreementBodyDigest ++ Write.text a.obligationID ++ Write.text a.deliverableManifestDigest

def decode : Read AgreementDelivery := do
  let agreementBodyDigest ← Read.text maxDigestBytes
  let obligationID ← Read.text maxShortTextBytes
  let deliverableManifestDigest ← Read.text maxDigestBytes
  pure { agreementBodyDigest, obligationID, deliverableManifestDigest }

theorem roundTrip : RoundTrip decode encode (validate · = .ok ()) := by
  refine ExactWhere.roundTrip (.field agreementBodyDigest digest_exact <|
    .field obligationID short_exact <| .field deliverableManifestDigest digest_exact
    .done) (fun a _ => ?_) fun a h => ?_
  · simp [encode]
  obtain ⟨_, hds, hobligation⟩ := seq_ok.mp h
  rw [failIf_ok, not_or, not_not, not_not] at hds
  exact ⟨digest_fits hds.1, requireText_fits hobligation, digest_fits hds.2, trivial⟩

end AgreementDelivery

/-- The state of a handoff. -/
structure PrivateHandoffStatus where
  handoffID : Bytes
  actionID : Bytes
  state : Bytes
  evidenceDigest : Bytes
  deriving DecidableEq, Repr

namespace PrivateHandoffStatus

def schema : String := "tos.messaging.payload.private-handoff-status.v1"

variable (p : PrivateHandoffStatus)

def validate : Except Failure Unit := do
  requireText "private handoff ID" p.handoffID maxShortTextBytes
  requireDigest "private handoff action ID" p.actionID
  requireMatch "private handoff state" p.state tokenPattern
  optionalDigest "private handoff evidence" p.evidenceDigest

def encode : Bytes :=
  Write.text p.handoffID ++ Write.text p.actionID ++ Write.text p.state ++ Write.text p.evidenceDigest

def decode : Read PrivateHandoffStatus := do
  let handoffID ← Read.text maxShortTextBytes
  let actionID ← Read.text maxDigestBytes
  let state ← Read.text maxShortTextBytes
  let evidenceDigest ← Read.text maxDigestBytes
  pure { handoffID, actionID, state, evidenceDigest }

def Fits : Prop :=
  FitsText maxShortTextBytes p.handoffID ∧ FitsText maxDigestBytes p.actionID ∧
    FitsText maxShortTextBytes p.state ∧ FitsText maxDigestBytes p.evidenceDigest

theorem decode_exact : Exact decode encode Fits := by
  refine ExactWhere.record (.field handoffID short_exact <| .field actionID digest_exact <|
    .field state short_exact <| .field evidenceDigest digest_exact
    .done) (fun p _ => ?_) fun p => ?_
  · simp [encode]
  · simp [Fits]

/-- A valid status fits when its state is short. -/
theorem fits_iff {p : PrivateHandoffStatus} (h : p.validate = .ok ()) :
    p.Fits ↔ p.state.length ≤ maxShortTextBytes := by
  simp only [validate, seq_ok] at h
  obtain ⟨_, hhand, _, haction, _, hst, hevidence⟩ := h
  rw [← token_fits_iff hst]
  constructor
  · intro hft
    exact hft.2.2.1
  · intro hft
    exact ⟨requireText_fits hhand, requireDigest_fits haction, hft, optionalDigest_fits hevidence⟩

end PrivateHandoffStatus

/-- Content that is to be deleted. The source checks the three digests in the order of a map. -/
structure PrivateHandoffDelete where
  handoffID : Bytes
  contentManifestDigest : Bytes
  retentionPolicyDigest : Bytes
  deleteActionID : Bytes
  deriving DecidableEq, Repr

namespace PrivateHandoffDelete

def schema : String := "tos.messaging.payload.private-handoff-delete.v1"

def validate (p : PrivateHandoffDelete) : Except Failure Unit := do
  requireText "private handoff ID" p.handoffID maxShortTextBytes
  requireDigest "content manifest" p.contentManifestDigest
  requireDigest "retention policy" p.retentionPolicyDigest
  requireDigest "delete action" p.deleteActionID

def encode (p : PrivateHandoffDelete) : Bytes :=
  Write.text p.handoffID ++ Write.text p.contentManifestDigest ++
    Write.text p.retentionPolicyDigest ++ Write.text p.deleteActionID

def decode : Read PrivateHandoffDelete := do
  let handoffID ← Read.text maxShortTextBytes
  let contentManifestDigest ← Read.text maxDigestBytes
  let retentionPolicyDigest ← Read.text maxDigestBytes
  let deleteActionID ← Read.text maxDigestBytes
  pure { handoffID, contentManifestDigest, retentionPolicyDigest, deleteActionID }

theorem roundTrip : RoundTrip decode encode (validate · = .ok ()) := by
  refine ExactWhere.roundTrip (.field handoffID short_exact <|
    .field contentManifestDigest digest_exact <| .field retentionPolicyDigest digest_exact <|
    .field deleteActionID digest_exact .done) (fun p _ => ?_) fun p h => ?_
  · simp [encode]
  simp only [validate, seq_ok] at h
  obtain ⟨_, hhand, _, hco, _, hret, hdelegation⟩ := h
  exact ⟨requireText_fits hhand, requireDigest_fits hco, requireDigest_fits hret,
    requireDigest_fits hdelegation, trivial⟩

end PrivateHandoffDelete

end Messenger.Payload
