import Messenger.Negotiation.Terms

/-!
# `Negotiation.Quote` — accepted quotes read from finalized state

What a commitment is checked against (`pkg/negotiation/commitment.go`): the quote a resolver read
under a commitment, and the comparison with the purchase that was agreed. A resolver is the
caller's, so it is any function here.

A digest and a network domain reach this code as a text and a pointer. `none` stands for a text that
is no digest and for a missing domain.
-/

namespace Messenger.Negotiation

/-- A fully identified network, in the form digests commit. -/
def validateNetworkDomain : Option Network → Except Failure Network
  | none => .error (.other "invalid negotiation network domain")
  | some network => do
    failIf (network.id = "" ∨ 128 < network.id.utf8ByteSize) "invalid negotiation network domain"
    pure network

/-- An accepted quote as it was read from finalized state. Of the chain reference only the
    checkpoint is read. -/
structure VerifiedAcceptedQuote where
  commitment : Option Digest
  terms : Terms
  finalizedCheckpoint : Option Nat
  network : Option Network
  finalizedAtUnix : Nat
  deriving DecidableEq, Repr

/-- A verified quote carries what it claims to. -/
def VerifiedAcceptedQuote.validate (q : VerifiedAcceptedQuote) : Except Failure Unit := do
  failIf q.commitment.isNone "verified quote carries no commitment"
  q.terms.validate
  failIf (q.finalizedCheckpoint.getD 0 = 0) "verified quote was not read from finalized state"
  let read ← (validateNetworkDomain q.network).mapError fun _ => .other "verified quote names no network"
  failIf (q.terms.price.asset.network ≠ read)
    "verified quote's terms are priced on a network other than the one it was read from"
  failIf (q.finalizedAtUnix = 0) "verified quote has no finalization time"

/-- Reads the quote under a commitment; a commitment that is not on chain is not found. -/
abbrev QuoteResolver := Digest → Except Failure (Option VerifiedAcceptedQuote)

/-- The comparison of a quote with one expected purchase: commitment, every term, and the network. -/
def matchAcceptedQuote (quote : VerifiedAcceptedQuote) (commitment : Option Digest)
    (expected : Terms) (network : Option Network) : Except Failure VerifiedAcceptedQuote := do
  failIf commitment.isNone "invalid commitment digest"
  expected.validate
  let _ ← validateNetworkDomain network
  quote.validate
  if quote.commitment ≠ commitment ∨ expected ≠ quote.terms ∨ network ≠ quote.network then
    .error .finalizedQuoteMismatch
  else pure quote

/-- A quote that was found is compared; one that was not is no commitment. -/
def matchFound (commitment : Option Digest) (expected : Terms) (network : Option Network) :
    Option VerifiedAcceptedQuote → Except Failure VerifiedAcceptedQuote
  | none => .error (.other "no Accepted Quote exists under this commitment")
  | some quote => matchAcceptedQuote quote commitment expected network

/-- Read the quote under a commitment and compare it with the expected purchase. -/
def resolveMatchingAcceptedQuote (resolver : Option QuoteResolver) (commitment : Option Digest)
    (expected : Terms) (network : Option Network) : Except Failure VerifiedAcceptedQuote :=
  match resolver, commitment with
  | none, _ => .error (.other "a commitment must be verified against finalized state")
  | some _, none => .error (.other "invalid commitment digest")
  | some resolve, some digest => do
    expected.validate
    let _ ← validateNetworkDomain network
    let found ← resolve digest
    matchFound commitment expected network found

/-! ## What a match says -/

theorem matchAcceptedQuote_ok {quote matched : VerifiedAcceptedQuote} {cmt : Option Digest} {expected : Terms}
    {network : Option Network} (h : matchAcceptedQuote quote cmt expected network = .ok matched) :
    matched.commitment = cmt ∧ matched.terms = expected ∧ matched.network = network
      ∧ matched.validate = .ok () := by
  unfold matchAcceptedQuote at h
  simp only [seq_ok] at h
  obtain ⟨_, -, _, -, _, -, _, hval, hend⟩ := h
  split_ifs at hend with hmismatch
  cases hend
  simp only [not_or, not_not] at hmismatch
  obtain ⟨hcmt, htms, hnet⟩ := hmismatch
  exact ⟨hcmt, htms.symm, hnet.symm, hval⟩

/-- **A matched quote** is valid, stands under the commitment asked for, and says exactly what was
    expected, on the network it was expected on. -/
theorem resolveMatchingAcceptedQuote_ok {resolver : Option QuoteResolver} {cmt : Option Digest}
    {expected : Terms} {network : Option Network} {quote : VerifiedAcceptedQuote}
    (h : resolveMatchingAcceptedQuote resolver cmt expected network = .ok quote) :
    quote.commitment = cmt ∧ quote.terms = expected ∧ quote.network = network ∧ quote.validate = .ok () := by
  unfold resolveMatchingAcceptedQuote at h
  split at h
  · cases h
  · cases h
  simp only [seq_ok] at h
  obtain ⟨_, -, _, -, found, -, hmatch⟩ := h
  cases found with
  | none => cases hmatch
  | some read => exact matchAcceptedQuote_ok hmatch

end Messenger.Negotiation
