import Messenger.Negotiation.Budget
import Messenger.Negotiation.Quote

/-!
# `Negotiation.Negotiation` — one exchange under one mandate

The state machine of `pkg/negotiation/negotiation.go`, `commitment.go` and `snapshot.go`.

Every transition of the source has the same shape: it checks, changes the object in memory, and then
makes its durable writes, of which there are at most two. A method here is the part up to the
writes: it refuses, or it yields a `Plan`, that is, the object as the transition leaves it and the
writes that follow, in their order. How the writes end is for `Negotiation.Desk`.

- **Digests.** An approval and a snapshot name terms and mandates by digest; the model takes the
  content for it.
- **Budget.** The object's budget is a pointer that may be missing: `budget` says whether it is
  there.

## Contents
- **The object** and its snapshot, with `Snapshot.validate` and `restore`.
- **The transitions**, one a method, and `Op.plan`, which is all of them.
-/

set_option linter.dupNamespace false

namespace Messenger.Negotiation

/-! ## The object -/

/-- Where a negotiation stands. -/
inductive State where
  | discussing
  | proposalPending
  | counterproposalPending
  | intentAgreed
  | canonicalizationPending
  | finalized
  | rejected
  | withdrawn
  | expired
  deriving DecidableEq, Repr

/-- The exchange has ended. -/
def State.settled : State → Bool
  | .finalized | .rejected | .withdrawn | .expired => true
  | _ => false

/-- An owner decision bound to what it was a decision about. -/
structure Approval where
  termsDigest : Terms
  generation : Nat
  mandateDigest : Mandate
  atUnix : Nat
  deriving DecidableEq, Repr

/-- One exchange, in memory. -/
structure Negotiation where
  id : String
  conversationID : ConversationID
  counterpartyAgentID : AgentID
  mandate : Mandate
  network : Network
  state : State
  generation : Nat
  counteroffers : Nat
  onTable : Option Terms
  agreed : Option Terms
  needsApproval : Bool
  approval : Option Approval
  commitment : Option Digest
  quote : Option VerifiedAcceptedQuote
  failure : String
  budget : Bool
  poisoned : Bool
  deriving DecidableEq, Repr

/-- A negotiation's durable state. -/
structure Snapshot where
  id : String
  conversationID : ConversationID
  counterpartyAgentID : AgentID
  mandateDigest : Mandate
  network : Network
  state : State
  generation : Nat
  counteroffers : Nat
  needsApproval : Bool
  onTable : Option Terms
  agreed : Option Terms
  approval : Option Approval
  commitment : Option Digest
  quote : Option VerifiedAcceptedQuote
  failure : String
  deriving DecidableEq, Repr

namespace Snapshot

/-- Terms a snapshot carries are complete and priced on the network the exchange is bound to. -/
def carries (s : Snapshot) : Option Terms → Except Failure Unit
  | none => .ok ()
  | some terms => do
    terms.validate
    failIf (terms.price.asset.network ≠ s.network)
      "snapshot carries terms priced on a network the negotiation is not bound to"

/-- A finalized snapshot carries the quote its commitment names. -/
def evidence (s : Snapshot) : Except Failure Unit :=
  match s.commitment, s.quote with
  | none, _ => .error (.other "a finalized negotiation carries no commitment")
  | some _, none => .error (.other "a finalized negotiation carries no quote evidence")
  | some commitment, some quote => do
    quote.validate
    failIf (quote.commitment ≠ some commitment) "the finalized quote does not match the commitment"
    failIf (quote.terms.price.asset.network ≠ s.network)
      "the finalized quote is priced on a network the negotiation is not bound to"

/-- A snapshot that describes something. -/
def validate (s : Snapshot) : Except Failure Unit := do
  failIf (s.id = "" ∨ 128 < s.id.utf8ByteSize) "snapshot names no negotiation"
  s.network.validate.mapError fun _ => .other "snapshot names no network"
  s.carries s.onTable
  s.carries s.agreed
  failIf (s.approval.any fun approval => s.generation < approval.generation)
    "snapshot carries an approval from a later version of itself"
  if s.state = .finalized then s.evidence else pure ()

end Snapshot

namespace Negotiation

/-- What has to survive, of the content of the object. -/
def content (n : Negotiation) : Snapshot where
  id := n.id
  conversationID := n.conversationID
  counterpartyAgentID := n.counterpartyAgentID
  mandateDigest := n.mandate
  network := n.network
  state := n.state
  generation := n.generation
  counteroffers := n.counteroffers
  needsApproval := n.needsApproval
  onTable := n.onTable
  agreed := n.agreed
  approval := n.approval
  commitment := n.commitment
  quote := n.quote
  failure := n.failure

/-- What has to survive; only a valid mandate has a digest. -/
def snapshot (n : Negotiation) : Except Failure Snapshot := do
  n.mandate.validate
  pure n.content

end Negotiation

/-- The object a snapshot describes, under a mandate. -/
def Snapshot.object (s : Snapshot) (mandate : Mandate) (budget : Bool) : Negotiation where
  id := s.id
  conversationID := s.conversationID
  counterpartyAgentID := s.counterpartyAgentID
  mandate := mandate
  network := s.network
  state := s.state
  generation := s.generation
  counteroffers := s.counteroffers
  onTable := s.onTable
  agreed := s.agreed
  needsApproval := s.needsApproval
  approval := s.approval
  commitment := s.commitment
  quote := s.quote
  failure := s.failure
  budget := budget
  poisoned := false

/-- Rebuild a negotiation from what was written down, under the mandate that exists now. -/
def restore (s : Snapshot) (mandate : Mandate) (budget : Bool) : Except Failure Negotiation := do
  s.validate
  mandate.validate
  failIf (mandate ≠ s.mandateDigest) "this negotiation was authorised by a mandate that no longer stands"
  failIf (mandate.maxTotal.asset.network ≠ s.network)
    "the mandate is priced on a network this negotiation is not bound to"
  failIf (mandate.authority = .commit ∧ ¬budget) "a mandate that may commit needs a budget to commit against"
  pure (s.object mandate budget)

/-- The checks `New` makes, and the object it then writes. -/
def start (id : String) (conversationID : ConversationID) (counterpartyAgentID : AgentID) (mandate : Mandate)
    (network : Option Network) (budget : Bool) (now : Time) : Except Failure Negotiation := do
  failIf (id = "" ∨ 128 < id.utf8ByteSize) "invalid negotiation identifier"
  let bound ← validateNetworkDomain network
  mandate.live now
  failIf (mandate.maxTotal.asset.network ≠ bound) "the mandate is priced on a network this negotiation is not bound to"
  failIf (mandate.authority = .commit ∧ ¬budget) "a mandate that may commit needs a budget to commit against"
  pure {
    id, conversationID, counterpartyAgentID, mandate, network := bound, state := .discussing, generation := 0,
    counteroffers := 0, onTable := none, agreed := none, needsApproval := false, approval :=
    none, commitment := none, quote := none, failure := "", budget, poisoned := false }

/-! ## The transitions -/

/-- What a transition that passed its checks leaves in memory, and the durable writes it then makes. -/
inductive Plan where
  /-- There was nothing to do. -/
  | stay
  /-- The object is written. -/
  | save (next : Negotiation)
  /-- The price is held, then the object moves and is written. -/
  | hold (price : Money) (next : Negotiation)
  /-- The object is written, then its hold goes back, and the caller is told `result`. -/
  | free (next : Negotiation) (result : Except Failure Unit)
  /-- The object is written, then its hold becomes a spend. -/
  | spend (next : Negotiation)
  deriving DecidableEq

namespace Negotiation

variable (n : Negotiation) (reason : String) (terms : Terms) (now : Time)

/-- The commitment the object reports: the one answer that means value can move. -/
def committed : Option Digest := if n.state ≠ .finalized then none else n.commitment

def settled (n : Negotiation) : Bool := n.state.settled

/-- An object whose last write failed is refused. -/
def usable : Except Failure Unit := if n.poisoned then .error .poisoned else .ok ()

/-- The exchange is open to bargaining: `open`. -/
def opens : Except Failure Unit := do
  n.usable
  failIf n.settled "this negotiation has already ended"
  failIf (n.state = .canonicalizationPending) "this negotiation is being canonicalised"
  failIf (n.state = .intentAgreed) "these terms are agreed; reopen the negotiation to change them"
  n.mandate.live now

def bindsCounterparty : Except Failure Unit :=
  failIf (terms.providerAgentID ≠ n.counterpartyAgentID) "these terms name a provider that is not the counterparty"

def bindsNetwork : Except Failure Unit := do
  let bound ← validateNetworkDomain (some n.network)
  failIf (terms.price.asset.network ≠ bound) "these terms are priced on a network this negotiation is not bound to"

/-- The object of an exchange that ended: `end`. -/
def ended (state : State) (reason : String) : Negotiation :=
  { n with state, failure := reason, onTable := none }

/-- End the exchange: the settled state is written first, the hold goes back second. -/
def settle (state : State) (reason : String) (result : Except Failure Unit) : Plan :=
  .free (n.ended state reason) result

/-- Record an offer from the counterparty, inside the mandate or not. -/
def receiveProposal : Except Failure Plan := do
  n.opens now
  terms.validate
  n.bindsCounterparty terms
  n.bindsNetwork terms
  pure (.save { n with onTable := some terms, state := .proposalPending })

/-- Answer with an offer of our own, which must be inside our own mandate. -/
def counter : Except Failure Plan := do
  n.opens now
  if n.mandate.maxCounteroffers ≤ n.counteroffers then
    pure (n.settle .withdrawn "counteroffer budget exhausted"
      (.error (.other "the mandate's counteroffer budget is exhausted")))
  else do
    let _ ← n.mandate.permits terms now
    n.bindsCounterparty terms
    n.bindsNetwork terms
    pure (.save { n with
      onTable := some terms, counteroffers := n.counteroffers + 1, state := .counterproposalPending })

/-- Agree to the terms on the table. -/
def acceptTable : Option Terms → Except Failure Plan
  | none => .error (.other "there is nothing on the table to accept")
  | some terms => do
    let needsApproval ← n.mandate.permits terms now
    pure (.hold terms.price { n with agreed := some terms, needsApproval, state := .intentAgreed })

/-- Agree, in conversation, to the terms on the table. The price is held at the moment of agreement. -/
def acceptIntent : Except Failure Plan := do
  n.usable
  n.opens now
  n.acceptTable now n.onTable

/-- Return an agreed negotiation to discussion; the reopened state is written before the hold goes
    back. -/
def reopen : Except Failure Plan := do
  failIf (n.state ≠ .intentAgreed) "only an agreed intent can be reopened"
  n.mandate.live now
  failIf (reason = "" ∨ 512 < reason.utf8ByteSize) "reopening must say why"
  pure (.free { n with
    agreed := none, needsApproval := false, approval := none, generation := succ64 n.generation,
    state := .discussing } (.ok ()))

/-- End the exchange without agreement. -/
def rejectIntent : Except Failure Plan := do
  failIf n.settled "this negotiation has already ended"
  pure (n.settle .rejected reason (.ok ()))

/-- End the exchange from our side. -/
def withdraw : Except Failure Plan := do
  failIf n.settled "this negotiation has already ended"
  pure (n.settle .withdrawn reason (.ok ()))

/-- Record the owner's decision about the agreed terms. -/
def approveTerms (termsDigest : Terms) (now : Time) : Option Terms → Except Failure Plan
  | none => .error (.other "there are no agreed terms to approve")
  | some current => do
    current.validate
    failIf (termsDigest ≠ current) "the owner approved terms other than the ones on the table"
    n.mandate.validate
    pure (.save { n with approval := some ⟨current, n.generation, n.mandate, now.toNat⟩ })

/-- Record the owner's decision, by the digest of the terms the owner was shown. -/
def approveByOwner (termsDigest : Terms) (now : Time) : Except Failure Plan := do
  failIf (n.state ≠ .intentAgreed) "there is no agreed intent to approve"
  n.mandate.live now
  failIf (¬n.needsApproval) "these terms are inside what the owner already permitted"
  n.approveTerms termsDigest now n.agreed

/-- Record the owner refusing. -/
def denyByOwner : Except Failure Plan := do
  failIf (n.state ≠ .intentAgreed) "there is no agreed intent to refuse"
  pure (n.settle .rejected reason (.ok ()))

/-- The owner's decision still describes this negotiation. -/
def approvalStands : Except Failure Unit :=
  match n.approval, n.agreed with
  | none, _ => .error (.other "these terms need the owner's decision first")
  | some _, none => .error (.other "there are no agreed terms to act on")
  | some approval, some current => do
    current.validate
    failIf (approval.termsDigest ≠ current) "the terms changed after the owner approved them"
    failIf (approval.generation ≠ n.generation) "this negotiation was reopened after the owner approved it"
    n.mandate.validate
    failIf (approval.mandateDigest ≠ n.mandate) "the mandate changed after the owner approved these terms"

/-- The owner's decision, where these terms need one. -/
def approved : Except Failure Unit := if n.needsApproval then n.approvalStands else .ok ()

/-- Move from conversation towards a commitment. -/
def beginCanonicalization : Except Failure Plan := do
  n.usable
  failIf (n.state ≠ .intentAgreed) "only an agreed intent can be canonicalised"
  failIf (n.mandate.authority ≠ .commit) "only a mandate that may commit can canonicalise terms"
  failIf (¬n.budget) "canonicalisation needs a budget to commit against"
  n.mandate.live now
  n.approved
  pure (.save { n with state := .canonicalizationPending })

/-- `Finalize` once the quote was read and matched. -/
def finalizeQuote (commitment : Option Digest) (now : Time) (quote : VerifiedAcceptedQuote) :
    Except Failure Plan := do
  n.approved
  match n.mandate.permitsCommit quote.terms now with
  | .error e => pure (n.settle .rejected "the finalized quote falls outside the mandate" (.error e))
  | .ok _ => pure (.spend { n with commitment, quote := some quote, state := .finalized })

/-- `Finalize` against the agreed terms. A quote that exists and does not match ends the exchange;
    one that could not be read does not. -/
def finalizeAgreed (resolver : Option QuoteResolver) (commitment : Option Digest) (now : Time) :
    Option Terms → Except Failure Plan
  | none => .error (.other "canonicalization has no agreed terms")
  | some agreed =>
    match resolveMatchingAcceptedQuote resolver commitment agreed (some n.network) with
    | .error .finalizedQuoteMismatch =>
      .ok (n.settle .rejected "the finalized quote does not match what was agreed" (.error .finalizedQuoteMismatch))
    | .error e => .error e
    | .ok quote => n.finalizeQuote commitment now quote

/-- Record a canonical commitment, having verified that it exists. -/
def finalize (n : Negotiation) (resolver : Option QuoteResolver) (commitment : Option Digest)
    (now : Time) : Except Failure Plan := do
  n.usable
  failIf (n.state ≠ .canonicalizationPending) "nothing is being canonicalised"
  failIf resolver.isNone "a commitment must be verified against finalized state"
  failIf (n.mandate.authority ≠ .commit) "only a mandate that may commit can finalize"
  failIf (¬n.budget) "finalizing needs a budget to commit against"
  match n.mandate.live now with
  | .error e => pure (n.settle .expired "the mandate expired before the commitment existed" (.error e))
  | .ok _ => do
    failIf commitment.isNone "invalid commitment digest"
    n.finalizeAgreed resolver commitment now n.agreed

/-- Why an exchange that has not ended is over, if it is. The source compares `uint64(now.Unix())`,
    with `now` not before the epoch once the mandate is live. -/
def expiry : Option String :=
  match n.mandate.live now with
  | .error _ => some "the mandate expired"
  | .ok _ =>
    if n.agreed.any fun agreed => agreed.notAfterUnix ≤ now.toNat then some "the agreed terms expired" else none

/-- End a negotiation whose mandate or terms ran out. The source's first result is whether there is
    a reason. -/
def expire : Except Failure Plan :=
  if n.settled then .ok .stay
  else
    match n.expiry now with
    | none => .ok .stay
    | some reason => .ok (n.settle .expired reason (.ok ()))

end Negotiation

/-- The mutating operations of a negotiation. -/
inductive Op where
  | receiveProposal (terms : Terms) (now : Time)
  | counter (terms : Terms) (now : Time)
  | acceptIntent (now : Time)
  | reopen (reason : String) (now : Time)
  | rejectIntent (reason : String)
  | withdraw (reason : String)
  | approveByOwner (termsDigest : Terms) (now : Time)
  | denyByOwner (reason : String)
  | beginCanonicalization (now : Time)
  | finalize (resolver : Option QuoteResolver) (commitment : Option Digest) (now : Time)
  | expire (now : Time)

/-- The plan of each operation. -/
def Op.plan (n : Negotiation) : Op → Except Failure Plan
  | .receiveProposal terms now => n.receiveProposal terms now
  | .counter terms now => n.counter terms now
  | .acceptIntent now => n.acceptIntent now
  | .reopen reason now => n.reopen reason now
  | .rejectIntent reason => n.rejectIntent reason
  | .withdraw reason => n.withdraw reason
  | .approveByOwner termsDigest now => n.approveByOwner termsDigest now
  | .denyByOwner reason => n.denyByOwner reason
  | .beginCanonicalization now => n.beginCanonicalization now
  | .finalize resolver commitment now => n.finalize resolver commitment now
  | .expire now => n.expire now

end Messenger.Negotiation
