import Messenger.Base

/-!
# `Negotiation.Terms` — exact amounts, terms and mandates

The values a purchase is made of (`pkg/negotiation`): what is bought and for how much (`Terms`),
what the owner permitted in advance (`Mandate`), and which purchase it is (`ExecutionID`).

- **Amounts.** An atomic amount is a canonical decimal of at most 78 digits in the source, hence a
  `Nat` below `10 ^ 78` here; sums that leave that range fail.
- **Hashes.** A hexadecimal hash or account the source matches against a fixed pattern is its 256
  bits.
- **Digests as identifiers.** `mdt_` and `eex_` identifiers are digests of canonical bytes. The
  model takes the committed content itself for the identifier, that is, it takes the digests to be
  free of collisions.
-/

namespace Messenger.Negotiation

/-! ## Assets and amounts -/

def maxDecimals : Nat := 36

/-- One more than the largest amount of 78 digits. -/
def atomicBound : Nat := 10 ^ 78

/-- The identity of one network. -/
structure Network where
  id : String
  genesisRootHash : BitVec 256
  genesisFileHash : BitVec 256
  deriving DecidableEq, Repr

def Network.validate (n : Network) : Except Failure Unit :=
  failIf (n.id = "" ∨ 128 < n.id.utf8ByteSize) "invalid network identity"

/-- The identity of one asset. Equality is the source's `Same`. -/
structure Asset where
  network : Network
  workchain : Int
  accountID : BitVec 256
  masterCodeHash : BitVec 256
  walletCodeHash : BitVec 256
  decimals : Nat
  deriving DecidableEq, Repr

def Asset.validate (a : Asset) : Except Failure Unit := do
  a.network.validate.mapError fun _ => .other "asset names no network"
  failIf (a.workchain < -128 ∨ 127 < a.workchain) "asset workchain is outside the addressable range"
  failIf (maxDecimals < a.decimals) "asset precision exceeds its bound"

/-- An exact quantity of one asset. -/
structure Money where
  asset : Asset
  atomic : Nat
  deriving DecidableEq, Repr

namespace Money

def validate (m : Money) : Except Failure Unit := do
  m.asset.validate
  failIf (atomicBound ≤ m.atomic) "an amount must be a canonical decimal count of atomic units"

/-- The atomic count, of a valid amount. -/
def int (m : Money) : Except Failure Nat := do
  m.validate
  pure m.atomic

/-- Whether an amount is within a ceiling; amounts of two assets are not comparable. -/
def atMost (m ceiling : Money) : Except Failure Bool := do
  failIf (m.asset ≠ ceiling.asset) "amounts of different assets are not comparable"
  let left ← m.int
  let right ← ceiling.int
  pure (decide (left ≤ right))

/-- The sum of two amounts of one asset. -/
def add (m other : Money) : Except Failure Money := do
  failIf (m.asset ≠ other.asset) "amounts of different assets cannot be added"
  let left ← m.int
  let right ← other.int
  let sum : Money := ⟨m.asset, left + right⟩
  sum.validate
  pure sum

end Money

/-! ## Terms -/

/-- A digest with the tag it is written under. -/
structure Digest where
  tvmCell : Bool
  value : BitVec 256
  deriving DecidableEq, Repr

/-- A segment of a capability class. -/
def classSegment (segment : List Char) : Bool :=
  segment ≠ [] && segment.all fun c => c.isLower || c.isDigit

/-- `^[a-z][a-z0-9]*(\.[a-z0-9]+)*$` -/
def capabilityClassPattern (text : String) : Bool :=
  text.toList.head?.any Char.isLower && (text.toList.splitOn '.').all classSegment

/-- The exact conditions two parties say they intend to commit to. -/
structure Terms where
  capabilityID : CapabilityID
  capabilityVersion : String
  capabilityClass : String
  providerAgentID : AgentID
  manifestDigest : Digest
  transportBindingDigest : Digest
  price : Money
  escrowTermsDigest : Digest
  disputePolicyDigest : Digest
  notAfterUnix : Nat
  deriving DecidableEq, Repr

/-- A commitment the terms must carry is not the all-zero digest. -/
def commitment (name : String) (digest : Digest) : Except Failure Unit :=
  failIf (digest.value = 0) ("terms carry no " ++ name ++ " commitment")

/-- Terms are complete. The source checks the four digests in the order of a map, so of several
    missing ones it may name another than the first. -/
def Terms.validate (t : Terms) : Except Failure Unit := do
  failIf (t.capabilityVersion = "" ∨ 64 < t.capabilityVersion.utf8ByteSize) "terms name no capability version"
  failIf (¬capabilityClassPattern t.capabilityClass) "terms name no capability class"
  commitment "manifest" t.manifestDigest
  commitment "transport binding" t.transportBindingDigest
  commitment "escrow terms" t.escrowTermsDigest
  commitment "dispute policy" t.disputePolicyDigest
  t.price.validate
  failIf (t.notAfterUnix = 0) "terms must expire"

/-- Terms are complete where there are any. -/
def validateTerms : Option Terms → Except Failure Unit
  | none => .ok ()
  | some terms => terms.validate

/-! ## Mandates -/

/-- What an Agent may do, and what it may only propose. -/
inductive Authority where
  | converse
  | propose
  | commit
  /-- A text this build does not know. -/
  | other (name : String)
  deriving DecidableEq, Repr

def Authority.name : Authority → String
  | .converse => "conversation"
  | .propose => "proposal"
  | .commit => "commit"
  | .other name => name

def Authority.known : Authority → Bool
  | .other _ => false
  | _ => true

def maxCounteroffers : Nat := 32

/-- What the owner permitted before the conversation began. -/
structure Mandate where
  objective : String
  authority : Authority
  capabilityClass : String
  maxTotal : Money
  approvalAbove : Money
  maxCounteroffers : Nat
  expiresAtUnix : Nat
  deriving DecidableEq, Repr

namespace Mandate

def validate (m : Mandate) : Except Failure Unit := do
  failIf (m.objective = "" ∨ 512 < m.objective.utf8ByteSize) "a mandate needs an objective"
  failIf (¬m.authority.known) "invalid mandate authority"
  failIf (¬capabilityClassPattern m.capabilityClass ∨ 64 < m.capabilityClass.utf8ByteSize)
    "invalid mandate capability class"
  m.maxTotal.validate
  m.approvalAbove.validate
  failIf (m.maxTotal.asset ≠ m.approvalAbove.asset) "a mandate's ceiling and approval point must use one asset"
  let within ← m.approvalAbove.atMost m.maxTotal
  failIf (¬within) "a mandate's approval point is above its own ceiling"
  failIf (m.maxCounteroffers = 0 ∨ Negotiation.maxCounteroffers < m.maxCounteroffers)
    "invalid mandate counteroffer bound"
  failIf (m.expiresAtUnix = 0) "a mandate must expire"

variable (m : Mandate) (terms : Terms) (now : Time)

/-- A mandate is still in force. -/
def live : Except Failure Unit := do
  m.validate
  failIf (now < 0) "invalid mandate time"
  failIf (m.expiresAtUnix ≤ now.toNat) "mandate has expired"

/-- Whether terms fall inside a mandate, and whether the owner still has to decide personally. -/
def permitsAt (requireCommit : Bool) : Except Failure Bool := do
  m.live now
  terms.validate
  failIf (m.authority = .converse) "this mandate permits conversation and nothing else"
  failIf (requireCommit ∧ m.authority ≠ .commit) "this mandate may propose but not commit"
  failIf (terms.capabilityClass ≠ m.capabilityClass) "these terms buy something the mandate does not cover"
  failIf (terms.price.asset ≠ m.maxTotal.asset) "these terms are priced in an asset the mandate does not name"
  let within ← terms.price.atMost m.maxTotal
  failIf (¬within) "these terms are above the mandate's ceiling"
  failIf (terms.notAfterUnix ≤ now.toNat) "these terms have already expired"
  -- terms that outlive their authority would be a commitment the owner never gave
  failIf (m.expiresAtUnix < terms.notAfterUnix) "these terms outlive the mandate that permits them"
  let under ← terms.price.atMost m.approvalAbove
  pure !under

/-- Terms judged in conversation. -/
def permits : Except Failure Bool := m.permitsAt terms now false

/-- Terms judged where value can move. -/
def permitsCommit : Except Failure Bool := m.permitsAt terms now true

end Mandate

/-! ## Identities -/

/-- The content a stored mandate's `mdt_` identifier is derived from. -/
structure MandateID where
  objective : String
  authority : Authority
  capabilityClass : String
  asset : Asset
  maxTotalAtomic : Nat
  approvalAboveAtomic : Nat
  maxCounteroffers : Nat
  expiresAtUnix : Nat
  deriving DecidableEq, Repr

/-- One economic purchase: the authorising mandate and the exact terms, and nothing else. -/
structure ExecutionID where
  mandateID : MandateID
  terms : Terms
  deriving DecidableEq, Repr

/-- The identity of a purchase; only complete terms have one. -/
def executionID (mandateID : MandateID) (terms : Terms) : Except Failure ExecutionID := do
  terms.validate
  pure ⟨mandateID, terms⟩

/-! ## The texts of refusals

They are fixed, and short enough to be quoted in the reason an owner is shown. -/

theorem Asset.validate_terse (a : Asset) : Terse 64 a.validate := by
  refine terse_bind ?_ fun _ => terse_bind (terse_failIf (by decide)) fun _ => terse_failIf (by decide)
  unfold Network.validate failIf
  split_ifs
  · exact terse_other (by decide)
  · exact terse_ok ()

theorem Money.validate_terse (m : Money) : Terse 64 m.validate :=
  terse_bind m.asset.validate_terse fun _ => terse_failIf (by decide)

theorem Money.int_terse (m : Money) : Terse 64 m.int := terse_bind m.validate_terse fun _ => terse_ok _

theorem Money.atMost_terse (m ceiling : Money) : Terse 64 (m.atMost ceiling) :=
  terse_check (terse_bind m.int_terse fun _ => terse_bind ceiling.int_terse fun _ => terse_ok _)

theorem Terms.validate_terse (t : Terms) : Terse 64 t.validate := by
  iterate 6 refine terse_check ?_
  exact terse_bind t.price.validate_terse fun _ => terse_failIf (by decide)

theorem Mandate.validate_terse (m : Mandate) : Terse 64 m.validate := by
  iterate 3 refine terse_check ?_
  refine terse_bind m.maxTotal.validate_terse fun _ => terse_bind m.approvalAbove.validate_terse fun _ => ?_
  refine terse_check (terse_bind (Money.atMost_terse _ _) fun _ => terse_check (terse_check ?_))
  exact terse_failIf (by decide)

theorem Mandate.live_terse (m : Mandate) (now : Time) : Terse 64 (m.live now) :=
  terse_bind m.validate_terse fun _ => terse_check (terse_failIf (by decide))

theorem Mandate.permitsAt_terse (m : Mandate) (terms : Terms) (now : Time) (requireCommit : Bool) :
    Terse 64 (m.permitsAt terms now requireCommit) := by
  refine terse_bind (m.live_terse now) fun _ => terse_bind terms.validate_terse fun _ => ?_
  iterate 4 refine terse_check ?_
  refine terse_bind (Money.atMost_terse _ _) fun _ => ?_
  iterate 3 refine terse_check ?_
  exact terse_bind (Money.atMost_terse _ _) fun _ => terse_ok _

end Messenger.Negotiation
