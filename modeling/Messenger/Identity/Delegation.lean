import Messenger.Canon

/-!
# `Identity.Delegation` — who may speak for an Agent

A delegation names a Messaging Endpoint of an Agent and carries the key the endpoint signs with
(`pkg/identity`). An endpoint's identifier is the digest of its network, its Agent and that key, so
whoever has an endpoint identifier can check a key that is claimed to be the endpoint's:
`deriveEndpointID`.

The standard library's functions enter as `Crypto`. Nothing is assumed of them here.
-/

namespace Messenger

/-- The tag of an identifier's text. -/
def IdKind.tag : IdKind → String
  | .agent => "agent_"
  | .endpoint => "mep_"
  | .device => "dev_"
  | .conversation => "conv_"
  | .event => "evt_"
  | .session => "ses_"
  | .room => "room_"
  | .lease => "lease_"
  | .attempt => "send_"
  | .capability => "cap_"
  | .idempotency => "idem_"

variable {kind : IdKind}

/-- An identifier's text. -/
def Identifier.text (id : Identifier kind) : String :=
  kind.tag ++ Canon.hexEncode (Canon.bigEndian 32 id.digest.toNat)

theorem Identifier.text_inj {a b : Identifier kind} (h : a.text = b.text) : a = b := by
  have hdig : a.digest = b.digest := Canon.taggedText_inj h
  cases a
  cases b
  exact congrArg _ hdig

theorem Identifier.text_ne_empty (a : Identifier kind) : a.text ≠ "" := Canon.taggedText_ne_empty _ _

theorem Identifier.text_fits (a : Identifier kind) : (Canon.Field.text a.text).Fits := by
  have htag : kind.tag.utf8ByteSize ≤ 64 := by cases kind <;> decide
  exact Canon.taggedText_fits htag a.digest

namespace Identity

open Canon (Field hashPattern hexDecode)

/-- The cryptographic functions: SHA-256, and the verification of a signature on a message under a
    public key. -/
structure Crypto where
  sum256 : Bytes → BitVec 256
  verify (publicKey message signature : Bytes) : Bool

def publicKeySize : Nat := 32
def signatureSize : Nat := 64

/-- The network an object belongs to. Nothing checks that its name is UTF-8. -/
structure Network where
  networkID : Bytes
  genesisRootHash : String
  genesisFileHash : String
  deriving DecidableEq, Repr

/-- The checks of a network domain. -/
def Network.valid (n : Network) : Bool :=
  n.networkID ≠ [] && n.networkID.length ≤ 128 && hashPattern n.genesisRootHash && hashPattern n.genesisFileHash

/-- A network in a preimage: its genesis hashes are committed as raw bytes. -/
def Network.fields (n : Network) : Option (List Field) :=
  match hexDecode n.genesisRootHash, hexDecode n.genesisFileHash with
  | some root, some file => some [.bytes n.networkID, .bytes root, .bytes file]
  | _, _ => none

/-- The fields of a valid network are three short byte strings. -/
theorem Network.fields_some {n : Network} {fields : List Field} (hval : n.valid) (h : n.fields = some fields) :
    ∃ root file, fields = [.bytes n.networkID, .bytes root, .bytes file] ∧
      (Field.bytes n.networkID).Fits ∧ (Field.bytes root).Fits ∧ (Field.bytes file).Fits := by
  unfold Network.valid at hval
  simp only [Bool.and_eq_true, decide_eq_true_eq] at hval
  obtain ⟨⟨⟨-, hnm⟩, hrootP⟩, hfileP⟩ := hval
  unfold Network.fields at h
  split at h
  · next root file hrt hfe =>
    cases h
    refine ⟨root, file, rfl, ?_, Canon.hexDecode_fits hrootP hrt, Canon.hexDecode_fits hfileP hfe⟩
    show n.networkID.length < 2 ^ 32
    omega
  · cases h

/-- The fields of a valid network determine it. -/
theorem Network.fields_inj {m n : Network} {fields : List Field} (hm : m.valid) (hn : n.valid)
    (h : m.fields = some fields) (h' : n.fields = some fields) : m = n := by
  simp only [Network.valid, Bool.and_eq_true] at hm hn
  unfold Network.fields at h h'
  split at h
  · next root file hrt hfe =>
    cases h
    split at h'
    · next root' file' hrt' hfe' =>
      injection h' with h'
      simp only [List.cons.injEq, Field.bytes.injEq, and_true] at h'
      obtain ⟨hnm, rfl, rfl⟩ := h'
      cases m
      cases n
      rw [Network.mk.injEq]
      exact ⟨hnm.symm, Canon.hexDecode_inj hm.1.2 hn.1.2 hrt hrt', Canon.hexDecode_inj hm.2 hn.2 hfe hfe'⟩
    · cases h'
  · cases h

/-- What is read of a delegation here. A missing network is `none`. -/
structure Delegation where
  network : Option Network
  agentID : AgentID
  endpointID : EndpointID
  identityPublicKey : Bytes
  allowedOutboundEventClasses : List String
  notBefore : Nat
  expiresAt : Nat
  deriving DecidableEq, Repr

def domainEndpointID : String := "tos.messaging.endpoint-id.v2\x00"

/-- The identifier of the endpoint with this key. -/
def deriveEndpointID (c : Crypto) (network : Option Network) (agentID : AgentID) (key : Bytes) :
    Except Failure EndpointID :=
  match network with
  | none => .error (.other "invalid delegation network domain")
  | some network => do
    failIf (¬network.valid) "invalid delegation network domain"
    failIf (key.length ≠ publicKeySize ∨ key.all (· = 0)) "invalid delegation identity key"
    match network.fields with
    | none => .error (.other "invalid canonical 32-byte hash")
    | some fields => pure ⟨c.sum256 (Canon.preimage domainEndpointID (fields ++ [.text agentID.text]) ++ key)⟩

/-- Is the delegation inside its validity window? -/
def checkWindow (d : Delegation) (now : Time) : Except Failure Unit := do
  failIf (now < 0) "invalid delegation time"
  failIf (now.toNat < d.notBefore) "delegation is not yet valid"
  failIf (d.expiresAt ≤ now.toNat) "delegation is expired"

end Identity

end Messenger
