import Messenger.Base
import Mathlib.Data.List.Sort

/-!
# `E2ee.Ratchet` — the default suite's session state and its transitions

The default suite is a double ratchet: a session state goes in, a result and the next state come
out. The state is `RatchetState`; its transitions are those of `default_suite.go`, with the source's
order of checks and its errors.

Three things enter as parameters.

* A 32-byte array is a value of a type `K`, ordered as the arrays are. `E2ee.State` takes the arrays
  themselves.
* The cryptographic functions are those of `Primitives`: the curve, the key derivations, the
  authenticated cipher and the digest of a ciphertext. The additional data of a message is its
  header and the caller's binding; the header has a fixed length, so the pair stands for the
  concatenation. The derivations and the cipher's set-up cannot fail at the lengths the suite uses,
  and neither can the checks of a 32-byte key.
* How a state and a message are written is a `Format`. A session holds written states only: every
  operation begins by reading one and ends by writing one.

The random source gives a key or fails.
-/

namespace Messenger.E2ee

/-! ## Errors -/

/-- The errors of a suite. -/
inductive Refusal where
  | replayed
  | notAuthentic
  | sessionExpired
  | stateUnusable
  | other (text : String)
  deriving DecidableEq, Repr

/-! ## States and messages -/

def maxSkippedKeys : Nat := 1024
def maxSeenMessages : Nat := 1024

/-- The bound of a 32-bit counter, which it never reaches. -/
def counterBound : Nat := 2 ^ 32

/-- The public part of a message. -/
structure Header (K : Type) where
  publicKey : K
  previousNumber : Nat
  number : Nat
  deriving DecidableEq, Repr

/-- The key of a message that was passed over. -/
structure SkippedKey (K : Type) where
  publicKey : K
  number : Nat
  key : K
  deriving DecidableEq, Repr

/-- Which message a skipped key is for. -/
def SkippedKey.identity {K : Type} (k : SkippedKey K) : K × Nat := (k.publicKey, k.number)

/-- One session's state. -/
structure RatchetState (K : Type) where
  root : K
  selfPrivate : K
  selfPublic : K
  peerPublic : K
  sendChain : K
  receiveChain : K
  hasSend : Bool := false
  hasReceive : Bool := false
  sendNumber : Nat := 0
  receiveNumber : Nat := 0
  previousSendNumber : Nat := 0
  skipped : List (SkippedKey K) := []
  seen : List K := []
  deriving DecidableEq, Repr

/-- The cryptographic functions, over keys of type `K` and messages of type `ω`. -/
structure Primitives (K ω : Type) where
  publicOf : K → K
  /-- The shared secret; a public key of small order has none. -/
  ecdh : K → K → Option K
  /-- Root and chain from the joined secrets of the three agreements and the session's binding. -/
  deriveInitial : List K → Bytes → K × K
  deriveRoot : K → K → K × K
  /-- The two outputs of `advanceChain`. -/
  messageKey : K → K
  nextChain : K → K
  aeadSeal : K → Bytes → Header K × Bytes → Bytes
  aeadOpen : K → Bytes → Header K × Bytes → Option Bytes
  digest : ω → K

/-- How states and messages are written. -/
structure Format (K σ ω : Type) where
  encodeState : RatchetState K → Except Refusal σ
  decodeState : σ → Except Refusal (RatchetState K)
  encodeMessage : Header K → Bytes → ω
  decodeMessage : ω → Option (Header K × Bytes)

variable {K σ ω : Type}

/-! ## What a written state must satisfy -/

namespace RatchetState

variable (p : Primitives K ω) (s : RatchetState K)

/-- The tables are within their bounds. -/
def Bounded : Prop := s.skipped.length ≤ maxSkippedKeys ∧ s.seen.length ≤ maxSeenMessages

instance (s : RatchetState K) : Decidable s.Bounded := inferInstanceAs (Decidable (_ ∧ _))

/-- The order in which the skipped keys are written. -/
def skippedBefore [LT K] [DecidableEq K] (a b : SkippedKey K) : Prop :=
  a.publicKey < b.publicKey ∨ (a.publicKey = b.publicKey ∧ a.number ≤ b.number)

instance [LT K] [DecidableLT K] [DecidableEq K] : DecidableRel (skippedBefore (K := K)) :=
  fun a b => inferInstanceAs (Decidable (a.publicKey < b.publicKey ∨ (a.publicKey = b.publicKey ∧ a.number ≤ b.number)))

/-- The state as it is written. -/
def sorted [LT K] [DecidableLT K] [DecidableEq K] (s : RatchetState K) : RatchetState K :=
  { s with skipped := s.skipped.insertionSort skippedBefore }

/-- **What reading a state checks.** -/
@[mk_iff]
structure Usable [Zero K] (p : Primitives K ω) (s : RatchetState K) : Prop where
  bounded : s.Bounded
  seen : s.seen.Nodup
  selfKey : p.publicOf s.selfPrivate = s.selfPublic
  sendChain : s.hasSend = false → s.sendChain = 0
  receiveChain : s.hasReceive = false → s.receiveChain = 0
  skipped : (s.skipped.map SkippedKey.identity).Nodup

instance [Zero K] [DecidableEq K] (p : Primitives K ω) (s : RatchetState K) : Decidable (s.Usable p) :=
  decidable_of_iff' _ (usable_iff p s)

/-! ## The skipped keys and the digests seen -/

/-- Pass over the next message of the receiving chain. -/
def skipOne : RatchetState K :=
  { s with
    skipped := s.skipped ++ [⟨s.peerPublic, s.receiveNumber, p.messageKey s.receiveChain⟩]
    receiveChain := p.nextChain s.receiveChain
    receiveNumber := s.receiveNumber + 1 }

/-- The loop of `skipTo`. The counter stays below its target, so its increments do not wrap. -/
def skipMany (p : Primitives K ω) : Nat → RatchetState K → RatchetState K
  | 0, s => s
  | gap + 1, s => skipMany p gap (s.skipOne p)

/-- Pass over the messages of the receiving chain before a number. -/
def skipTo (number : Nat) : Except Refusal (RatchetState K) :=
  if number < s.receiveNumber then .error .replayed
  else if maxSkippedKeys < number - s.receiveNumber ∨
      maxSkippedKeys < s.skipped.length + (number - s.receiveNumber) then
    .error (.other "message is beyond the skipped-key bound")
  else if 0 < number - s.receiveNumber ∧ ¬s.hasReceive then .error .notAuthentic
  else .ok (s.skipMany p (number - s.receiveNumber))

/-- Is the skipped key for this message? -/
def isFor [DecidableEq K] (publicKey : K) (number : Nat) (k : SkippedKey K) : Bool :=
  k.publicKey = publicKey ∧ k.number = number

/-- Take a skipped key out of the table. -/
def takeSkipped [DecidableEq K] (s : RatchetState K) (publicKey : K) (number : Nat) : Option (K × RatchetState K) :=
  (s.skipped.find? (isFor publicKey number)).map fun k =>
    (k.key, { s with skipped := s.skipped.eraseP (isFor publicKey number) })

/-- Note a digest, forgetting the oldest when the list is full. -/
def remember (digest : K) : RatchetState K :=
  if s.seen.length = maxSeenMessages then { s with seen := s.seen.tail ++ [digest] }
  else { s with seen := s.seen ++ [digest] }

/-! ## The ratchet -/

/-- Start a sending chain under a fresh key. -/
def advanceSendingRatchet (random : Option K) : Except Refusal (RatchetState K) :=
  match random with
  | none => .error (.other "the random source failed")
  | some self =>
    match p.ecdh self s.peerPublic with
    | none => .error (.other "the key agreement failed")
    | some shared =>
      .ok { s with
        previousSendNumber := s.sendNumber
        sendNumber := 0
        root := (p.deriveRoot s.root shared).1
        sendChain := (p.deriveRoot s.root shared).2
        hasSend := true
        selfPrivate := self
        selfPublic := p.publicOf self }

/-- Start the receiving chain of a public key of the peer. -/
def advanceReceivingRatchet [Zero K] (p : Primitives K ω) (s : RatchetState K) (publicKey : K) :
    Option (RatchetState K) :=
  (p.ecdh s.selfPrivate publicKey).map fun shared =>
    { s with
      root := (p.deriveRoot s.root shared).1
      receiveChain := (p.deriveRoot s.root shared).2
      hasReceive := true
      peerPublic := publicKey
      receiveNumber := 0
      hasSend := false
      sendChain := 0 }

/-- A message under a new public key ends the chain before it and starts its own. -/
def follow [Zero K] [DecidableEq K] (p : Primitives K ω) (s : RatchetState K) (header : Header K) :
    Except Refusal (RatchetState K) :=
  if header.publicKey ≠ s.peerPublic then
    match s.skipTo p header.previousNumber with
    | .error e => .error e
    | .ok s =>
      match s.advanceReceivingRatchet p header.publicKey with
      | none => .error .notAuthentic
      | some s => .ok s
  else .ok s

/-- The key of a message of the receiving chain, and the state behind it. -/
def receiveKey [Zero K] [DecidableEq K] (p : Primitives K ω) (s : RatchetState K)
    (header : Header K) : Except Refusal (K × RatchetState K) :=
  match s.follow p header with
  | .error e => .error e
  | .ok s =>
    if header.number < s.receiveNumber then .error .replayed
    else
      match s.skipTo p header.number with
      | .error e => .error e
      | .ok s =>
        if ¬s.hasReceive then .error .notAuthentic
        else
          .ok (p.messageKey s.receiveChain, { s with
            receiveChain := p.nextChain s.receiveChain
            receiveNumber := (s.receiveNumber + 1) % counterBound })

/-- The key of a message, out of the table or out of its chain. -/
def keyFor [Zero K] [DecidableEq K] (p : Primitives K ω) (s : RatchetState K) (header : Header K) :
    Except Refusal (K × RatchetState K) :=
  match s.takeSkipped header.publicKey header.number with
  | some taken => .ok taken
  | none => s.receiveKey p header

/-- Open one message. -/
def receive [Zero K] [DecidableEq K] (p : Primitives K ω) (s : RatchetState K) (digest : K)
    (header : Header K) (body binding : Bytes) : Except Refusal (Bytes × RatchetState K) :=
  match s.keyFor p header with
  | .error e => .error e
  | .ok (key, s) =>
    match p.aeadOpen key body (header, binding) with
    | none => .error .notAuthentic
    | some plaintext => .ok (plaintext, s.remember digest)

/-- A state that can send. -/
def sending (random : Option K) : Except Refusal (RatchetState K) :=
  if s.hasSend then .ok s else s.advanceSendingRatchet p random

/-- The header of the next message. -/
def nextHeader : Header K := ⟨s.selfPublic, s.previousSendNumber, s.sendNumber⟩

/-- The state behind the next message. -/
def sent : RatchetState K :=
  { s with sendChain := p.nextChain s.sendChain, sendNumber := s.sendNumber + 1 }

end RatchetState

/-! ## The suite -/

/-- The public prekey material of a device. -/
structure PublicMaterial (K : Type) where
  identity : K
  prekey : K
  deriving DecidableEq, Repr

/-- The private prekey material of a device. -/
structure PrivateMaterial (K : Type) where
  identity : K
  prekey : K
  deriving DecidableEq, Repr

def PrivateMaterial.published (p : Primitives K ω) (m : PrivateMaterial K) : PublicMaterial K :=
  ⟨p.publicOf m.identity, p.publicOf m.prekey⟩

section
variable [Zero K] [DecidableEq K] (p : Primitives K ω) (f : Format K σ ω)

/-- Start a session from the peer's published material: the state, and the public key the peer
    needs. -/
def initiate (device : PrivateMaterial K) (peer : PublicMaterial K) (binding : Bytes)
    (random : Option K) : Except Refusal (σ × K) :=
  match random with
  | none => .error (.other "the random source failed")
  | some self =>
    match p.ecdh device.identity peer.prekey, p.ecdh self peer.identity, p.ecdh self peer.prekey with
    | some first, some second, some third =>
      (f.encodeState {
        root := (p.deriveInitial [first, second, third] binding).1
        selfPrivate := self
        selfPublic := p.publicOf self
        peerPublic := peer.prekey
        sendChain := (p.deriveInitial [first, second, third] binding).2
        receiveChain := 0
        hasSend := true }).map fun raw => (raw, p.publicOf self)
    | _, _, _ => .error .notAuthentic

/-- Complete a session from the initiator's public key. -/
def accept (device : PrivateMaterial K) (remote : PublicMaterial K) (peer : K) (binding : Bytes) : Except Refusal σ :=
  match p.ecdh device.prekey remote.identity, p.ecdh device.identity peer, p.ecdh device.prekey peer with
  | some first, some second, some third =>
    f.encodeState {
      root := (p.deriveInitial [first, second, third] binding).1
      selfPrivate := device.prekey
      selfPublic := p.publicOf device.prekey
      peerPublic := peer
      sendChain := 0
      receiveChain := (p.deriveInitial [first, second, third] binding).2
      hasReceive := true }
  | _, _, _ => .error .notAuthentic

/-- Encrypt under a binding: the source's `Seal`. -/
def sealPlaintext (raw : σ) (plaintext binding : Bytes) (random : Option K) : Except Refusal (ω × σ) := do
  let s ← f.decodeState raw
  let s ← s.sending p random
  if s.sendNumber = counterBound - 1 then .error .sessionExpired
  else do
    let next ← f.encodeState (s.sent p)
    pure (f.encodeMessage s.nextHeader (p.aeadSeal (p.messageKey s.sendChain) plaintext (s.nextHeader, binding)), next)

/-- Decrypt under a binding: the source's `Open`. -/
def openCiphertext (raw : σ) (ciphertext : ω) (binding : Bytes) : Except Refusal (Bytes × σ) := do
  let s ← f.decodeState raw
  if p.digest ciphertext ∈ s.seen then .error .replayed
  else
    match f.decodeMessage ciphertext with
    | none => .error .notAuthentic
    | some (header, body) => do
      let (plaintext, s) ← s.receive p (p.digest ciphertext) header body binding
      let next ← f.encodeState s
      pure (plaintext, next)

end

end Messenger.E2ee
