import Messenger.E2ee.State
import Messenger.Lib.Run
import Messenger.Lib.Window
import Mathlib.Data.Set.Function
import Mathlib.Logic.Function.Iterate

/-!
# `E2ee.Channel` — two sessions and the messages between them

Two devices that established a session, everything either has sealed, and what the other has opened
of it. Between them nothing is promised: a message is delivered at any time and any number of times,
or never, and under any binding.

What is assumed is collected in three places.

* `Ideal` is the ideal cryptography: the agreement of two keys is one value from both sides, what is
  derived does not collide among the values that occur (`Channel.Occurs`), and a sealed body opens
  under its own key, header and binding and no other.
* `Faithful` is what a format of states and messages must do; the source's own bytes do it
  (`byteFormat_faithful`).
* `Drawn` is the random source's part: a key that is drawn was not drawn before.
-/

namespace Messenger.E2ee

open Lib

variable {K σ ω : Type}

/-! ## What is assumed -/

/-- Values that occur in a run: roots, private keys, and messages. -/
structure Values (K ω : Type) where
  root : Set K
  secret : Set K
  message : Set ω

/-- A root and the agreement of two keys, of those that occur. -/
def Values.Derives (v : Values K ω) (agree : K → K → K) (root shared : K) : Prop :=
  root ∈ v.root ∧ ∃ a ∈ v.secret, ∃ b ∈ v.secret, shared = agree a b

/-- The key of a message of a chain. -/
def Primitives.keyAt (p : Primitives K ω) (chain : K) (number : Nat) : K :=
  p.messageKey (p.nextChain^[number] chain)

/-- **Ideal cryptography**, with `agree` as the agreement of two private keys. Two roots that occur
    lead to different roots and to chains with different keys, the first root and chain are derived
    from none, and no two messages that occur have one digest. -/
structure Ideal (p : Primitives K ω) (agree : K → K → K) (v : Values K ω) : Prop where
  agree_comm : ∀ a b, agree a b = agree b a
  ecdh : ∀ a b, p.ecdh a (p.publicOf b) = some (agree a b)
  root : ∀ {root shared root' shared'}, v.Derives agree root shared → v.Derives agree root' shared' →
    (p.deriveRoot root shared).1 = (p.deriveRoot root' shared').1 → root = root'
  chain : ∀ {root shared root' shared' number}, v.Derives agree root shared →
    v.Derives agree root' shared' → number < counterBound →
    p.keyAt (p.deriveRoot root shared).2 number = p.keyAt (p.deriveRoot root' shared').2 number → root = root'
  initialRoot : ∀ {secrets binding root shared}, (p.deriveInitial secrets binding).1 ∈ v.root →
    v.Derives agree root shared → (p.deriveInitial secrets binding).1 ≠ (p.deriveRoot root shared).1
  initialChain : ∀ {secrets binding root shared number}, (p.deriveInitial secrets binding).1 ∈ v.root →
    v.Derives agree root shared → number < counterBound →
    p.keyAt (p.deriveInitial secrets binding).2 number ≠ p.keyAt (p.deriveRoot root shared).2 number
  opens : ∀ key plaintext additional, p.aeadOpen key (p.aeadSeal key plaintext additional) additional = some plaintext
  sealed : ∀ {key plaintext additional key' additional' opened},
    p.aeadOpen key' (p.aeadSeal key plaintext additional) additional' = some opened →
      key' = key ∧ additional' = additional
  /-- The tag of the cipher. -/
  tag : ∀ key plaintext additional, 16 ≤ (p.aeadSeal key plaintext additional).length
  digest : Set.InjOn p.digest v.message

/-- **A faithful format.** A state that reading accepts is written, and read back up to the order of
    its skipped keys; a message is read back as it was written. -/
structure Faithful [Zero K] (p : Primitives K ω) (f : Format K σ ω) : Prop where
  state : ∀ s : RatchetState K, s.Usable p → s.Sized → ∃ raw skipped, f.encodeState s = .ok raw
    ∧ skipped.Perm s.skipped ∧ f.decodeState raw = .ok { s with skipped := skipped }
  message : ∀ (header : Header K) (body : Bytes), header.previousNumber < counterBound → header.number < counterBound →
    16 ≤ body.length → f.decodeMessage (f.encodeMessage header body) = some (header, body)

/-- The source's bytes. -/
theorem byteFormat_faithful (p : Primitives Block Bytes) : Faithful p (byteFormat p) where
  state s huse hsz := by
    obtain ⟨henc, hdec⟩ := decode_encode (p := p) huse.bounded hsz
    rw [if_pos huse] at hdec
    exact ⟨s.sorted.bytes, s.sorted.skipped, henc, s.sorted_perm, hdec⟩
  message _ _ hpv hnum hbo := decode_message hpv hnum hbo

/-! ## The channel -/

inductive Side where
  | initiator
  | responder
  deriving DecidableEq, Repr

def Side.other : Side → Side
  | .initiator => .responder
  | .responder => .initiator

@[simp] theorem Side.other_other (side : Side) : side.other.other = side := by cases side <;> rfl

theorem Side.other_ne (side : Side) : side.other ≠ side := by cases side <;> decide

/-- A sealed message, with what was sealed. -/
structure Sealed (ω : Type) where
  ciphertext : ω
  plaintext : Bytes
  binding : Bytes

/-- Two sessions: the state each side holds, what it has sealed, in order, and the positions of the
    other side's messages it has opened. `drawn` are the public parts of the keys drawn so far. -/
structure Channel (K σ ω : Type) where
  held : Side → σ
  mail : Side → List (Sealed ω)
  opened : Side → List Nat
  drawn : List K

inductive Event (K : Type) where
  | sealMessage (side : Side) (plaintext binding : Bytes) (random : Option K)
  | deliver (side : Side) (position : Nat) (binding : Bytes)

section
variable [Zero K] [DecidableEq K] (p : Primitives K ω) (f : Format K σ ω)

/-- `Initiate` with the responder's published material, and `Accept` of what it sends. -/
def establish (initiator responder : PrivateMaterial K) (binding : Bytes) (random : Option K) :
    Except Refusal (Channel K σ ω) := do
  let (state, initial) ← initiate p f initiator (responder.published p) binding random
  let accepted ← accept p f responder (initiator.published p) initial binding
  pure {
    held := fun | .initiator => state | .responder => accepted
    mail := fun _ => []
    opened := fun _ => []
    drawn := [initial, p.publicOf responder.prekey] }

/-- One call of `Seal` or `Open`. A call that fails returns no state, and the side keeps the one it
    has. -/
def Channel.step (c : Channel K σ ω) : Event K → Channel K σ ω
  | .sealMessage side plaintext binding random =>
    match sealPlaintext p f (c.held side) plaintext binding random with
    | .error _ => c
    | .ok (ciphertext, next) =>
      { c with
        held := Function.update c.held side next
        mail := Function.update c.mail side (c.mail side ++ [⟨ciphertext, plaintext, binding⟩])
        drawn := random.toList.map p.publicOf ++ c.drawn }
  | .deliver side position binding =>
    match (c.mail side.other)[position]? with
    | none => c
    | some message =>
      match openCiphertext p f (c.held side) message.ciphertext binding with
      | .error _ => c
      | .ok (_, next) =>
        { c with
          held := Function.update c.held side next
          opened := Function.update c.opened side (position :: c.opened side) }

/-- A key that is drawn was not drawn before. -/
def Drawn (c : Channel K σ ω) : Event K → Prop
  | .sealMessage _ _ _ random => ∀ key, random = some key → p.publicOf key ∉ c.drawn
  | .deliver .. => True

end

/-- The roots, keys and messages a channel has are among those that occur. -/
structure Channel.Occurs (f : Format K σ ω) (v : Values K ω) (c : Channel K σ ω) : Prop where
  root : ∀ {side s}, f.decodeState (c.held side) = .ok s → s.root ∈ v.root
  secret : ∀ {side s}, f.decodeState (c.held side) = .ok s → s.selfPrivate ∈ v.secret
  message : ∀ {side message}, message ∈ c.mail side → message.ciphertext ∈ v.message

/-- With this message opened, the messages a side has passed over and not opened stay within the
    bound. -/
def Channel.Within (c : Channel K σ ω) (side : Side) (position : Nat) : Prop :=
  (outstanding (position :: c.opened side)).length ≤ maxSkippedKeys

end Messenger.E2ee
