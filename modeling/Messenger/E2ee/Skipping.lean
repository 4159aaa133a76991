import Messenger.E2ee.State
import Mathlib.Logic.Function.Iterate

/-!
# `E2ee.Skipping` — what the transitions do to a state

One lemma for each transition, over any keys and any cryptographic functions. Everything proved
about runs rests on these: `skipMany_eq` says what passing over messages leaves behind, `skipTo_ok`,
`follow_new` and `receiveKey_ok` when a state is reached and which, `sending_ok` when one can send,
and `passedOver` names the messages a header makes the receiver pass over.
-/

namespace Messenger.E2ee

variable {K ω : Type} {p : Primitives K ω} {s s' : RatchetState K}

namespace RatchetState

/-- The keys of the next messages of the receiving chain. -/
def upcoming (p : Primitives K ω) (s : RatchetState K) (n : Nat) : List (SkippedKey K) :=
  (List.range n).map fun i => ⟨s.peerPublic, s.receiveNumber + i, p.messageKey (p.nextChain^[i] s.receiveChain)⟩

theorem upcoming_succ (n : Nat) :
    s.upcoming p (n + 1) = ⟨s.peerPublic, s.receiveNumber, p.messageKey s.receiveChain⟩ ::
      (s.skipOne p).upcoming p n := by
  unfold upcoming
  rw [List.range_succ_eq_map, List.map_cons, List.map_map]
  refine congrArg₂ List.cons rfl (List.map_congr_left fun i _ => ?_)
  simp only [Function.comp_apply, skipOne, Function.iterate_succ_apply, SkippedKey.mk.injEq, true_and, and_true]
  omega

/-- **Passing over messages** sets their keys aside and moves the chain on. -/
theorem skipMany_eq (n : Nat) (s : RatchetState K) :
    s.skipMany p n = { s with
      skipped := s.skipped ++ s.upcoming p n
      receiveChain := p.nextChain^[n] s.receiveChain
      receiveNumber := s.receiveNumber + n } := by
  induction n generalizing s with
  | zero => simp [skipMany, upcoming]
  | succ n ih =>
    rw [skipMany, ih, upcoming_succ]
    simp only [skipOne, Function.iterate_succ_apply, List.append_assoc, List.singleton_append,
      RatchetState.mk.injEq, true_and, and_true]
    omega

/-- When `skipTo` succeeds, and with what. -/
theorem skipTo_ok {number : Nat} :
    s.skipTo p number = .ok s' ↔
      s.receiveNumber ≤ number ∧ s.skipped.length + (number - s.receiveNumber) ≤ maxSkippedKeys
        ∧ (number = s.receiveNumber ∨ s.hasReceive = true) ∧ s' = s.skipMany p (number - s.receiveNumber) := by
  unfold skipTo
  split_ifs with hbeh hbd hch
  · exact ⟨nofun, fun h => absurd h.1 (by omega)⟩
  · exact ⟨nofun, fun h => absurd h.2.1 (by omega)⟩
  · refine ⟨nofun, fun h => ?_⟩
    rcases h.2.2.1 with hsm | hrv
    · omega
    · exact absurd hrv hch.2
  have hrv : number = s.receiveNumber ∨ s.hasReceive = true := by
    by_cases hgap : 0 < number - s.receiveNumber
    · exact .inr (not_not.mp fun hrv => hch ⟨hgap, hrv⟩)
    · exact .inl (by omega)
  rw [Except.ok.injEq, eq_comm]
  exact ⟨fun h => ⟨by omega, by omega, hrv, h⟩, fun h => h.2.2.2⟩

/-! ## The table and the digests -/

/-- A key that is taken was in the table under the message's identity. -/
theorem takeSkipped_some [DecidableEq K] {pk key : K} {number : Nat}
    (h : s.takeSkipped pk number = some (key, s')) :
    (∃ k ∈ s.skipped, k.identity = (pk, number) ∧ k.key = key)
      ∧ s' = { s with skipped := s.skipped.eraseP (isFor pk number) } := by
  unfold takeSkipped at h
  cases hfi : s.skipped.find? (isFor pk number) with
  | none =>
    rw [hfi] at h
    cases h
  | some k =>
    rw [hfi] at h
    cases h
    have hhs : isFor pk number k = true := List.find?_some hfi
    have hfor : k.publicKey = pk ∧ k.number = number := of_decide_eq_true hhs
    exact ⟨⟨k, List.mem_of_find?_eq_some hfi, by rw [SkippedKey.identity, hfor.1, hfor.2], rfl⟩, rfl⟩

/-- A key that is not found is not in the table. -/
theorem takeSkipped_none [DecidableEq K] {pk : K} {number : Nat} :
    s.takeSkipped pk number = none ↔ (pk, number) ∉ s.skipped.map SkippedKey.identity := by
  unfold takeSkipped
  rw [Option.map_eq_none_iff, List.find?_eq_none]
  constructor
  · intro h hmem
    obtain ⟨k, hk, hidn⟩ := List.mem_map.mp hmem
    have hfd : k.publicKey = pk ∧ k.number = number := Prod.mk.inj hidn
    exact h k hk (decide_eq_true hfd)
  intro h k hk hfor
  have hfd : k.publicKey = pk ∧ k.number = number := of_decide_eq_true hfor
  exact h (List.mem_map.mpr ⟨k, hk, by rw [SkippedKey.identity, hfd.1, hfd.2]⟩)

/-- Remembering a new digest keeps the digests distinct and within their bound. -/
theorem remember_seen {digest : K} (hnd : s.seen.Nodup) (hbd : s.seen.length ≤ maxSeenMessages)
    (hnew : digest ∉ s.seen) :
    ∃ seen, s.remember digest = { s with seen := seen } ∧ seen.Nodup ∧ seen.length ≤ maxSeenMessages
      ∧ ∀ d ∈ seen, d ∈ s.seen ∨ d = digest := by
  have hla : ∀ {old : List K}, old.Sublist s.seen → (old ++ [digest]).Nodup
      ∧ ∀ d ∈ old ++ [digest], d ∈ s.seen ∨ d = digest := by
    intro old hold
    have hfr : digest ∉ old := fun hmem => hnew (hold.subset hmem)
    refine ⟨(hnd.sublist hold).append (List.nodup_singleton _) (by simpa using hfr), fun d hd => ?_⟩
    rcases List.mem_append.mp hd with hd | hd
    · exact .inl (hold.subset hd)
    · exact .inr (List.mem_singleton.mp hd)
  unfold remember
  by_cases hfu : s.seen.length = maxSeenMessages
  · rw [if_pos hfu]
    obtain ⟨hnodup', hmem⟩ := hla (List.tail_sublist s.seen)
    refine ⟨_, rfl, hnodup', ?_, hmem⟩
    unfold maxSeenMessages at hfu ⊢
    rw [List.length_append, List.length_tail, List.length_singleton]
    omega
  rw [if_neg hfu]
  obtain ⟨hnodup', hmem⟩ := hla (List.Sublist.refl s.seen)
  refine ⟨_, rfl, hnodup', ?_, hmem⟩
  rw [List.length_append, List.length_singleton]
  omega

/-- The messages that are passed over when a header is met: the rest of the chain before, and the
    chain's own before the header's number. -/
def passedOver [DecidableEq K] (s : RatchetState K) (header : Header K) : List (K × Nat) :=
  if header.publicKey = s.peerPublic then
    (List.range (header.number - s.receiveNumber)).map fun i => (s.peerPublic, s.receiveNumber + i)
  else
    (List.range (header.previousNumber - s.receiveNumber)).map (fun i => (s.peerPublic, s.receiveNumber + i)) ++
      (List.range header.number).map fun i => (header.publicKey, i)

theorem upcoming_identities (n : Nat) :
    (s.upcoming p n).map SkippedKey.identity = (List.range n).map fun i => (s.peerPublic, s.receiveNumber + i) := by
  unfold upcoming
  rw [List.map_map]
  rfl

/-- The state at the start of a receiving chain. -/
def entered [Zero K] (p : Primitives K ω) (s : RatchetState K) (publicKey shared : K) : RatchetState K :=
  { s with
    root := (p.deriveRoot s.root shared).1
    receiveChain := (p.deriveRoot s.root shared).2
    hasReceive := true
    peerPublic := publicKey
    receiveNumber := 0
    hasSend := false
    sendChain := 0 }

/-- The state behind the next message of the receiving chain. -/
def received (p : Primitives K ω) (s : RatchetState K) : RatchetState K :=
  { s with
    receiveChain := p.nextChain s.receiveChain
    receiveNumber := (s.receiveNumber + 1) % counterBound }

/-- The state at the start of a sending chain. -/
def begun (p : Primitives K ω) (s : RatchetState K) (key shared : K) : RatchetState K :=
  { s with
    previousSendNumber := s.sendNumber
    sendNumber := 0
    root := (p.deriveRoot s.root shared).1
    sendChain := (p.deriveRoot s.root shared).2
    hasSend := true
    selfPrivate := key
    selfPublic := p.publicOf key }

/-- A state that can send: as it was, or at the start of a chain under a key just drawn. -/
theorem sending_ok {random : Option K} :
    s.sending p random = .ok s' ↔ (s.hasSend = true ∧ s' = s) ∨
      (s.hasSend = false ∧ ∃ key shared, random = some key ∧ p.ecdh key s.peerPublic = some shared
        ∧ s' = s.begun p key shared) := by
  unfold sending
  cases hsend : s.hasSend with
  | true => simp [eq_comm]
  | false =>
    unfold advanceSendingRatchet
    cases random with
    | none => simp
    | some key =>
      cases hshared : p.ecdh key s.peerPublic with
      | none => simp [hshared]
      | some shared => simp [hshared, begun, eq_comm]

section
variable [Zero K] [DecidableEq K] {header : Header K}

theorem follow_same (h : header.publicKey = s.peerPublic) : s.follow p header = .ok s := by
  unfold follow
  rw [if_neg (not_not.mpr h)]

/-- A new public key: the chain before it is passed over, and its own entered. -/
theorem follow_new (h : header.publicKey ≠ s.peerPublic) :
    s.follow p header = .ok s' ↔ ∃ rest shared, s.skipTo p header.previousNumber = .ok rest
      ∧ p.ecdh rest.selfPrivate header.publicKey = some shared ∧ s' = rest.entered p header.publicKey shared := by
  unfold follow
  rw [if_pos h]
  cases hsk : s.skipTo p header.previousNumber with
  | error e => simp
  | ok rest =>
    cases hshared : p.ecdh rest.selfPrivate header.publicKey with
    | none => simp [advanceReceivingRatchet, hshared]
    | some shared => simp [advanceReceivingRatchet, hshared, entered, eq_comm]

/-- When a message's key comes out of its chain, and with what. -/
theorem receiveKey_ok {key : K} :
    s.receiveKey p header = .ok (key, s') ↔ ∃ chain reached, s.follow p header = .ok chain
      ∧ chain.skipTo p header.number = .ok reached ∧ reached.hasReceive = true
      ∧ key = p.messageKey reached.receiveChain ∧ s' = reached.received p := by
  unfold receiveKey
  cases hflw : s.follow p header with
  | error e => simp
  | ok chain =>
    cases hsk : chain.skipTo p header.number with
    | error e =>
      dsimp only
      split_ifs <;> simp [hsk]
    | ok reached =>
      have hahd : ¬header.number < chain.receiveNumber := not_lt.mpr (skipTo_ok.mp hsk).1
      cases hrv : reached.hasReceive with
      | false => simp [hahd, hsk, hrv]
      | true =>
        simp only [hahd, if_false, hsk, hrv, not_true, Except.ok.injEq, Prod.mk.injEq]
        simp [hsk, hrv, received, and_congr eq_comm eq_comm]

/-- Finding a key leaves the digests alone. -/
theorem keyFor_seen {key : K} (h : s.keyFor p header = .ok (key, s')) : s'.seen = s.seen := by
  unfold keyFor at h
  cases hta : s.takeSkipped header.publicKey header.number with
  | some taken =>
    rw [hta] at h
    cases h
    obtain ⟨-, rfl⟩ := takeSkipped_some hta
    rfl
  | none =>
    rw [hta] at h
    obtain ⟨chain, reached, hflw, hsk, -, -, rfl⟩ := receiveKey_ok.mp h
    obtain ⟨-, -, -, rfl⟩ := skipTo_ok.mp hsk
    rw [skipMany_eq]
    by_cases hsm : header.publicKey = s.peerPublic
    · rw [follow_same hsm] at hflw
      cases hflw
      rfl
    obtain ⟨rest, shared, hre, -, rfl⟩ := (follow_new hsm).mp hflw
    obtain ⟨-, -, -, rfl⟩ := skipTo_ok.mp hre
    rw [skipMany_eq]
    rfl

/-- When a message is opened, and with what. -/
theorem receive_ok {digest : K} {body binding pt : Bytes} :
    s.receive p digest header body binding = .ok (pt, s') ↔ ∃ key reached, s.keyFor p header = .ok (key, reached)
      ∧ p.aeadOpen key body (header, binding) = some pt ∧ s' = reached.remember digest := by
  unfold receive
  rcases hkey : s.keyFor p header with e | ⟨key, reached⟩
  · simp
  cases hop : p.aeadOpen key body (header, binding) with
  | none => simp [hop]
  | some opened => simp [hop, eq_comm]

end

end RatchetState

end Messenger.E2ee
