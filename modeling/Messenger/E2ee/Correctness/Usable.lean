import Messenger.E2ee.Skipping
import Messenger.Lib.Run

/-!
# `E2ee.Correctness.Usable` — which sessions can be continued

Every operation ends by writing a state that the next one reads, and reading refuses more than
writing does: of two skipped keys for one message it refuses the whole state. The transitions keep
everything reading asks for, except that.

A peer that returns to a public key under which a skipped key is still in the table makes the
receiver pass over the same numbers again. `Unrepeated` excludes exactly that, and along every run
that keeps to it, whatever the peer sends, each written state is read back as it was written
(`run_usable`).

Nothing is assumed of the cryptographic functions.
-/

namespace Messenger.E2ee

open Lib RatchetState
open Canon (bigEndian)

section
variable {K ω : Type} [Zero K] [DecidableEq K] {p : Primitives K ω} {s s' : RatchetState K} {header : Header K}

/-- The message's own key is in the table, or none of the messages to be passed over has a key
    there. -/
def Unrepeated (s : RatchetState K) (header : Header K) : Prop :=
  (header.publicKey, header.number) ∈ s.skipped.map SkippedKey.identity ∨
    ∀ identity ∈ s.passedOver header, identity ∉ s.skipped.map SkippedKey.identity

instance (s : RatchetState K) (header : Header K) : Decidable (Unrepeated s header) :=
  inferInstanceAs (Decidable (_ ∨ _))

omit [Zero K] in
/-- No message is passed over twice on the way to one header. -/
theorem passedOver_nodup (s : RatchetState K) (header : Header K) : (s.passedOver header).Nodup := by
  have hrng : ∀ (pk : K) (start n : Nat), ((List.range n).map fun i => (pk, start + i)).Nodup := by
    intro pk start n
    refine List.nodup_range.map fun i j hij => ?_
    simpa using hij
  unfold passedOver
  by_cases hsm : header.publicKey = s.peerPublic
  · rw [if_pos hsm]
    exact hrng _ _ _
  rw [if_neg hsm]
  have hown : ((List.range header.number).map fun i => (header.publicKey, i)).Nodup := by
    simpa using hrng header.publicKey 0 header.number
  refine List.Nodup.append (hrng _ _ _) hown fun identity hpre haft => ?_
  obtain ⟨i, -, rfl⟩ := List.mem_map.mp hpre
  obtain ⟨j, -, hj⟩ := List.mem_map.mp haft
  exact hsm (congrArg Prod.fst hj)

/-- What reading checks, apart from the skipped keys and the digests. -/
structure Coherent (p : Primitives K ω) (s : RatchetState K) : Prop where
  selfKey : p.publicOf s.selfPrivate = s.selfPublic
  sendChain : s.hasSend = false → s.sendChain = 0
  receiveChain : s.hasReceive = false → s.receiveChain = 0
  sized : s.Sized

/-- **A key out of the receiving chain.** The state stays coherent, its digests are untouched, and
    its table gains the messages passed over. -/
theorem receiveKey_effect (hs : Coherent p s) (hpv : header.previousNumber < counterBound)
    (hnum : header.number < counterBound) {key : K} (h : s.receiveKey p header = .ok (key, s')) :
    Coherent p s' ∧ s'.seen = s.seen ∧ s'.skipped.length ≤ maxSkippedKeys
      ∧ s'.skipped.map SkippedKey.identity = s.skipped.map SkippedKey.identity ++ s.passedOver header := by
  obtain ⟨chain, reached, hflw, hsk, hrv, -, rfl⟩ := receiveKey_ok.mp h
  obtain ⟨hle, hbd, -, rfl⟩ := skipTo_ok.mp hsk
  rw [skipMany_eq] at hrv ⊢
  have hwp : (chain.receiveNumber + (header.number - chain.receiveNumber) + 1) % counterBound < counterBound :=
    Nat.mod_lt _ (by decide)
  have hlen : (chain.skipped ++ chain.upcoming p (header.number - chain.receiveNumber)).length ≤ maxSkippedKeys := by
    simpa [upcoming] using hbd
  -- what is set aside is below the number that is reached
  have hbelow : ∀ (s : RatchetState K) {n : Nat}, s.receiveNumber ≤ n → n < counterBound →
      ∀ k ∈ s.upcoming p (n - s.receiveNumber), k.number < counterBound := by
    intro s n hle hn k hk
    obtain ⟨i, hi, rfl⟩ := List.mem_map.mp hk
    have := List.mem_range.mp hi
    show s.receiveNumber + i < counterBound
    omega
  have hupcoming := hbelow chain hle hnum
  by_cases hsm : header.publicKey = s.peerPublic
  · -- The header belongs to the receiving chain.
    rw [follow_same hsm] at hflw
    cases hflw
    refine ⟨⟨hs.selfKey, hs.sendChain, ?_, ⟨hs.sized.sendNumber, hwp, hs.sized.previousSendNumber, ?_⟩⟩, rfl, hlen, ?_⟩
    · intro hno
      rw [hrv] at hno
      cases hno
    · exact List.forall_mem_append.mpr ⟨hs.sized.skipped, hupcoming⟩
    · simp only [received, List.map_append, upcoming_identities, passedOver, if_pos hsm]
  · -- The header starts a chain of its own, behind what is left of the one before.
    obtain ⟨rest, shared, hre, -, rfl⟩ := (follow_new hsm).mp hflw
    obtain ⟨hrestLe, -, -, rfl⟩ := skipTo_ok.mp hre
    rw [skipMany_eq] at hlen hupcoming ⊢
    refine ⟨⟨hs.selfKey, fun _ => rfl, ?_, ⟨hs.sized.sendNumber, hwp, hs.sized.previousSendNumber, ?_⟩⟩, rfl, hlen, ?_⟩
    · intro hno
      cases hno
    · have hrest := List.forall_mem_append.mpr ⟨hs.sized.skipped, hbelow s hrestLe hpv⟩
      exact List.forall_mem_append.mpr ⟨hrest, hupcoming⟩
    · simp only [received, entered, List.map_append, upcoming_identities,
        passedOver, if_neg hsm, List.append_assoc, Nat.sub_zero, Nat.zero_add]

/-- **One message.** From a state that can be read, an opened message leaves one that can be
    written, and read back exactly when no message was passed over a second time. -/
theorem receive_effect (hs : s.Usable p) (hsz : s.Sized) (hpv : header.previousNumber < counterBound)
    (hnum : header.number < counterBound) {digest : K} (hnew : digest ∉ s.seen)
    {body binding pt : Bytes} (h : s.receive p digest header body binding = .ok (pt, s')) :
    s'.Bounded ∧ s'.Sized ∧ (s'.Usable p ↔ Unrepeated s header) := by
  obtain ⟨key, reached, hkey, -, rfl⟩ := receive_ok.mp h
  unfold keyFor at hkey
  cases hta : s.takeSkipped header.publicKey header.number with
  | some taken =>
    rw [hta] at hkey
    cases hkey
    obtain ⟨⟨k, hk, hidn, -⟩, rfl⟩ := takeSkipped_some hta
    obtain ⟨seen, hrmb, hnd, hlen, -⟩ := remember_seen
      (s := { s with skipped := s.skipped.eraseP (isFor header.publicKey header.number) })
      hs.seen hs.bounded.2 hnew
    rw [hrmb]
    have hsub : (s.skipped.eraseP (isFor header.publicKey header.number)).Sublist s.skipped :=
      List.eraseP_sublist
    have hbnd : (s.skipped.eraseP (isFor header.publicKey header.number)).length ≤ maxSkippedKeys :=
      hsub.length_le.trans hs.bounded.1
    refine ⟨⟨hbnd, hlen⟩, { hsz with skipped := fun k hk => hsz.skipped k (hsub.subset hk) }, ?_⟩
    have hmine : Unrepeated s header := .inl (List.mem_map.mpr ⟨k, hk, hidn⟩)
    refine iff_of_true ⟨⟨hbnd, hlen⟩, hnd, hs.selfKey, hs.sendChain, hs.receiveChain, ?_⟩ hmine
    exact hs.skipped.sublist (hsub.map _)
  | none =>
    rw [hta] at hkey
    have hcoherent : Coherent p s := ⟨hs.selfKey, hs.sendChain, hs.receiveChain, hsz⟩
    obtain ⟨hrch, hse, hlen, hidentity⟩ := receiveKey_effect hcoherent hpv hnum hkey
    rw [← hse] at hnew
    obtain ⟨seen, hrmb, hnd, hseenL, -⟩ := remember_seen (hse ▸ hs.seen)
      (hse ▸ hs.bounded.2) hnew
    rw [hrmb]
    refine ⟨⟨hlen, hseenL⟩, { hrch.sized with }, ?_⟩
    have hno := takeSkipped_none.mp hta
    constructor
    · intro huse
      right
      have hids := huse.skipped
      simp only [hidentity] at hids
      exact fun identity hpas hmem => (List.disjoint_of_nodup_append hids) hmem hpas
    rintro (hmine | hfr)
    · exact absurd hmine hno
    refine ⟨⟨hlen, hseenL⟩, hnd, hrch.selfKey, hrch.sendChain, hrch.receiveChain, ?_⟩
    simp only [hidentity]
    refine hs.skipped.append (passedOver_nodup s header) fun identity hmem hpas => ?_
    exact hfr identity hpas hmem

/-- A session starts with nothing in its tables and its counters at zero. -/
structure Initial (p : Primitives K ω) (s : RatchetState K) : Prop where
  selfKey : p.publicOf s.selfPrivate = s.selfPublic
  sendChain : s.hasSend = false → s.sendChain = 0
  receiveChain : s.hasReceive = false → s.receiveChain = 0
  counters : s.sendNumber = 0 ∧ s.receiveNumber = 0 ∧ s.previousSendNumber = 0
  tables : s.skipped = [] ∧ s.seen = []

omit [DecidableEq K] in
theorem Initial.usable (hs : Initial p s) : s.Usable p ∧ s.Sized := by
  obtain ⟨hsf, hsend, hrv, ⟨hsent, hrcv, hpv⟩, hsk, hse⟩ := hs
  have hpos : 0 < counterBound := by decide
  refine ⟨⟨?_, ?_, hsf, hsend, hrv, ?_⟩, ⟨?_, ?_, ?_, ?_⟩⟩
  · simp [Bounded, hsk, hse]
  · simp [hse]
  · simp [hsk]
  · rwa [hsent]
  · rwa [hrcv]
  · rwa [hpv]
  · simp [hsk]

omit [DecidableEq K] in
/-- A chain to send on, where there was none, is a chain under a key of the session's own. -/
theorem sending_usable {random : Option K} (hs : s.Usable p) (hsz : s.Sized)
    (h : s.sending p random = .ok s') : s'.Usable p ∧ s'.Sized ∧ s'.hasSend = true := by
  rcases sending_ok.mp h with ⟨hsend, rfl⟩ | ⟨-, key, shared, -, -, rfl⟩
  · exact ⟨hs, hsz, hsend⟩
  refine ⟨⟨hs.bounded, hs.seen, rfl, fun hno => ?_, hs.receiveChain, hs.skipped⟩, ?_, rfl⟩
  · cases hno
  · exact ⟨by show 0 < counterBound; decide, hsz.receiveNumber, hsz.sendNumber, hsz.skipped⟩

omit [DecidableEq K] in
/-- The state behind a message that was sent. -/
theorem sent_usable (hs : s.Usable p) (hsz : s.Sized) (hsend : s.hasSend = true)
    (hexp : s.sendNumber ≠ counterBound - 1) : (s.sent p).Usable p ∧ (s.sent p).Sized := by
  have hlt : s.sendNumber + 1 < counterBound := by
    have := hsz.sendNumber
    omega
  refine ⟨{ hs with sendChain := fun hno => ?_ }, { hsz with sendNumber := hlt }⟩
  have hno : s.hasSend = false := hno
  rw [hsend] at hno
  cases hno

end

/-! ## Sessions -/

/-- What a device does to one session. -/
inductive Operation where
  | initiate (device peer binding : Bytes) (random : Option Block)
  | accept (device remote initial binding : Bytes)
  | sealMessage (plaintext binding : Bytes) (random : Option Block)
  | openMessage (ciphertext binding : Bytes)

variable (p : Primitives Block Bytes) (held : Option Bytes)

/-- The written state a session holds after an operation, where the operation succeeds. -/
def Operation.next : Operation → Option Bytes → Except Refusal Bytes
  | .initiate device peer binding random, _ => (initiateBytes p device peer binding random).map Prod.fst
  | .accept device remote initial binding, _ => acceptBytes p device remote initial binding
  | .sealMessage plaintext binding random, some raw =>
    (sealPlaintext p (byteFormat p) raw plaintext binding random).map Prod.snd
  | .openMessage ciphertext binding, some raw => (openCiphertext p (byteFormat p) raw ciphertext binding).map Prod.snd
  | _, none => .error .stateUnusable

/-- A failed operation returns no state, and the session keeps the one it has. -/
def sessionStep (operation : Operation) : Option Bytes :=
  match operation.next p held with
  | .error _ => held
  | .ok raw => some raw

/-- Opening a message passes over none whose key is already in the table. -/
def Fresh : Operation → Prop
  | .openMessage ciphertext _ => ∀ raw s header body, held = some raw → decodeRatchetState p raw = .ok s →
      decodeMessage ciphertext = some (header, body) → Unrepeated s header
  | _ => True

/-- The same, read off the session. -/
def freshIn : Operation → Bool
  | .openMessage ciphertext _ =>
    match held.map (decodeRatchetState p), decodeMessage ciphertext with
    | some (.ok s), some (header, _) => Unrepeated s header
    | _, _ => true
  | _ => true

theorem fresh_of_freshIn {p : Primitives Block Bytes} {held : Option Bytes} {operation : Operation}
    (h : freshIn p held operation) : Fresh p held operation := by
  cases operation with
  | openMessage ct binding =>
    intro raw s header body hhe hdec hmsg
    simp only [freshIn, hhe, Option.map_some, hdec, hmsg] at h
    exact of_decide_eq_true h
  | _ => trivial

/-- **A written state that can be continued.** It is the writing of a state, and reading gives that
    state back. -/
def Continuable (raw : Bytes) : Prop :=
  ∃ s : RatchetState Block, encodeRatchetState s = .ok raw ∧ decodeRatchetState p raw = .ok s.sorted

variable {p : Primitives Block Bytes} {s : RatchetState Block} {raw binding : Bytes}

/-- The written states of a run: each is the writing of a state that reading accepts. -/
def Kept (p : Primitives Block Bytes) (raw : Bytes) : Prop :=
  ∃ s : RatchetState Block, s.Usable p ∧ s.Sized ∧ encodeRatchetState s = .ok raw

/-- A state that reading accepts is written so that it does. -/
theorem Kept.read (h : Kept p raw) : ∃ s : RatchetState Block, s.Usable p ∧ s.Sized ∧
    encodeRatchetState s = .ok raw ∧ decodeRatchetState p raw = .ok s.sorted := by
  obtain ⟨s, huse, hsz, henc⟩ := h
  obtain ⟨hwrt, hrd⟩ := decode_encode (p := p) huse.bounded hsz
  rw [if_pos huse] at hrd
  cases hwrt.symm.trans henc
  exact ⟨s, huse, hsz, henc, hrd⟩

theorem Kept.continuable (h : Kept p raw) : Continuable p raw := by
  obtain ⟨s, -, -, henc, hrd⟩ := h.read
  exact ⟨s, henc, hrd⟩

/-- What is read of such a state is usable, and its counters fit. -/
theorem Kept.decode (h : Kept p raw) (hdec : decodeRatchetState p raw = .ok s) : s.Usable p ∧ s.Sized := by
  obtain ⟨s', huse, hsz, -, hrd⟩ := h.read
  cases hrd.symm.trans hdec
  exact ⟨usable_sorted.mpr huse, hsz.sorted⟩

theorem Initial.kept (hs : Initial p s) (h : (byteFormat p).encodeState s = .ok raw) : Kept p raw :=
  ⟨s, hs.usable.1, hs.usable.2, h⟩

theorem initiate_kept {device : PrivateMaterial Block} {peer : PublicMaterial Block} {random : Option Block}
    {self : Block} (h : initiate p (byteFormat p) device peer binding random = .ok (raw, self)) : Kept p raw := by
  unfold initiate at h
  cases random with
  | none => cases h
  | some key =>
    simp only at h
    split at h
    · obtain ⟨raw', henc, heq⟩ := map_ok.mp h
      cases heq
      refine Initial.kept ⟨rfl, ?_, fun _ => rfl, ⟨rfl, rfl, rfl⟩, rfl, rfl⟩ henc
      intro hno
      cases hno
    · cases h

theorem accept_kept {device : PrivateMaterial Block} {remote : PublicMaterial Block} {peer : Block}
    (h : accept p (byteFormat p) device remote peer binding = .ok raw) : Kept p raw := by
  unfold accept at h
  split at h
  · refine Initial.kept ⟨rfl, fun _ => rfl, ?_, ⟨rfl, rfl, rfl⟩, rfl, rfl⟩ h
    intro hno
    cases hno
  · cases h

/-- **Sealing.** -/
theorem seal_kept {raw' pt ct : Bytes} {random : Option Block} (hraw : Kept p raw)
    (h : sealPlaintext p (byteFormat p) raw pt binding random = .ok (ct, raw')) : Kept p raw' := by
  obtain ⟨s, hdec, h⟩ := seq_ok.mp h
  obtain ⟨s', hsending, h⟩ := seq_ok.mp h
  obtain ⟨huse, hsz⟩ := hraw.decode hdec
  obtain ⟨huse, hsz, hsend⟩ := sending_usable huse hsz hsending
  split_ifs at h with hexp
  obtain ⟨next, henc, h⟩ := seq_ok.mp h
  cases h
  obtain ⟨huse, hsz⟩ := sent_usable huse hsz hsend hexp
  exact ⟨s'.sent p, huse, hsz, henc⟩

/-- **Opening.** -/
theorem open_kept {raw' ct pt : Bytes} (hraw : Kept p raw)
    (hfr : Fresh p (some raw) (.openMessage ct binding))
    (h : openCiphertext p (byteFormat p) raw ct binding = .ok (pt, raw')) : Kept p raw' := by
  obtain ⟨s, hdec, h⟩ := seq_ok.mp h
  obtain ⟨huse, hsz⟩ := hraw.decode hdec
  split_ifs at h with hse
  cases hmsg : (byteFormat p).decodeMessage ct with
  | none =>
    rw [hmsg] at h
    cases h
  | some parts =>
    obtain ⟨header, body⟩ := parts
    rw [hmsg] at h
    obtain ⟨⟨opened, s'⟩, hrv, h⟩ := seq_ok.mp h
    obtain ⟨next, henc, h⟩ := seq_ok.mp h
    cases h
    obtain ⟨hpv, hnum⟩ := decodeMessage_sized hmsg
    obtain ⟨hbnd, hsized', huse'⟩ := receive_effect huse hsz hpv hnum hse hrv
    exact ⟨s', huse'.mpr (hfr raw s header body rfl hdec hmsg), hsized', henc⟩

/-- **One operation.** -/
theorem next_kept {held : Option Bytes} {operation : Operation} (hhe : ∀ raw, held = some raw → Kept p raw)
    (hfr : Fresh p held operation) (h : operation.next p held = .ok raw) : Kept p raw := by
  cases operation with
  | initiate device peer binding random =>
    obtain ⟨⟨raw', initial⟩, hinit, rfl⟩ := map_ok.mp h
    obtain ⟨device', -, hinit⟩ := seq_ok.mp hinit
    obtain ⟨peer', -, hinit⟩ := seq_ok.mp hinit
    obtain ⟨⟨raw'', self⟩, hmade, heq⟩ := seq_ok.mp hinit
    cases heq
    exact initiate_kept hmade
  | accept device remote initial binding =>
    obtain ⟨device', -, hacp⟩ := seq_ok.mp h
    obtain ⟨remote', -, hacp⟩ := seq_ok.mp hacp
    obtain ⟨peer, -, hacp⟩ := seq_ok.mp hacp
    exact accept_kept hacp
  | sealMessage pt binding random =>
    cases held with
    | none => cases h
    | some before =>
      obtain ⟨⟨ct, raw'⟩, hsl, rfl⟩ := map_ok.mp h
      exact seal_kept (hhe before rfl) hsl
  | openMessage ct binding =>
    cases held with
    | none => cases h
    | some before =>
      obtain ⟨⟨pt, raw'⟩, hop, rfl⟩ := map_ok.mp h
      exact open_kept (hhe before rfl) hfr hop

/-- **Every session can be continued.** In every run of operations, whatever the peer sends, in
    which no message is passed over while its key is still in the table, the written state is read
    back as it was written. -/
theorem run_usable {operations : List Operation} (hfresh : Along (sessionStep p) (Fresh p) none operations)
    {raw : Bytes} (h : run (sessionStep p) none operations = some raw) : Continuable p raw := by
  have hkt : ∀ raw, run (sessionStep p) none operations = some raw → Kept p raw := by
    refine hfresh.invariant (I := fun held => ∀ raw, held = some raw → Kept p raw) ?_ ?_
    · intro held operation hhe hoperation raw hraw
      unfold sessionStep at hraw
      cases hnx : operation.next p held with
      | error e =>
        rw [hnx] at hraw
        exact hhe raw hraw
      | ok written =>
        rw [hnx] at hraw
        cases hraw
        exact next_kept hhe hoperation hnx
    · intro raw hraw
      cases hraw
  exact (hkt raw h).continuable

/-! ## A peer that returns to an old key -/

/-- Small cryptographic functions under which both sides derive the same keys. -/
def sampleSuite : Primitives Block Bytes where
  publicOf key := key
  ecdh secret publicKey := some (secret ^^^ publicKey)
  deriveInitial secrets binding := (secrets.sum + 1, secrets.sum + BitVec.ofNat 256 binding.length + 2)
  deriveRoot root shared := (root + shared + 1, root ^^^ (shared + 3))
  messageKey chain := chain + 7
  nextChain chain := 2 * chain + 1
  aeadSeal key plaintext _ := bigEndian 16 key.toNat ++ plaintext
  aeadOpen key body _ := if body.take 16 = bigEndian 16 key.toNat then some (body.drop 16) else none
  digest ciphertext := BitVec.ofNat 256 (Canon.ofBigEndian ciphertext)

/-- The material of a device, both sides of it being the same here. -/
def sampleMaterial (identity prekey : Block) : Bytes := [materialVersion] ++ identity.bytes ++ prekey.bytes

/-- A session accepted from a peer with the public key 100. -/
def sampleAccept : Operation :=
  .accept (sampleMaterial 11 12) (sampleMaterial 21 22) ([materialVersion] ++ (100 : Block).bytes) []

/-- A message made with the key that the state and its header lead to; the peer has the same
    secrets. -/
def crafted (held : Option Bytes) (header : Header Block) : Operation :=
  match held with
  | none => .openMessage [] []
  | some raw =>
    match decodeRatchetState sampleSuite raw with
    | .error _ => .openMessage [] []
    | .ok s =>
      match s.keyFor sampleSuite header with
      | .error _ => .openMessage [] []
      | .ok (key, _) => .openMessage (encodeMessage header (sampleSuite.aeadSeal key [1] (header, []))) []

/-- The peer sends messages under these headers, one after another. -/
def craftedRun (held : Option Bytes) : List (Header Block) → List Operation
  | [] => []
  | header :: headers =>
    crafted held header :: craftedRun (sessionStep sampleSuite held (crafted held header)) headers

def sampleRun (headers : List (Header Block)) : List Operation :=
  sampleAccept :: craftedRun (sessionStep sampleSuite none sampleAccept) headers

/-- Message 1 under key 100, message 0 under key 200, and message 0 under key 100, which was passed
    over. -/
def orderly : List (Header Block) := [⟨100, 0, 1⟩, ⟨200, 2, 0⟩, ⟨100, 0, 0⟩]

/-- Message 1 under key 100 and message 0 under key 200; then the peer is back at key 100. -/
def returning : List (Header Block) := [⟨100, 0, 1⟩, ⟨200, 2, 0⟩, ⟨100, 1, 1⟩]

/-- Three messages are opened, and the session can be continued. -/
theorem orderly_usable : ∃ raw, run (sessionStep sampleSuite) none (sampleRun orderly) = some raw
    ∧ Continuable sampleSuite raw := by
  have hchk : Along (sessionStep sampleSuite) (fun held operation => freshIn sampleSuite held operation) none
      (sampleRun orderly) := by
    decide +kernel
  have hfr := hchk.mono fun _ _ h => fresh_of_freshIn h
  have hhe : (run (sessionStep sampleSuite) none (sampleRun orderly)).isSome := by decide +kernel
  obtain ⟨raw, hraw⟩ := Option.isSome_iff_exists.mp hhe
  exact ⟨raw, hraw, run_usable hfr hraw⟩

/-- **A session is lost.** The peer is keyed correctly and every message opens, but the state behind
    the last is refused by whatever comes next. -/
theorem returning_unusable : ∃ raw, run (sessionStep sampleSuite) none (sampleRun returning) = some raw
    ∧ decodeRatchetState sampleSuite raw = .error .stateUnusable := by
  have hlost : (run (sessionStep sampleSuite) none (sampleRun returning)).map (decodeRatchetState sampleSuite) =
      some (.error .stateUnusable) := by
    decide +kernel
  exact Option.map_eq_some_iff.mp hlost

end Messenger.E2ee
