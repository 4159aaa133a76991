import Mathlib.Data.BitVec
import Messenger.Canon.Reader
import Messenger.E2ee.Ratchet

/-!
# `E2ee.State` — session states and messages as bytes

The concrete format of the default suite. A 32-byte array is a `Block`: as a number, its bytes are
its 32 big-endian digits and the order of arrays is the order of numbers.

`encodeRatchetState` writes a state behind a magic and a version, with its tables behind 16-bit
counts; `decodeRatchetState` reads it back and checks what a state must satisfy. Each reader is
exact (`Lib.Exact`) for what is written. The round trip is `decode_encode`: what is read is the
state that was written, with its skipped keys in order, and it is accepted exactly when it is
usable.
-/

namespace Messenger.E2ee

open Lib
open Canon (bigEndian readWord)

/-! ## Blocks and words -/

/-- A 32-byte array. -/
abbrev Block := BitVec 256

variable {K : Type} (hasSend hasReceive : Bool) (b : Block)

def Block.bytes : Bytes := bigEndian 32 b.toNat

theorem Block.bytes_length : b.bytes.length = 32 := Canon.bigEndian_length 32 _

/-- A reader of one of the suite's forms. It fails in one way, and its caller names the refusal. -/
abbrev Reading (α : Type) := Decoder UInt8 Unit α

def readByte : Reading UInt8 := do
  let word ← readWord 1 ()
  pure (UInt8.ofNat word)

def readBlock : Reading Block := do
  let word ← readWord 32 ()
  pure (BitVec.ofNat 256 word)

/-- The fixed bytes at the front of a form. -/
def readTag (tag : Bytes) : Reading Unit := do
  let read ← Decoder.take tag.length ()
  Decoder.guard (read = tag) ()

/-- A table behind its 16-bit count. -/
def readTable {α : Type} (most : Nat) (read : Reading α) : Reading (List α) := do
  let count ← readWord 2 ()
  Decoder.guard (count ≤ most) ()
  read.many count

/-! ## States -/

def stateMagic : Bytes := [0x54, 0x53, 0x45, 0x32]
def stateVersion : UInt8 := 1
def maxSessionStateBytes : Nat := 256 * 2 ^ 10

/-- The two presence bits. -/
def flags : UInt8 := (if hasSend then 1 else 0) ||| (if hasReceive then 2 else 0)

def SkippedKey.bytes (k : SkippedKey Block) : Bytes := k.publicKey.bytes ++ (bigEndian 4 k.number ++ k.key.bytes)

/-- A table behind its count. -/
def tableBytes {α : Type} (write : α → Bytes) (entries : List α) : Bytes :=
  bigEndian 2 entries.length ++ entries.flatMap write

/-- The bytes of a state, in the order of its fields. -/
def RatchetState.bytes (s : RatchetState Block) : Bytes :=
  stateMagic ++ ([stateVersion] ++ (s.root.bytes ++ (s.selfPrivate.bytes ++
    (s.selfPublic.bytes ++ (s.peerPublic.bytes ++ (s.sendChain.bytes ++ (s.receiveChain.bytes ++
    ([flags s.hasSend s.hasReceive] ++ (bigEndian 4 s.sendNumber ++ (bigEndian 4 s.receiveNumber ++
    (bigEndian 4 s.previousSendNumber ++
    (tableBytes SkippedKey.bytes s.skipped ++ tableBytes Block.bytes s.seen))))))))))))

variable (p : Primitives Block Bytes) (raw : Bytes)

/-- The bounds of a written state. -/
def validateState : Except Refusal Unit :=
  if raw.length = 0 then .error .stateUnusable
  else if maxSessionStateBytes < raw.length then .error (.other "session state exceeds its bound")
  else .ok ()

def encodeRatchetState (s : RatchetState Block) : Except Refusal Bytes :=
  if ¬s.Bounded then .error .stateUnusable
  else do
    validateState s.sorted.bytes
    pure s.sorted.bytes

/-- The two presence bits; no other bit is set. -/
def readFlags : Reading (Bool × Bool) := do
  let flags ← readByte
  Decoder.guard (flags &&& ~~~3 = 0) ()
  pure (flags &&& 1 ≠ 0, flags &&& 2 ≠ 0)

def readSkipped : Reading (SkippedKey Block) := do
  let publicKey ← readBlock
  let number ← readWord 4 ()
  let key ← readBlock
  pure ⟨publicKey, number, key⟩

def readState : Reading (RatchetState Block) := do
  readTag stateMagic
  readTag [stateVersion]
  let root ← readBlock
  let selfPrivate ← readBlock
  let selfPublic ← readBlock
  let peerPublic ← readBlock
  let sendChain ← readBlock
  let receiveChain ← readBlock
  let present ← readFlags
  let sendNumber ← readWord 4 ()
  let receiveNumber ← readWord 4 ()
  let previousSendNumber ← readWord 4 ()
  let skipped ← readTable maxSkippedKeys readSkipped
  let seen ← readTable maxSeenMessages readBlock
  pure {
    root, selfPrivate, selfPublic, peerPublic, sendChain, receiveChain
    hasSend := present.1
    hasReceive := present.2
    sendNumber, receiveNumber, previousSendNumber, skipped, seen }

/-- Read a state back, and check it. -/
def decodeRatchetState : Except Refusal (RatchetState Block) := do
  validateState raw
  match readState.all () raw with
  | .error _ => .error .stateUnusable
  | .ok s => if s.Usable p then .ok s else .error .stateUnusable

/-! ## Messages -/

def headerVersion : UInt8 := 1
def headerBytes : Nat := 1 + 32 + 4 + 4

def Header.bytes (header : Header Block) : Bytes :=
  [headerVersion] ++ (header.publicKey.bytes ++ (bigEndian 4 header.previousNumber ++ bigEndian 4 header.number))

def encodeMessage (header : Header Block) (body : Bytes) : Bytes := header.bytes ++ body

def readHeader : Reading (Header Block) := do
  readTag [headerVersion]
  let publicKey ← readBlock
  let previousNumber ← readWord 4 ()
  let number ← readWord 4 ()
  pure ⟨publicKey, previousNumber, number⟩

/-- A header and a body that has room for a tag. -/
def decodeMessage (ciphertext : Bytes) : Option (Header Block × Bytes) :=
  if ciphertext.length < headerBytes + 16 then none else (readHeader ciphertext).toOption

/-- The suite's own format. -/
def byteFormat : Format Block Bytes Bytes where
  encodeState := encodeRatchetState
  decodeState := decodeRatchetState p
  encodeMessage := encodeMessage
  decodeMessage := decodeMessage

/-! ## Prekey material -/

def materialVersion : UInt8 := 1

/-- A version and two keys. -/
def readMaterial : Reading (Block × Block) := do
  readTag [materialVersion]
  let identity ← readBlock
  let prekey ← readBlock
  pure (identity, prekey)

/-- A version and one key. -/
def readInitial : Reading Block := do
  readTag [materialVersion]
  readBlock

/-- The whole of a text in one of these forms. -/
def parseWith {α : Type} (read : Reading α) (text : String) (raw : Bytes) : Except Refusal α :=
  (read.all () raw).mapError fun _ => .other text

def parsePublicMaterial : Except Refusal (PublicMaterial Block) :=
  (parseWith readMaterial "prekey public material is unusable" raw).map fun keys => ⟨keys.1, keys.2⟩

def parsePrivateMaterial : Except Refusal (PrivateMaterial Block) :=
  (parseWith readMaterial "prekey private material is unusable" raw).map fun keys => ⟨keys.1, keys.2⟩

def parseInitialMessage : Bytes → Except Refusal Block := parseWith readInitial "initial message is unusable"

/-- `Initiate` on bytes; the initial message is the fresh public key behind the version. -/
def initiateBytes (device peer binding : Bytes) (random : Option Block) : Except Refusal (Bytes × Bytes) := do
  let device ← parsePrivateMaterial device
  let peer ← parsePublicMaterial peer
  let (raw, self) ← initiate p (byteFormat p) device peer binding random
  pure (raw, [materialVersion] ++ self.bytes)

/-- `Accept` on bytes. -/
def acceptBytes (device remote initial binding : Bytes) : Except Refusal Bytes := do
  let device ← parsePrivateMaterial device
  let remote ← parsePublicMaterial remote
  let peer ← parseInitialMessage initial
  accept p (byteFormat p) device remote peer binding

/-! ## The round trip -/

variable {n : Nat} {s : RatchetState Block}

theorem byte_exact : Exact readByte (fun byte => [byte]) fun _ => True := by
  have hword : Exact readByte (fun byte => bigEndian 1 byte.toNat) fun _ => True :=
    Canon.machineWord_exact UInt8.toNat_lt (fun _ h => UInt8.toNat_ofNat_of_lt' h) fun _ => UInt8.ofNat_toNat
  simpa [bigEndian] using hword

theorem block_exact : Exact readBlock Block.bytes fun _ => True :=
  Canon.machineWord_exact BitVec.isLt (fun _ h => BitVec.toNat_ofNat _ _ ▸ Nat.mod_eq_of_lt h) fun b => by
    rw [BitVec.ofNat_toNat, BitVec.setWidth_eq]

theorem tag_exact (tag : Bytes) : Exact (readTag tag) (fun _ => tag) fun _ => True := by
  intro input _ rest
  rw [readTag, bind_ok]
  constructor
  · rintro ⟨read, mid, htaken, hguard⟩
    obtain ⟨-, rfl⟩ := take_ok.mp htaken
    obtain ⟨rfl, rfl⟩ := guard_ok.mp hguard
    exact ⟨trivial, rfl⟩
  · rintro ⟨-, rfl⟩
    exact ⟨tag, rest, take_ok.mpr ⟨rfl, rfl⟩, guard_ok.mpr ⟨rfl, rfl⟩⟩

theorem table_exact {α : Type} {read : Reading α} {write : α → Bytes} {Fits : α → Prop} {most : Nat}
    (hmost : most < 256 ^ 2) (hread : Exact read write Fits) :
    Exact (readTable most read) (tableBytes write) fun entries => entries.length ≤ most ∧ ∀ a ∈ entries, Fits a := by
  intro input entries rest
  rw [readTable, bind_ok]
  constructor
  · rintro ⟨count, mid, hword, htable⟩
    obtain ⟨-, rfl⟩ := (Canon.word_exact 2 _ _ _).mp hword
    obtain ⟨_, mid', hguard, hmany⟩ := bind_ok.mp htable
    obtain ⟨hle, rfl⟩ := guard_ok.mp hguard
    obtain ⟨⟨rfl, hall⟩, rfl⟩ := (hread.many _ _ _ _).mp hmany
    exact ⟨⟨hle, hall⟩, by rw [tableBytes, List.append_assoc]⟩
  · rintro ⟨⟨hle, hall⟩, rfl⟩
    refine ⟨entries.length, entries.flatMap write ++ rest, (Canon.word_exact 2 _ _ _).mpr ⟨by omega, ?_⟩,
      bind_ok.mpr ⟨(), _, guard_ok.mpr ⟨hle, rfl⟩, (hread.many _ _ _ _).mpr ⟨⟨rfl, hall⟩, rfl⟩⟩⟩
    rw [tableBytes, List.append_assoc]

/-- The presence bits say which chains there are, and nothing else is set. -/
theorem flags_bits : flags hasSend hasReceive &&& ~~~3 = 0 ∧ decide (flags hasSend hasReceive &&& 1 ≠ 0) = hasSend ∧
    decide (flags hasSend hasReceive &&& 2 ≠ 0) = hasReceive := by
  cases hasSend <;> cases hasReceive <;> decide

/-- A byte with no other bit set is its presence bits. -/
theorem flags_of_bits {byte : UInt8} (h : byte &&& ~~~3 = 0) :
    flags (decide (byte &&& 1 ≠ 0)) (decide (byte &&& 2 ≠ 0)) = byte := by
  have hall : ∀ n < 256, UInt8.ofNat n &&& ~~~3 = 0 →
      flags (decide (UInt8.ofNat n &&& 1 ≠ 0)) (decide (UInt8.ofNat n &&& 2 ≠ 0)) = UInt8.ofNat n := by
    decide +kernel
  have hbyte := hall byte.toNat byte.toNat_lt
  rw [UInt8.ofNat_toNat] at hbyte
  exact hbyte h

theorem flags_exact : Exact readFlags (fun present => [flags present.1 present.2]) fun _ => True := by
  intro input present rest
  rw [readFlags, bind_ok]
  constructor
  · rintro ⟨byte, mid, hbyte, hbits⟩
    obtain ⟨-, rfl⟩ := (byte_exact _ _ _).mp hbyte
    obtain ⟨_, mid', hguard, hpure⟩ := bind_ok.mp hbits
    obtain ⟨honly, rfl⟩ := guard_ok.mp hguard
    obtain ⟨rfl, rfl⟩ := pure_ok.mp hpure
    refine ⟨trivial, ?_⟩
    show [byte] ++ rest = [flags (decide (byte &&& 1 ≠ 0)) (decide (byte &&& 2 ≠ 0))] ++ rest
    rw [flags_of_bits honly]
  · rintro ⟨-, rfl⟩
    obtain ⟨honly, hsend, hreceive⟩ := flags_bits present.1 present.2
    refine ⟨_, rest, (byte_exact _ _ _).mpr ⟨trivial, rfl⟩, bind_ok.mpr ⟨(), rest, guard_ok.mpr ⟨honly, rfl⟩, ?_⟩⟩
    rw [pure_ok, hsend, hreceive]
    exact ⟨rfl, rfl⟩

theorem skipped_exact : Exact readSkipped SkippedKey.bytes (·.number < counterBound) := by
  refine ExactWhere.record (.field SkippedKey.publicKey block_exact <|
    .field SkippedKey.number (Canon.word_exact 4) <| .field SkippedKey.key block_exact .done)
    (fun k _ => ?_) fun k => ?_
  · simp [SkippedKey.bytes]
  · simp [counterBound]

/-- A header is read exactly when its counters fit their words. -/
theorem header_exact : Exact readHeader Header.bytes
    fun header => header.previousNumber < counterBound ∧ header.number < counterBound := by
  refine ExactWhere.record (.field (fun _ => ()) (tag_exact _) <| .field Header.publicKey block_exact <|
    .field Header.previousNumber (Canon.word_exact 4) <| .field Header.number (Canon.word_exact 4) .done)
    (fun header _ => ?_) fun header => ?_
  · simp [Header.bytes]
  · simp [counterBound]

/-- The counters of a header fit their words, whoever wrote it. -/
theorem decodeMessage_sized {ct body : Bytes} {header : Header Block}
    (h : decodeMessage ct = some (header, body)) :
    header.previousNumber < counterBound ∧ header.number < counterBound := by
  unfold decodeMessage at h
  split_ifs at h
  cases hread : readHeader ct with
  | error _ =>
    rw [hread] at h
    cases h
  | ok read =>
    rw [hread] at h
    cases h
    exact ((header_exact _ _ _).mp hread).1

/-- The counters of a state fit their words. -/
structure RatchetState.Sized (s : RatchetState K) : Prop where
  sendNumber : s.sendNumber < counterBound
  receiveNumber : s.receiveNumber < counterBound
  previousSendNumber : s.previousSendNumber < counterBound
  skipped : ∀ k ∈ s.skipped, k.number < counterBound

/-- **A state is read exactly as it was written**, within its bounds. -/
theorem state_exact : Exact readState RatchetState.bytes fun s => s.Bounded ∧ s.Sized := by
  refine ExactWhere.record (.field (fun _ => ()) (tag_exact _) <| .field (fun _ => ()) (tag_exact _) <|
    .field RatchetState.root block_exact <| .field RatchetState.selfPrivate block_exact <|
    .field RatchetState.selfPublic block_exact <| .field RatchetState.peerPublic block_exact <|
    .field RatchetState.sendChain block_exact <| .field RatchetState.receiveChain block_exact <|
    .field (fun s => (s.hasSend, s.hasReceive)) flags_exact <|
    .field RatchetState.sendNumber (Canon.word_exact 4) <| .field RatchetState.receiveNumber (Canon.word_exact 4) <|
    .field RatchetState.previousSendNumber (Canon.word_exact 4) <|
    .field RatchetState.skipped (table_exact (by decide) skipped_exact) <|
    .field RatchetState.seen (table_exact (by decide) block_exact) <| .done ?_) (fun s _ => ?_) fun s => ?_
  · rintro ⟨⟩
    simp [and_assoc, Prod.ext_iff]
  · simp [RatchetState.bytes]
  · simp only [true_and]
    constructor
    · rintro ⟨⟨hskipped, hseen⟩, hsend, hreceive, hprevious, hnumbers⟩
      exact ⟨hsend, hreceive, hprevious, ⟨hskipped, hnumbers⟩, ⟨hseen, fun _ _ => trivial⟩, trivial⟩
    · rintro ⟨hsend, hreceive, hprevious, ⟨hskipped, hnumbers⟩, ⟨hseen, -⟩, -⟩
      exact ⟨⟨hskipped, hseen⟩, hsend, hreceive, hprevious, hnumbers⟩

/-- A table of entries of one length. -/
theorem table_length {α : Type} {write : α → Bytes} (h : ∀ a, (write a).length = n) (xs : List α) :
    (xs.flatMap write).length = xs.length * n := by
  simp [List.length_flatMap, h]

theorem SkippedKey.bytes_length (k : SkippedKey Block) : k.bytes.length = 68 := by
  simp only [SkippedKey.bytes, List.length_append, Block.bytes_length, Canon.bigEndian_length]

theorem RatchetState.bytes_length (s : RatchetState Block) :
    s.bytes.length = 214 + s.skipped.length * 68 + s.seen.length * 32 := by
  simp only [RatchetState.bytes, List.length_append, Block.bytes_length, Canon.bigEndian_length,
    tableBytes, table_length SkippedKey.bytes_length, table_length Block.bytes_length, stateMagic,
    List.length_cons, List.length_nil]
  omega

/-- A state within its bounds is within the bound of its bytes. -/
theorem validateState_bytes (h : s.Bounded) : validateState s.bytes = .ok () := by
  obtain ⟨hsk, hse⟩ := h
  unfold maxSkippedKeys at hsk
  unfold maxSeenMessages at hse
  have hlen := s.bytes_length
  unfold validateState maxSessionStateBytes
  rw [if_neg (by omega), if_neg (by omega)]

/-- The order of the skipped keys does not matter to what reading checks. -/
theorem RatchetState.Usable.perm {K ω : Type} [Zero K] {p : Primitives K ω} {s : RatchetState K} (h : s.Usable p)
    {skipped : List (SkippedKey K)} (hpm : skipped.Perm s.skipped) : { s with skipped := skipped }.Usable p where
  bounded := ⟨hpm.length_eq.trans_le h.bounded.1, h.bounded.2⟩
  seen := h.seen
  selfKey := h.selfKey
  sendChain := h.sendChain
  receiveChain := h.receiveChain
  skipped := (hpm.map _).nodup_iff.mpr h.skipped

theorem RatchetState.Sized.perm {s : RatchetState K} (h : s.Sized) {skipped : List (SkippedKey K)}
    (hpm : skipped.Perm s.skipped) : { s with skipped := skipped }.Sized where
  sendNumber := h.sendNumber
  receiveNumber := h.receiveNumber
  previousSendNumber := h.previousSendNumber
  skipped k hk := h.skipped k (hpm.mem_iff.mp hk)

section
variable {K : Type} [LT K] [DecidableLT K] [DecidableEq K] {s : RatchetState K}

/-- Writing orders the skipped keys and changes nothing else. -/
theorem RatchetState.sorted_perm (s : RatchetState K) : s.sorted.skipped.Perm s.skipped :=
  List.perm_insertionSort _ _

theorem RatchetState.Bounded.sorted (h : s.Bounded) : s.sorted.Bounded :=
  ⟨(s.sorted_perm.length_eq).trans_le h.1, h.2⟩

theorem RatchetState.Sized.sorted (h : s.Sized) : s.sorted.Sized := h.perm s.sorted_perm

theorem RatchetState.usable_sorted [Zero K] {ω : Type} {p : Primitives K ω} : s.sorted.Usable p ↔ s.Usable p :=
  ⟨fun h => h.perm (s := s.sorted) s.sorted_perm.symm, fun h => h.perm s.sorted_perm⟩

end

/-- **The round trip of a state.** Within its bounds a state is written, and reading gives it back
    in order, or refuses it as unusable when it is not usable. -/
theorem decode_encode {p : Primitives Block Bytes} (hbnd : s.Bounded) (hsz : s.Sized) :
    encodeRatchetState s = .ok s.sorted.bytes
      ∧ decodeRatchetState p s.sorted.bytes = if s.Usable p then .ok s.sorted else .error .stateUnusable := by
  have hval := validateState_bytes hbnd.sorted
  constructor
  · unfold encodeRatchetState
    rw [if_neg (not_not.mpr hbnd), hval]
    rfl
  have hread : readState.all () s.sorted.bytes = .ok s.sorted :=
    all_ok.mpr ((state_exact _ _ _).mpr ⟨⟨hbnd.sorted, hsz.sorted⟩, (List.append_nil _).symm⟩)
  unfold decodeRatchetState
  simp only [hval, hread]
  exact if_congr RatchetState.usable_sorted rfl rfl

/-- **The round trip of a message.** -/
theorem decode_message {header : Header Block} {body : Bytes} (hpv : header.previousNumber < counterBound)
    (hnum : header.number < counterBound) (hbo : 16 ≤ body.length) :
    decodeMessage (encodeMessage header body) = some (header, body) := by
  have hread : readHeader (encodeMessage header body) = .ok (header, body) :=
    (header_exact _ _ _).mpr ⟨⟨hpv, hnum⟩, rfl⟩
  have hlen : (encodeMessage header body).length = headerBytes + body.length := by
    simp only [encodeMessage, Header.bytes, List.length_append, List.length_singleton,
      Block.bytes_length, Canon.bigEndian_length, headerBytes]
  unfold decodeMessage
  rw [if_neg (by omega), hread]
  rfl

end Messenger.E2ee
