import Messenger.Canon
import Messenger.Lib.Exact

/-!
# `Canon.Reader` — reading a canonical preimage back

The reader of `internal/canon/reader.go`: every read is checked against the end of the preimage and
against a bound, the first failure is the answer, and bytes left over are refused.

A string of the source is a sequence of bytes that need not be UTF-8, so texts are `Bytes` here, and
a text is read only if it is valid. Each reader is exact (`Lib.Exact`) for the appender of the same
name.
-/

namespace Messenger.Canon

open Lib

/-! ## Texts as bytes -/

/-- `utf8.Valid` -/
def validUTF8 (raw : Bytes) : Bool := raw.toByteArray.validateUTF8

/-- Bytes below 128 are valid. -/
theorem validUTF8_ascii {raw : Bytes} (h : ∀ byte ∈ raw, byte < 128) : validUTF8 raw :=
  ByteArray.validateUTF8_eq_true_iff.mpr (.intro _ (utf8Encode_ascii h).symm)

/-- A digit of a byte as a byte. -/
def byteOf (c : Char) : UInt8 := UInt8.ofNat c.toNat

/-- `hex.EncodeToString` -/
def hexText (raw : Bytes) : Bytes := (raw.flatMap hexPair).map byteOf

/-- A digit of a lowercase hash. -/
def hexByte (byte : UInt8) : Bool := (48 ≤ byte && byte ≤ 57) || (97 ≤ byte && byte ≤ 102)

/-- A byte of a range below 128. -/
theorem ascii_of_range {lo hi byte : UInt8} (hhi : hi < 128) (h : lo ≤ byte && byte ≤ hi) : byte < 128 :=
  UInt8.lt_of_le_of_lt (of_decide_eq_true (Bool.and_eq_true _ _ ▸ h).2) hhi

theorem hexByte_ascii {byte : UInt8} (h : hexByte byte) : byte < 128 := by
  rcases Bool.or_eq_true _ _ ▸ h with hdg | hletter
  · exact ascii_of_range (by decide) hdg
  · exact ascii_of_range (by decide) hletter

/-- `HashPattern` -/
def hashText (text : Bytes) : Bool := text.length == 64 && text.all hexByte

/-- A tag and 64 lowercase digits. -/
def taggedBytes (tag text : Bytes) : Bool := tag.isPrefixOf text && hashText (text.drop tag.length)

/-- `ValidDigest` -/
def validDigestText (text : Bytes) : Bool :=
  taggedBytes (Field.utf8 "sha256:") text && (text.drop 7).any (· ≠ 48)

/-! ## Appenders -/

namespace Write

/-- `Text` and `Bytes` append the same: a length and the bytes. -/
def bytes (value : Bytes) : Bytes := bigEndian 4 value.length ++ value

def text (value : Bytes) : Bytes := bytes value

def uint32 (value : UInt32) : Bytes := bigEndian 4 value.toNat

def uint64 (value : UInt64) : Bytes := bigEndian 8 value.toNat

/-- `MustHash32` appends the bytes of a hash. It is only reached with a hash that was checked, and
    panics on another. -/
def hash32 (value : Bytes) : Bytes := bytes ((hexRead value).getD [])

/-- A repeated field: its length, and each of its values. -/
def blocks (values : List Bytes) : Bytes := bigEndian 4 values.length ++ values.flatMap bytes

end Write

/-! ## Readers -/

/-- A big-endian word, unless the input is too short for it. -/
def readWord {ε : Type} (width : Nat) (short : ε) : Decoder UInt8 ε Nat := do
  let raw ← Decoder.take width short
  pure (ofBigEndian raw)

/-- A reader of a preimage. -/
abbrev Read (α : Type) := Decoder UInt8 Failure α

def pastEnd : Failure := .other "canonical value runs past the end of its preimage"

namespace Read

def word (width : Nat) : Read Nat := readWord width pastEnd

def uint32 : Read UInt32 := do
  let n ← word 4
  pure (UInt32.ofNat n)

def uint64 : Read UInt64 := do
  let n ← word 8
  pure (UInt64.ofNat n)

def bytes (maximum : Nat) : Read Bytes := do
  let length ← word 4
  Decoder.guard (length ≤ maximum) (.other "canonical value exceeds its bound")
  Decoder.take length pastEnd

def text (maximum : Nat) : Read Bytes := do
  let raw ← bytes maximum
  Decoder.guard (validUTF8 raw) (.other "canonical text is not valid UTF-8")
  pure raw

def hash32 : Read Bytes := do
  let raw ← bytes 32
  Decoder.guard (raw.length = 32) (.other "canonical hash is not 32 bytes")
  pure (hexText raw)

def count (maximum : Nat) : Read Nat := do
  let count ← word 4
  Decoder.guard (count ≤ maximum) (.other "canonical repeated field exceeds its bound")
  pure count

/-- A repeated field of blocks. -/
def blocks (most maximum : Nat) : Read (List Bytes) := do
  let count ← count most
  (bytes maximum).many count

end Read

/-- What `NewReader` and `Done` frame: a domain before what is read, and nothing behind it. -/
def readPreimage {α : Type} (domain : Bytes) (read : Read α) (preimage : Bytes) : Except Failure α :=
  if domain.isPrefixOf preimage then
    read.all (.other "canonical preimage has trailing bytes") (preimage.drop domain.length)
  else .error (.other "preimage is not in the expected domain")

/-! ## Exactness -/

/-- The bytes of a number whose digits they are. -/
theorem bigEndian_ofBigEndian (raw : Bytes) : bigEndian raw.length (ofBigEndian raw) = raw := by
  have value : ∀ (raw : Bytes) (high : Nat), raw.foldl (fun n byte => 256 * n + byte.toNat) high =
      high * 256 ^ raw.length + ofBigEndian raw := by
    intro raw
    induction raw with
    | nil => intro high; simp [ofBigEndian]
    | cons byte raw ih =>
      intro high
      rw [ofBigEndian, List.foldl_cons, List.foldl_cons, ih, ih, List.length_cons, Nat.pow_succ]
      ring
  -- a higher digit does not show in the low ones
  have general : ∀ (raw : Bytes) (high : Nat),
      bigEndian raw.length (raw.foldl (fun n byte => 256 * n + byte.toNat) high) = raw := by
    intro raw
    induction raw with
    | nil => intro high; rfl
    | cons byte raw ih =>
      intro high
      rw [List.foldl_cons, List.length_cons, bigEndian, ih]
      congr 1
      have hby : byte.toNat < 256 := byte.toNat_lt
      have hlow := ofBigEndian_lt raw
      rw [value, Nat.mul_comm, Nat.mul_add_div (by positivity), Nat.div_eq_of_lt hlow, Nat.add_zero]
      apply UInt8.toNat_inj.mp
      rw [UInt8.toNat_ofNat']
      omega
  exact general raw 0

section
variable {ε : Type} {short : ε}

theorem word_exact (width : Nat) : Exact (readWord width short) (bigEndian width) (· < 256 ^ width) := by
  intro input n rest
  rw [readWord, bind_ok]
  constructor
  · rintro ⟨raw, mid, hta, hpu⟩
    obtain ⟨hlen, rfl⟩ := take_ok.mp hta
    obtain ⟨rfl, rfl⟩ := pure_ok.mp hpu
    rw [← hlen]
    exact ⟨ofBigEndian_lt raw, by rw [bigEndian_ofBigEndian]⟩
  rintro ⟨hlt, rfl⟩
  refine ⟨bigEndian width n, rest, take_ok.mpr ⟨bigEndian_length width n, rfl⟩, pure_ok.mpr ⟨?_, rfl⟩⟩
  rw [ofBigEndian_bigEndian, Nat.mod_eq_of_lt hlt]

/-- A machine word is a word of its width. -/
theorem machineWord_exact {α : Type} {width : Nat} {ofNat : Nat → α} {toNat : α → Nat}
    (hlt : ∀ a, toNat a < 256 ^ width) (hof : ∀ n < 256 ^ width, toNat (ofNat n) = n) (hto : ∀ a, ofNat (toNat a) = a) :
    Exact (do let n ← readWord width short; pure (ofNat n)) (fun a => bigEndian width (toNat a)) fun _ => True := by
  intro input a rest
  rw [bind_ok]
  constructor
  · rintro ⟨n, mid, hword, hpu⟩
    obtain ⟨hn, rfl⟩ := (word_exact width _ _ _).mp hword
    obtain ⟨rfl, rfl⟩ := pure_ok.mp hpu
    refine ⟨trivial, ?_⟩
    show bigEndian width n ++ rest = bigEndian width (toNat (ofNat n)) ++ rest
    rw [hof n hn]
  · rintro ⟨-, rfl⟩
    exact ⟨toNat a, rest, (word_exact width _ _ _).mpr ⟨hlt a, rfl⟩, pure_ok.mpr ⟨(hto a).symm, rfl⟩⟩

end

theorem uint32_exact : Exact Read.uint32 Write.uint32 fun _ => True :=
  machineWord_exact UInt32.toNat_lt (fun _ h => UInt32.toNat_ofNat_of_lt' h) fun _ => UInt32.ofNat_toNat

theorem uint64_exact : Exact Read.uint64 Write.uint64 fun _ => True :=
  machineWord_exact UInt64.toNat_lt (fun _ h => UInt64.toNat_ofNat_of_lt' h) fun _ => UInt64.ofNat_toNat

theorem bytes_exact {maximum : Nat} (h : maximum < 2 ^ 32) :
    Exact (Read.bytes maximum) Write.bytes (·.length ≤ maximum) := by
  intro input value rest
  rw [Read.bytes, bind_ok]
  constructor
  · rintro ⟨length, mid, hword, hre⟩
    obtain ⟨-, rfl⟩ := (word_exact 4 _ _ _).mp hword
    obtain ⟨_, mid', hguard, hta⟩ := bind_ok.mp hre
    obtain ⟨hle, rfl⟩ := guard_ok.mp hguard
    obtain ⟨rfl, rfl⟩ := take_ok.mp hta
    exact ⟨hle, by rw [Write.bytes, List.append_assoc]⟩
  rintro ⟨hle, rfl⟩
  have hlt : value.length < 2 ^ 32 := lt_of_le_of_lt hle h
  refine ⟨value.length, value ++ rest, (word_exact 4 _ _ _).mpr ⟨hlt, ?_⟩, bind_ok.mpr ?_⟩
  · rw [Write.bytes, List.append_assoc]
  · exact ⟨(), _, guard_ok.mpr ⟨hle, rfl⟩, take_ok.mpr ⟨rfl, rfl⟩⟩

/-- A text a reader with this bound accepts. -/
def FitsText (maximum : Nat) (value : Bytes) : Prop := value.length ≤ maximum ∧ validUTF8 value

theorem text_exact {maximum : Nat} (h : maximum < 2 ^ 32) :
    Exact (Read.text maximum) Write.text (FitsText maximum) := by
  intro input value rest
  rw [Read.text, bind_ok]
  constructor
  · rintro ⟨raw, mid, hrd, hre⟩
    obtain ⟨hle, rfl⟩ := (bytes_exact h _ _ _).mp hrd
    obtain ⟨_, mid', hguard, hpu⟩ := bind_ok.mp hre
    obtain ⟨hval, rfl⟩ := guard_ok.mp hguard
    obtain ⟨rfl, rfl⟩ := pure_ok.mp hpu
    exact ⟨⟨hle, hval⟩, rfl⟩
  rintro ⟨⟨hle, hval⟩, rfl⟩
  refine ⟨value, rest, (bytes_exact h _ _ _).mpr ⟨hle, rfl⟩, bind_ok.mpr ?_⟩
  exact ⟨(), rest, guard_ok.mpr ⟨hval, rfl⟩, pure_ok.mpr ⟨rfl, rfl⟩⟩

/-- The text of 32 bytes. -/
def IsHash (text : Bytes) : Prop := ∃ raw, raw.length = 32 ∧ text = hexText raw

theorem hexRead_hexText (raw : Bytes) : hexRead (hexText raw) = some raw := by
  have hdg : ∀ c ∈ raw.flatMap hexPair, Char.ofNat (byteOf c).toNat = c := forall_hexPairs raw (by decide)
  have hback : (raw.flatMap hexPair).map ((fun byte => Char.ofNat byte.toNat) ∘ byteOf) = raw.flatMap hexPair :=
    (List.map_congr_left (g := id) hdg).trans (List.map_id _)
  rw [hexRead, hexText, List.map_map, hback, hexBytes_pairs]

/-- A checked hash is the text of 32 bytes. -/
theorem hashText_isHash {text : Bytes} (h : hashText text) : IsHash text := by
  have hdg : ∀ byte : UInt8, hexByte byte → ∃ v < 16, byteOf (Nat.digitChar v) = byte := by
    have hall : ∀ n < 256, hexByte (UInt8.ofNat n) → ∃ v < 16, byteOf (Nat.digitChar v) = UInt8.ofNat n := by
      decide +kernel
    intro byte hby
    have hthis := hall byte.toNat byte.toNat_lt
    rw [UInt8.ofNat_toNat] at hthis
    exact hthis hby
  -- two digits at a time
  have pairs : ∀ (n : Nat) (text : Bytes), text.length = 2 * n → text.all hexByte →
      ∃ raw, raw.length = n ∧ text = hexText raw := by
    intro n
    induction n with
    | zero =>
      intro text hlen _
      exact ⟨[], rfl, List.length_eq_zero_iff.mp hlen⟩
    | succ n ih =>
      intro text hlen hall
      match text with
      | [] => cases hlen
      | [_] => simp at hlen; omega
      | high :: low :: rest =>
        rw [List.all_cons, List.all_cons, Bool.and_eq_true, Bool.and_eq_true] at hall
        obtain ⟨hhi, hlow, hre⟩ := hall
        obtain ⟨u, hu, rfl⟩ := hdg high hhi
        obtain ⟨v, hv, rfl⟩ := hdg low hlow
        obtain ⟨raw, hraw, rfl⟩ := ih rest (by rw [List.length_cons, List.length_cons] at hlen; omega) hre
        refine ⟨UInt8.ofNat (16 * u + v) :: raw, by rw [List.length_cons, hraw], ?_⟩
        rw [hexText, hexText, List.flatMap_cons, hexPair_digits hu hv]
        rfl
  unfold hashText at h
  rw [Bool.and_eq_true, beq_iff_eq] at h
  exact pairs 32 text h.1 h.2

theorem hash32_exact : Exact Read.hash32 Write.hash32 IsHash := by
  intro input value rest
  rw [Read.hash32, bind_ok]
  constructor
  · rintro ⟨raw, mid, hrd, hre⟩
    obtain ⟨hle, rfl⟩ := (bytes_exact (by decide) _ _ _).mp hrd
    obtain ⟨_, mid', hguard, hpu⟩ := bind_ok.mp hre
    obtain ⟨hlen, rfl⟩ := guard_ok.mp hguard
    obtain ⟨rfl, rfl⟩ := pure_ok.mp hpu
    exact ⟨⟨raw, hlen, rfl⟩, by rw [Write.hash32, hexRead_hexText, Option.getD_some]⟩
  rintro ⟨⟨raw, hlen, rfl⟩, rfl⟩
  refine ⟨raw, rest, (bytes_exact (by decide) _ _ _).mpr ⟨hlen.le, ?_⟩, bind_ok.mpr ?_⟩
  · rw [Write.hash32, hexRead_hexText, Option.getD_some]
  · exact ⟨(), rest, guard_ok.mpr ⟨hlen, rfl⟩, pure_ok.mpr ⟨rfl, rfl⟩⟩

theorem count_exact {maximum : Nat} (h : maximum < 2 ^ 32) :
    Exact (Read.count maximum) (bigEndian 4) (· ≤ maximum) := by
  intro input n rest
  rw [Read.count, bind_ok]
  constructor
  · rintro ⟨count, mid, hword, hre⟩
    obtain ⟨-, rfl⟩ := (word_exact 4 _ _ _).mp hword
    obtain ⟨_, mid', hguard, hpu⟩ := bind_ok.mp hre
    obtain ⟨hle, rfl⟩ := guard_ok.mp hguard
    obtain ⟨rfl, rfl⟩ := pure_ok.mp hpu
    exact ⟨hle, rfl⟩
  rintro ⟨hle, rfl⟩
  refine ⟨n, rest, (word_exact 4 _ _ _).mpr ⟨lt_of_le_of_lt hle h, rfl⟩, bind_ok.mpr ?_⟩
  exact ⟨(), rest, guard_ok.mpr ⟨hle, rfl⟩, pure_ok.mpr ⟨rfl, rfl⟩⟩

theorem blocks_exact {most maximum : Nat} (hmost : most < 2 ^ 32) (hmax : maximum < 2 ^ 32) :
    Exact (Read.blocks most maximum) Write.blocks
      fun values => values.length ≤ most ∧ ∀ value ∈ values, value.length ≤ maximum := by
  intro input values rest
  rw [Read.blocks, bind_ok]
  constructor
  · rintro ⟨count, mid, hcnt, hmany⟩
    obtain ⟨hle, rfl⟩ := (count_exact hmost _ _ _).mp hcnt
    obtain ⟨⟨rfl, hall⟩, rfl⟩ := ((bytes_exact hmax).many _ _ _ _).mp hmany
    exact ⟨⟨hle, hall⟩, by rw [Write.blocks, List.append_assoc]⟩
  rintro ⟨⟨hle, hall⟩, rfl⟩
  refine ⟨values.length, values.flatMap Write.bytes ++ rest, (count_exact hmost _ _ _).mpr ⟨hle, ?_⟩, ?_⟩
  · rw [Write.blocks, List.append_assoc]
  · exact ((bytes_exact hmax).many _ _ _ _).mpr ⟨⟨rfl, hall⟩, rfl⟩

/-- **A preimage is read exactly**, behind its domain. -/
theorem readPreimage_ok {α : Type} {domain : Bytes} {read : Read α} {img : Bytes} {a : α} :
    readPreimage domain read img = .ok a ↔ ∃ body, img = domain ++ body ∧ read body = .ok (a, []) := by
  unfold readPreimage
  constructor
  · intro h
    split_ifs at h with hleading
    obtain ⟨body, rfl⟩ := List.isPrefixOf_iff_prefix.mp hleading
    rw [List.drop_left, all_ok] at h
    exact ⟨body, rfl, h⟩
  rintro ⟨body, rfl, h⟩
  rw [if_pos (List.isPrefixOf_iff_prefix.mpr ⟨body, rfl⟩), List.drop_left, all_ok]
  exact h

end Messenger.Canon
