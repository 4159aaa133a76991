import Messenger.Base
import Messenger.Lib.Delimited
import Mathlib.Tactic.IntervalCases
import Mathlib.Tactic.Ring

/-!
# `Messenger.Canon` — the canonical preimages of signed and digested objects

What the messenger signs or hashes is never a JSON text but a sequence of fields behind a domain:
texts and byte strings under a 32-bit length, and big-endian words (`internal/canon`). A field is a
value of `Field`; a buffer is the list of what was appended to it.

The length of a text is converted to 32 bits before it is written, so only texts of fewer than
`2 ^ 32` bytes carry their own length (`Field.Fits`). Among those, fields of known kinds are
delimited (`field_delimited`).

Identifiers and hashes on the wire are texts that are checked against a pattern, and a hash is
decoded before it enters a preimage. `hexDecode` is the standard library's decoder, which reads both
letter cases; the patterns admit lowercase.
-/

namespace Messenger.Canon

/-! ## Words -/

/-- The `width` low bytes of a number, most significant first. -/
def bigEndian : Nat → Nat → Bytes
  | 0, _ => []
  | width + 1, n => UInt8.ofNat (n / 256 ^ width) :: bigEndian width n

@[simp] theorem bigEndian_length (width n : Nat) : (bigEndian width n).length = width := by
  induction width with
  | zero => rfl
  | succ width ih => rw [bigEndian, List.length_cons, ih]

/-- The bytes of a number determine it up to its width. -/
theorem bigEndian_mod {width m n : Nat} (h : bigEndian width m = bigEndian width n) :
    m % 256 ^ width = n % 256 ^ width := by
  induction width with
  | zero => simp [Nat.mod_one]
  | succ width ih =>
    injection h with hhd htl
    have hby : m / 256 ^ width % 256 = n / 256 ^ width % 256 := by
      have := congrArg UInt8.toNat hhd
      simpa using this
    rw [Nat.mod_pow_succ, Nat.mod_pow_succ, hby, ih htl]

theorem bigEndian_inj {width m n : Nat} (hm : m < 256 ^ width) (hn : n < 256 ^ width)
    (h : bigEndian width m = bigEndian width n) : m = n := by
  have hmod := bigEndian_mod h
  rwa [Nat.mod_eq_of_lt hm, Nat.mod_eq_of_lt hn] at hmod

/-- The number a sequence of bytes stands for, most significant byte first. -/
def ofBigEndian (bytes : Bytes) : Nat := bytes.foldl (fun n byte => 256 * n + byte.toNat) 0

theorem ofBigEndian_lt (bytes : Bytes) : ofBigEndian bytes < 256 ^ bytes.length := by
  have general : ∀ high, bytes.foldl (fun n byte => 256 * n + byte.toNat) high < (high + 1) * 256 ^ bytes.length := by
    induction bytes with
    | nil =>
      intro high
      simp
    | cons byte bytes ih =>
      intro high
      have hby : byte.toNat < 256 := byte.toNat_lt
      calc _ < (256 * high + byte.toNat + 1) * 256 ^ bytes.length := ih _
        _ ≤ (256 * (high + 1)) * 256 ^ bytes.length := Nat.mul_le_mul_right _ (by omega)
        _ = (high + 1) * (256 ^ bytes.length * 256) := by ring
  simpa [ofBigEndian] using general 0

theorem ofBigEndian_bigEndian (width n : Nat) : ofBigEndian (bigEndian width n) = n % 256 ^ width := by
  have general : ∀ high, (bigEndian width n).foldl (fun n byte => 256 * n + byte.toNat) high =
      high * 256 ^ width + n % 256 ^ width := by
    induction width with
    | zero =>
      intro high
      simp [bigEndian, Nat.mod_one]
    | succ width ih =>
      intro high
      rw [bigEndian, List.foldl_cons, ih, Nat.mod_pow_succ, UInt8.toNat_ofNat', Nat.pow_succ]
      ring
  rw [ofBigEndian, general, Nat.zero_mul, Nat.zero_add]

/-- The conversion of an integer to 32 bits. -/
def uint32 (n : Int) : Nat := (n % 2 ^ 32).toNat

theorem uint32_lt (n : Int) : uint32 n < 2 ^ 32 := by
  unfold uint32
  omega

/-- Two integers less than `2 ^ 32` apart are told apart by their 32-bit words. -/
theorem uint32_inj {m n lo : Int} (hm : lo ≤ m ∧ m < lo + 2 ^ 32) (hn : lo ≤ n ∧ n < lo + 2 ^ 32)
    (h : uint32 m = uint32 n) : m = n := by
  unfold uint32 at h
  omega

/-! ## Fields -/

/-- What was appended to a buffer. `Text` and `Bytes` append the same, a length and the bytes, and a
    text that need not be UTF-8 is `bytes` here. -/
inductive Field where
  | text (value : String)
  | bytes (value : Bytes)
  | uint32 (value : Nat)
  | uint64 (value : Nat)
  deriving DecidableEq, Repr

/-- Which appender was called. -/
inductive Field.Kind where
  | text
  | bytes
  | uint32
  | uint64
  deriving DecidableEq, Repr

namespace Field

def kind : Field → Kind
  | .text _ => .text
  | .bytes _ => .bytes
  | .uint32 _ => .uint32
  | .uint64 _ => .uint64

/-- The bytes of a text. -/
def utf8 (value : String) : Bytes := value.toUTF8.data.toList

/-- The bytes one appender writes. -/
def encode : Field → Bytes
  | .text value => bigEndian 4 value.utf8ByteSize ++ utf8 value
  | .bytes value => bigEndian 4 value.length ++ value
  | .uint32 value => bigEndian 4 value
  | .uint64 value => bigEndian 8 value

/-- The value survives its conversion to a machine word: a text's length to 32 bits, a word to its
    width. -/
def Fits : Field → Prop
  | .text value => value.utf8ByteSize < 2 ^ 32
  | .bytes value => value.length < 2 ^ 32
  | .uint32 value => value < 2 ^ 32
  | .uint64 value => value < 2 ^ 64

theorem utf8_length (value : String) : (utf8 value).length = value.utf8ByteSize := rfl

theorem utf8_inj {a b : String} (h : utf8 a = utf8 b) : a = b := by
  apply String.toByteArray_inj.mp
  exact ByteArray.ext (Array.toList_inj.mp h)

theorem encode_ne_nil (f : Field) : f.encode ≠ [] := by
  intro h
  have hlen := congrArg List.length h
  cases f <;> simp [encode] at hlen

end Field

/-- A block behind its 32-bit length is delimited. -/
theorem block_split {x y s t : Bytes} (hx : x.length < 2 ^ 32) (hy : y.length < 2 ^ 32)
    (h : (bigEndian 4 x.length ++ x) ++ s = (bigEndian 4 y.length ++ y) ++ t) : x = y ∧ s = t := by
  rw [List.append_assoc, List.append_assoc] at h
  obtain ⟨hlen, hre⟩ := List.append_inj h (by simp)
  have heq : x.length = y.length := bigEndian_inj (by simpa using hx) (by simpa using hy) hlen
  exact List.append_inj hre heq

/-- A big-endian word is delimited. -/
theorem word_split {w m n : Nat} {s t : Bytes} (hm : m < 256 ^ w) (hn : n < 256 ^ w)
    (h : bigEndian w m ++ s = bigEndian w n ++ t) : m = n ∧ s = t := by
  obtain ⟨hword, hre⟩ := List.append_inj h (by simp)
  exact ⟨bigEndian_inj hm hn hword, hre⟩

/-- **Fields are delimited.** -/
theorem field_delimited : Lib.Delimited Field.kind Field.encode Field.Fits := by
  intro a b s t hki ha hb heq
  cases a with
  | text x =>
    cases b with
    | text y =>
      obtain ⟨hxy, hst⟩ := block_split (x := Field.utf8 x) (y := Field.utf8 y) ha hb heq
      exact ⟨by rw [Field.utf8_inj hxy], hst⟩
    | _ => simp [Field.kind] at hki
  | bytes x =>
    cases b with
    | bytes y =>
      obtain ⟨hxy, hst⟩ := block_split ha hb heq
      exact ⟨by rw [hxy], hst⟩
    | _ => simp [Field.kind] at hki
  | uint32 m =>
    cases b with
    | uint32 n =>
      obtain ⟨hmn, hst⟩ := word_split (w := 4) ha hb heq
      exact ⟨by rw [hmn], hst⟩
    | _ => simp [Field.kind] at hki
  | uint64 m =>
    cases b with
    | uint64 n =>
      obtain ⟨hmn, hst⟩ := word_split (w := 8) ha hb heq
      exact ⟨by rw [hmn], hst⟩
    | _ => simp [Field.kind] at hki

/-- A preimage: a domain and the fields behind it. -/
def preimage (domain : String) (fields : List Field) : Bytes := Field.utf8 domain ++ fields.flatMap Field.encode

/-- Preimages of the same kinds of fields determine the fields. -/
theorem preimage_inj {domain : String} {xs ys : List Field} (hkinds : xs.map Field.kind = ys.map Field.kind)
    (hxs : ∀ x ∈ xs, x.Fits) (hys : ∀ y ∈ ys, y.Fits) (h : preimage domain xs = preimage domain ys) : xs = ys :=
  field_delimited.flatMap_inj Field.encode_ne_nil (.inl (hkinds ▸ List.prefix_rfl)) hxs hys (List.append_cancel_left h)

section
variable {α : Type} {text : α → String} {xs ys : List α} (hinj : Function.Injective text)
  (hfit : ∀ a, (Field.text (text a)).Fits)
include hinj hfit

/-- Texts of a known number split off what follows them. -/
theorem texts_split {s t : Bytes} (hlen : xs.length = ys.length)
    (h : (xs.map fun x => Field.text (text x)).flatMap Field.encode ++ s =
      (ys.map fun y => Field.text (text y)).flatMap Field.encode ++ t) : xs = ys ∧ s = t := by
  have hkinds : ∀ zs : List α, (zs.map fun z => Field.text (text z)).map Field.kind =
    List.replicate zs.length .text := by
    intro zs
    rw [List.map_map, List.eq_replicate_iff]
    simp [Field.kind]
  have hfits : ∀ zs : List α, ∀ f ∈ zs.map fun z => Field.text (text z), f.Fits :=
    fun _ => List.forall_mem_map.mpr fun z _ => hfit z
  obtain ⟨hfd, hst⟩ := field_delimited.split (by rw [hkinds, hkinds, hlen]) (hfits xs) (hfits ys) h
  exact ⟨List.map_injective_iff.mpr (fun _ _ h => hinj (Field.text.inj h)) hfd, hst⟩

/-- A list of texts behind their count is determined by its encoding. -/
theorem counted_texts_inj (hx : xs.length < 2 ^ 32) (hy : ys.length < 2 ^ 32)
    (h : (.uint32 xs.length :: xs.map fun x => .text (text x)).flatMap Field.encode =
      (.uint32 ys.length :: ys.map fun y => .text (text y)).flatMap Field.encode) : xs = ys := by
  -- the counts agree, so the kinds do
  obtain ⟨hcnt, hre⟩ := field_delimited (a := .uint32 xs.length) (b := .uint32 ys.length) rfl hx hy h
  exact (texts_split hinj hfit (Field.uint32.inj hcnt) (congrArg (· ++ []) hre)).1

end

/-! ## Hashes and identifiers as texts -/

/-- The value of a hexadecimal digit, in either case. -/
def hexValue (c : Char) : Option Nat :=
  if '0' ≤ c ∧ c ≤ '9' then some (c.toNat - 48)
  else if 'a' ≤ c ∧ c ≤ 'f' then some (c.toNat - 87)
  else if 'A' ≤ c ∧ c ≤ 'F' then some (c.toNat - 55)
  else none

/-- The bytes of a sequence of digit pairs. -/
def hexBytes : List Char → Option Bytes
  | [] => some []
  | high :: low :: rest => do
    let high ← hexValue high
    let low ← hexValue low
    let rest ← hexBytes rest
    pure (UInt8.ofNat (16 * high + low) :: rest)
  | [_] => none

/-- `hex.DecodeString`, of the bytes of a text. -/
def hexRead (text : Bytes) : Option Bytes := hexBytes (text.map fun byte => Char.ofNat byte.toNat)

variable (raw : Bytes) (text : String)

def hexDecode : Option Bytes := hexRead (Field.utf8 text)

/-- The lowercase form of a text. -/
def lowercase : String := String.ofList (text.toList.map Char.toLower)

/-- A byte as its two lowercase digits. -/
def hexPair (byte : UInt8) : List Char := [Nat.digitChar (byte.toNat / 16), Nat.digitChar (byte.toNat % 16)]

/-- `hex.EncodeToString`. -/
def hexEncode : String := String.ofList (raw.flatMap hexPair)

/-- A byte from the values of its digits. -/
theorem hexPair_digits {u v : Nat} (hu : u < 16) (hv : v < 16) :
    hexPair (UInt8.ofNat (16 * u + v)) = [Nat.digitChar u, Nat.digitChar v] := by
  have hby : (UInt8.ofNat (16 * u + v)).toNat = 16 * u + v := by
    rw [UInt8.toNat_ofNat']
    omega
  have hdiv : (16 * u + v) / 16 = u := by omega
  have hmod : (16 * u + v) % 16 = v := by omega
  rw [hexPair, hby, hdiv, hmod]

theorem hexValue_digitChar {v : Nat} (h : v < 16) : hexValue (Nat.digitChar v) = some v := by
  interval_cases v <;> rfl

/-- A digit is told from its value and its case. -/
theorem hexValue_digit {c : Char} {v : Nat} (h : hexValue c = some v) : v < 16 ∧ c.toLower = Nat.digitChar v := by
  -- no digit is above the letter f
  have hlt : c.toNat < 103 := by
    unfold hexValue at h
    split_ifs at h with hdg hlower hupper
    · exact Nat.lt_of_le_of_lt hdg.2 (by decide)
    · exact Nat.lt_of_le_of_lt hlower.2 (by decide)
    · exact Nat.lt_of_le_of_lt hupper.2 (by decide)
  have hall : ∀ n < 103, (hexValue (Char.ofNat n)).all fun v =>
      v < 16 ∧ (Char.ofNat n).toLower = Nat.digitChar v := by decide
  have hv := hall _ hlt
  rw [Char.ofNat_toNat, h] at hv
  exact of_decide_eq_true hv

theorem hexPairs_length : (raw.flatMap hexPair).length = 2 * raw.length := by
  induction raw with
  | nil => rfl
  | cons byte raw ih =>
    rw [List.flatMap_cons, List.length_append, ih, List.length_cons, hexPair]
    simp only [List.length_cons, List.length_nil]
    omega

/-- What holds of every digit holds of every character. -/
theorem forall_hexPairs {P : Char → Prop} (h : ∀ v < 16, P (Nat.digitChar v)) : ∀ c ∈ raw.flatMap hexPair, P c := by
  intro c hc
  obtain ⟨byte, -, hc⟩ := List.mem_flatMap.mp hc
  have hby : byte.toNat < 256 := byte.toNat_lt
  rcases List.mem_pair.mp hc with rfl | rfl
  · exact h _ (by omega)
  · exact h _ (by omega)

/-- Decoding reads back what encoding wrote. -/
theorem hexBytes_pairs : hexBytes (raw.flatMap hexPair) = some raw := by
  induction raw with
  | nil => rfl
  | cons byte raw ih =>
    have hby : byte.toNat < 256 := byte.toNat_lt
    have hhi : hexValue (Nat.digitChar (byte.toNat / 16)) = some (byte.toNat / 16) := hexValue_digitChar (by omega)
    have hlow : hexValue (Nat.digitChar (byte.toNat % 16)) = some (byte.toNat % 16) := hexValue_digitChar (by omega)
    have hwhole : 16 * (byte.toNat / 16) + byte.toNat % 16 = byte.toNat := Nat.div_add_mod _ _
    show hexBytes (Nat.digitChar (byte.toNat / 16) :: Nat.digitChar (byte.toNat % 16) :: raw.flatMap hexPair) = _
    rw [hexBytes, hhi, hlow, ih]
    show some (UInt8.ofNat (16 * (byte.toNat / 16) + byte.toNat % 16) :: raw) = some (byte :: raw)
    rw [hwhole, UInt8.ofNat_toNat]

/-- The digits of a decoded text are those of its bytes, up to their case. -/
theorem hexBytes_lower {cs : List Char} {raw : Bytes} (h : hexBytes cs = some raw) :
    cs.map Char.toLower = raw.flatMap hexPair := by
  induction cs using hexBytes.induct generalizing raw with
  | case1 => cases h; rfl
  | case2 high low rest ih =>
    cases hhi : hexValue high with
    | none => simp [hexBytes, hhi] at h
    | some u =>
      cases hlow : hexValue low with
      | none => simp [hexBytes, hhi, hlow] at h
      | some v =>
        cases hre : hexBytes rest with
        | none => simp [hexBytes, hhi, hlow, hre] at h
        | some bytes =>
          simp only [hexBytes, hhi, hlow, hre, bind, Option.bind, pure, Option.some.injEq] at h
          obtain ⟨hu, hhighL⟩ := hexValue_digit hhi
          obtain ⟨hv, hlowL⟩ := hexValue_digit hlow
          rw [← h, List.map_cons, List.map_cons, List.flatMap_cons, hexPair_digits hu hv, hhighL, hlowL, ih hre]
          rfl
  | case3 c => cases h

/-- Bytes below 128 are the encoding of their characters. -/
theorem utf8Encode_ascii {raw : Bytes} (h : ∀ byte ∈ raw, byte < 128) :
    (raw.map fun byte => Char.ofNat byte.toNat).utf8Encode = raw.toByteArray := by
  have henc : ∀ byte ∈ raw, String.utf8EncodeChar (Char.ofNat byte.toNat) = [byte] := by
    intro byte hby
    have hlt : byte.toNat < 128 := h byte hby
    have hvalid : byte.toNat.isValidChar := Or.inl (by omega)
    have hval : (Char.ofNat byte.toNat).val.toNat = byte.toNat := by
      rw [Char.ofNat, dif_pos hvalid]
      rfl
    unfold String.utf8EncodeChar
    rw [hval]
    simp only [UInt8.ofNat_toNat]
    rw [if_pos (by omega)]
  have hfl : (raw.map fun byte => Char.ofNat byte.toNat).flatMap String.utf8EncodeChar = raw := by
    rw [List.flatMap_map, List.flatMap_congr henc]
    exact List.flatMap_singleton' raw
  rw [List.utf8Encode, hfl]

/-- A text that is decoded is plain, so its bytes are its characters. -/
theorem hexBytes_of_decode {text : String} {raw : Bytes} (h : hexDecode text = some raw) :
    hexBytes text.toList = some raw := by
  have hascii : ∀ byte ∈ Field.utf8 text, byte < 128 := by
    intro byte hby
    have hmem : (Char.ofNat byte.toNat).toLower ∈ raw.flatMap hexPair := by
      rw [← hexBytes_lower h, List.map_map]
      exact List.mem_map_of_mem hby
    exact forall_hexPairs (P := fun c => ∀ n < 256, (Char.ofNat n).toLower = c → n < 128) raw
      (by decide +kernel) _ hmem byte.toNat byte.toNat_lt rfl
  have htext : text = String.ofList ((Field.utf8 text).map fun byte => Char.ofNat byte.toNat) := by
    apply String.toByteArray_inj.mp
    rw [String.toByteArray_ofList, utf8Encode_ascii hascii]
    ext1
    simp [Field.utf8]
  rw [htext, String.toList_ofList]
  exact h

theorem hexEncode_inj {x y : Bytes} (h : hexEncode x = hexEncode y) : x = y := by
  have hdgt : x.flatMap hexPair = y.flatMap hexPair := String.ofList_injective h
  have hsm := hexBytes_pairs x
  rw [hdgt, hexBytes_pairs y] at hsm
  exact (Option.some.inj hsm).symm

/-- **Two texts of the same bytes differ in letter case only.** -/
theorem hexDecode_eq_iff {a b : String} {x y : Bytes} (ha : hexDecode a = some x)
    (hb : hexDecode b = some y) : x = y ↔ lowercase a = lowercase b := by
  have hx := hexBytes_lower (hexBytes_of_decode ha)
  have hy := hexBytes_lower (hexBytes_of_decode hb)
  unfold lowercase
  rw [hx, hy]
  constructor
  · rintro rfl
    rfl
  · exact hexEncode_inj

/-- A digit the patterns admit. -/
def lowerHex (c : Char) : Bool := ('0' ≤ c && c ≤ '9') || ('a' ≤ c && c ≤ 'f')

/-- `^[0-9a-f]{64}$` -/
def hashPattern : Bool := text.toList.length == 64 && text.toList.all lowerHex

/-- The pattern of an identifier: a tag and 64 lowercase digits. -/
def tagged (tag text : String) : Bool :=
  tag.toList.isPrefixOf text.toList && hashPattern (String.ofList (text.toList.drop tag.toList.length))

/-- The text of a digest: `Digest`. -/
def digestText (digest : BitVec 256) : String := "sha256:" ++ hexEncode (bigEndian 32 digest.toNat)

/-- A digest is well formed and not all zero. -/
def validDigest : Bool := tagged "sha256:" text && (text.toList.drop 7).any (· ≠ '0')

theorem utf8ByteSize_le_of_forall {k : Nat} {cs : List Char} (h : ∀ c ∈ cs, c.utf8Size ≤ k) :
    (String.ofList cs).utf8ByteSize ≤ k * cs.length := by
  induction cs with
  | nil => simp
  | cons c cs ih =>
    have hc := h c List.mem_cons_self
    have hre := ih fun c' hc' => h c' (List.mem_cons_of_mem _ hc')
    rw [← List.singleton_append, String.ofList_append, String.utf8ByteSize_append, List.length_append,
      List.length_singleton, ← String.singleton_eq_ofList, String.utf8ByteSize_singleton, Nat.mul_add, Nat.mul_one]
    omega

theorem utf8ByteSize_ofList_le (cs : List Char) : (String.ofList cs).utf8ByteSize ≤ 4 * cs.length :=
  utf8ByteSize_le_of_forall fun c _ => Char.utf8Size_le_four c

/-- A text of characters of one byte each. -/
theorem utf8ByteSize_of_forall {cs : List Char} (h : ∀ c ∈ cs, c.utf8Size = 1) :
    (String.ofList cs).utf8ByteSize = cs.length := by
  induction cs with
  | nil => rfl
  | cons c cs ih =>
    rw [← List.singleton_append, String.ofList_append, String.utf8ByteSize_append, List.length_append,
      List.length_singleton, ← String.singleton_eq_ofList, String.utf8ByteSize_singleton,
      h c List.mem_cons_self, ih fun c' hc' => h c' (List.mem_cons_of_mem _ hc')]

/-- A hash is a short text. -/
theorem hashPattern_size {text : String} (h : hashPattern text) : text.utf8ByteSize ≤ 256 := by
  unfold hashPattern at h
  rw [Bool.and_eq_true, beq_iff_eq] at h
  have hsi := utf8ByteSize_ofList_le text.toList
  rw [String.ofList_toList, h.1] at hsi
  exact hsi

/-- A decoded hash is short. -/
theorem hexDecode_fits {text : String} {raw : Bytes} (hpattern : hashPattern text)
    (h : hexDecode text = some raw) : (Field.bytes raw).Fits := by
  have hlower := congrArg List.length (hexBytes_lower (hexBytes_of_decode h))
  rw [List.length_map, hexPairs_length] at hlower
  unfold hashPattern at hpattern
  rw [Bool.and_eq_true, beq_iff_eq] at hpattern
  show raw.length < 2 ^ 32
  omega

/-- A text the pattern admits is in lowercase. -/
theorem hashPattern_lower {text : String} (h : hashPattern text) : lowercase text = text := by
  have hlow : ∀ c : Char, lowerHex c → c.toLower = c := by
    intro c hc
    refine dif_neg fun hup => ?_
    simp only [lowerHex, Bool.or_eq_true, Bool.and_eq_true, decide_eq_true_eq] at hc
    rcases hc with hdg | hletter
    · exact absurd (UInt32.le_trans hup.1 hdg.2) (by decide)
    · exact absurd (UInt32.le_trans hletter.1 hup.2) (by decide)
  unfold hashPattern at h
  rw [Bool.and_eq_true, List.all_eq_true] at h
  rw [lowercase, List.map_congr_left (g := id) fun c hc => hlow c (h.2 c hc), List.map_id, String.ofList_toList]

/-- Two hashes of the same bytes are one text. -/
theorem hexDecode_inj {a b : String} (ha : hashPattern a) (hb : hashPattern b) {raw : Bytes}
    (h : hexDecode a = some raw) (h' : hexDecode b = some raw) : a = b := by
  have hlow := (hexDecode_eq_iff h h').mp rfl
  rwa [hashPattern_lower ha, hashPattern_lower hb] at hlow

/-! ## Texts of 256 bits -/

theorem hexEncode_size : (hexEncode raw).utf8ByteSize = 2 * raw.length :=
  (utf8ByteSize_of_forall (forall_hexPairs raw (by decide))).trans (hexPairs_length raw)

variable (tag : String) (x : BitVec 256)

/-- 256 bits behind a tag. -/
def taggedText (bits : BitVec 256) : String := tag ++ hexEncode (bigEndian 32 bits.toNat)

theorem taggedText_inj {tag : String} {x y : BitVec 256} (h : taggedText tag x = taggedText tag y) : x = y := by
  have hdgt : hexEncode (bigEndian 32 x.toNat) = hexEncode (bigEndian 32 y.toNat) := by
    have := congrArg String.toList h
    rw [taggedText, taggedText, String.toList_append, String.toList_append] at this
    exact String.toList_inj.mp (List.append_cancel_left this)
  exact BitVec.eq_of_toNat_eq (bigEndian_inj x.isLt y.isLt (hexEncode_inj hdgt))

theorem taggedText_length : (taggedText tag x).toList.length = tag.toList.length + 64 := by
  rw [taggedText, String.toList_append, List.length_append, hexEncode, String.toList_ofList,
    hexPairs_length, bigEndian_length]

theorem taggedText_ne_empty : taggedText tag x ≠ "" := by
  intro h
  have hlen := taggedText_length tag x
  rw [h] at hlen
  cases hlen

theorem taggedText_fits {tag : String} (htag : tag.utf8ByteSize ≤ 64) (x : BitVec 256) :
    (Field.text (taggedText tag x)).Fits := by
  have hsi := hexEncode_size (bigEndian 32 x.toNat)
  rw [bigEndian_length] at hsi
  show (taggedText tag x).utf8ByteSize < 2 ^ 32
  rw [taggedText, String.utf8ByteSize_append]
  omega

theorem digestText_inj {x y : BitVec 256} (h : digestText x = digestText y) : x = y := taggedText_inj h

theorem digestText_fits : (Field.text (digestText x)).Fits := taggedText_fits (by decide) x

end Messenger.Canon
