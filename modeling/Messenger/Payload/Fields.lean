import Messenger.Canon.Reader

/-!
# `Payload.Fields` — the checks a body is made of

What `fields.go` requires of one field of an event body, and the bounds of `payload.go`. For each
check, what it says about reading the field back: a text that passed `requireText` under a bound
fits a reader with that bound, and an identifier, a digest or a member of a closed set is short and
plain. A text that only has to match a pattern is plain but may be of any length.
-/

namespace Messenger.Payload

open Canon

/-! ## Bounds -/

def maxTextBytes : Nat := 128 * 2 ^ 10
def maxShortTextBytes : Nat := 512
def maxDigestBytes : Nat := 128
def maxOpaqueBytes : Nat := 128 * 2 ^ 10

/-! ## Patterns -/

/-- A string constant of the source. -/
def lit (text : String) : Bytes := Field.utf8 text

def lower (byte : UInt8) : Bool := 97 ≤ byte && byte ≤ 122

def digit (byte : UInt8) : Bool := 48 ≤ byte && byte ≤ 57

/-- The rest of a label: letters and digits, with single separators between them. `ended` says that
    the last byte was not a separator. -/
def labelRest (separators : Bytes) : Bool → Bytes → Bool
  | ended, [] => ended
  | ended, byte :: rest =>
    if lower byte || digit byte then labelRest separators true rest
    else separators.contains byte && ended && labelRest separators false rest

/-- `^[a-z][a-z0-9]*(?:[separators][a-z0-9]+)*$` -/
def label (separators : Bytes) : Bytes → Bool
  | [] => false
  | byte :: rest => lower byte && labelRest separators true rest

/-- `^[a-z][a-z0-9]*(\.[a-z0-9]+)*$` -/
def protocolPattern : Bytes → Bool := label (lit ".")

/-- `^[a-z][a-z0-9]*(?:[._-][a-z0-9]+)*$` -/
def tokenPattern : Bytes → Bool := label (lit "._-")

/-- An identifier of `internal/ids`. -/
def idPattern (tag : String) : Bytes → Bool := taggedBytes (lit tag)

def agentPattern : Bytes → Bool := idPattern "agent_"
def capabilityPattern : Bytes → Bool := idPattern "cap_"
def devicePattern : Bytes → Bool := idPattern "dev_"
def conversationPattern : Bytes → Bool := idPattern "conv_"
def eventPattern : Bytes → Bool := idPattern "evt_"
def roomPattern : Bytes → Bool := idPattern "room_"

/-- The closed set of media types of a text. -/
def mediaTypes : List Bytes := [lit "text/plain; charset=utf-8", lit "text/markdown"]

/-! ## Checks -/

variable (name : String) (value : Bytes) (maximum : Nat)

/-- A text that is present, bounded, valid and without control characters. -/
def requireText : Except Failure Unit := do
  failIf (value = []) (name ++ " is required")
  failIf (maximum < value.length) (name ++ " exceeds its bound")
  failIf (¬validUTF8 value) (name ++ " is not valid UTF-8")
  failIf (0 ∈ value ∨ 13 ∈ value) (name ++ " contains control characters")

/-- A check of a text that may be absent. -/
def optional (check : Except Failure Unit) : Except Failure Unit :=
  if value = [] then .ok () else check

def optionalText : Except Failure Unit :=
  optional value (requireText name value maximum)

variable {separators : Bytes} {byte : UInt8} (pattern : Bytes → Bool)

def requireMatch : Except Failure Unit :=
  failIf (¬pattern value) (name ++ " is not a valid identifier")

def optionalMatch : Except Failure Unit :=
  optional value (requireMatch name value pattern)

def requireDigest : Except Failure Unit :=
  failIf (¬validDigestText value) (name ++ " is not a usable digest")

def optionalDigest : Except Failure Unit := optional value (requireDigest name value)

def requireTime (value : UInt64) : Except Failure Unit := failIf (value = 0) (name ++ " is required")

def requireMember (members : List Bytes) : Except Failure Unit :=
  failIf (value ∉ members) (name ++ " is not a recognised value")

def requireEvent : Except Failure Unit := requireMatch name value eventPattern

/-! ## Readers of the bounded fields -/

theorem short_exact : Lib.Exact (Read.text maxShortTextBytes) Write.text (FitsText maxShortTextBytes) :=
  text_exact (by decide)

theorem long_exact : Lib.Exact (Read.text maxTextBytes) Write.text (FitsText maxTextBytes) :=
  text_exact (by decide)

theorem digest_exact : Lib.Exact (Read.text maxDigestBytes) Write.text (FitsText maxDigestBytes) :=
  text_exact (by decide)

/-! ## What a check says about reading the field back -/

instance (maximum : Nat) (value : Bytes) : Decidable (FitsText maximum value) := inferInstanceAs (Decidable (_ ∧ _))

theorem fitsText_nil : FitsText maximum [] := ⟨Nat.zero_le _, by decide +kernel⟩

variable {maximum : Nat} {value : Bytes} {name : String}

theorem fitsText_ascii (hlen : value.length ≤ maximum) (hascii : ∀ byte ∈ value, byte < 128) :
    FitsText maximum value := ⟨hlen, validUTF8_ascii hascii⟩

theorem requireText_fits (h : requireText name value maximum = .ok ()) : FitsText maximum value := by
  simp only [requireText, seq_ok, failIf_ok] at h
  obtain ⟨_, -, _, hlen, _, hval, -⟩ := h
  exact ⟨not_lt.mp hlen, not_not.mp hval⟩

/-- An absent text fits. -/
theorem optional_fits {check : Except Failure Unit} (h : optional value check = .ok ())
    (hchk : check = .ok () → FitsText maximum value) : FitsText maximum value := by
  unfold optional at h
  split_ifs at h with hnil
  · rw [hnil]
    exact fitsText_nil maximum
  · exact hchk h

theorem optionalText_fits (h : optionalText name value maximum = .ok ()) :
    FitsText maximum value := optional_fits h requireText_fits

/-- A tag and a hash are as long as they look. -/
theorem taggedBytes_fits {tag : Bytes} (htag : ∀ byte ∈ tag, byte < 128)
    (hlen : tag.length + 64 ≤ maximum) (h : taggedBytes tag value) : FitsText maximum value := by
  unfold taggedBytes hashText at h
  rw [Bool.and_eq_true, Bool.and_eq_true, beq_iff_eq] at h
  obtain ⟨hleading, hhash, hdgt⟩ := h
  obtain ⟨rest, rfl⟩ := List.isPrefixOf_iff_prefix.mp hleading
  rw [List.drop_left] at hhash hdgt
  refine fitsText_ascii ?_ ?_
  · rw [List.length_append, hhash]
    exact hlen
  exact List.forall_mem_append.mpr ⟨htag, fun byte hby => hexByte_ascii (List.all_eq_true.mp hdgt byte hby)⟩

theorem digest_fits (h : validDigestText value) : FitsText maxDigestBytes value := by
  exact taggedBytes_fits (by decide +kernel) (by decide +kernel) (Bool.and_eq_true _ _ ▸ h).1

theorem requireDigest_fits (h : requireDigest name value = .ok ()) :
    FitsText maxDigestBytes value := digest_fits (not_not.mp (failIf_ok.mp h))

theorem optionalDigest_fits (h : optionalDigest name value = .ok ()) :
    FitsText maxDigestBytes value := optional_fits h requireDigest_fits

/-- A tag of an identifier. -/
def ShortTag (tag : String) : Prop := (lit tag).length ≤ 64 ∧ ∀ byte ∈ lit tag, byte < 128

instance (tag : String) : Decidable (ShortTag tag) := inferInstanceAs (Decidable (_ ∧ _))

theorem id_fits {tag : String} (htag : ShortTag tag) (h : idPattern tag value) : FitsText maxShortTextBytes value :=
  taggedBytes_fits htag.2 (by have := htag.1; unfold maxShortTextBytes; omega) h

theorem requireMatch_id_fits {tag : String} (htag : ShortTag tag)
    (h : requireMatch name value (idPattern tag) = .ok ()) : FitsText maxShortTextBytes value :=
  id_fits htag (not_not.mp (failIf_ok.mp h))

theorem requireEvent_fits (h : requireEvent name value = .ok ()) :
    FitsText maxShortTextBytes value := requireMatch_id_fits (by decide +kernel) h

theorem requireMember_fits {members : List Bytes} (hmembers : ∀ member ∈ members, FitsText maximum member)
    (h : requireMember name value members = .ok ()) :
    FitsText maximum value := hmembers value (not_not.mp (failIf_ok.mp h))

theorem lower_ascii (h : lower byte) : byte < 128 := ascii_of_range (by decide) h

theorem digit_ascii (h : digit byte) : byte < 128 := ascii_of_range (by decide) h

/-- The text of a number of bytes is plain. -/
theorem hexText_fits {raw : Bytes} {n : Nat} (h : raw.length = n) : FitsText (2 * n) (hexText raw) := by
  refine fitsText_ascii ?_ ?_
  · rw [hexText, List.length_map, hexPairs_length, h]
  exact List.forall_mem_map.mpr (forall_hexPairs raw (by decide))

/-- **A label is plain**, of whatever length. -/
theorem label_ascii (hseps : ∀ byte ∈ separators, byte < 128) (h : label separators value) :
    ∀ byte ∈ value, byte < 128 := by
  have rest_ascii : ∀ (value : Bytes) (ended : Bool), labelRest separators ended value →
      ∀ byte ∈ value, byte < 128 := by
    intro value
    induction value with
    | nil => exact fun _ _ => List.forall_mem_nil _
    | cons head value ih =>
      intro ended h
      unfold labelRest at h
      split_ifs at h with hplain
      · refine List.forall_mem_cons.mpr ⟨?_, ih true h⟩
        rcases Bool.or_eq_true _ _ ▸ hplain with hlower | hdg
        · exact lower_ascii hlower
        · exact digit_ascii hdg
      rw [Bool.and_eq_true, Bool.and_eq_true, List.contains_iff_mem] at h
      exact List.forall_mem_cons.mpr ⟨hseps _ h.1.1, ih false h.2⟩
  cases value with
  | nil => cases h
  | cons head value =>
    unfold label at h
    rw [Bool.and_eq_true] at h
    exact List.forall_mem_cons.mpr ⟨lower_ascii h.1, rest_ascii value true h.2⟩

/-- **A text that only matches a label pattern is read back when it is short enough**, and not
    otherwise. -/
theorem label_fits_iff (hseps : ∀ byte ∈ separators, byte < 128) (h : label separators value) :
    FitsText maximum value ↔ value.length ≤ maximum :=
  ⟨fun hft => hft.1, fun hlen => fitsText_ascii hlen (label_ascii hseps h)⟩

theorem token_fits_iff (h : requireMatch name value tokenPattern = .ok ()) :
    FitsText maximum value ↔ value.length ≤ maximum :=
  label_fits_iff (by decide +kernel) (not_not.mp (failIf_ok.mp h))

end Messenger.Payload
