import Messenger.Payload.Registry

/-!
# `Payload.Correctness` — one encoding for each body, and which bodies are read back

What every row of the table guarantees is `Codec.Lawful`: what a decoder reads was written for the
body it answers with, and a valid body is read back exactly when it is `Readable`. From the rows,

* `decode_canonical` — bytes that decode are the encoding of what they decode to, and of no other
  schema;
* `encode_readable` — a body that was encoded decodes to itself exactly when it is readable.

The second is the reason for `Kind.Readable`: three labels and a capability class have a pattern but
no bound, the version of a capability and the name of a network have a bound but may be any bytes,
and an attachment of an earlier schema is written under that schema.
-/

namespace Messenger.Payload

open Canon Lib

/-! ## Rows of the table -/

/-- What the check of a body leaves open and its reader asks for. -/
def Kind.Readable : (kind : Kind) → kind.Value → Prop
  | .taskProgress => fun t : TaskProgress => t.stage.length ≤ maxShortTextBytes
  | .counterpartyApprovalRequest => fun c : CounterpartyApprovalRequest => c.subject.length ≤ maxShortTextBytes
  | .privateHandoffStatus => fun p : PrivateHandoffStatus => p.state.length ≤ maxShortTextBytes
  | .negotiationProposal | .negotiationCounterproposal | .negotiationIntentAccept => fun n : NegotiationTerms =>
    n.terms.Readable
  | .encryptedAttachment => fun a : EncryptedAttachment => a.schema = .v3
  | _ => fun _ => True

def Body.Readable (body : Body) : Prop := body.kind.Readable body.value

/-- What a row of the table guarantees. -/
structure Codec.Lawful {kind : Kind} (c : Codec kind.Value) : Prop where
  canonical : ∀ {input v rest}, c.decode input = .ok (v, rest) → c.earlier v = none ∧ input = c.encode v ++ rest
  legacy : ∀ {schema read}, c.legacy.lookup schema = some read → ∀ {input v rest}, read input = .ok (v, rest) →
    c.earlier v = some schema ∧ input = c.encode v ++ rest
  reads : ∀ {v}, c.validate v = .ok () → (c.decode (c.encode v) = .ok (v, []) ↔ kind.Readable v)

variable {kind : Kind} {rules : Rules} {schema name : String} {read : Read kind.Value} {content : Bytes} {body : Body}

/-- A row with one schema. -/
theorem Codec.Lawful.plain {c : Codec kind.Value} {Fits : kind.Value → Prop} (hexact : Exact c.decode c.encode Fits)
    (hft : ∀ {v}, c.validate v = .ok () → (Fits v ↔ kind.Readable v))
    (hearlier : ∀ v, c.earlier v = none := by intro _; rfl) (hlegacy : c.legacy = [] := by rfl) : c.Lawful where
  canonical hrd := ⟨hearlier _, ((hexact _ _ _).mp hrd).2⟩
  legacy hget := by
    rw [hlegacy] at hget
    cases hget
  reads {v} hval := by
    rw [hexact, ← hft hval, List.append_nil]
    exact and_iff_left rfl

/-- A row whose valid bodies are all read back. -/
theorem Codec.Lawful.whole {c : Codec kind.Value} (h : RoundTrip c.decode c.encode (c.validate · = .ok ()))
    (hrdb : ∀ v, kind.Readable v := by intro _; trivial)
    (hearlier : ∀ v, c.earlier v = none := by intro _; rfl) (hlegacy : c.legacy = [] := by rfl) : c.Lawful where
  canonical hrd := ⟨hearlier _, h.canonical hrd⟩
  legacy hget := by
    rw [hlegacy] at hget
    cases hget
  reads hval := iff_of_true (h.reads hval) (hrdb _)

/-- The first of a sequence of checks. -/
theorem first_ok {x : Except Failure Unit} {α : Type} {f : Unit → Except Failure α} {a : α}
    (h : (x >>= f) = .ok a) : x = .ok () := by
  obtain ⟨_, hx, -⟩ := seq_ok.mp h
  exact hx

theorem mem_of_lookup {α : Type} {s : String} {a : α} {rows : List (String × α)}
    (h : rows.lookup s = some a) : (s, a) ∈ rows := by
  obtain ⟨before, after, rfl, -⟩ := List.lookup_eq_some_iff.mp h
  exact List.mem_append_right _ List.mem_cons_self

theorem encryptedAttachment_lawful (rules : Rules) : (codec rules .encryptedAttachment).Lawful where
  canonical {input v rest} hrd := by
    obtain ⟨hft, hinp⟩ := (EncryptedAttachment.decode_exact input v rest).mp hrd
    exact ⟨EncryptedAttachment.earlier_of_schema hft.2.2.2, hinp⟩
  legacy {schema read} hget {input v rest} hrd := by
    rcases List.mem_pair.mp (mem_of_lookup hget) with hver | hver
    all_goals
      cases hver
      obtain ⟨hft, hinp⟩ := (EncryptedAttachment.decodeEarlier_exact (by decide) input v rest).mp hrd
      exact ⟨EncryptedAttachment.earlier_of_schema hft.2.2.2, hinp⟩
  reads {v} hval := by
    have hft : EncryptedAttachment.Fits v ↔ EncryptedAttachment.schema v = .v3 := EncryptedAttachment.fits_iff hval
    have hexact := EncryptedAttachment.decode_exact (EncryptedAttachment.encode v) v []
    rw [List.append_nil, hft] at hexact
    exact hexact.trans (and_iff_left rfl)

/-- **Every row is lawful.** -/
theorem codec_lawful (rules : Rules) (kind : Kind) : (codec rules kind).Lawful := by
  -- a label only matched against a pattern, and terms, are the rows where a valid body need not fit
  cases kind with
  | text => exact .whole Text.roundTrip
  | conversationInvite => exact .whole ConversationInvite.roundTrip
  | conversationAccept => exact .whole ConversationAccept.roundTrip
  | presenceHint => exact .whole PresenceHint.roundTrip
  | giftAddressRequest | giftAddressResponse | giftSignedBOCOffer => exact .whole (Canonical.roundTrip (by decide) id)
  | taskRequest => exact .whole TaskRequest.roundTrip
  | taskProgress => exact .plain TaskProgress.decode_exact TaskProgress.fits_iff
  | taskResult => exact .whole TaskResult.roundTrip
  | taskStatusRequest => exact .whole TaskStatusRequest.roundTrip
  | negotiationProposal | negotiationCounterproposal | negotiationIntentAccept =>
    exact .plain NegotiationTerms.decode_exact NegotiationTerms.fits_iff
  | negotiationWithdraw | negotiationIntentReject => exact .whole NegotiationReason.roundTrip
  | intentApplication => exact .whole (Canonical.roundTrip (by decide) first_ok)
  | agreementPropose | agreementAccept | privateHandoffChallenge =>
    exact .whole (Committed.roundTrip (by decide) first_ok)
  | agreementEvidence | paidDemandProviderOffer | operationOutcome | privateHandoffAuthorization
  | privateHandoffAcknowledgement => exact .whole (TwiceCommitted.roundTrip (by decide) first_ok)
  | agreementWithdraw => exact .whole AgreementWithdraw.roundTrip
  | agreementDelivery => exact .whole AgreementDelivery.roundTrip
  | commerceProfileEvent => exact .whole (Committed.roundTrip rules.commerce.maxProfileEventBytes_lt first_ok)
  | privateHandoffStatus => exact .plain PrivateHandoffStatus.decode_exact PrivateHandoffStatus.fits_iff
  | privateHandoffDelete => exact .whole PrivateHandoffDelete.roundTrip
  | counterpartyApprovalRequest =>
    exact .plain CounterpartyApprovalRequest.decode_exact CounterpartyApprovalRequest.fits_iff
  | counterpartyApprovalGranted => exact .whole CounterpartyApprovalGranted.roundTrip
  | counterpartyApprovalDenied => exact .whole CounterpartyApprovalDenied.roundTrip
  | ownerApprovalGrant => exact .whole OwnerApprovalGrant.roundTrip
  | ownerApprovalDeny => exact .whole OwnerApprovalDeny.roundTrip
  | a2aMessage | mcpCall | mcpResult => exact .whole (Foreign.roundTrip (by decide +kernel) id)
  | agentPacketMessage => exact .whole (Foreign.roundTrip (by decide +kernel) And.left)
  | artifactOffer => exact .whole ArtifactOffer.roundTrip
  | artifactReference => exact .whole ArtifactReference.roundTrip
  | encryptedAttachment => exact encryptedAttachment_lawful rules
  | quoteReference | escrowReference | receiptReference => exact .whole ChainReference.roundTrip
  | deliveryAck => exact .whole DeliveryAck.roundTrip
  | applicationAck => exact .whole ApplicationAck.roundTrip
  | readAck => exact .whole ReadAck.roundTrip
  | deviceHistorySegment => exact .whole DeviceHistorySegment.roundTrip
  | roomInvite => exact .whole RoomInvite.roundTrip
  | roomMembershipCommit => exact .whole RoomMembershipCommit.roundTrip
  | roomMessage => exact .whole RoomMessage.roundTrip
  | roomModeration => exact .whole RoomModeration.roundTrip

/-! ## Domains -/

theorem utf8_append (a b : String) : Field.utf8 (a ++ b) = Field.utf8 a ++ Field.utf8 b := by
  show (a ++ b).toByteArray.data.toList = a.toByteArray.data.toList ++ b.toByteArray.data.toList
  rw [String.toByteArray_append, ByteArray.data_append, Array.toList_append]

/-- Two texts that end at their first zero byte are equal when what starts with them is. -/
theorem upTo_nul {s t x y : Bytes} (hs : 0 ∉ s) (ht : 0 ∉ t) (h : s ++ 0 :: x = t ++ 0 :: y) : s = t := by
  have hcut : ∀ {s x : Bytes}, 0 ∉ s → (s ++ 0 :: x).takeWhile (· ≠ 0) = s := by
    intro s x hs
    rw [List.takeWhile_append_of_pos]
    · simp
    · intro byte hby
      exact decide_eq_true fun hz => hs (hz ▸ hby)
  rw [← hcut hs, h, hcut ht]

/-- **Bytes behind the domain of one schema are not behind that of another.** -/
theorem domainFor_inj {s t : String} {x y : Bytes} (hs : 0 ∉ lit s) (ht : 0 ∉ lit t)
    (h : domainFor s ++ x = domainFor t ++ y) : s = t := by
  have hnul : Field.utf8 "\x00" = [0] := by decide +kernel
  unfold domainFor lit at h
  rw [utf8_append, utf8_append, utf8_append, utf8_append, hnul] at h
  simp only [List.append_assoc, List.append_cancel_left_eq, List.singleton_append] at h
  exact Field.utf8_inj (upTo_nul hs ht h)

/-! ## Decoding -/

open AttachmentSchema in
/-- What holds of every schema holds of one that is read. -/
theorem forall_decoderFor {P : String → Prop} (hcur : ∀ kind : Kind, P kind.schema) (hv1 : P v1.name) (hv2 : P v2.name)
    (h : decoderFor rules kind schema = some read) : P schema := by
  unfold decoderFor at h
  split_ifs at h with hsm
  · exact hsm ▸ hcur kind
  -- only attachments had other schemas
  cases kind with
  | encryptedAttachment =>
    rcases List.mem_pair.mp (mem_of_lookup h) with hrow | hrow
    · cases hrow
      exact hv1
    · cases hrow
      exact hv2
  | _ => cases h

theorem decoderFor_noNul (h : decoderFor rules kind schema = some read) : 0 ∉ lit schema := by
  refine forall_decoderFor (P := fun schema => 0 ∉ lit schema) (fun kind => ?_) ?_ ?_ h
  · cases kind <;> decide +kernel
  · decide +kernel
  · decide +kernel

/-- **What a decoder reads was written for it**, and answers to the schema it was read under. -/
theorem decoderFor_canonical (h : decoderFor rules kind schema = some read) {input rest : Bytes}
    {v : kind.Value} (hrd : read input = .ok (v, rest)) :
    (Body.mk kind v).schema rules = schema ∧ input = (codec rules kind).encode v ++ rest := by
  have hlaw := codec_lawful rules kind
  unfold decoderFor at h
  show ((codec rules kind).earlier v).getD kind.schema = schema ∧ _
  split_ifs at h with hcur
  · cases h
    obtain ⟨hearlier, hinp⟩ := hlaw.canonical hrd
    rw [hearlier]
    exact ⟨hcur.symm, hinp⟩
  obtain ⟨hearlier, hinp⟩ := hlaw.legacy h hrd
  rw [hearlier]
  exact ⟨rfl, hinp⟩

theorem decodeAs_ok (h : decodeAs rules kind schema content = .ok body) :
    ∃ read v written, decoderFor rules kind schema = some read ∧
      body = ⟨kind, v⟩ ∧ (codec rules kind).validate v = .ok () ∧ content = domainFor schema ++
        written ∧ read written = .ok (v, []) := by
  unfold decodeAs at h
  cases hrd : decoderFor rules kind schema with
  | none =>
    rw [hrd] at h
    cases h
  | some read =>
    rw [hrd] at h
    obtain ⟨v, hv, h⟩ := seq_ok.mp h
    obtain ⟨_, hval, h⟩ := seq_ok.mp h
    obtain ⟨written, hco, hwrt⟩ := readPreimage_ok.mp hv
    cases h
    exact ⟨read, v, written, rfl, rfl, hval, hco, hwrt⟩

theorem decodeSchema_ok (h : decodeSchema rules name schema content = .ok body) :
    ∃ kind, Kind.ofName name = some kind ∧ decodeAs rules kind schema content = .ok body := by
  unfold decodeSchema withKind at h
  cases hki : Kind.ofName name with
  | none =>
    rw [hki] at h
    cases h
  | some kind =>
    rw [hki] at h
    exact ⟨kind, rfl, h⟩

/-- A kind's own schema is one of those it is read under. -/
theorem decode_schema (h : decode rules name content = .ok body) :
    ∃ schema, decodeSchema rules name schema content = .ok body := by
  unfold decode withKind at h
  split at h
  · cases h
  next kind hki =>
    refine ⟨kind.schema, ?_⟩
    unfold decodeSchema withKind
    rw [hki]
    exact h

/-- What was decoded is of the kind that was named, and valid. -/
theorem decode_ok (h : decode rules name content = .ok body) :
    Kind.ofName name = some body.kind ∧ body.validate rules = .ok () := by
  obtain ⟨schema, h⟩ := decode_schema h
  obtain ⟨kind, hki, h⟩ := decodeSchema_ok h
  obtain ⟨read, v, written, -, rfl, hval, -, -⟩ := decodeAs_ok h
  exact ⟨hki, hval⟩

/-- What was decoded is encoded to the same bytes. -/
theorem encode_decodeSchema (h : decodeSchema rules name schema content = .ok body) :
    encode rules body = .ok content ∧ body.schema rules = schema ∧ 0 ∉ lit schema ∧
      ∃ written, content = domainFor schema ++ written := by
  obtain ⟨kind, -, h⟩ := decodeSchema_ok h
  obtain ⟨read, v, written, hrd, rfl, hval, rfl, hwrt⟩ := decodeAs_ok h
  obtain ⟨hsch, hinp⟩ := decoderFor_canonical hrd hwrt
  refine ⟨seq_ok.mpr ⟨(), hval, ?_⟩, hsch, decoderFor_noNul hrd, written, rfl⟩
  rw [hsch, hinp, List.append_nil]
  rfl

/-- **One encoding for each body.** Bytes that decode, under the schema of their kind or under an
    earlier one, are the encoding of what they decode to. So two byte strings of one schema do not
    decode to the same body, and one byte string does not decode under two schemas. -/
theorem decode_canonical (rules : Rules) :
    (∀ name content body, decode rules name content = .ok body → encode rules body = .ok content) ∧
      (∀ name schema content body, decodeSchema rules name schema content = .ok body →
        encode rules body = .ok content) ∧
      (∀ name name' schema content content' body, decodeSchema rules name schema content = .ok body →
        decodeSchema rules name' schema content' = .ok body → content = content') ∧
      ∀ name name' schema schema' content body body', decodeSchema rules name schema content = .ok body →
        decodeSchema rules name' schema' content = .ok body' → schema = schema' := by
  refine ⟨?_, ?_, ?_, ?_⟩
  · intro name content body h
    obtain ⟨schema, hsch⟩ := decode_schema h
    exact (encode_decodeSchema hsch).1
  · intro name schema content body h
    exact (encode_decodeSchema h).1
  · intro name name' schema content content' body h h'
    have hsm := (encode_decodeSchema h).1
    rw [(encode_decodeSchema h').1] at hsm
    exact (Except.ok.inj hsm).symm
  intro name name' schema schema' content body body' h h'
  obtain ⟨-, -, hnul, written, hco⟩ := encode_decodeSchema h
  obtain ⟨-, -, hnul', written', hcontent'⟩ := encode_decodeSchema h'
  exact domainFor_inj hnul hnul' (hco.symm.trans hcontent')

/-! ## Reading back what was written -/

theorem decode_name (kind : Kind) (content : Bytes) :
    decode rules kind.name content = decodeAs rules kind kind.schema content := by
  rw [decode, withKind, Kind.ofName_name]

/-- **Which bodies are read back.** Of the bodies that validate and are encoded, exactly the
    readable ones are decoded to themselves under their kind. -/
theorem encode_readable (rules : Rules) (body : Body) (content : Bytes) (h : encode rules body = .ok content) :
    decode rules body.kind.name content = .ok body ↔ body.Readable := by
  obtain ⟨kind, v⟩ := body
  obtain ⟨_, hval, hco⟩ := seq_ok.mp h
  have hlaw := codec_lawful rules kind
  have hreads : (codec rules kind).decode ((codec rules kind).encode v) = .ok (v, []) ↔ kind.Readable v :=
    hlaw.reads hval
  have hcur : decoderFor rules kind kind.schema = some (codec rules kind).decode := if_pos rfl
  show decode rules kind.name content = .ok ⟨kind, v⟩ ↔ kind.Readable v
  rw [decode_name, ← hreads]
  constructor
  · intro hdec
    obtain ⟨read, v', written, hrd, hbo, -, -, hwrt⟩ := decodeAs_ok hdec
    cases hbo
    rw [hcur] at hrd
    cases hrd
    obtain ⟨-, hinp⟩ := hlaw.canonical hwrt
    rw [List.append_nil] at hinp
    rw [← hinp]
    exact hwrt
  · intro hrd
    obtain ⟨hearlier, -⟩ := hlaw.canonical hrd
    have hsch : (Body.mk kind v).schema rules = kind.schema := by
      show ((codec rules kind).earlier v).getD kind.schema = kind.schema
      rw [hearlier, Option.getD_none]
    cases hco
    have hvl : readPreimage (domainFor kind.schema) (codec rules kind).decode
        (domainFor ((Body.mk kind v).schema rules) ++ (codec rules kind).encode v) = .ok v :=
      readPreimage_ok.mpr ⟨_, by rw [hsch], hrd⟩
    unfold decodeAs
    rw [hcur]
    exact seq_ok.mpr ⟨v, hvl, seq_ok.mpr ⟨(), hval, rfl⟩⟩

/-- Rules under which nothing of another package is accepted. -/
def refusing : Rules where
  commerce := {
    maxProfileEventBytes := 0
    maxProfileEventBytes_lt := by decide
    intentApplication := fun _ => .error .unknown
    agreementBody := fun _ => .error .unknown
    agreementAcceptance := fun _ => .error .unknown
    agreementEvidence := fun _ => none
    providerOffer := fun _ => none
    profileEvent := fun _ => .error .unknown
    operationRequest := fun _ => none
    handoffChallenge := fun _ => .error .unknown
    handoffAuthorization := fun _ => .error .unknown
    handoffAcknowledgement := fun _ => .error .unknown }
  attachments := {
    decodeReferenceJSON := fun _ => .error .unknown
    decodeGrantJSON := fun _ => .error .unknown
    publicKey := id
    parseAddr := fun _ => false
    parseAddr_ascii := fun _ h => by cases h }

/-- A report of progress at a stage. -/
def progress (stage : Bytes) : Body :=
  ⟨.taskProgress, { taskID := lit "task", stage, percentComplete := 0, note := [] : TaskProgress }⟩

def progressBytes (stage : Bytes) : Bytes := ((encode refusing (progress stage)).toOption).getD []

/-- A report at a short stage is read back. -/
theorem encode_readable_progress :
    encode refusing (progress (lit "running")) = .ok (progressBytes (lit "running")) ∧
      (decode refusing "agent.task.progress" (progressBytes (lit "running")) = .ok (progress (lit "running")) ↔
        (progress (lit "running")).Readable) :=
  ⟨by decide +kernel, encode_readable refusing (progress (lit "running")) _ (by decide +kernel)⟩

/-- A stage of 513 letters passes the check, is encoded, and is refused by the reader. -/
theorem long_stage_refused :
    encode refusing (progress (List.replicate 513 97)) = .ok (progressBytes (List.replicate 513 97)) ∧
      decode refusing "agent.task.progress" (progressBytes (List.replicate 513 97)) ≠
        .ok (progress (List.replicate 513 97)) := by
  refine ⟨by decide +kernel, ?_⟩
  intro h
  have href : (decode refusing "agent.task.progress" (progressBytes (List.replicate 513 97))).isOk = false := by
    decide +kernel
  rw [h] at href
  cases href

end Messenger.Payload
