import Mathlib.Algebra.Group.Nat.Defs
import Mathlib.Data.Nat.Basic
import Mathlib.Order.Defs.LinearOrder

/-!
# `Messenger.Base` — identifiers, machine words, time and failures

What every package of the messenger shares.

- **Identifiers.** Every identifier is a fixed tag followed by 64 lowercase hexadecimal digits
  (`internal/ids`), that is, 256 bits under a kind. The pattern checks the source makes on entry are
  therefore types here, and the order of the texts is the order of the digests.
- **Words.** A `uint64` is a `Nat`; where the source's addition can wrap, `wrap64` says so.
- **Time.** A time is its Unix seconds as an `Int`. The source's guard
  `now.IsZero() || now.Unix() < 0` is `now < 0`: the zero time lies before the epoch.
- **Failures.** The sentinel errors of `pkg/eventlog`, `pkg/negotiation`, `pkg/room` and `pkg/e2ee`
  are constructors, every other error carries its text. A validation is a sequence of `failIf`
  checks.
- **Retry.** The fault codes of `pkg/fault` with their dispositions and the fixed backoff curve.
-/

namespace Messenger

/-! ## Identifiers -/

/-- What an identifier names; the source's tag is given beside each. -/
inductive IdKind where
  /-- `agent_` -/
  | agent
  /-- `mep_` -/
  | endpoint
  /-- `dev_` -/
  | device
  /-- `conv_` -/
  | conversation
  /-- `evt_` -/
  | event
  /-- `ses_` -/
  | session
  /-- `room_` -/
  | room
  /-- `lease_` -/
  | lease
  /-- `send_` -/
  | attempt
  /-- `cap_` -/
  | capability
  /-- `idem_` -/
  | idempotency
  deriving DecidableEq, Repr

/-- An identifier of one kind: the 64 hexadecimal digits after its tag. -/
structure Identifier (kind : IdKind) where
  digest : BitVec 256
  deriving DecidableEq, Repr

instance {kind : IdKind} : LE (Identifier kind) := ⟨fun a b => a.digest ≤ b.digest⟩

instance {kind : IdKind} : DecidableLE (Identifier kind) :=
  fun a b => inferInstanceAs (Decidable (a.digest ≤ b.digest))

instance {kind : IdKind} : LawfulBEq (Identifier kind) := inferInstance

instance digestLawfulBEq : LawfulBEq (BitVec 256) := inferInstance

abbrev AgentID := Identifier .agent
abbrev EndpointID := Identifier .endpoint
abbrev DeviceID := Identifier .device
abbrev ConversationID := Identifier .conversation
abbrev EventID := Identifier .event
abbrev SessionID := Identifier .session
abbrev RoomID := Identifier .room
abbrev LeaseID := Identifier .lease
abbrev AttemptID := Identifier .attempt
abbrev CapabilityID := Identifier .capability
abbrev IdempotencyKey := Identifier .idempotency

/-- Uninterpreted bytes: an encoded event, a session state, a ciphertext. -/
abbrev Bytes := List UInt8

instance : LawfulBEq Bytes := inferInstance

/-! ## Words and time -/

variable {p : Prop} (n : Nat)

/-- The value of a `uint64` expression. -/
def wrap64 : Nat := n % 2 ^ 64

/-- `generation + 1` on a `uint64`. -/
def succ64 : Nat := wrap64 (n + 1)

theorem succ64_lt : succ64 n < 2 ^ 64 := Nat.mod_lt _ (by decide)

/-- Short of the last value the successor does not wrap. -/
theorem succ64_eq {n : Nat} (hn : n < 2 ^ 64) (h : succ64 n ≠ 0) : succ64 n = n + 1 := by
  unfold succ64 wrap64 at *
  omega

/-- Unix seconds. -/
abbrev Time := Int

/-- The bounds of a lease, in seconds. -/
def minLeaseSeconds : Nat := 1
def maxLeaseSeconds : Nat := 60 * 60

/-! ## Failures -/

/-- An error as a caller can tell it apart: the sentinels by name, the rest by text. -/
inductive Failure where
  /-- `os.ErrNotExist`: there is no such record. -/
  | notExist
  | conflict
  | unknown
  | notAdmitted
  | leaseMismatch
  | applicationKind
  | sessionConflict
  | notPending
  | alreadySealed
  | pendingFull
  | moderationTargetMissing
  | moderationRollback
  | moderationGap
  | approvalUnknown
  | approvalDecided
  | approvalNotGranted
  | mandateUnknown
  | mandateRevoked
  | mandatesFull
  | budgetExceeded
  | poisoned
  | finalizedQuoteMismatch
  | negotiationsFull
  | emptyRoom
  | roomFull
  | epochExhausted
  | noChange
  | roomRollback
  | roomGap
  | roomRoleRollback
  | roomRoleGap
  | setRollback
  | setEquivocation
  | other (text : String)
  deriving DecidableEq, Repr

/-- The error's text. -/
def Failure.text : Failure → String
  | .notExist => "file does not exist"
  | .conflict => "event identity conflicts with an existing claim"
  | .unknown => "event has no journal record"
  | .notAdmitted => "event has not been admitted"
  | .leaseMismatch => "application lease does not hold this event"
  | .applicationKind => "event belongs to another application adapter"
  | .sessionConflict => "session advanced while this transition was being prepared"
  | .notPending => "delivery is not awaiting an attempt"
  | .alreadySealed => "delivery has already been sealed"
  | .pendingFull => "this installation holds as many undecided events as it may"
  | .moderationTargetMissing => "room moderation target is not present"
  | .moderationRollback => "room moderation decision revision regressed"
  | .moderationGap => "room moderation decision skipped an unseen revision"
  | .approvalUnknown => "no approval request for this action"
  | .approvalDecided => "this approval was already decided"
  | .approvalNotGranted => "this action is not authorised"
  | .mandateUnknown => "no such mandate"
  | .mandateRevoked => "this mandate was withdrawn"
  | .mandatesFull => "this installation holds as many mandates as it may"
  | .budgetExceeded => "this would commit more than the budget allows"
  | .poisoned => "this negotiation's last write failed and it must be reloaded"
  | .finalizedQuoteMismatch => "the finalized quote does not match the expected purchase"
  | .negotiationsFull => "this installation carries as many negotiations as it may"
  | .emptyRoom => "a room with no members is not a room"
  | .roomFull => "a room may not hold this many members"
  | .epochExhausted => "a room has exhausted its epoch counter"
  | .noChange => "a membership transition must change the member set"
  | .roomRollback => "the room's epoch regressed"
  | .roomGap => "the room's epoch skipped an unseen transition"
  | .roomRoleRollback => "the room role-policy revision regressed"
  | .roomRoleGap => "the room role-policy revision skipped an unseen transition"
  | .setRollback => "prekey device set rolled back"
  | .setEquivocation => "prekey device set equivocated"
  | .other text => text

/-- One check of a validation: stop with the text when the condition holds. -/
def failIf (p : Prop) [Decidable p] (text : String) : Except Failure Unit :=
  if p then .error (.other text) else .ok ()

theorem failIf_ok [Decidable p] {text : String} {u : Unit} : failIf p text = .ok u ↔ ¬p := by
  unfold failIf
  split_ifs with hp
  · simp [hp]
  · simp [hp]

variable {ε α β : Type} {f : α → Except ε β} {l : List α} {bs : List β} {bytes : Nat}

/-- A sequence of checks passes when each does. -/
theorem seq_ok {x : Except ε α} {b : β} : (x >>= f) = .ok b ↔ ∃ a, x = .ok a ∧ f a = .ok b := by
  cases x with
  | error e => exact ⟨fun h => (by cases h), fun ⟨_, h, _⟩ => (by cases h)⟩
  | ok a => exact ⟨fun h => ⟨a, rfl, h⟩, fun ⟨_, h, hf⟩ => (by cases h; exact hf)⟩

/-- A check and what follows it. -/
theorem failIf_then [Decidable p] {text : String} {f : Unit → Except Failure α} {a : α} :
    (failIf p text >>= f) = .ok a ↔ ¬p ∧ f () = .ok a := by
  rw [seq_ok]
  exact ⟨fun ⟨(), hp, hf⟩ => ⟨failIf_ok.mp hp, hf⟩, fun ⟨hp, hf⟩ => ⟨(), failIf_ok.mpr hp, hf⟩⟩

theorem map_ok {x : Except ε α} {f : α → β} {b : β} : x.map f = .ok b ↔ ∃ a, x = .ok a ∧ f a = b := by
  cases x with
  | error e => exact ⟨fun h => (by cases h), fun ⟨_, h, _⟩ => (by cases h)⟩
  | ok a => exact ⟨fun h => ⟨a, rfl, Except.ok.inj h⟩, fun ⟨_, h, hf⟩ => (by cases h; exact congrArg _ hf)⟩

/-- A list is mapped when each of its elements is. -/
theorem mapM_cons_ok {a : α} (h : (a :: l).mapM f = .ok bs) :
    ∃ b rest, f a = .ok b ∧ l.mapM f = .ok rest ∧ bs = b :: rest := by
  rw [List.mapM_cons] at h
  obtain ⟨b, hb, h⟩ := seq_ok.mp h
  obtain ⟨rest, hre, h⟩ := seq_ok.mp h
  exact ⟨b, rest, hb, hre, (Except.ok.inj h).symm⟩

theorem mapM_length (h : l.mapM f = .ok bs) : bs.length = l.length := by
  induction l generalizing bs with
  | nil => cases h; rfl
  | cons a l ih =>
    obtain ⟨b, rest, -, hre, rfl⟩ := mapM_cons_ok h
    rw [List.length_cons, List.length_cons, ih hre]

theorem mapM_ok_mem (h : l.mapM f = .ok bs) : (∀ a ∈ l, ∃ b ∈ bs, f a = .ok b) ∧ ∀ b ∈ bs, ∃ a ∈ l, f a = .ok b := by
  induction l generalizing bs with
  | nil =>
    cases h
    exact ⟨List.forall_mem_nil _, List.forall_mem_nil _⟩
  | cons a l ih =>
    obtain ⟨b, rest, hb, hre, rfl⟩ := mapM_cons_ok h
    obtain ⟨hforth, hback⟩ := ih hre
    refine ⟨List.forall_mem_cons.mpr ⟨⟨b, List.mem_cons_self, hb⟩, fun x hx => ?_⟩,
      List.forall_mem_cons.mpr ⟨⟨a, List.mem_cons_self, hb⟩, fun y hy => ?_⟩⟩
    · exact (hforth x hx).imp fun _ => .imp_left (List.mem_cons_of_mem _)
    · exact (hback y hy).imp fun _ => .imp_left (List.mem_cons_of_mem _)

theorem mapM_ok_of_forall (h : ∀ a ∈ l, ∃ b, f a = .ok b) : ∃ bs, l.mapM f = .ok bs := by
  induction l with
  | nil => exact ⟨[], rfl⟩
  | cons a l ih =>
    obtain ⟨b, hb⟩ := h a List.mem_cons_self
    obtain ⟨bs, hbs⟩ := ih fun x hx => h x (List.mem_cons_of_mem _ hx)
    exact ⟨b :: bs, by rw [List.mapM_cons, hb, hbs]; rfl⟩

/-- Every error of a check is a text of at most `bytes` bytes, and none of the sentinels. -/
def Terse {α : Type} (bytes : Nat) (x : Except Failure α) : Prop :=
  ∀ e, x = .error e → ∃ text, e = .other text ∧ text.utf8ByteSize ≤ bytes

theorem terse_ok (a : α) : Terse bytes (.ok a : Except Failure α) := fun _ h => nomatch h

theorem terse_other {text : String} (h : text.utf8ByteSize ≤ bytes) :
    Terse bytes (.error (.other text) : Except Failure α) := by
  intro e he
  cases he
  exact ⟨text, rfl, h⟩

theorem terse_failIf [Decidable p] {text : String} (h : text.utf8ByteSize ≤ bytes) : Terse bytes (failIf p text) := by
  unfold failIf
  split_ifs
  · exact terse_other h
  · exact terse_ok ()

theorem terse_bind {x : Except Failure α} {f : α → Except Failure β} (hx : Terse bytes x)
    (hf : ∀ a, Terse bytes (f a)) : Terse bytes (x >>= f) := by
  intro e he
  cases x with
  | error e' => cases he; exact hx e rfl
  | ok a => exact hf a e he

/-- A check with a short text. -/
theorem terse_check [Decidable p] {text : String} {f : Unit → Except Failure α} (hf : Terse bytes (f ()))
    (h : text.utf8ByteSize ≤ bytes := by decide) : Terse bytes (failIf p text >>= f) :=
  terse_bind (terse_failIf h) fun _ => hf

/-! ## Fault codes and the retry schedule -/

namespace Fault

/-- What a caller may do after a failure. -/
inductive Disposition where
  | permanent
  | transient
  | refresh
  | approval
  deriving DecidableEq, Repr

/-- A classified failure. The source's codes are texts checked against a registry; these are its
    keys. -/
inductive Code where
  | networkMismatch | delegationUncommitted | delegationExpired | agentTombstoned | deviceRevoked
  | signatureInvalid | senderMismatch
  | descriptorExpired | descriptorUnbound | locatorStale | noRouteAdvertised
  | unreachable | timeout | rateLimited | oversized
  | notAuthentic | replayed | sessionExpired | suiteUnsupported
  | classNotDelegated | admissionRequired | unknownEventKind | notARoomMember | contentTooLarge
  | payloadMalformed | eventOutsideWindow | approvalRequired
  | relayFull | retentionExceeded | quotaExceeded
  | internal | rejected
  deriving DecidableEq, Repr

/-- A code's text on the wire. -/
def Code.text : Code → String
  | .networkMismatch => "network-mismatch"
  | .delegationUncommitted => "delegation-uncommitted"
  | .delegationExpired => "delegation-expired"
  | .agentTombstoned => "agent-tombstoned"
  | .deviceRevoked => "device-revoked"
  | .signatureInvalid => "signature-invalid"
  | .senderMismatch => "sender-mismatch"
  | .descriptorExpired => "descriptor-expired"
  | .descriptorUnbound => "descriptor-unbound"
  | .locatorStale => "locator-stale"
  | .noRouteAdvertised => "no-route-advertised"
  | .unreachable => "unreachable"
  | .timeout => "timeout"
  | .rateLimited => "rate-limited"
  | .oversized => "oversized"
  | .notAuthentic => "not-authentic"
  | .replayed => "replayed"
  | .sessionExpired => "session-expired"
  | .suiteUnsupported => "suite-unsupported"
  | .classNotDelegated => "class-not-delegated"
  | .admissionRequired => "admission-required"
  | .unknownEventKind => "unknown-event-kind"
  | .notARoomMember => "not-a-room-member"
  | .contentTooLarge => "content-too-large"
  | .payloadMalformed => "payload-malformed"
  | .eventOutsideWindow => "event-outside-window"
  | .approvalRequired => "approval-required"
  | .relayFull => "relay-full"
  | .retentionExceeded => "retention-exceeded"
  | .quotaExceeded => "quota-exceeded"
  | .internal => "internal"
  | .rejected => "rejected"

/-- Every classified code. -/
def codes : List Code := [.networkMismatch, .delegationUncommitted, .delegationExpired, .agentTombstoned,
  .deviceRevoked, .signatureInvalid, .senderMismatch, .descriptorExpired, .descriptorUnbound,
  .locatorStale, .noRouteAdvertised, .unreachable, .timeout, .rateLimited, .oversized, .notAuthentic,
  .replayed, .sessionExpired, .suiteUnsupported, .classNotDelegated, .admissionRequired,
  .unknownEventKind, .notARoomMember, .contentTooLarge, .payloadMalformed, .eventOutsideWindow,
  .approvalRequired, .relayFull, .retentionExceeded, .quotaExceeded, .internal, .rejected]

/-- Is the text a classified code? -/
def known (code : String) : Bool := codes.any fun c => c.text == code

/-- The registry's disposition of each code. -/
def dispositionOf : Code → Disposition
  | .delegationUncommitted | .delegationExpired | .descriptorExpired | .locatorStale | .sessionExpired
  | .admissionRequired | .notARoomMember => .refresh
  | .unreachable | .timeout | .rateLimited | .relayFull | .quotaExceeded | .internal => .transient
  | .approvalRequired => .approval
  | .networkMismatch | .agentTombstoned | .deviceRevoked | .signatureInvalid | .senderMismatch
  | .descriptorUnbound | .noRouteAdvertised | .oversized | .notAuthentic | .replayed | .suiteUnsupported
  | .classNotDelegated | .unknownEventKind | .contentTooLarge | .payloadMalformed | .eventOutsideWindow
  | .retentionExceeded | .rejected => .permanent

/-- The bounds of one disposition's schedule, in seconds. -/
structure Schedule where
  base : Nat
  cap : Nat
  attempts : Nat

def transientSchedule : Schedule := { base := 1, cap := 5 * 60, attempts := 8 }
def refreshSchedule : Schedule := { base := 5, cap := 15 * 60, attempts := 4 }

/-- What a caller should do next. `after` is in seconds and read only when `allowed`. -/
structure Retry where
  disposition : Disposition
  allowed : Bool := false
  after : Nat := 0
  final : Bool := false
  resolveFirst : Bool := false
  deriving DecidableEq, Repr

/-- The doubling loop of `backoff`, from a delay reached so far. -/
def backoffFrom (cap : Nat) : Nat → Nat → Nat
  | delay, 0 => if delay > cap then cap else delay
  | delay, n + 1 => if delay > cap / 2 then cap else backoffFrom cap (delay * 2) n

/-- Double from the base to the cap; the first attempt is 1. -/
def backoff (s : Schedule) (attempt : Nat) : Nat := backoffFrom s.cap s.base (attempt - 1)

/-- The retry decision for a code. -/
def nextCode (code : Code) (attempt : Nat) : Retry :=
  let attempt := if attempt < 1 then 1 else attempt
  match dispositionOf code with
  | .transient =>
    if attempt > transientSchedule.attempts then { disposition := .transient, final := true }
    else { disposition := .transient, allowed := true, after := backoff transientSchedule attempt }
  | .refresh =>
    if attempt > refreshSchedule.attempts then { disposition := .refresh, final := true }
    else { disposition := .refresh, allowed := true, after := backoff refreshSchedule attempt, resolveFirst := true }
  | .approval => { disposition := .approval }
  | .permanent => { disposition := .permanent, final := true }

end Fault

end Messenger
