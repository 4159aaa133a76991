import Messenger.Eventlog.Inbound

/-!
# `Eventlog.Outbound` — the delivery queue and the sealing commit

An outbound event is queued once (`enqueue`), claimed by one send attempt at a time
(`claimForSend`), sealed under that claim (`commitSealed`), and settled by it (`failed`,
`delivered`) or by the owner (`abandon`, `resume`). `commitSealed` is the one operation that touches
two records: it advances the session **first** and stores the ciphertext second, so a crash between
the two spends a generation and loses a ciphertext, never the other way round.
-/

namespace Messenger.Eventlog

open Lib
open Lib.Durable (read write fail lift)

def maxCiphertextBytes : Nat := maxPayloadBytes + 4 * 2 ^ 10

/-- Commit a delivery's new body. -/
def commitDelivery (path : DeliveryPath) (delivery : Delivery) : Region Delivery := do
  write (.delivery path delivery)
  pure delivery

/-- The delivery an operation on an existing outbound event works on. -/
def knownDelivery (path : DeliveryPath) : Region Delivery := do
  let j ← read
  lift (orUnknown (readDelivery j path))

/-! ## Queueing -/

/-- A request to deliver one event. -/
structure OutboundRequest where
  copyID : Option (BitVec 256)
  eventID : EventID
  sessionID : SessionID
  recipientEndpointID : EndpointID
  recipientDeviceID : Option DeviceID
  conversationID : ConversationID
  payload : Bytes
  createdAt : Nat
  expiresAt : Nat
  deriving DecidableEq, Repr

variable (deliveryID : DeliveryID) (d : Delivery) (attemptID : AttemptID) (now : Time) (request : OutboundRequest)

def validateOutbound : Except Failure Unit :=
  if request.copyID.isSome ∧ request.recipientDeviceID.isNone then
    .error (.other "a delivery copy needs a recipient device")
  else if request.payload.length = 0 ∨ maxPayloadBytes < request.payload.length then
    .error (.other "invalid queued event payload")
  else if request.createdAt = 0 ∨ request.expiresAt ≤ request.createdAt then
    .error (.other "invalid delivery validity window")
  else .ok ()

/-- The record of a fresh delivery. -/
def OutboundRequest.delivery : Delivery where
  copyID := request.copyID
  eventID := request.eventID
  sessionID := request.sessionID
  payload := request.payload
  recipientEndpointID := request.recipientEndpointID
  recipientDeviceID := request.recipientDeviceID
  conversationID := request.conversationID
  state := .pending
  nextAttemptAt := request.createdAt
  createdAt := request.createdAt
  expiresAt := request.expiresAt

/-- A delivery presented again must be the delivery already queued. -/
def Delivery.sameRequest : Bool :=
  d.recipientEndpointID = request.recipientEndpointID && d.recipientDeviceID = request.recipientDeviceID &&
    d.conversationID = request.conversationID && d.sessionID = request.sessionID && d.payload = request.payload

/-- Record an outbound event exactly once; queueing it again resets nothing. -/
def enqueue : Region (Bool × Delivery) := do
  lift (validateOutbound request)
  let path := request.delivery.key.path
  let j ← read
  match lookup path j.outbound with
  | none => do
    write (.delivery path request.delivery)
    pure (true, request.delivery)
  | some _ => do
    let existing ← lift (readDelivery j path)
    if existing.sameRequest request then pure (false, existing) else fail .conflict

/-! ## Attempts -/

/-- The deliveries a sweep over `outbound` sees, in directory order. -/
def readableDeliveries (j : Journal) : List Delivery :=
  (Dir.names j.outbound).filterMap fun path => (readDelivery j path).toOption

variable (seconds : Nat)

def Delivery.dueAt : Bool :=
  d.state = .pending && seconds < d.expiresAt && d.nextAttemptAt ≤ seconds && d.attemptExpiresAt ≤ seconds

/-- The order of two delivery keys: a `cpy_` text is below an `evt_` text. -/
def DeliveryID.le : DeliveryID → DeliveryID → Bool
  | .copy a, .copy b => a ≤ b
  | .copy _, .event _ => true
  | .event _, .copy _ => false
  | .event a, .event b => a ≤ b

def Delivery.before (a b : Delivery) : Bool :=
  a.nextAttemptAt < b.nextAttemptAt || (a.nextAttemptAt = b.nextAttemptAt && a.key.le b.key)

/-- The deliveries whose next attempt has arrived, oldest first. -/
def due (j : Journal) (now : Time) : Except Failure (List Delivery) :=
  if now < 0 then .error (.other "invalid delivery sweep time")
  else .ok (((readableDeliveries j).filter fun d => d.dueAt now.toNat).insertionSort fun a b => a.before b)

/-- The body under a send attempt's claim. -/
def Delivery.claimed (expiresAt : Nat) : Delivery :=
  { d with attemptID := some attemptID, attemptExpiresAt := expiresAt }

/-- Take one sweep's claim on a delivery. `lease` is in whole seconds. -/
def claimForSend (lease : Nat) : Region Delivery :=
  if now < 0 then fail (.other "invalid send claim time")
  else if lease < minLeaseSeconds ∨ maxLeaseSeconds < lease then fail (.other "send lease is outside its bounds")
  else do
    let delivery ← knownDelivery deliveryID.path
    if delivery.state ≠ .pending then fail .notPending
    else if now.toNat < delivery.attemptExpiresAt ∧ delivery.attemptID ≠ some attemptID then fail .leaseMismatch
    else commitDelivery deliveryID.path (delivery.claimed attemptID (now.toNat + lease))

/-- A request to commit one seal: the transition of the session and the ciphertext it produced. -/
structure SealRequest where
  sessionID : SessionID
  algorithm : AlgorithmID
  expectedGeneration : Nat
  next : Bytes
  deliveryID : DeliveryID
  attemptID : AttemptID
  ciphertext : Bytes
  now : Time
  deriving DecidableEq, Repr

/-- Who may seal: the pending delivery's own session, its holding attempt, an unexpired claim, and
    only once. -/
def Delivery.sealable (q : SealRequest) : Except Failure Unit :=
  if d.state ≠ .pending then .error .notPending
  else if d.sessionID ≠ q.sessionID then .error (.other "sealed message belongs to another session")
  else if d.attemptID ≠ some q.attemptID then .error .leaseMismatch
  else if d.attemptExpiresAt ≠ 0 ∧ d.attemptExpiresAt ≤ q.now.toNat then .error .leaseMismatch
  else if d.ciphertext ≠ [] then .error .alreadySealed
  else .ok ()

/-- Advance the session, then store the ciphertext. -/
def commitSealed (env : Env) (q : SealRequest) : Region Delivery := do
  lift (validateSessionInput q.next q.now)
  if q.ciphertext.length = 0 ∨ maxCiphertextBytes < q.ciphertext.length then fail (.other "invalid sealed ciphertext")
  else do
    let delivery ← knownDelivery q.deliveryID.path
    lift (delivery.sealable q)
    advanceSession env q.sessionID q.algorithm q.expectedGeneration q.next q.now
    commitDelivery q.deliveryID.path { delivery with ciphertext := q.ciphertext }

/-! ## Settling -/

/-- A settlement from a sweep whose claim was superseded is refused. -/
def holdsAttempt : Except Failure Unit :=
  if d.attemptID = some attemptID then .ok () else .error .leaseMismatch

/-- The body once no further attempt is to be made. -/
def Delivery.settled (state : DeliveryState) (seconds : Nat) : Delivery :=
  { d with state, nextAttemptAt := 0, attemptID := none, attemptExpiresAt := 0, settledAt := seconds }

/-- The body after a failed attempt: the code's disposition decides, never the caller. -/
def Delivery.afterFailure (code : Fault.Code) (seconds : Nat) : Delivery :=
  let d :=
    { d with
      attempts := (d.attempts + 1) % 2 ^ 32, attemptID := none, attemptExpiresAt := 0, lastCode := some code }
  let retry := Fault.nextCode code d.attempts
  if d.expiresAt ≤ seconds then { d with state := .abandoned, nextAttemptAt := 0, settledAt := seconds }
  else if retry.allowed then
    if d.expiresAt ≤ seconds + retry.after then
      { d with state := .abandoned, nextAttemptAt := 0, settledAt := seconds }
    else { d with nextAttemptAt := seconds + retry.after }
  else if retry.disposition = .approval then { d with state := .held, nextAttemptAt := 0 }
  else { d with state := .abandoned, nextAttemptAt := 0, settledAt := seconds }

/-- Record a failed attempt. -/
def failed (code : Fault.Code) (now : Time) : Region Delivery :=
  if now < 0 then fail (.other "invalid delivery attempt time")
  else do
    let delivery ← knownDelivery deliveryID.path
    if delivery.state ≠ .pending then fail .notPending
    else do
      lift (holdsAttempt delivery attemptID)
      commitDelivery deliveryID.path (delivery.afterFailure code now.toNat)

/-- The attempt a settlement names. Its text is not checked, so it may be empty or no identifier at
    all. -/
inductive AttemptArgument where
  | empty
  | named (attemptID : AttemptID)
  | malformed
  deriving DecidableEq, Repr

/-- Settle a waiting delivery; with an attempt, only the attempt that holds it may. -/
def settle (deliveryID : DeliveryID) (attempt : AttemptArgument) (state : DeliveryState)
    (now : Time) : Region Delivery :=
  if now < 0 then fail (.other "invalid delivery settle time")
  else do
    let delivery ← knownDelivery deliveryID.path
    if delivery.state ≠ .pending ∧ delivery.state ≠ .held then fail .notPending
    else do
      lift (match attempt with
        | .empty => .ok ()
        | .named attemptID => holdsAttempt delivery attemptID
        | .malformed => .error .leaseMismatch)
      commitDelivery deliveryID.path (delivery.settled state now.toNat)

def delivered (deliveryID : DeliveryID) (attempt : AttemptArgument) (now : Time) : Region Delivery :=
  settle deliveryID attempt .delivered now

def abandon : Region Delivery :=
  settle deliveryID .empty .abandoned now

/-- The body once the decision a delivery was held for has been made. -/
def Delivery.resumed : Delivery :=
  { d with state := .pending, nextAttemptAt := seconds, attemptID := none, attemptExpiresAt := 0 }

/-- Return a held delivery to the queue. -/
def resume (deliveryID : DeliveryID) (now : Time) : Region Delivery :=
  if now < 0 then fail (.other "invalid delivery resume time")
  else do
    let delivery ← knownDelivery deliveryID.path
    if delivery.state ≠ .held then fail .notPending
    else if delivery.expiresAt ≤ now.toNat then fail (.other "delivery expired while it was held")
    else commitDelivery deliveryID.path (delivery.resumed now.toNat)

/-- The body of a delivery that outlived its own expiry. -/
def Delivery.expiredOut : Delivery :=
  { d.settled .abandoned seconds with lastCode := d.lastCode.or (some .timeout) }

/-- One directory entry of the expiry sweep. -/
def expireDelivery (path : DeliveryPath) : Region Nat := do
  let j ← read
  match readDelivery j path with
  | .ok delivery =>
    if (delivery.state = .pending ∨ delivery.state = .held) ∧ delivery.expiresAt ≤ seconds then do
      let _ ← commitDelivery path (delivery.expiredOut seconds)
      pure 1
    else pure 0
  | .error _ => pure 0

def expireDeliveryEntries (seconds : Nat) : List DeliveryPath → Region Nat
  | [] => pure 0
  | path :: paths => do
    let first ← expireDelivery seconds path
    let rest ← expireDeliveryEntries seconds paths
    pure (first + rest)

/-- Settle outbound events that outlived their own expiry. -/
def expireDeliveries : Region Nat :=
  if now < 0 then fail (.other "invalid delivery expiry time")
  else do
    let j ← read
    expireDeliveryEntries now.toNat (Dir.names j.outbound)

/-! ## What a claim and a sealing commit do -/

section
variable {env : Env} {j : Journal}

theorem run_knownDelivery (path : DeliveryPath) (j : Journal) :
    knownDelivery path j = ([], orUnknown (readDelivery j path)) := rfl

theorem run_knownDelivery_bind {α : Type} (path : DeliveryPath) (f : Delivery → Region α)
    (j : Journal) : (∃ e, (knownDelivery path >>= f) j = ([], .error e)) ∨
      ∃ d, readDelivery j path = .ok d ∧ (knownDelivery path >>= f) j = f d j := by
  cases hrd : orUnknown (readDelivery j path) with
  | error e =>
    refine .inl ⟨e, run_bind_error ?_⟩
    rw [run_knownDelivery, hrd]
  | ok d =>
    refine .inr ⟨d, orUnknown_ok.mp hrd, ?_⟩
    have hkn : knownDelivery path j = ([], .ok d) := by rw [run_knownDelivery, hrd]
    rw [run_bind_ok hkn]
    rfl

/-- What an operation does to one delivery. -/
abbrev Replaces (m : Region Delivery) (path : DeliveryPath) (j : Journal) (Q : Delivery → Prop)
    (f : Delivery → Delivery) : Prop :=
  Durable.Replaces m j (readDelivery j path = .ok ·) (.delivery path) Q f

theorem replaces_known {path : DeliveryPath} {Q : Delivery → Prop} {f : Delivery → Delivery}
    {k : Delivery → Region Delivery}
    (h : ∀ d, (∃ e, k d j = ([], .error e)) ∨ Q d ∧ k d j = ([.delivery path (f d)], .ok (f d))) :
    Replaces (knownDelivery path >>= k) path j Q f :=
  Durable.replaces_query (run_knownDelivery path j) (fun _ => orUnknown_ok.mp) h

variable (deliveryID : DeliveryID)

/-- A claim puts the attempt's name and expiry on a pending delivery. -/
theorem claimForSend_cases (att : AttemptID) (now : Time) (lease : Nat) (j : Journal) :
    Replaces (claimForSend deliveryID att now lease) deliveryID.path j (·.state = .pending)
      (·.claimed att (now.toNat + lease)) := by
  unfold claimForSend
  split_ifs
  · exact .inl ⟨_, rfl⟩
  · exact .inl ⟨_, rfl⟩
  refine replaces_known fun d => ?_
  split_ifs with hpn
  · exact .inl ⟨_, rfl⟩
  · exact .inl ⟨_, rfl⟩
  · exact .inr ⟨not_not.mp hpn, rfl⟩

/-- A failure counts against a pending delivery. -/
theorem failed_cases (att : AttemptID) (code : Fault.Code) (now : Time) (j : Journal) :
    Replaces (failed deliveryID att code now) deliveryID.path j (·.state = .pending)
      (·.afterFailure code now.toNat) := by
  unfold failed
  split_ifs
  · exact .inl ⟨_, rfl⟩
  refine replaces_known fun d => ?_
  split_ifs with hpn
  · exact .inl ⟨_, rfl⟩
  unfold holdsAttempt
  split_ifs
  · exact .inr ⟨not_not.mp hpn, rfl⟩
  · exact .inl ⟨_, rfl⟩

/-- The attempt a settlement must name. -/
def AttemptArgument.settles (attempt : AttemptArgument) (d : Delivery) : Prop :=
  attempt = .empty ∨ ∃ attemptID, attempt = .named attemptID ∧ d.attemptID = some attemptID

/-- A settlement settles an open delivery. -/
theorem settle_cases (attempt : AttemptArgument) (state : DeliveryState) (now : Time)
    (j : Journal) :
    Replaces (settle deliveryID attempt state now) deliveryID.path j
      (fun d => (d.state = .pending ∨ d.state = .held) ∧ attempt.settles d) (·.settled state now.toNat) := by
  unfold settle
  split_ifs
  · exact .inl ⟨_, rfl⟩
  refine replaces_known fun d => ?_
  split_ifs with hset
  · exact .inl ⟨_, rfl⟩
  have hop : d.state = .pending ∨ d.state = .held := by tauto
  cases attempt with
  | empty => exact .inr ⟨⟨hop, .inl rfl⟩, rfl⟩
  | malformed => exact .inl ⟨_, rfl⟩
  | named att =>
    unfold holdsAttempt
    dsimp only
    split_ifs with hhe
    · exact .inr ⟨⟨hop, .inr ⟨att, rfl, hhe⟩⟩, rfl⟩
    · exact .inl ⟨_, rfl⟩

/-- A resumption returns a held delivery to the queue before its expiry. -/
theorem resume_cases (now : Time) (j : Journal) :
    Replaces (resume deliveryID now) deliveryID.path j (fun d => d.state = .held ∧ now.toNat < d.expiresAt)
      (·.resumed now.toNat) := by
  unfold resume
  split_ifs
  · exact .inl ⟨_, rfl⟩
  refine replaces_known fun d => ?_
  split_ifs with hhe hexp
  · exact .inl ⟨_, rfl⟩
  · exact .inl ⟨_, rfl⟩
  · exact .inr ⟨⟨not_not.mp hhe, not_le.mp hexp⟩, rfl⟩

theorem sealable_ok {d : Delivery} {q : SealRequest} {u : Unit} (h : d.sealable q = .ok u) :
    d.sessionID = q.sessionID ∧ d.attemptID = some q.attemptID ∧
      (d.attemptExpiresAt = 0 ∨ q.now.toNat < d.attemptExpiresAt) ∧ d.ciphertext = [] := by
  unfold Delivery.sealable at h
  split_ifs at h with hst hses hattempts hexp hsl
  have hlv : d.attemptExpiresAt = 0 ∨ q.now.toNat < d.attemptExpiresAt := by
    by_contra hnot
    exact hexp (by omega)
  exact ⟨not_not.mp hses, not_not.mp hattempts, hlv, not_not.mp hsl⟩

theorem run_advanceSession {sid : SessionID} {algorithm : AlgorithmID} {state : Bytes} {now : Time}
    {cur : Option SessionRecord} (hcur : currentSession env j sid = .ok cur) :
    advanceSession env sid algorithm (generationOf cur) state now j =
      ([.session sid (sessionBody cur sid algorithm (succ64 (generationOf cur)) state none none
        now.toNat)], .ok ()) := by
  unfold advanceSession writeSessionAt
  rw [run_read_bind, hcur, run_lift_ok_bind, if_neg (by simp), run_writeSessionInbound hcur (.inl rfl)]

/-- **A sealing commit, by cases.** It stops without a write, or advances the session from exactly
    the generation the seal was prepared at and stores the ciphertext of a delivery that had none. -/
theorem commitSealed_cases (env : Env) (q : SealRequest) (j : Journal) :
    (∃ e, commitSealed env q j = ([], .error e)) ∨
      ∃ d cur, readDelivery j q.deliveryID.path = .ok d ∧ d.sealable q = .ok () ∧ q.ciphertext ≠ [] ∧
        currentSession env j q.sessionID = .ok cur ∧ generationOf cur = q.expectedGeneration ∧
        commitSealed env q j =
          ([.session q.sessionID (sessionBody cur q.sessionID q.algorithm (succ64 q.expectedGeneration) q.next none
              none q.now.toNat),
            .delivery q.deliveryID.path { d with ciphertext := q.ciphertext }],
            .ok { d with ciphertext := q.ciphertext }) := by
  unfold commitSealed
  cases hinp : validateSessionInput q.next q.now with
  | error e => exact .inl ⟨e, rfl⟩
  | ok _ =>
    rw [run_lift_ok_bind]
    split_ifs with hbound
    · exact .inl ⟨_, rfl⟩
    rcases run_knownDelivery_bind q.deliveryID.path _ j with herror | ⟨d, hd, hrun⟩
    · exact .inl herror
    rw [hrun]
    cases hsbl : d.sealable q with
    | error e => exact .inl ⟨e, rfl⟩
    | ok _ =>
      rw [run_lift_ok_bind]
      have hnem : q.ciphertext ≠ [] := fun hnil => hbound (.inl (by rw [hnil]; rfl))
      cases hcur : currentSession env j q.sessionID with
      | error e =>
        refine .inl ⟨e, run_bind_error ?_⟩
        unfold advanceSession
        rw [run_read_bind, hcur, run_lift_error_bind]
      | ok cur =>
        by_cases hgen : generationOf cur = q.expectedGeneration
        · refine .inr ⟨d, cur, hd, hsbl, hnem, rfl, hgen, ?_⟩
          rw [← hgen, run_bind_ok (run_advanceSession hcur)]
          rfl
        refine .inl ⟨.sessionConflict, run_bind_error ?_⟩
        unfold advanceSession
        rw [run_read_bind, hcur, run_lift_ok_bind, if_pos hgen]
        rfl

end

end Messenger.Eventlog
