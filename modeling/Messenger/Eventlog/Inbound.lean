import Messenger.Eventlog.Record

/-!
# `Eventlog.Inbound` — accepting an event, advancing its session, and recovering both

The inbound commitment is three durable writes: the event's record staged (`accept`), the session
advanced, the record marked committed. `commitInbound` makes them in **two** regions of the
journal's mutex, with the record carried from the first to the second in the caller's memory:

- `beginInbound` validates the request and accepts the event;
- `settleInbound` compares the session's generation, advances it and writes back the carried record.

`recoverStaged` is what `Open` does about the staged records a crash left behind. It decides from
the session's generation and last inbound event alone, in directory order.
-/

namespace Messenger.Eventlog

open Lib
open Lib.Durable (read write fail lift)

/-! ## Bounds -/

def maxPayloadBytes : Nat := 160 * 2 ^ 10
def maxSessionStateBytes : Nat := 256 * 2 ^ 10

/-- The length of a payload as the record stores it, in base64. -/
def base64Length (n : Nat) : Nat := 4 * ((n + 2) / 3)

/-- Commit a record's new body. -/
def commit (path : EventID) (record : Record) : Region Record := do
  write (.record path record)
  pure record

/-- The body with its cryptographic state changed. -/
def Record.mark (r : Record) (crypto : CryptoState) : Record := { r with crypto }

/-- The body committed at a time. -/
def Record.commitAt (r : Record) (seconds : Nat) : Record := { r with crypto := .committed, cryptoAt := seconds }

@[simp] theorem run_commit_bind {α : Type} (path : EventID) (record : Record)
    (f : Record → Region α) (j : Journal) : (commit path record >>= f) j =
      (.record path record :: (f record (Medium.put j (.record path record))).1,
        (f record (Medium.put j (.record path record))).2) := by
  rfl

/-! ## The owner's queue -/

/-- Whether an undecided event has run out of time, its own or the installation's. -/
def Record.expired (r : Record) (quota : Quota) (seconds : Nat) : Bool :=
  (r.eventExpiresAt ≠ 0 && r.eventExpiresAt ≤ seconds) ||
    (r.receivedAt ≠ 0 && wrap64 (r.receivedAt + quota.maxPendingAge) ≤ seconds)

variable (env : Env) (entry : Entry) (sessionID : SessionID) (algorithm : AlgorithmID) (state : Bytes)

/-- The records a sweep over `inbound` sees, in directory order; unreadable ones are skipped. -/
def readableRecords (j : Journal) : List Record :=
  (Dir.names j.inbound).filterMap fun path => (readRecord env j path).toOption

theorem mem_readableRecords {env : Env} {j : Journal} {r : Record} :
    r ∈ readableRecords env j ↔ ∃ path, readRecord env j path = .ok r := by
  simp only [readableRecords, List.mem_filterMap]
  constructor
  · rintro ⟨path, -, hr⟩
    refine ⟨path, ?_⟩
    cases hrd : readRecord env j path with
    | error e => rw [hrd] at hr; cases hr
    | ok r₀ => rw [hrd] at hr; cases hr; rfl
  · rintro ⟨path, hrd⟩
    exact ⟨path, mem_names.mpr ⟨r, (readRecord_ok.mp hrd).1⟩, by rw [hrd]; rfl⟩

/-- Whether one more event may wait for the owner. -/
def pendingCapacity (j : Journal) (sender : EndpointID) (size seconds : Nat) : Except Failure Unit :=
  let waiting := (readableRecords env j).filter fun r =>
    r.admission = .pending && !r.expired env.quota seconds
  let forSender := waiting.filter fun r => r.senderEndpointID = sender
  let bytes := size + (waiting.map fun r => base64Length r.payload.length).sum
  if env.quota.maxPendingAdmissions ≤ waiting.length then .error .pendingFull
  else if env.quota.maxPendingPerSender ≤ forSender.length then .error .pendingFull
  else if env.quota.maxPendingBytes < bytes then .error .pendingFull
  else .ok ()

/-! ## Accepting an event -/

def validateEntry : Except Failure Unit :=
  if entry.payload.length = 0 ∨ maxPayloadBytes < entry.payload.length then
    .error (.other "invalid stored event payload")
  else if entry.receivedAt = 0 then .error (.other "invalid event receipt time")
  else .ok ()

/-- The record of a fresh event: staged when it names a session transition, unbound when it does
    not. -/
def Entry.record : Record where
  eventID := entry.eventID
  senderEndpointID := entry.senderEndpointID
  conversationID := entry.conversationID
  admission := entry.admission
  payload := entry.payload
  receivedAt := entry.receivedAt
  eventExpiresAt := entry.expiresAt
  crypto := if entry.transition.isSome then .staged else .unbound
  cryptoAt := if entry.transition.isSome then entry.receivedAt else 0
  transition := entry.transition
  application := .queued

/-- An event presented again must be the event already recorded. -/
def Record.sameEvent (r : Record) (entry : Entry) : Bool :=
  r.senderEndpointID = entry.senderEndpointID && r.conversationID = entry.conversationID &&
    r.payload = entry.payload

/-- Record an event exactly once. The flag says whether this call created the record. -/
def accept : Region (Bool × Record) := do
  lift (validateEntry entry)
  let j ← read
  lift (if entry.admission = .pending then
      pendingCapacity env j entry.senderEndpointID entry.payload.length entry.receivedAt
    else .ok ())
  match lookup entry.eventID j.inbound with
  | none => do
    write (.record entry.eventID entry.record)
    pure (true, entry.record)
  | some _ => do
    let existing ← lift (readRecord env j entry.eventID)
    if existing.sameEvent entry then pure (false, existing) else fail .conflict

/-! ## Writing sessions -/

def validateSessionInput (now : Time) : Except Failure Unit :=
  if state.length = 0 then .error (.other "session state is unusable")
  else if maxSessionStateBytes < state.length then .error (.other "session state exceeds its bound")
  else if now < 0 then .error (.other "invalid session commit time")
  else .ok ()

/-- A session's new body over its current one: the bootstrap evidence is kept, and so is an
    authority. -/
def sessionBody (current : Option SessionRecord) (sessionID : SessionID) (algorithm : AlgorithmID) (generation : Nat)
    (state : Bytes) (inboundEventID : Option EventID) (authority : Option SessionAuthority)
    (seconds : Nat) : SessionRecord :=
  { generation, sessionID, algorithmID := algorithm, state, updatedAt := seconds
    lastInboundEventID := inboundEventID
    bootstrap := current.bind SessionRecord.bootstrap
    authority := authority.or (current.bind SessionRecord.authority) }

/-- Write a session at a generation. A transition that names another authority than the session's is
    refused. -/
def writeSessionInbound (generation : Nat) (state : Bytes) (inboundEventID : Option EventID)
    (authority : Option SessionAuthority) (seconds : Nat) : Region Unit := do
  let j ← read
  let current ← lift (currentSession env j sessionID)
  let kept := current.bind SessionRecord.authority
  if authority.isSome ∧ kept.isSome ∧ authority ≠ kept then fail (.other "session authority cannot change")
  else write (.session sessionID
    (sessionBody current sessionID algorithm generation state inboundEventID authority seconds))

section
variable {env : Env} {j : Journal} {sessionID : SessionID} {algorithm : AlgorithmID} {generation : Nat} {state : Bytes}
  {inboundEventID : Option EventID} {authority : Option SessionAuthority} {seconds : Nat}

/-- A session write either stops before writing, or is one write over a session that could be read. -/
theorem writeSessionInbound_cases :
    (∃ e, writeSessionInbound env sessionID algorithm generation state inboundEventID authority seconds j
        = ([], .error e)) ∨
      ∃ cur, currentSession env j sessionID = .ok cur ∧
        writeSessionInbound env sessionID algorithm generation state inboundEventID authority seconds j
          = ([.session sessionID
              (sessionBody cur sessionID algorithm generation state inboundEventID authority seconds)], .ok ()) := by
  unfold writeSessionInbound
  rw [run_read_bind]
  cases hcur : currentSession env j sessionID with
  | error e => exact .inl ⟨e, rfl⟩
  | ok cur =>
    rw [run_lift_ok_bind]
    split
    · exact .inl ⟨_, rfl⟩
    · exact .inr ⟨cur, rfl, rfl⟩

/-- With no authority to install, or no session to disagree with, the write is made. -/
theorem run_writeSessionInbound {cur : Option SessionRecord}
    (hcur : currentSession env j sessionID = .ok cur) (hauth : authority = none ∨ cur = none) :
    writeSessionInbound env sessionID algorithm generation state inboundEventID authority seconds j
      = ([.session sessionID
          (sessionBody cur sessionID algorithm generation state inboundEventID authority seconds)], .ok ()) := by
  unfold writeSessionInbound
  rw [run_read_bind, hcur, run_lift_ok_bind, if_neg]
  · rfl
  · rcases hauth with rfl | rfl <;> simp

end

/-- Advance a session on its own account, with no inbound event behind it. -/
def writeSessionAt (generation : Nat) (state : Bytes) (now : Time) : Region Unit :=
  writeSessionInbound env sessionID algorithm generation state none none now.toNat

/-- Commit a transition only if the session is still where the caller left it. -/
def advanceSession (expectedGeneration : Nat) (state : Bytes) (now : Time) : Region Unit := do
  let j ← read
  let current ← lift (currentSession env j sessionID)
  if generationOf current ≠ expectedGeneration then fail .sessionConflict
  else writeSessionAt env sessionID algorithm (succ64 expectedGeneration) state now

/-- Persist a session's state on its own. -/
def putSessionState (now : Time) : Region Unit := do
  lift (validateSessionInput state now)
  let j ← read
  let current ← lift (currentSession env j sessionID)
  writeSessionAt env sessionID algorithm (succ64 (generationOf current)) state now

/-- The local and peer sides of a first contact, for its initiator or its responder. -/
def authorityFromBinding (b : Binding) (initiator : Bool) : SessionAuthority :=
  if initiator then
    { localAgentID := b.senderAgentID, localEndpointID := b.senderEndpointID, localDeviceID := b.senderDeviceID
      peerAgentID := b.recipientAgentID, peerEndpointID := b.recipientEndpointID
      peerDeviceID := b.recipientDeviceID }
  else
    { localAgentID := b.recipientAgentID, localEndpointID := b.recipientEndpointID
      localDeviceID := b.recipientDeviceID
      peerAgentID := b.senderAgentID, peerEndpointID := b.senderEndpointID, peerDeviceID := b.senderDeviceID }

/-- Persist initiator state with its first-contact evidence; an existing session is never replaced. -/
def putBootstrappedSessionState (bootstrap : FirstContact) (now : Time) : Region Unit := do
  lift (validateSessionInput state now)
  if deviceSessionID env bootstrap.binding.senderDeviceID bootstrap.binding.recipientDeviceID ≠ some sessionID then
    fail (.other "first-contact bootstrap belongs to another session")
  else
    let j ← read
    let current ← lift (currentSession env j sessionID)
    if current.isSome then fail .sessionConflict
    else write (.session sessionID
      { generation := 1, sessionID, algorithmID := bootstrap.binding.algorithmID, state, updatedAt := now.toNat
        lastInboundEventID := none, bootstrap := some bootstrap
        authority := some (authorityFromBinding bootstrap.binding true) })

/-! ## The inbound commitment -/

/-- A request to commit one opened event with the session transition that opened it. Only a first
    contact carries an authority, it starts the session, and the authority is that of the session's
    device pair. -/
structure CommitRequest (env : Env) where
  sessionID : SessionID
  algorithm : AlgorithmID
  expectedGeneration : Nat
  next : Bytes
  entry : Entry
  authority : Option SessionAuthority
  now : Time
  firstContact : ∀ a, authority = some a → expectedGeneration = 0 ∧ a.validate env sessionID = true

/-- The request `CommitInbound` makes. -/
def inboundRequest (expectedGeneration : Nat) (next : Bytes) (entry : Entry) (now : Time) : CommitRequest env where
  sessionID := sessionID
  algorithm := algorithm
  expectedGeneration := expectedGeneration
  next := next
  entry := entry
  authority := none
  now := now
  firstContact := by simp

theorem responderAuthority_validate {env : Env} {b : Binding} {sessionID : SessionID}
    (h : deviceSessionID env b.senderDeviceID b.recipientDeviceID = some sessionID) :
    (authorityFromBinding b false).validate env sessionID = true := by
  simp only [SessionAuthority.validate, authorityFromBinding, Bool.false_eq_true, if_false, decide_eq_true_eq]
  rw [deviceSessionID_comm, h]

/-- The request `CommitInboundFirstContact` makes, unless the evidence is for another session. -/
def firstContactRequest (next : Bytes) (entry : Entry) (bootstrap : FirstContact) (now : Time) :
    Except Failure (CommitRequest env) :=
  if h : deviceSessionID env bootstrap.binding.senderDeviceID bootstrap.binding.recipientDeviceID = some sessionID then
    .ok
      { sessionID, algorithm, expectedGeneration := 0, next, entry, now
        authority := some (authorityFromBinding bootstrap.binding false)
        firstContact := by
          rintro a ⟨⟩
          exact ⟨rfl, responderAuthority_validate h⟩ }
  else .error (.other "first-contact bootstrap belongs to another session")

/-- The transition a request stages with its event. -/
def CommitRequest.transition {env : Env} (q : CommitRequest env) : Transition where
  sessionID := q.sessionID
  algorithm := q.algorithm
  expectedGeneration := q.expectedGeneration
  nextState := q.next
  authority := q.authority

/-- The entry a request accepts. -/
def CommitRequest.staged {env : Env} (q : CommitRequest env) : Entry :=
  { q.entry with transition := some q.transition }

/-- First region: validate, then accept the event with its transition. -/
def beginInbound {env : Env} (q : CommitRequest env) : Region (Bool × Record) := do
  lift (validateSessionInput q.next q.now)
  accept env q.staged

/-- Second region: advance the session and settle the **carried** record. A duplicate whose carried
    record is already committed needs no second transition and takes no lock. -/
def settleInbound {env : Env} (q : CommitRequest env) (fresh : Bool) (record : Record) : Region (Bool × Record) :=
  if !fresh && record.crypto = .committed then pure (false, record)
  else do
    let j ← read
    let current ← lift (currentSession env j q.sessionID)
    if generationOf current ≠ q.expectedGeneration then
      -- another transition got there first
      let _ ← commit q.entry.eventID (record.mark .abandoned)
      fail .sessionConflict
    else
      writeSessionInbound env q.sessionID q.algorithm (succ64 q.expectedGeneration) q.next (some q.entry.eventID)
        q.authority q.now.toNat
      let committed ← commit q.entry.eventID (record.commitAt q.now.toNat)
      pure (fresh, committed)

/-- Make an opened event durable, then advance the session. -/
def commitInbound {env : Env} (q : CommitRequest env) : Region (Bool × Record) := do
  let accepted ← beginInbound q
  settleInbound q accepted.1 accepted.2

/-! ### What the two regions do -/

section
variable {env : Env} {j : Journal}

theorem validateEntry_ok {entry : Entry} {u : Unit} (h : validateEntry entry = .ok u) :
    entry.payload ≠ [] ∧ entry.receivedAt ≠ 0 := by
  unfold validateEntry at h
  split_ifs at h with hpay hrcv
  exact ⟨fun hnil => hpay (.inl (by rw [hnil]; rfl)), hrcv⟩

theorem validateSessionInput_ok {state : Bytes} {now : Time} {u : Unit}
    (h : validateSessionInput state now = .ok u) : state ≠ [] ∧ 0 ≤ now := by
  unfold validateSessionInput at h
  split_ifs at h with hemp hbd hnow
  exact ⟨fun hnil => hemp (by rw [hnil]; rfl), not_lt.mp hnow⟩

/-- **Accepting, by cases.** It stops without a write, creates the record of an event that had none,
    or finds the event's record. -/
theorem accept_cases (env : Env) (entry : Entry) (j : Journal) :
    (∃ e, accept env entry j = ([], .error e)) ∨
      (lookup entry.eventID j.inbound = none ∧ entry.receivedAt ≠ 0 ∧
        accept env entry j = ([.record entry.eventID entry.record], .ok (true, entry.record))) ∨
      ∃ r, readRecord env j entry.eventID = .ok r ∧ accept env entry j = ([], .ok (false, r)) := by
  unfold accept
  cases hent : validateEntry entry with
  | error e => exact .inl ⟨e, rfl⟩
  | ok _ =>
    rw [run_lift_ok_bind, run_read_bind]
    generalize (if entry.admission = .pending then
      pendingCapacity env j entry.senderEndpointID entry.payload.length entry.receivedAt else .ok ()) = capacity
    cases capacity with
    | error e => exact .inl ⟨e, rfl⟩
    | ok _ =>
      rw [run_lift_ok_bind]
      cases hget : lookup entry.eventID j.inbound with
      | none => exact .inr (.inl ⟨rfl, (validateEntry_ok hent).2, Durable.run_write_bind _ _ j⟩)
      | some r =>
        simp only
        cases hrd : readRecord env j entry.eventID with
        | error e => exact .inl ⟨e, rfl⟩
        | ok existing =>
          rw [run_lift_ok_bind]
          split_ifs
          · exact .inr (.inr ⟨existing, rfl, rfl⟩)
          · exact .inl ⟨_, rfl⟩

variable (q : CommitRequest env)

/-- The first region is the acceptance of the staged entry, made only with a usable next state. -/
theorem beginInbound_cases (j : Journal) :
    (∃ e, beginInbound q j = ([], .error e)) ∨
      (lookup q.entry.eventID j.inbound = none ∧ q.next ≠ [] ∧ q.entry.receivedAt ≠ 0 ∧
        beginInbound q j = ([.record q.entry.eventID q.staged.record], .ok (true, q.staged.record))) ∨
      ∃ r, readRecord env j q.entry.eventID = .ok r ∧ beginInbound q j = ([], .ok (false, r)) := by
  unfold beginInbound
  cases hinp : validateSessionInput q.next q.now with
  | error e => exact .inl ⟨e, rfl⟩
  | ok _ =>
    rcases accept_cases env q.staged j with h | ⟨hno, hrcv, h⟩ | h
    · exact .inl h
    · exact .inr (.inl ⟨hno, (validateSessionInput_ok hinp).1, hrcv, h⟩)
    · exact .inr (.inr h)

/-- What the second region writes for a carried record that is not already committed. -/
inductive Settlement (q : CommitRequest env) (j : Journal) (record : Record) : List JournalWrite → Prop
  | damaged {e : Failure} (hcurrent : currentSession env j q.sessionID = .error e) : Settlement q j record []
  | behind {current : Option SessionRecord} (hcurrent : currentSession env j q.sessionID = .ok current)
      (hgeneration : generationOf current ≠ q.expectedGeneration) :
      Settlement q j record [.record q.entry.eventID (record.mark .abandoned)]
  | advanced {current : Option SessionRecord} (hcurrent : currentSession env j q.sessionID = .ok current)
      (hgeneration : generationOf current = q.expectedGeneration) :
      Settlement q j record
        [.session q.sessionID (sessionBody current q.sessionID q.algorithm (succ64 q.expectedGeneration) q.next
          (some q.entry.eventID) q.authority q.now.toNat),
         .record q.entry.eventID (record.commitAt q.now.toNat)]

/-- A request that names an authority starts its session, so there is none to disagree with. -/
theorem CommitRequest.authority_none_or {cur : Option SessionRecord}
    (hcur : currentSession env j q.sessionID = .ok cur)
    (hgen : generationOf cur = q.expectedGeneration) : q.authority = none ∨ cur = none := by
  cases hauth : q.authority with
  | none => exact .inl rfl
  | some a =>
    have hz := (q.firstContact a hauth).1
    exact .inr (currentSession_zero hcur (hgen.trans hz))

/-- **The second region, by cases.** -/
theorem settleInbound_settlement (j : Journal) (fresh : Bool) (record : Record)
    (hop : fresh = true ∨ record.crypto ≠ .committed) :
    Settlement q j record ((settleInbound q fresh record).writes j) := by
  have hgo : ¬ ((!fresh && decide (record.crypto = .committed)) = true) := by
    rcases hop with rfl | h <;> simp [*]
  unfold settleInbound Durable.writes
  rw [if_neg hgo, run_read_bind]
  cases hcur : currentSession env j q.sessionID with
  | error e =>
    exact .damaged hcur
  | ok cur =>
    rw [run_lift_ok_bind]
    by_cases hgen : generationOf cur = q.expectedGeneration
    · rw [if_neg (not_not.mpr hgen),
        run_bind_ok (run_writeSessionInbound hcur (q.authority_none_or hcur hgen)),
        run_commit_bind]
      exact .advanced hcur hgen
    · rw [if_pos hgen, run_commit_bind]
      exact .behind hcur hgen

/-- A duplicate that is already committed settles nothing. -/
theorem writes_settleInbound_committed (j : Journal) {record : Record}
    (hcom : record.crypto = .committed) : (settleInbound q false record).writes j = [] := by
  unfold settleInbound
  rw [if_pos (by simp [hcom])]
  rfl

end

/-! ## Recovery -/

/-- Decide one staged transition from its session's generation and last inbound event. -/
def resolveTransition (path : EventID) (record : Record) (t : Transition) : Region Unit := do
  let j ← read
  let current ← lift (currentSession env j t.sessionID)
  if generationOf current = t.expectedGeneration then
    if t.nextState = [] then
      let _ ← commit path (record.mark .abandoned)
    else
      writeSessionInbound env t.sessionID t.algorithm (succ64 t.expectedGeneration) t.nextState
        (some record.eventID) t.authority record.cryptoAt
      let _ ← commit path (record.mark .committed)
  else if generationOf current = succ64 t.expectedGeneration ∧
      current.bind SessionRecord.lastInboundEventID = some record.eventID then
    let _ ← commit path (record.mark .committed)
  else
    let _ ← commit path (record.mark .abandoned)

/-- Finish one staged record; one that names no session cannot be finished. -/
def resolveStaged (path : EventID) (record : Record) : Region Unit :=
  match record.transition with
  | none => do
    let _ ← commit path (record.mark .abandoned)
  | some t => resolveTransition env path record t

/-- One directory entry of the recovery sweep. -/
def recoverEntry (path : EventID) : Region Unit := do
  let j ← read
  match readRecord env j path with
  | .ok record => if record.crypto = .staged then resolveStaged env path record else pure ()
  | .error _ => pure ()

/-- The recovery sweep over a listing. -/
def recoverEntries (env : Env) : List EventID → Region Unit
  | [] => pure ()
  | path :: paths => do
    recoverEntry env path
    recoverEntries env paths

/-- Finish the inbound commitments a crash interrupted: what `Open` does before the journal may be
    used. -/
def recoverStaged : Region Unit := do
  let j ← read
  recoverEntries env (Dir.names j.inbound)

/-! ### What recovery does -/

/-- What the resolution of one staged record writes, and whether `Open` may go on. -/
inductive Resolution (env : Env) (j : Journal) (path : EventID) (record : Record) (t : Transition) :
    List JournalWrite × Except Failure Unit → Prop
  | refused (e : Failure) : Resolution env j path record t ([], .error e)
  | applied {current : Option SessionRecord} (hcurrent : currentSession env j t.sessionID = .ok current)
      (hgeneration : generationOf current = t.expectedGeneration) :
      Resolution env j path record t
        ([.session t.sessionID (sessionBody current t.sessionID t.algorithm (succ64 t.expectedGeneration) t.nextState
            (some record.eventID) t.authority record.cryptoAt),
          .record path (record.mark .committed)], .ok ())
  | found {s : SessionRecord} (hcurrent : currentSession env j t.sessionID = .ok (some s))
      (hgeneration : s.generation = succ64 t.expectedGeneration) (hlast : s.lastInboundEventID = some record.eventID) :
      Resolution env j path record t ([.record path (record.mark .committed)], .ok ())
  | lost {current : Option SessionRecord} (hcurrent : currentSession env j t.sessionID = .ok current)
      (hbehind : generationOf current ≠ t.expectedGeneration)
      (hother : ∀ s, current = some s → s.generation = succ64 t.expectedGeneration →
        s.lastInboundEventID ≠ some record.eventID) :
      Resolution env j path record t ([.record path (record.mark .abandoned)], .ok ())

/-- **Recovery of one record, by cases**, for a staged transition with a next state. -/
theorem resolveTransition_resolution (env : Env) (j : Journal) (path : EventID) (record : Record) {t : Transition}
    (hnx : t.nextState ≠ []) : Resolution env j path record t (resolveTransition env path record t j) := by
  unfold resolveTransition
  rw [run_read_bind]
  cases hcur : currentSession env j t.sessionID with
  | error e =>
    exact .refused e
  | ok cur =>
    rw [run_lift_ok_bind]
    by_cases hgen : generationOf cur = t.expectedGeneration
    · rw [if_pos hgen, if_neg hnx]
      rcases @writeSessionInbound_cases env j t.sessionID t.algorithm (succ64 t.expectedGeneration) t.nextState
        (some record.eventID) t.authority record.cryptoAt with ⟨e, he⟩ | ⟨current', hcur', hwr⟩
      · rw [run_bind_error he]
        exact .refused e
      obtain rfl : cur = current' := Except.ok.inj (hcur.symm.trans hcur')
      rw [run_bind_ok hwr, run_commit_bind]
      exact .applied hcur hgen
    · rw [if_neg hgen]
      split_ifs with hfnd
      · obtain ⟨s, rfl, hla⟩ := Option.bind_eq_some_iff.mp hfnd.2
        exact .found hcur hfnd.1 hla
      rw [run_commit_bind]
      refine .lost hcur hgen ?_
      rintro s rfl hs hla
      exact hfnd ⟨hs, hla⟩

/-- **What a write of the recovery can be**, for any journal: a staged record is decided, or a
    session advances by one generation. -/
inductive RecoveryWrite (env : Env) (j : Journal) : JournalWrite → Prop
  | record {path : EventID} {r : Record} {c : CryptoState} (hread : readRecord env j path = .ok r)
      (hstaged : r.crypto = .staged) (hdecided : c = .committed ∨ c = .abandoned) :
      RecoveryWrite env j (.record path (r.mark c))
  | session {path : SessionID} {s : SessionRecord} {current : Option SessionRecord}
      (hcurrent : currentSession env j path = .ok current)
      (hgeneration : s.generation = succ64 (generationOf current)) : RecoveryWrite env j (.session path s)

section
variable {env : Env} {j : Journal}

theorem resolveStaged_guarded {path : EventID} {r : Record} (hrd : readRecord env j path = .ok r)
    (hstg : r.crypto = .staged) : Guarded (RecoveryWrite env) j ((resolveStaged env path r).writes j) := by
  have habandon : Guarded (RecoveryWrite env) j [.record path (r.mark .abandoned)] :=
    ⟨.record hrd hstg (.inr rfl), trivial⟩
  unfold resolveStaged
  cases ht : r.transition with
  | none => exact habandon
  | some t =>
    show Guarded (RecoveryWrite env) j ((resolveTransition env path r t).writes j)
    by_cases hnx : t.nextState = []
    · -- a transition without a next state is abandoned where it would be applied
      unfold resolveTransition
      rw [writes_read_bind]
      cases hcur : currentSession env j t.sessionID with
      | error e => simp
      | ok cur =>
        rw [Durable.writes_lift_ok_bind]
        split_ifs
        · exact habandon
        · exact ⟨.record hrd hstg (.inl rfl), trivial⟩
        · exact habandon
    · have hres := resolveTransition_resolution env j path r hnx
      unfold Durable.writes
      generalize resolveTransition env path r t j = res at hres
      cases hres with
      | refused e => trivial
      | applied hcur hgen =>
        have hadvance : succ64 t.expectedGeneration = succ64 (generationOf _) := congrArg succ64 hgen.symm
        exact ⟨.session hcur hadvance, .record hrd hstg (.inl rfl), trivial⟩
      | found => exact ⟨.record hrd hstg (.inl rfl), trivial⟩
      | lost => exact habandon

theorem recoverEntry_guarded (path : EventID) : Guarded (RecoveryWrite env) j ((recoverEntry env path).writes j) := by
  unfold recoverEntry
  rw [writes_read_bind]
  cases hrd : readRecord env j path with
  | error e => trivial
  | ok r =>
    show Guarded _ _ (Durable.writes (ite _ _ _) j)
    split_ifs with hstg
    · exact resolveStaged_guarded hrd hstg
    · trivial

theorem recoverEntries_guarded (paths : List EventID) :
    Guarded (RecoveryWrite env) j ((recoverEntries env paths).writes j) := by
  induction paths generalizing j with
  | nil => trivial
  | cons path paths ih => exact guarded_bind (recoverEntry_guarded path) fun _ _ => ih

theorem recoverStaged_guarded : Guarded (RecoveryWrite env) j ((recoverStaged env).writes j) := by
  unfold recoverStaged
  exact recoverEntries_guarded _

end

end Messenger.Eventlog
