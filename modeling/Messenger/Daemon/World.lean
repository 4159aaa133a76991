import Messenger.Dispatch.Sweep
import Messenger.Eventlog.Sequential

/-!
# `Daemon.World` — the journal under concurrent callers, crashes and restarts

One process owns the journal and serves many goroutines. Each region of the journal's mutex is
atomic, and between two regions any other may run. What a caller carries from one region to the next
lives in its memory:

- an inbound commitment that has accepted its event carries the **record its acceptance returned**
  (`InFlight`) to its second region;
- a sweep carries its captured time, its due list and its stage (`Dispatch.Sweep`).

A crash lets a prefix of the current region's writes become durable and loses everything in memory;
`Open` recovers. The history next to the state (`log`, `attempts`, `seals`, `sent`) is never read by
a step, except that an attempt identifier is drawn afresh: 32 bytes from the system's generator do
not repeat.
-/

namespace Messenger.Daemon

open Eventlog Dispatch Lib

variable (env : Env)

/-- An inbound commitment between its two regions. -/
structure InFlight  where
  request : CommitRequest env
  fresh : Bool
  record : Record

/-- Whether the second region has anything to do: a duplicate that is already committed returns at
    once. -/
def InFlight.unsettled {env : Env} (f : InFlight env) : Bool := f.fresh || f.record.crypto ≠ .committed

/-- The process, its disk, and the history of both. -/
structure World  where
  journal : Journal
  log : List JournalWrite
  running : Bool
  clock : Time
  commits : Dir Nat (InFlight env)
  sweeps : Dir Nat Sweep
  /-- The attempt identifiers drawn so far, each with the time the sweep that drew it had captured. -/
  attempts : Dir AttemptID Time
  /-- The ciphertexts that became durable. -/
  seals : List Seal
  /-- What the transport was handed. -/
  sent : List Sent

/-- An empty state directory nobody has opened yet. -/
def World.fresh : World env where
  journal := .empty
  log := []
  running := false
  clock := 0
  commits := ∅
  sweeps := ∅
  attempts := ∅
  seals := []
  sent := []

/-- One atomic step of one goroutine. A ticket names the caller it belongs to. -/
inductive Act (env : Env) where
  /-- Record an event that was decrypted elsewhere: no session transition. -/
  | accept (entry : Entry)
  | beginInbound (ticket : Nat) (q : CommitRequest env)
  | settleInbound (ticket : Nat)
  | call (c : Call)
  | startSweep (ticket : Nat) (limit : Nat)
  | sweep (ticket : Nat) (a : SweepAct)

/-- What a step does: its writes, the callers' memory after it, and what it adds to the history. -/
structure Effect  where
  writes : List JournalWrite
  commits : Dir Nat (InFlight env)
  sweeps : Dir Nat Sweep
  attempts : Dir AttemptID Time
  sealed : Option Seal
  sent : Option Sent

section
variable {env : Env} (w : World env) (ticket : Nat)

/-- Writes that leave every caller's memory alone. -/
def World.quiet (writes : List JournalWrite) : Effect env :=
  { writes, commits := w.commits, sweeps := w.sweeps, attempts := w.attempts, sealed := none, sent := none }

/-- The memory after an acceptance: the commitment is in flight unless the acceptance failed. -/
def World.began (q : CommitRequest env) : Except Failure (Bool × Record) → Dir Nat (InFlight env)
  | .ok (fresh, record) => w.commits.insert ticket ⟨q, fresh, record⟩
  | .error _ => w.commits

/-- The memory after a sweep's step. -/
def World.swept : Option Sweep → Dir Nat Sweep
  | some s => w.sweeps.insert ticket s
  | none => w.sweeps.erase ticket

/-- The effect of a sweep's step. -/
def World.sweepEffect (s : Sweep) (a : SweepAct) : Effect env :=
  let e := s.perform env w.journal w.clock a
  { writes := e.writes, commits := w.commits, sweeps := w.swept ticket e.sweep
    attempts := match a with
      | .claim attemptID => w.attempts.insert attemptID s.now
      | _ => w.attempts
    sealed := e.sealed, sent := e.sent }

/-- The effect of a step. A step that is not enabled does nothing. -/
def Act.effect : Act env → Effect env
  | .accept entry => w.quiet ((Eventlog.accept env { entry with transition := none }).writes w.journal)
  | .beginInbound ticket q =>
    if (lookup ticket w.commits).isSome then w.quiet []
    else
      { w.quiet ((Eventlog.beginInbound q).writes w.journal) with
        commits := w.began ticket q ((Eventlog.beginInbound q).outcome w.journal) }
  | .settleInbound ticket =>
    match lookup ticket w.commits with
    | none => w.quiet []
    | some f =>
      { w.quiet ((Eventlog.settleInbound f.request f.fresh f.record).writes w.journal) with
        commits := w.commits.erase ticket }
  | .call c => w.quiet (c.writes env w.journal)
  | .startSweep ticket limit =>
    match lookup ticket w.sweeps, Sweep.start w.journal w.clock limit with
    | none, .ok s => { w.quiet [] with sweeps := w.sweeps.insert ticket s }
    | _, _ => w.quiet []
  | .sweep ticket a =>
    match lookup ticket w.sweeps with
    | none => w.quiet []
    | some s => if a.repeats w.attempts then w.quiet [] else w.sweepEffect ticket s a

/-- One step of the system. -/
inductive Move (env : Env) where
  /-- A step of a goroutine; with `some k`, the process dies once the first `k` of its writes are
      durable. -/
  | act (a : Act env) (crash : Option Nat)
  | openJournal (crash : Option Nat)
  /-- The clock is set; nothing is assumed about it. -/
  | tick (now : Time)

/-- A step that ran to its end. -/
def World.complete (e : Effect env) : World env :=
  { w with
    journal := puts w.journal e.writes, log := w.log ++ e.writes
    commits := e.commits, sweeps := e.sweeps, attempts := e.attempts
    seals := w.seals ++ e.sealed.toList, sent := w.sent ++ e.sent.toList }

/-- A step the process died in. A ciphertext counts as sealed only if its own write is among the
    durable ones. -/
def World.die (e : Effect env) (k : Nat) : World env :=
  { w with
    journal := puts w.journal (e.writes.take k), log := w.log ++ e.writes.take k
    running := false, commits := ∅, sweeps := ∅, attempts := e.attempts
    seals := if e.writes.length ≤ k then w.seals ++ e.sealed.toList else w.seals
    sent := w.sent ++ e.sent.toList }

/-- Taking ownership of the directory. -/
def World.reopen (crash : Option Nat) : World env :=
  { w with
    journal := puts w.journal (landed ((recoverStaged env).writes w.journal) crash)
    log := w.log ++ landed ((recoverStaged env).writes w.journal) crash
    running := crash.isNone && opens env w.journal }

def World.step : Move env → World env
  | .act a none => if w.running then w.complete (a.effect w) else w
  | .act a (some k) => if w.running then w.die (a.effect w) k else w
  | .openJournal crash => if w.running then w else w.reopen crash
  | .tick now => { w with clock := now }

end

end Messenger.Daemon
