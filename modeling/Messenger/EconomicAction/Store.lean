import Messenger.Eventlog.Negotiations

/-!
# `EconomicAction.Store` — the admission boundary for economic side effects

One document holds, for every owner and Agent, the highest writer generation that was admitted and
the fence it was admitted under, and the state of every action (`pkg/economicaction/store.go`).
`Admit` answers an action that is on record with its state, and records a new one together with its
writer before anything is sent. The document is replaced as a whole; a write that fails is undone in
memory.

Verifying an authorized action is the commerce package's: its verdict comes with the request. A
fence is a value of any type `φ` with a digest.
-/

namespace Messenger.EconomicAction

open Lib
open Eventlog (Written)

/-- Where an economic action stands. -/
inductive ActionState where
  | unknown
  | prepared
  | submitted
  | accepted
  | terminal
  | conflict
  deriving DecidableEq, Repr

structure ActionResolution where
  stableActionID : String
  exactRequestDigest : String
  state : ActionState
  stateRevision : Nat
  sinkReference : String := ""
  deriving DecidableEq, Repr

/-- What the store reads of an authorized action. -/
structure AuthorizedAction where
  ownerID : String
  agentID : String
  writerGeneration : Nat
  stableActionID : String
  exactRequestDigest : String
  deriving DecidableEq, Repr

/-- The parts of the commerce package the store calls. -/
structure Rules (φ : Type) where
  fenceDigest : φ → Except Failure String
  validateActionResolution : ActionResolution → Except Failure Unit

/-- One request for admission, with the verdict of `VerifyAuthorizedAction` on it. -/
structure AdmitRequest (φ : Type) where
  action : AuthorizedAction
  fence : φ
  verdict : Except Failure Unit

structure Document where
  highWater : Dir String Nat
  fenceHighWater : Dir String String
  actions : Dir String ActionResolution

def Document.empty : Document := ⟨∅, ∅, ∅⟩

/-- The admitted generation of a writer; one that was never seen is at zero. -/
def Document.generationAt (d : Document) (key : String) : Nat := (lookup key d.highWater).getD 0

/-- The fence of that generation; empty when there is none. -/
def Document.fenceAt (d : Document) (key : String) : String := (lookup key d.fenceHighWater).getD ""

variable (action : AuthorizedAction)

def AuthorizedAction.key : String := action.ownerID ++ "\x00" ++ action.agentID

def maxActions : Nat := 1000000

/-! ## Admission -/

/-- What an admission comes to before anything is written. -/
inductive Verdict where
  /-- The action is on record. -/
  | answered (resolution : ActionResolution)
  /-- A new action, to be recorded under the digest of its fence. -/
  | fresh (fenceDigest : String)

/-- The answer for an action that is on record. -/
def answer (prior : ActionResolution) : ActionResolution :=
  if prior.exactRequestDigest ≠ action.exactRequestDigest then
    { stableActionID := action.stableActionID
      exactRequestDigest := action.exactRequestDigest
      state := .conflict
      stateRevision := succ64 prior.stateRevision }
  else prior

variable {φ : Type} (rules : Rules φ) (d : Document)

def judgeAdmit (q : AdmitRequest φ) : Except Failure Verdict := do
  q.verdict
  let fenceDigest ← rules.fenceDigest q.fence
  failIf (q.action.writerGeneration < d.generationAt q.action.key) "economic action writer generation is stale"
  failIf (q.action.writerGeneration = d.generationAt q.action.key ∧ d.fenceAt q.action.key ≠ "" ∧
    d.fenceAt q.action.key ≠ fenceDigest) "writer generation equivocates between two authority fences"
  match lookup q.action.stableActionID d.actions with
  | some prior => pure (.answered (answer q.action prior))
  | none => do
    failIf (maxActions ≤ d.actions.keys.length) "economic action store capacity reached"
    pure (.fresh fenceDigest)

/-- The resolution of a new action. -/
def preparedResolution : ActionResolution where
  stableActionID := action.stableActionID
  exactRequestDigest := action.exactRequestDigest
  state := .prepared
  stateRevision := 1

/-- The document with a writer at a generation. -/
def Document.raised (key : String) (generation : Nat) (fenceDigest : String) : Document :=
  { d with
    highWater := d.highWater.insert key generation
    fenceHighWater := d.fenceHighWater.insert key fenceDigest }

/-- The document with a new action and its writer. -/
def Document.admitted (fenceDigest : String) : Document :=
  let raised := if d.generationAt action.key < action.writerGeneration ∨ d.fenceAt action.key = "" then
      d.raised action.key action.writerGeneration fenceDigest
    else d
  { raised with actions := raised.actions.insert action.stableActionID (preparedResolution action) }

/-- What is undone in memory when an admission could not be written. -/
def Document.undone : Document :=
  { d.raised action.key (d.generationAt action.key) (d.fenceAt action.key) with
    actions := d.actions.erase action.stableActionID }

/-! ## The store -/

/-- The file, and the document of the running process if there is one. -/
structure State where
  file : Option Document
  doc : Option Document

variable (s : State)

/-- `persistLocked`: what the caller is told. -/
def persistLocked : Written → Except Failure Unit
  | .done => .ok ()
  | .refused | .unacknowledged => .error (.other "persist economic action store")

/-- Replace the file by `next` and go on with it, or with `undo` if that could not be done. -/
def State.commit {α : Type} (s : State) (w : Written) (next undo : Document) (result : α) : Except Failure α × State :=
  ((persistLocked w).map fun _ => result,
    { file := w.put s.file (some next), doc := some (if w = .done then next else undo) })

def unavailable : Failure := .other "economic action store is unavailable"

def State.admitAction (q : AdmitRequest φ) (w : Written) : Except Failure ActionResolution × State :=
  match s.doc with
  | none => (.error unavailable, s)
  | some d =>
    match judgeAdmit rules d q with
    | .error e => (.error e, s)
    | .ok (.answered resolution) => (.ok resolution, s)
    | .ok (.fresh fenceDigest) =>
      s.commit w (d.admitted q.action fenceDigest) (d.undone q.action) (preparedResolution q.action)

/-- Write a new state of an action that is on record. -/
def State.rewrite (w : Written) (next : ActionResolution) (stableID : String) :
    Except Failure ActionResolution × State :=
  s.commit w { d with actions := d.actions.insert stableID next } d next

def State.submit (stableID requestDigest : String) (w : Written) : Except Failure ActionResolution × State :=
  match s.doc with
  | none => (.error unavailable, s)
  | some d =>
    match (lookup stableID d.actions).filter fun prior => prior.exactRequestDigest = requestDigest with
    | none => (.error (.other "economic action was not prepared"), s)
    | some prior =>
      match prior.state with
      | .submitted | .accepted => (.ok prior, s)
      | .prepared =>
        s.rewrite d w { prior with state := .submitted, stateRevision := succ64 prior.stateRevision } stableID
      | .unknown | .terminal | .conflict => (.error (.other "economic action cannot be submitted"), s)

def State.accept (stableID requestDigest eventID : String) (w : Written) : Except Failure ActionResolution × State :=
  match s.doc with
  | none => (.error unavailable, s)
  | some d =>
    match (lookup stableID d.actions).filter fun prior => prior.exactRequestDigest = requestDigest with
    | none => (.error (.other "economic action was not prepared"), s)
    | some prior =>
      match prior.state with
      | .accepted =>
        if prior.sinkReference ≠ eventID then (.error (.other "economic action has conflicting sink evidence"), s)
        else (.ok prior, s)
      | .prepared | .submitted =>
        let next := { prior with
          state := .accepted, sinkReference := eventID, stateRevision := succ64 prior.stateRevision }
        match rules.validateActionResolution next with
        | .error e => (.error e, s)
        | .ok _ => s.rewrite d w next stableID
      | .unknown | .terminal | .conflict => (.error (.other "economic action cannot become accepted"), s)

/-- A document that may be opened: every action is valid under its own name. -/
def Document.readable : Bool :=
  d.actions.keys.all fun id =>
    (lookup id d.actions).all fun r => id = r.stableActionID && (rules.validateActionResolution r).toOption.isSome

/-- `Open`, in a new process. -/
def State.reopen (w : Written) : Except Failure Unit × State :=
  match s.file with
  | none =>
    (persistLocked w, { file := w.put none (some .empty), doc := if w = .done then some .empty else none })
  | some d =>
    if d.readable rules then (.ok (), { s with doc := some d })
    else (.error (.other "economic action store contains an invalid resolution"), { s with doc := none })

/-! ## Runs -/

inductive Call (φ : Type) where
  | admission (q : AdmitRequest φ) (w : Written)
  | submit (stableID requestDigest : String) (w : Written)
  | accept (stableID requestDigest eventID : String) (w : Written)
  | reopen (w : Written)

def step : Call φ → State
  | .admission q w => (s.admitAction rules q w).2
  | .submit stableID requestDigest w => (s.submit stableID requestDigest w).2
  | .accept stableID requestDigest eventID w => (s.accept rules stableID requestDigest eventID w).2
  | .reopen w => (s.reopen rules w).2

end Messenger.EconomicAction
