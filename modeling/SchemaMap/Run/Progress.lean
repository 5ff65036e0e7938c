/-
# Runs step by step

The requests of a run are taken up in order, and at any time at most as many are in work as there
are workers. The work on a request has two steps that touch files: its script is read, and its
file is written. Which of the requests in work takes the next step is left open, and so is
whether the run is cancelled on the way or the work on a request breaks off. A cancelled run
takes up no more requests and ends those that it has taken up.

Key definitions: `Run.Stage`, `Run.Progress`, `Run.Turn`, `Run.Progress.next?`,
`Run.Progress.after?`, `Run.result?`.
-/
import SchemaMap.Run.Process

namespace SchemaMap

/-- A request on which the work has broken off. -/
def Outcome.brokenOff (r : Request) (text : String) : Outcome :=
  { ofRequest r .failed with error := some ("Task panicked: " ++ text) }

namespace Run

/-- How far the work on a request has come. -/
inductive Stage where
  | waiting
  /-- Taken up; the script has not been read. -/
  | started
  /-- A file is to be written; the outcome holds if that succeeds. -/
  | made (path contents : String) (outcome : Outcome)
  | ended (outcome : Outcome)
deriving DecidableEq, Repr, Inhabited

namespace Stage

/-- Whether a worker is needed. -/
def isInWork : Stage → Bool
  | .started | .made .. => true
  | _ => false

/-- The outcome, where there is one. -/
def outcome? : Stage → Option Outcome
  | .ended x => some x
  | _ => none

/-- The stage of a request that has waited until now. -/
def afterWaiting (cancelled : Bool) (r : Request) : Stage :=
  if cancelled then .ended (Outcome.skipped r [cancelledNote]) else .started

/-- The next step of the work on a request, with the files afterwards. -/
def work? (o : Options) (r : Request) (s : Store) : Stage → Option (Stage × Store)
  | .started =>
    match r.plan o (s.readText r.sourcePath) with
    | .done x => some (.ended x, s)
    | .write path contents x => some (.made path contents x, s)
  | .made path contents x =>
    match s.writeText path contents with
    | .error e => some (.ended (Outcome.failed r e), s)
    | .ok s' => some (.ended x, s')
  | _ => none

end Stage

/-- A request with its stage. -/
structure Job where
  request : Request
  stage : Stage
deriving DecidableEq, Repr, Inhabited

/-- A run on its way. -/
structure Progress where
  store : Store
  cancelled : Bool
  jobs : List Job
deriving DecidableEq, Repr, Inhabited

/-- What happens next in a run. -/
inductive Turn where
  /-- The first request that waits is taken up, or put aside if the run is cancelled. -/
  | takeUp
  /-- The work on the request with a number goes on. -/
  | goOn (index : Nat)
  /-- The work on the request with a number breaks off, with a text that says why. -/
  | breakOff (index : Nat) (text : String)
  | cancel
deriving DecidableEq, Repr, Inhabited

/-- Whether a turn belongs to the work itself, so that nothing is disturbed by it. -/
def Turn.isQuiet : Turn → Bool
  | .takeUp | .goOn _ => true
  | _ => false

/-- The jobs with the first one that waits taken up or put aside, if there is one. -/
def takeUpFirst? (cancelled : Bool) : List Job → Option (List Job)
  | [] => none
  | j :: more =>
    match j.stage with
    | .waiting => some ({ j with stage := .afterWaiting cancelled j.request } :: more)
    | _ => (takeUpFirst? cancelled more).map (j :: ·)

namespace Progress

/-- A run before its first turn. -/
def start (requests : List Request) (cancelled : Bool) (s : Store) : Progress :=
  ⟨s, cancelled, requests.map (⟨·, .waiting⟩)⟩

/-- How many requests are in work. -/
def busy (p : Progress) : Nat :=
  p.jobs.countP (·.stage.isInWork)

/-- Whether another request can be taken up or put aside. -/
def isFree (o : Options) (p : Progress) : Bool :=
  p.cancelled || p.busy < o.workerCount

/-- The run after a turn, if the turn is possible. -/
def next? (o : Options) (p : Progress) : Turn → Option Progress
  | .takeUp =>
    if p.isFree o then (takeUpFirst? p.cancelled p.jobs).map fun jobs => { p with jobs }
    else none
  | .goOn i => do
    let j ← p.jobs[i]?
    let (stage, store) ← j.stage.work? o j.request p.store
    return { p with store, jobs := p.jobs.set i { j with stage } }
  | .breakOff i text => do
    let j ← p.jobs[i]?
    if j.stage.isInWork then
      let stage := .ended (Outcome.brokenOff j.request text)
      return { p with jobs := p.jobs.set i { j with stage } }
    else none
  | .cancel => some { p with cancelled := true }

/-- The run after some turns, if they are possible one after another. -/
def after? (o : Options) : List Turn → Progress → Option Progress
  | [], p => some p
  | t :: more, p => (p.next? o t).bind (after? o more)

/-- The summary of a run in which the work on every request has ended. -/
def summary? (p : Progress) : Option Summary :=
  (p.jobs.mapM fun j : Job => j.stage.outcome?).map (Summary.ofOutcomes p.cancelled)

end Progress

/-- The summary of a run and the files afterwards, if the turns bring it to its end. -/
def result? (o : Options) (requests : List Request) (cancelled : Bool) (s : Store)
    (turns : List Turn) : Option (Summary × Store) :=
  ((Progress.start requests cancelled s).after? o turns).bind fun p =>
    p.summary?.map (·, p.store)

end Run
end SchemaMap
