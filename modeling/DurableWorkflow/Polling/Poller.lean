import DurableWorkflow.Polling.Settings
import DurableWorkflow.Polling.Source

/-!
# Pollers

A poller takes a slot, polls, hands the unit that it gets to a computation of its own, and polls
again, with a bounded number of units in flight.  When it is to stop it waits for the units in
flight, for a bounded time.

## Main Definitions

* `Poller`: a poller with its units.
* `Poller.turn`: what the loop of a poller does next.
* `Poller.stepUnit`: what one of its units does next.
* `Poller.requestStop`, `Poller.ring`: what reaches a poller from outside.

## Design Notes

A poller knows no clock.  It asks for alarms and is told when they ring; alarms of a poll carry the
number of the poll, so that a late one is not taken for that of a later poll.  In each turn a
request to stop comes first, then the result of a unit, then the poll.
-/

namespace DurableWorkflow

/-- Whether a time limit has been set and reached. -/
inductive TimeLimit where
  | unset
  | running
  | reached
  deriving DecidableEq, Repr

/-- What the loop of a poller is about. -/
inductive Poller.Stage (Fetch : Type) where
  | starting
  /-- It waits for a slot. -/
  | seeking
  /-- It holds a slot for what the poll gives; `due` says that the poll can go on. -/
  | polling (fetch : Fetch) (due : Bool) (limit : TimeLimit)
  /-- It pauses after a failed poll. -/
  | pausing (elapsed : Bool)
  /-- It waits for the units in flight before it ends. -/
  | draining (result : UnitResult) (limit : TimeLimit)
  | ended (result : UnitResult)
  | crashed (message : String)

/-- The alarms that a poller asks for. -/
inductive Poller.Alarm where
  /-- The poll with this number can go on. -/
  | answer (poll : Nat)
  /-- The poll with this number has taken too long. -/
  | limit (poll : Nat)
  | pause
  | shutdown
  deriving DecidableEq, Repr

/-- A poller with its units. -/
structure Poller (Fetch Job : Type) where
  stage : Poller.Stage Fetch
  /-- Whether a stop has been requested. -/
  stopping : Bool
  /-- Slots that neither the loop nor a unit holds. -/
  free : Nat
  /-- How many polls have been started. -/
  polls : Nat
  /-- How many units have been taken up. -/
  taken : Nat
  /-- The units in flight with their numbers. -/
  running : List (Nat × Job)
  /-- The results that the loop has yet to look at, in order. -/
  finished : List UnitResult
  /-- What goes on of aborted units. -/
  strays : List (Nat × Job)
  /-- What the poller has been seen to do, the latest first. -/
  shown : List Activity

/-- A turn of the loop of a poller. -/
structure Poller.Turn (Env Fetch Job : Type) where
  env : Env
  poller : Poller Fetch Job
  /-- Alarms to set, with the milliseconds after which they ring. -/
  alarms : List (Poller.Alarm × Nat)
  /-- The number of the unit to start. -/
  spawned : Option Nat
  notices : List Notice
  /-- Whether another turn follows at once. -/
  again : Bool

/-- What follows a step of a unit. -/
inductive Poller.UnitNext where
  /-- The next step at once. -/
  | again
  /-- The next step after a number of milliseconds. -/
  | later (ms : Nat)
  /-- The next step after all that is ready now. -/
  | yield
  /-- No step; the loop has a result to look at. -/
  | finished
  /-- No step. -/
  | never
  deriving DecidableEq, Repr

/-- A step of a unit of a poller. -/
structure Poller.UnitTurn (Env Fetch Job : Type) where
  env : Env
  poller : Poller Fetch Job
  notices : List Notice
  next : Poller.UnitNext

namespace Poller

/-- The greatest number of slots. -/
def maxSlots : Nat := 2305843009213693951

/-- The message of a poller that is asked for more slots. -/
def tooManySlots : String :=
  "a semaphore may not have more than MAX_PERMITS permits (" ++ toString maxSlots ++ ")"

variable {Env Fetch Job : Type}

/-- A poller before its first turn. -/
def fresh : Poller Fetch Job :=
  ⟨.starting, false, 0, 0, 0, [], [], [], []⟩

/-- What the poller is seen to do. -/
def activity (p : Poller Fetch Job) : Activity := p.shown.headD .idle

/-- Shows an activity. -/
def enter (p : Poller Fetch Job) (a : Activity) : Poller Fetch Job :=
  { p with shown := a :: p.shown }

/-- Shows activities in turn. -/
def enterAll (p : Poller Fetch Job) (as : List Activity) : Poller Fetch Job := as.foldl enter p

/-- How the loop ended: with a result, or with the message with which it broke off. -/
def ending? (p : Poller Fetch Job) : Option (Except String UnitResult) :=
  match p.stage with
  | .ended result => some (.ok result)
  | .crashed message => some (.error message)
  | _ => none

/-- Requests a stop. -/
def requestStop (p : Poller Fetch Job) : Poller Fetch Job := { p with stopping := true }

/-- Whether units are in flight or their results have not been looked at. -/
def isBusy (p : Poller Fetch Job) : Bool := !(p.running.isEmpty && p.finished.isEmpty)

/-- Lets an alarm reach the poller; `none` if nobody waits for it any more. -/
def ring (p : Poller Fetch Job) (a : Alarm) : Option (Poller Fetch Job) :=
  match a, p.stage with
  | .answer n, .polling fetch false limit =>
    if n = p.polls then some { p with stage := .polling fetch true limit } else none
  | .limit n, .polling fetch due .running =>
    if n = p.polls then some { p with stage := .polling fetch due .reached } else none
  | .pause, .pausing false => some { p with stage := .pausing true }
  | .shutdown, .draining result .running => some { p with stage := .draining result .reached }
  | _, _ => none

/-- Aborts the units in flight; what goes on by itself keeps the number of its unit. -/
def abort (src : PollSource Env Fetch Job) (p : Poller Fetch Job) : Poller Fetch Job :=
  { p with
    running := []
    strays := p.strays ++ p.running.filterMap fun (n, job) => (src.detached job).map (n, ·) }

namespace Turn

/-- A turn that changes the poller alone. -/
def of (env : Env) (p : Poller Fetch Job) (again : Bool) : Turn Env Fetch Job :=
  ⟨env, p, [], none, [], again⟩

/-- Adds notices in front. -/
def noting (ns : List Notice) (t : Turn Env Fetch Job) : Turn Env Fetch Job :=
  { t with notices := ns ++ t.notices }

/-- Adds an alarm in front. -/
def waiting (a : Alarm) (ms : Nat) (t : Turn Env Fetch Job) : Turn Env Fetch Job :=
  { t with alarms := (a, ms) :: t.alarms }

end Turn

/-- Ends the loop. -/
def finish (env : Env) (p : Poller Fetch Job) (result : UnitResult) : Turn Env Fetch Job :=
  let notices : List Notice :=
    match result with
    | .ok _ => []
    | .error _ => [.pollerStopped]
  .noting notices (.of env ({ p with stage := .ended result }.enter .stopped) false)

/-- Leaves the loop: at once, or as soon as the units in flight are done. -/
def leave (env : Env) (p : Poller Fetch Job) (result : UnitResult) : Turn Env Fetch Job :=
  if p.isBusy then .of env { p with stage := .draining result .unset } true
  else finish env p result

/-- Breaks the loop off together with the units in flight. -/
def breakOff (src : PollSource Env Fetch Job) (env : Env) (p : Poller Fetch Job)
    (message : String) : Turn Env Fetch Job :=
  .of env { p.abort src with stage := .crashed message } false

/-- Looks at the result of a unit while the loop is running. -/
def settle (src : PollSource Env Fetch Job) (env : Env) (p : Poller Fetch Job)
    (result : UnitResult) : Turn Env Fetch Job :=
  match result with
  | .ok _ => .of env p true
  | .error e =>
    if src.isFatal e then leave env p (.error e) else .noting [.unitFailed] (.of env p true)

/-- Looks at the result of a unit while the loop is ending. -/
def settleLate (src : PollSource Env Fetch Job) (env : Env) (p : Poller Fetch Job)
    (result : UnitResult) : Turn Env Fetch Job :=
  match result with
  | .ok _ => .of env p true
  | .error e =>
    .noting [if src.isFatal e then .unitFailedWhileStopping else .unitFailed] (.of env p true)

/-- Gives the slot back that was held for a poll, and goes on. -/
def release (p : Poller Fetch Job) : Poller Fetch Job :=
  { p with free := p.free + 1, stage := .seeking }

/-- A poll has given nothing. -/
def onNothing (src : PollSource Env Fetch Job) (s : PollerSettings) (env : Env)
    (p : Poller Fetch Job) : Turn Env Fetch Job :=
  let p := p.enter .idle
  match s.mode with
  | .failFast => leave env p (.error (.noUnitAvailable src.kind))
  | .repeatedly => .of env p.release true

/-- A poll has failed. -/
def onFailure (s : PollerSettings) (env : Env) (p : Poller Fetch Job) (e : Error) :
    Turn Env Fetch Job :=
  let p := p.enter .idle
  match s.mode with
  | .failFast => leave env p (.error e)
  | .repeatedly =>
    let p := p.release
    let ms := s.errorPause.ceilMillis
    .noting [.pollFailed]
      (if ms = 0 then .of env { p with stage := .pausing true } true
        else .waiting .pause ms (.of env { p with stage := .pausing false } false))

/-- A poll has given a unit. -/
def onUnit (env : Env) (p : Poller Fetch Job) (job : Job) : Turn Env Fetch Job :=
  { Turn.of env
      { p with
        stage := .seeking
        taken := p.taken + 1
        running := p.running ++ [(p.taken, job)] } true with
    spawned := some p.taken }

/-- A poll cannot go on now: its time limit is set, or ends it. -/
def onWaiting (src : PollSource Env Fetch Job) (s : PollerSettings) (env : Env)
    (p : Poller Fetch Job) (fetch : Fetch) (limit : TimeLimit) : Turn Env Fetch Job :=
  let p := { p with stage := .polling fetch false limit }
  match limit, s.pollTimeout with
  | .reached, _ => onNothing src s env p
  | .unset, some d =>
    let ms := d.ceilMillis
    if ms = 0 then onNothing src s env p
    else
      .waiting (.limit p.polls) ms
        (.of env { p with stage := .polling fetch false .running } false)
  | _, _ => .of env p false

/-- Takes a poll a step further. -/
def stepPoll (src : PollSource Env Fetch Job) (s : PollerSettings) (now : Time) (env : Env)
    (p : Poller Fetch Job) (fetch : Fetch) (limit : TimeLimit) : Turn Env Fetch Job :=
  let (env, progress) := src.poll now env fetch
  match progress with
  | .done (.ok (some job)) => onUnit env p job
  | .done (.ok none) => onNothing src s env p
  | .done (.error e) => onFailure s env p e
  | .crash message => breakOff src env p message
  | .wait 0 next | .yield next => .of env { p with stage := .polling next true limit } true
  | .wait ms next => .waiting (.answer p.polls) ms (onWaiting src s env p next limit)
  | .never => onWaiting src s env p fetch limit

/-- What the loop does next. -/
def turn (src : PollSource Env Fetch Job) (s : PollerSettings) (now : Time) (env : Env)
    (p : Poller Fetch Job) : Turn Env Fetch Job :=
  match p.stage with
  | .starting =>
    let slots := max 1 s.concurrency
    if maxSlots < slots then breakOff src env p tooManySlots
    else .of env { p with stage := .seeking, free := slots } true
  | .seeking =>
    if p.stopping then leave env p (.ok ⟨⟩)
    else
      match p.finished with
      | result :: rest => settle src env { p with finished := rest } result
      | [] =>
        if p.free = 0 then .of env p false
        else
          .of env
            ({ p with
              free := p.free - 1
              polls := p.polls + 1
              stage := .polling src.start true .unset }.enter .polling) true
  | .polling fetch due limit =>
    if p.stopping then leave env p (.ok ⟨⟩)
    else
      match p.finished with
      | result :: rest => settle src env { p with finished := rest } result
      | [] =>
        if due then stepPoll src s now env p fetch limit
        else if limit = .reached then onNothing src s env p
        else .of env p false
  | .pausing elapsed =>
    if p.stopping then leave env p (.ok ⟨⟩)
    else if elapsed then .of env { p with stage := .seeking } true
    else .of env p false
  | .draining result limit =>
    match p.finished with
    | first :: rest => settleLate src env { p with finished := rest } first
    | [] =>
      if p.running.isEmpty then finish env p result
      else
        let ms := s.shutdownTimeout.ceilMillis
        if limit = .reached ∨ (limit = .unset ∧ ms = 0) then
          .noting [.unitsAborted] (finish env (p.abort src) result)
        else if limit = .unset then
          .waiting .shutdown ms (.of env { p with stage := .draining result .running } false)
        else .of env p false
  | .ended _ | .crashed _ => .of env p false

/-- A unit is over: its slot is free and the loop has a result to look at. -/
def unitOver (p : Poller Fetch Job) (n : Nat) (result : UnitResult) : Poller Fetch Job :=
  { p with
    free := p.free + 1
    running := p.running.filter (·.1 ≠ n)
    finished := p.finished ++ [result] }

/-- Puts the state of a unit in place of the earlier one. -/
def replaceJob (n : Nat) (job : Job) (jobs : List (Nat × Job)) : List (Nat × Job) :=
  jobs.map fun x => if x.1 = n then (n, job) else x

/-- What a unit in flight does next. -/
def stepRunning (src : PollSource Env Fetch Job) (now : Time) (env : Env) (p : Poller Fetch Job)
    (n : Nat) (job : Job) : UnitTurn Env Fetch Job :=
  let step := src.process now env job
  let p := p.enterAll step.entered
  let put (job : Job) : Poller Fetch Job := { p with running := replaceJob n job p.running }
  match step.progress with
  | .done result => ⟨step.env, (p.enter .idle).unitOver n result, step.notices, .finished⟩
  | .crash message =>
    ⟨step.env, p.unitOver n (.error (.unitPanicked src.kind message)), step.notices, .finished⟩
  | .wait 0 next => ⟨step.env, put next, step.notices, .again⟩
  | .wait ms next => ⟨step.env, put next, step.notices, .later ms⟩
  | .yield next => ⟨step.env, put next, step.notices, .yield⟩
  | .never => ⟨step.env, p, step.notices, .never⟩

/-- What goes on of an aborted unit does its next step, of which the poller shows nothing. -/
def stepStray (src : PollSource Env Fetch Job) (now : Time) (env : Env) (p : Poller Fetch Job)
    (n : Nat) (job : Job) : UnitTurn Env Fetch Job :=
  let step := src.process now env job
  let gone : Poller Fetch Job := { p with strays := p.strays.filter (·.1 ≠ n) }
  let put (job : Job) : Poller Fetch Job :=
    match src.detached job with
    | some job => { p with strays := replaceJob n job p.strays }
    | none => gone
  match step.progress with
  | .done _ | .crash _ | .never => ⟨step.env, gone, step.notices, .never⟩
  | .wait 0 next => ⟨step.env, put next, step.notices, .again⟩
  | .wait ms next => ⟨step.env, put next, step.notices, .later ms⟩
  | .yield next => ⟨step.env, put next, step.notices, .yield⟩

/-- What the unit with a number does next, if it is in flight or goes on by itself. -/
def stepUnit? (src : PollSource Env Fetch Job) (now : Time) (env : Env) (p : Poller Fetch Job)
    (n : Nat) : Option (UnitTurn Env Fetch Job) :=
  match p.running.find? (·.1 = n) with
  | some (_, job) => some (stepRunning src now env p n job)
  | none =>
    match p.strays.find? (·.1 = n) with
    | some (_, job) => some (stepStray src now env p n job)
    | none => none

end Poller

end DurableWorkflow
