import DurableWorkflow.Polling.Poller

/-!
# Worlds

Pollers that share an environment and a clock.  What is ready runs in turn, one computation at a
time; the clock moves only when nothing is ready, to the next alarm.

## Main Definitions

* `Lane`: a poller with its source and settings.
* `World`: lanes, what is ready, and the alarms that are set.
* `World.step?`: the next piece of work.
* `World.settle`: all that is ready now, with all that it makes ready.
* `World.runTo`, `World.advance`: the passing of time.

## Design Notes

A computation is in the queue at most once.  Alarms that ring at one moment ring in the order in
which they were set.  Runs take a bound on the number of steps, since a poller need never end; a run
that is not at its end within the bound gives nothing.
-/

namespace DurableWorkflow

/-- A poller with its source and settings. -/
structure Lane (Env Fetch Job : Type) where
  source : PollSource Env Fetch Job
  settings : PollerSettings
  poller : Poller Fetch Job

/-- A computation that can be ready: the loop of a lane, or one of its units. -/
inductive Strand where
  | loop (lane : Nat)
  | unit (lane : Nat) (number : Nat)
  deriving DecidableEq, Repr

/-- Whom an alarm is for. -/
inductive Bell where
  | poller (lane : Nat) (alarm : Poller.Alarm)
  | unit (lane : Nat) (number : Nat)
  deriving DecidableEq, Repr

/-- Lanes with their environment and clock. -/
structure World (Env Fetch Job : Type) where
  now : Time
  env : Env
  lanes : List (Lane Env Fetch Job)
  /-- What is ready, in order. -/
  queue : List Strand
  /-- The alarms in the order in which they were set, with the times at which they ring. -/
  alarms : List (Time × Bell)
  notices : List Notice
  /-- The lanes whose loop has ended, in order. -/
  ended : List Nat

namespace World

variable {Env Fetch Job : Type} (w : World Env Fetch Job)

/-- Lanes before their first turn. -/
def start (env : Env) (lanes : List (PollSource Env Fetch Job × PollerSettings)) :
    World Env Fetch Job where
  now := 0
  env := env
  lanes := lanes.map fun (source, settings) => ⟨source, settings, .fresh⟩
  queue := (List.range lanes.length).map .loop
  alarms := []
  notices := []
  ended := []

/-- Makes a strand ready, behind all others. -/
def wake (s : Strand) : World Env Fetch Job :=
  if w.queue.contains s then w else { w with queue := w.queue ++ [s] }

/-- Makes a strand the next one. -/
def first (s : Strand) : World Env Fetch Job := { w with queue := s :: w.queue }

/-- Sets an alarm. -/
def setAlarm (ms : Nat) (b : Bell) : World Env Fetch Job :=
  { w with alarms := w.alarms ++ [(w.now + ms, b)] }

/-- Puts a poller into its lane. -/
def setPoller (i : Nat) (p : Poller Fetch Job) : World Env Fetch Job :=
  { w with lanes := w.lanes.modify i fun lane => { lane with poller := p } }

/-- A turn of the loop of a lane. -/
def turnLoop (i : Nat) (lane : Lane Env Fetch Job) : World Env Fetch Job :=
  let t := lane.poller.turn lane.source lane.settings w.now w.env
  let w := { w with env := t.env, notices := w.notices ++ t.notices }.setPoller i t.poller
  let w := t.alarms.foldl (fun w (a, ms) => w.setAlarm ms (.poller i a)) w
  let w :=
    match t.spawned with
    | some n => w.wake (.unit i n)
    | none => w
  let w :=
    if t.poller.ending?.isSome && !lane.poller.ending?.isSome then
      { w with ended := w.ended ++ [i] }
    else w
  if t.again then w.first (.loop i) else w

/-- A step of a unit of a lane. -/
def turnUnit (i n : Nat) (lane : Lane Env Fetch Job) : World Env Fetch Job :=
  match lane.poller.stepUnit? lane.source w.now w.env n with
  | none => w
  | some t =>
    let w := { w with env := t.env, notices := w.notices ++ t.notices }.setPoller i t.poller
    match t.next with
    | .again => w.first (.unit i n)
    | .later ms => w.setAlarm ms (.unit i n)
    | .yield => w.wake (.unit i n)
    | .finished => w.wake (.loop i)
    | .never => w

/-- The next piece of work, if anything is ready. -/
def step? : Option (World Env Fetch Job) :=
  match w.queue with
  | [] => none
  | s :: rest =>
    let w := { w with queue := rest }
    match s with
    | .loop i =>
      match w.lanes[i]? with
      | some lane => some (w.turnLoop i lane)
      | none => some w
    | .unit i n =>
      match w.lanes[i]? with
      | some lane => some (w.turnUnit i n lane)
      | none => some w

/-- Does all that is ready, and what becomes ready meanwhile, within a number of steps. -/
def settle : Nat → World Env Fetch Job → Option (World Env Fetch Job)
  | 0, _ => none
  | fuel + 1, w =>
    match w.step? with
    | some w' => settle fuel w'
    | none => some w

/-- When the next alarm rings. -/
def nextAlarm? : Option Time := (w.alarms.map (·.1)).min?

/-- Lets an alarm ring. -/
def ring : Bell → World Env Fetch Job
  | .unit i n => w.wake (.unit i n)
  | .poller i a =>
    match w.lanes[i]? with
    | none => w
    | some lane =>
      match lane.poller.ring a with
      | some p => (w.setPoller i p).wake (.loop i)
      | none => w

/-- Moves the clock and lets all alarms ring that are due. -/
def advance (t : Time) : World Env Fetch Job :=
  let due := w.alarms.filter (·.1 ≤ t)
  let w := { w with now := max w.now t, alarms := w.alarms.filter fun a => !(a.1 ≤ t) }
  due.foldl (fun w a => w.ring a.2) w

/-- Lets time pass up to a moment, and does all that is ready before it. -/
def runTo (t : Time) : Nat → World Env Fetch Job → Option (World Env Fetch Job)
  | 0, _ => none
  | fuel + 1, w =>
    (w.settle fuel).bind fun w =>
      match w.nextAlarm? with
      | some next => if next < t then runTo t fuel (w.advance next) else some w
      | none => some w

/-- Requests the loop of a lane to stop. -/
def requestStop (i : Nat) : World Env Fetch Job :=
  match w.lanes[i]? with
  | none => w
  | some lane =>
    let w := w.setPoller i lane.poller.requestStop
    if lane.poller.ending?.isSome then w else w.wake (.loop i)

/-- Lets time pass until all loops have ended, or up to a moment if one is given. -/
def runOut (limit : Option Time) : Nat → World Env Fetch Job → Option (World Env Fetch Job)
  | 0, _ => none
  | fuel + 1, w =>
    (w.settle fuel).bind fun w =>
      if w.ended.length = w.lanes.length then some w
      else
        match w.nextAlarm? with
        | some next =>
          match limit with
          | some t => if next < t then runOut limit fuel (w.advance next) else some w
          | none => runOut limit fuel (w.advance next)
        | none => some w

end World

end DurableWorkflow
