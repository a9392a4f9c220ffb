import DurableWorkflow.Polling.World

/-!
# Single polls

One poll and the processing of its unit, one after the other, without the loop of the poller.

## Main Definitions

* `World.pollOnce`: one poll by the poller of a lane.
* `SinglePoll`: how it ended.
-/

namespace DurableWorkflow

/-- How a single poll ended. -/
inductive SinglePoll where
  /-- It says whether a unit has been processed. -/
  | returned (result : Except Error Bool)
  | crashed (message : String)
  /-- The caller's patience has run out. -/
  | givenUp

/-- What a single poll is about. -/
inductive SinglePoll.Stage (Fetch Job : Type) where
  /-- It polls, up to a time if that is limited. -/
  | polling (fetch : Fetch) (limit : Option Time)
  | processing (job : Job)

namespace World

variable {Env Fetch Job : Type}

/-- Lanes whose loops do not run. -/
def still (env : Env) (lanes : List (PollSource Env Fetch Job × PollerSettings)) :
    World Env Fetch Job :=
  { start env lanes with queue := [] }

/-- Lets time pass up to a moment that a caller waits for; the caller comes before all that becomes
ready at that moment. -/
def passTo (t : Time) (fuel : Nat) (w : World Env Fetch Job) : Option (World Env Fetch Job) :=
  (runTo t fuel w).map (advance · t)

/-- Shows activities of a lane. -/
def present (i : Nat) (as : List Activity) (w : World Env Fetch Job) : World Env Fetch Job :=
  { w with lanes := w.lanes.modify i fun lane => { lane with poller := lane.poller.enterAll as } }

/-- Leaves behind what goes on by itself of an abandoned unit that would have gone on at a time. -/
def abandon (i : Nat) (t : Time) (job : Job) (w : World Env Fetch Job) : World Env Fetch Job :=
  match w.lanes[i]? with
  | none => w
  | some lane =>
    match lane.source.detached job with
    | none => w
    | some job =>
      let p := lane.poller
      let w := w.setPoller i { p with strays := p.strays ++ [(p.taken, job)], taken := p.taken + 1 }
      { w with alarms := w.alarms ++ [(t, .unit i p.taken)] }

/-- The end of a single poll that has given nothing. -/
def onNothing (source : PollSource Env Fetch Job) (s : PollerSettings) : SinglePoll :=
  match s.mode with
  | .repeatedly => .returned (.ok false)
  | .failFast => .returned (.error (.noUnitAvailable source.kind))

/-- Takes a single poll to its end, or to the time at which the caller gives up. -/
def runSingle (i : Nat) (source : PollSource Env Fetch Job) (s : PollerSettings) (cap : Time) :
    Nat → World Env Fetch Job → SinglePoll.Stage Fetch Job →
      Option (World Env Fetch Job × SinglePoll)
  | 0, _, _ => none
  | fuel + 1, w, .polling fetch limit =>
    let (env, progress) := source.poll w.now w.env fetch
    let w := { w with env := env }
    let bound := (limit.map (min cap)).getD cap
    let expire := (w.passTo bound fuel).map fun w =>
      if limit = some bound then (w.present i [.idle], onNothing source s) else (w, .givenUp)
    match progress with
    | .done (.ok (some job)) => runSingle i source s cap fuel w (.processing job)
    | .done (.ok none) => some (w.present i [.idle], onNothing source s)
    | .done (.error e) => some (w.present i [.idle], .returned (.error e))
    | .crash message => some (w, .crashed message)
    | .wait 0 next | .yield next => runSingle i source s cap fuel w (.polling next limit)
    | .wait ms next =>
      if w.now + ms ≤ bound then
        (w.passTo (w.now + ms) fuel).bind fun w =>
          runSingle i source s cap fuel w (.polling next limit)
      else expire
    | .never => expire
  | fuel + 1, w, .processing job =>
    let step := source.process w.now w.env job
    let w := { w with env := step.env, notices := w.notices ++ step.notices }.present i step.entered
    match step.progress with
    | .done result => some (w.present i [.idle], .returned (result.map fun _ => true))
    | .crash message => some (w, .crashed message)
    | .wait 0 next => runSingle i source s cap fuel w (.processing next)
    | .yield next =>
      (w.settle fuel).bind fun w => runSingle i source s cap fuel w (.processing next)
    | .wait ms next =>
      let t := w.now + ms
      if t ≤ cap then
        (w.passTo t fuel).bind fun w => runSingle i source s cap fuel w (.processing next)
      else (w.passTo cap fuel).map fun w => (w.abandon i t next, .givenUp)
    | .never => (w.passTo cap fuel).map (·, .givenUp)

/-- One poll by the poller of a lane, whose caller gives up after a number of milliseconds. -/
def pollOnce (patience fuel : Nat) (i : Nat) (w : World Env Fetch Job) :
    Option (World Env Fetch Job × SinglePoll) :=
  match w.lanes[i]? with
  | none => none
  | some lane =>
    let limit := lane.settings.pollTimeout.map fun d => w.now + d.ceilMillis
    runSingle i lane.source lane.settings (w.now + patience) fuel (w.present i [.polling])
      (.polling lane.source.start limit)

end World

end DurableWorkflow
