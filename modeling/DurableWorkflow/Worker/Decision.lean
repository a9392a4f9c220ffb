import DurableWorkflow.Worker.Host

/-!
# Deciding

Decision tasks are collected page by page, decided in one cycle, and answered with all decisions at
once or not at all.

## Main Definitions

* `Collection`: a decision task whose pages are being collected.
* `Deciding`: a decision task that is being decided.
* `DecisionDuty`: what a poller for decision tasks works with.
-/

namespace DurableWorkflow

/-- A poll for a decision task. -/
inductive Collection where
  /-- Nothing has been asked yet. -/
  | start
  /-- The answer to the poll. -/
  | first (answer : Answer (Remote (Option HistoryPage)))
  /-- The answer to the request for the page of a token. -/
  | further (task : DecisionTask) (token : String) (answer : Answer (Remote (Option HistoryPage)))

/-- A decision task in the hands of a poller. -/
inductive Deciding where
  | collected (task : DecisionTask)
  /-- The answer to the submission. -/
  | submitted (answer : Answer (Remote PUnit))

/-- What a poller for decision tasks works with. -/
structure DecisionDuty (State : Type) where
  service : Service State
  registry : Registry
  request : PollRequest

/-- The error of a page that was announced but not delivered. -/
def RemoteError.missingPage (token : String) : RemoteError :=
  .transient ("history page " ++ token ++ " was not delivered")

namespace DecisionDuty

variable {State : Type} (d : DecisionDuty State)

/-- Asks for the page of a token, or for a first page. -/
def ask (now : Time) (token : Option String) (h : Host State) :
    Host State × Reply (Remote (Option HistoryPage)) :=
  h.call now (.pollDecision d.request token) (d.service.pollDecision d.request token)

/-- Goes on with a task and the token of its next page, if there is one. -/
def collect (now : Time) (h : Host State) (task : DecisionTask) :
    Option String → Host State × Progress Collection (Except Error (Option DecisionTask))
  | none => (h, .done (.ok (some task)))
  | some token =>
    let (h, reply) := d.ask now (some token) h
    (h, reply.progress (.further task token))

/-- A step of a poll. -/
def poll (now : Time) (h : Host State) :
    Collection → Host State × Progress Collection (Except Error (Option DecisionTask))
  | .start =>
    let (h, reply) := d.ask now none h
    (h, reply.progress .first)
  | .first (.broken message) | .further _ _ (.broken message) => (h, .crash message)
  | .first (.given (.error e)) | .further _ _ (.given (.error e)) => (h, .done (.error (.remote e)))
  | .first (.given (.ok none)) => (h, .done (.ok none))
  | .first (.given (.ok (some page))) =>
    d.collect now h (.ofFirstPage d.request.domain page) page.nextPageToken
  | .further _ token (.given (.ok none)) => (h, .done (.error (.remote (.missingPage token))))
  | .further task _ (.given (.ok (some page))) =>
    d.collect now h (task.extend page) page.nextPageToken

/-- Decides a task: the cycle over its log, unless its events do not form one. -/
def decide (h : Host State) (task : DecisionTask) : Except Error Cycle :=
  (EventLog.assemble task.events task.previousStartedEventId).map fun log =>
    d.registry.cycle log task.workflow h.fresh

/-- A step of a task. -/
def process (now : Time) (h : Host State) : Deciding → UnitStep (Host State) Deciding
  | .collected task =>
    match d.decide h task with
    | .error e => ⟨h, [.dispatching], [], .done (.error e)⟩
    | .ok cycle =>
      let h := { h with fresh := cycle.fresh, handled := h.handled ++ cycle.handled }
      match cycle.ending with
      | .failed e => ⟨h, [.dispatching], cycle.notices, .done (.error e)⟩
      | .crashed message => ⟨h, [.dispatching], cycle.notices, .crash message⟩
      | .decided batch =>
        let (h, reply) :=
          h.call now (.submit task.taskToken batch) (d.service.submit task.taskToken batch)
        ⟨h, [.dispatching, .reporting], cycle.notices, reply.progress .submitted⟩
  | .submitted (.given (.ok _)) => ⟨h, [], [], .done (.ok ⟨⟩)⟩
  | .submitted (.given (.error e)) => ⟨h, [], [], .done (.error (.remote e))⟩
  | .submitted (.broken message) => ⟨h, [], [], .crash message⟩

end DecisionDuty

end DurableWorkflow
