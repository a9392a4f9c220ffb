import DurableWorkflow.Service.Interface

/-!
# A service in memory

A service that hands out queued work at once and keeps all that is sent back.

## Main Definitions

* `InMemory`: the queues and what has been sent back.
* `InMemory.queueDecisionTask`: queues a decision task page by page.
* `InMemory.service`: the service.
-/

namespace DurableWorkflow

/-- The queues of a service and what has been sent back. -/
structure InMemory where
  /-- First pages, or refusals. -/
  decisionTasks : List (Remote HistoryPage)
  /-- Further pages by token, each to be handed out once. -/
  furtherPages : List (String × HistoryPage)
  /-- The tokens that are answered with no page, once each. -/
  lostPages : List String
  tasks : List TaskAssignment
  /-- The refusals of the submissions to come. -/
  submitFailures : List RemoteError
  /-- Whether tasks are to be canceled. -/
  cancelRequested : Bool
  polls : List PollRequest
  submissions : List (String × DecisionBatch)
  reports : List (String × TaskOutcome)
  heartbeats : List (String × Option String)

namespace InMemory

/-- A service that nothing has been queued for. -/
def empty : InMemory := ⟨[], [], [], [], [], false, [], [], [], []⟩

variable (s : InMemory)

/-- Removes the page of a token. -/
def withoutPage (token : String) : List (String × HistoryPage) :=
  s.furtherPages.filter (·.1 ≠ token)

/-- Keeps pages under the tokens that announce them, beginning with a given one. -/
def keepPages : Option String → List HistoryPage → InMemory → InMemory
  | some token, page :: rest, s =>
    keepPages page.nextPageToken rest
      { s with furtherPages := s.withoutPage token ++ [(token, page)] }
  | _, _, s => s

/-- Queues a decision task made of pages, the first page first. -/
def queueDecisionTask : List HistoryPage → InMemory
  | [] => s
  | first :: rest =>
    let s := keepPages first.nextPageToken rest s
    { s with decisionTasks := s.decisionTasks ++ [.ok first] }

/-- Answers the token of a further page with no page. -/
def losePage (token : String) : InMemory :=
  { s with
    furtherPages := s.withoutPage token
    lostPages := s.lostPages.filter (· ≠ token) ++ [token] }

/-- Refuses a decision poll. -/
def failPoll (e : RemoteError) : InMemory :=
  { s with decisionTasks := s.decisionTasks ++ [.error e] }

/-- Refuses a submission. -/
def failSubmission (e : RemoteError) : InMemory :=
  { s with submitFailures := s.submitFailures ++ [e] }

/-- Queues a task. -/
def queueTask (a : TaskAssignment) : InMemory := { s with tasks := s.tasks ++ [a] }

/-- Tells every task to stop. -/
def requestCancellation : InMemory := { s with cancelRequested := true }

/-- An answer without delay. -/
def atOnce {α : Type} (value : Remote α) : Reply (Remote α) := .after 0 (.given value)

/-- Hands out the page of a token. -/
def pageReply (token : String) : InMemory × Reply (Remote (Option HistoryPage)) :=
  if s.lostPages.contains token then
    ({ s with lostPages := s.lostPages.filter (· ≠ token) }, atOnce (.ok none))
  else
    match s.furtherPages.find? (·.1 = token) with
    | some (_, page) => ({ s with furtherPages := s.withoutPage token }, atOnce (.ok (some page)))
    | none => (s, atOnce (.error (.unknownResource ("page token " ++ token))))

/-- Hands out the next decision task. -/
def firstReply : InMemory × Reply (Remote (Option HistoryPage)) :=
  match s.decisionTasks with
  | [] => (s, .never)
  | next :: rest => ({ s with decisionTasks := rest }, atOnce (next.map some))

/-- The service. -/
def service : Service InMemory where
  pollDecision request token s :=
    let s := { s with polls := s.polls ++ [request] }
    match token with
    | some token => s.pageReply token
    | none => s.firstReply
  submit token batch s :=
    match s.submitFailures with
    | e :: rest => ({ s with submitFailures := rest }, atOnce (.error e))
    | [] => ({ s with submissions := s.submissions ++ [(token, batch)] }, atOnce (.ok ⟨⟩))
  pollTask _ s :=
    match s.tasks with
    | [] => (s, .never)
    | a :: rest => ({ s with tasks := rest }, atOnce (.ok (some a)))
  report token outcome s :=
    ({ s with reports := s.reports ++ [(token, outcome)] }, atOnce (.ok ⟨⟩))
  heartbeat token details s :=
    ({ s with heartbeats := s.heartbeats ++ [(token, details)] }, atOnce (.ok s.cancelRequested))

end InMemory

end DurableWorkflow
