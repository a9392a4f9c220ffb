import DurableWorkflow.Service.Interface

/-!
# Scripts

A service that answers each kind of call from a list, one entry a call.

## Main Definitions

* `Cue`: one entry.
* `Script`: the entries that are left.
* `Script.service`: the service that answers from a script.

## Design Notes

An entry is used up when the call is made, however late its answer comes.  Where no entry is left,
polls are never answered and all else is accepted.
-/

namespace DurableWorkflow

/-- What a call leads to. -/
inductive Cue.Effect (α : Type) where
  | given (value : α)
  | refused (error : RemoteError)
  /-- The call itself breaks off. -/
  | broken (message : String)

/-- One entry of a script: a delay in milliseconds, and what the call leads to. -/
structure Cue (α : Type) where
  delay : Nat
  effect : Cue.Effect α

/-- The reply of an entry. -/
def Cue.reply {α : Type} (c : Cue α) : Reply (Remote α) :=
  .after c.delay <|
    match c.effect with
    | .given value => .given (.ok value)
    | .refused e => .given (.error e)
    | .broken message => .broken message

/-- The entries that are left. -/
structure Script where
  decisionPolls : List (Cue (Option HistoryPage))
  /-- The entries for further pages, by token. -/
  pages : List (String × List (Cue (Option HistoryPage)))
  taskPolls : List (Cue (Option TaskAssignment))
  submissions : List (Cue PUnit)
  reports : List (Cue PUnit)
  heartbeats : List (Cue Bool)

namespace Script

/-- A script without entries. -/
def empty : Script := ⟨[], [], [], [], [], []⟩

/-- The refusal of a token under which there is no page. -/
def unknownToken (token : String) : RemoteError := .unknownResource ("page token " ++ token)

/-- The first entry of a poll; without one it is never answered. -/
def pollReply {α : Type} : List (Cue α) → List (Cue α) × Reply (Remote α)
  | [] => ([], .never)
  | cue :: rest => (rest, cue.reply)

/-- The first entry of another call; without one it is answered with a default. -/
def replyOr {α : Type} (default : α) : List (Cue α) → List (Cue α) × Reply (Remote α)
  | [] => ([], .after 0 (.given (.ok default)))
  | cue :: rest => (rest, cue.reply)

/-- Takes the first entry under a token. -/
def takePage (token : String) : List (String × List (Cue (Option HistoryPage))) →
    List (String × List (Cue (Option HistoryPage))) × Reply (Remote (Option HistoryPage))
  | [] => ([], .after 0 (.given (.error (unknownToken token))))
  | (t, cues) :: rest =>
    if t = token then
      match cues with
      | [] => ((t, cues) :: rest, .after 0 (.given (.error (unknownToken token))))
      | cue :: left => ((t, left) :: rest, cue.reply)
    else
      let (rest, reply) := takePage token rest
      ((t, cues) :: rest, reply)

/-- The service that answers from a script. -/
def service : Service Script where
  pollDecision
    | _, none, s =>
      let (left, reply) := pollReply s.decisionPolls
      ({ s with decisionPolls := left }, reply)
    | _, some token, s =>
      let (left, reply) := takePage token s.pages
      ({ s with pages := left }, reply)
  submit _ _ s :=
    let (left, reply) := replyOr ⟨⟩ s.submissions
    ({ s with submissions := left }, reply)
  pollTask _ s :=
    let (left, reply) := pollReply s.taskPolls
    ({ s with taskPolls := left }, reply)
  report _ _ s :=
    let (left, reply) := replyOr ⟨⟩ s.reports
    ({ s with reports := left }, reply)
  heartbeat _ _ s :=
    let (left, reply) := replyOr false s.heartbeats
    ({ s with heartbeats := left }, reply)

end Script

end DurableWorkflow
