import Mathlib.Data.List.Forall2
import DurableWorkflow.Proofs.Worker.Answer

/-!
# Pages of a decision task

A poll follows the pages of a decision task from each to the one that it announces.  It gives the
task of all pages or no task: where a page that was announced does not come, the poll fails, and the
failure is one that its poller survives.

## Main Definitions

* `DecisionTask.ofPages`: the task of a first page and further ones.
* `HistoryPage.Announcing`, `HistoryPage.Entire`: pages behind which others follow, and all pages of
  a task.
* `DecisionDuty.Polls`: the steps of a poll and the answers that it has gone on with.
* `DecisionDuty.Stands`: where a poll stands after some answers.
* `DecisionDuty.Collects`: what a poll makes of the answers that it gets.

## Main Statements

* `DecisionDuty.Awaits.poll`: what one step does.
* `DecisionDuty.Polls.stands`: where a poll stands, whatever the service has answered.
* `DecisionDuty.Polls.collects_all_or_nothing`: all pages are collected, or there is no task.

## Design Notes

A host is shared, so each step of a poll may find it changed in any way.  Of the service nothing is
assumed: it may announce pages for ever, announce one token again and again, or not answer at all.
-/

namespace DurableWorkflow

variable {State : Type}

/-! ### Pages -/

/-- An answer to a poll for a decision task or to the request for a further page. -/
abbrev PageAnswer := Answer (Remote (Option HistoryPage))

namespace PageAnswer

/-- A page is handed out. -/
def page (p : HistoryPage) : PageAnswer := .given (.ok (some p))

/-- The page that is handed out, if one is. -/
def page? : PageAnswer → Option HistoryPage
  | .given (.ok p) => p
  | .given (.error _) | .broken _ => none

/-- The token that an answer announces. -/
def announced? (answer : PageAnswer) : Option String := (page? answer).bind (·.nextPageToken)

theorem eq_page {answer : PageAnswer} {p : HistoryPage} (h : page? answer = some p) :
    answer = page p := by
  rcases answer with (e | _ | p') | message <;> cases h
  rfl

/-- What is no page is not among answers that are pages. -/
theorem concat_ne_pages {answer : PageAnswer} (hanswer : page? answer = none)
    (pages pages' : List HistoryPage) : pages.map page ++ [answer] ≠ pages'.map page := by
  intro h
  have hmem : answer ∈ pages'.map page := h ▸ List.mem_concat_self
  obtain ⟨p, -, rfl⟩ := List.mem_map.mp hmem
  cases hanswer

theorem map_page_injective : Function.Injective (List.map page) :=
  List.map_injective_iff.mpr fun _ _ h => by cases h; rfl

end PageAnswer

namespace HistoryPage

/-- Pages each of which announces a further one. -/
def Announcing (pages : List HistoryPage) : Prop := ∀ p ∈ pages, p.nextPageToken.isSome = true

/-- All pages of a task: each of them but the last announces a further one. -/
def Entire (pages : List HistoryPage) : Prop :=
  ∃ front last, pages = front ++ [last] ∧ Announcing front ∧ last.nextPageToken = none

/-- The token of the page that follows on others. -/
def following? (pages : List HistoryPage) : Option String := pages.getLast?.bind (·.nextPageToken)

/-- Pages announce another one if the last of them does. -/
theorem announcing_concat {pages : List HistoryPage} {p : HistoryPage} :
    Announcing (pages ++ [p]) ↔ Announcing pages ∧ p.nextPageToken.isSome = true := by
  simp only [Announcing, List.forall_mem_append, List.forall_mem_singleton]

theorem following?_concat (pages : List HistoryPage) (p : HistoryPage) :
    following? (pages ++ [p]) = p.nextPageToken := by
  rw [following?, List.getLast?_concat, Option.bind_some]

theorem Entire.not_announcing {pages : List HistoryPage} (h : Entire pages) :
    ¬ Announcing pages := by
  obtain ⟨front, last, rfl, -, hlast⟩ := h
  intro hannouncing
  have hsome := (announcing_concat.mp hannouncing).2
  rw [hlast] at hsome
  cases hsome

end HistoryPage

namespace DecisionTask

/-- The task of pages: its events are those of all pages in order, all else is as the first page has
it. -/
def ofPages (domain : String) (first : HistoryPage) (rest : List HistoryPage) : DecisionTask where
  taskToken := first.taskToken
  workflow := ⟨domain, first.execution, first.workflowType, first.startedEventId⟩
  previousStartedEventId := first.previousStartedEventId
  events := (first :: rest).flatMap (·.events)

theorem ofFirstPage_eq (domain : String) (first : HistoryPage) :
    ofFirstPage domain first = ofPages domain first [] := by
  simp [ofFirstPage, ofPages]

/-- A further page extends the task by its events. -/
theorem extend_ofPages (domain : String) (first : HistoryPage) (rest : List HistoryPage)
    (p : HistoryPage) :
    (ofPages domain first rest).extend p = ofPages domain first (rest ++ [p]) := by
  simp [extend, ofPages, List.append_assoc]

end DecisionTask

/-! ### Polls -/

/-- The answer that a poll goes on with. -/
def Collection.answer? : Collection → Option PageAnswer
  | .start => none
  | .first answer | .further _ _ answer => some answer

namespace DecisionDuty

open HistoryPage (Announcing Entire following?)

/-- What the service replies to the request for the page of a token, or for a first page. -/
def reply (d : DecisionDuty State) (token : Option String) (h : Host State) :
    Reply (Remote (Option HistoryPage)) :=
  (d.service.pollDecision d.request token h.service).2

/-- The steps of a poll, one after the other, the answers that it has gone on with, and how far it
has come. -/
inductive Polls (d : DecisionDuty State) :
    List (Stride (Host State)) → List PageAnswer →
      Progress Collection (Except Error (Option DecisionTask)) → Prop
  | start (now : Time) (h : Host State) :
      Polls d [⟨now, h, (d.poll now h .start).1⟩] [] (d.poll now h .start).2
  | step {strides : List (Stride (Host State))} {answers : List PageAnswer}
      {progress : Progress Collection (Except Error (Option DecisionTask))} {state : Collection}
      (hpolls : Polls d strides answers progress) (hnext : progress.next? = some state)
      (now : Time) (h : Host State) :
      Polls d (strides ++ [⟨now, h, (d.poll now h state).1⟩]) (answers ++ state.answer?.toList)
        (d.poll now h state).2

/-- A step makes one call, for a page. -/
def Asks (d : DecisionDuty State) (x : Stride (Host State)) (token : Option String) : Prop :=
  x.calls = [.pollDecision d.request token]

/-- The service has given an answer to the call that a step has made. -/
def Gives (d : DecisionDuty State) (x : Stride (Host State)) (answer : PageAnswer) : Prop :=
  ∃ token ms, d.Asks x token ∧ d.reply token x.before = .after ms answer

/-- The page that a poll has asked for behind others, and how it goes on with the answer. -/
inductive Awaits (d : DecisionDuty State) :
    List HistoryPage → Option String → (PageAnswer → Collection) → Prop
  | first : Awaits d [] none .first
  | further {first : HistoryPage} {rest : List HistoryPage} {token : String}
      (hfollowing : following? (first :: rest) = some token) :
      Awaits d (first :: rest) (some token) (.further (.ofPages d.request.domain first rest) token)

/-- How a poll ends with an answer that is no page. -/
inductive Ends (pages : List HistoryPage) :
    PageAnswer → Progress Collection (Except Error (Option DecisionTask)) → Prop
  | nothing (hpages : pages = []) : Ends pages (.given (.ok none)) (.done (.ok none))
  | missing {token : String} (hfollowing : following? pages = some token) :
      Ends pages (.given (.ok none)) (.done (.error (.remote (.missingPage token))))
  | refused (e : RemoteError) : Ends pages (.given (.error e)) (.done (.error (.remote e)))
  | broken (message : String) : Ends pages (.broken message) (.crash message)

/-- Where a poll stands after some answers: it waits for the answer to its last call, it has
collected all pages, or it has ended with an answer that is no page. -/
inductive Stands (d : DecisionDuty State) :
    List (Stride (Host State)) → List PageAnswer →
      Progress Collection (Except Error (Option DecisionTask)) → Prop
  | waits {front : List (Stride (Host State))} {asked : Stride (Host State)}
      {pages : List HistoryPage} {token : Option String} {next : PageAnswer → Collection}
      (hannouncing : Announcing pages) (hasked : d.Asks asked token)
      (hawaits : d.Awaits pages token next) :
      Stands d (front ++ [asked]) (pages.map .page) ((d.reply token asked.before).progress next)
  | collected {strides : List (Stride (Host State))} {first : HistoryPage}
      {rest : List HistoryPage} (hentire : Entire (first :: rest)) :
      Stands d strides ((first :: rest).map .page)
        (.done (.ok (some (.ofPages d.request.domain first rest))))
  | ended {strides : List (Stride (Host State))} {pages : List HistoryPage} {answer : PageAnswer}
      {progress : Progress Collection (Except Error (Option DecisionTask))}
      (hannouncing : Announcing pages) (hends : Ends pages answer progress) :
      Stands d strides (pages.map .page ++ [answer]) progress

variable {d : DecisionDuty State} {pages : List HistoryPage} {token : Option String}
  {next : PageAnswer → Collection}

/-! ### One step -/

theorem since_ask (d : DecisionDuty State) (now : Time) (token : Option String) (h : Host State) :
    h.since (d.ask now token h).1 = [.pollDecision d.request token] :=
  Host.since_of_call rfl

theorem Awaits.answer?_next (hawaits : d.Awaits pages token next) (answer : PageAnswer) :
    (next answer).answer? = some answer := by
  cases hawaits <;> rfl

/-- A poll goes on with a page to the task of all pages so far. -/
theorem Awaits.exists_collect (hawaits : d.Awaits pages token next) (p : HistoryPage) :
    ∃ first rest, pages ++ [p] = first :: rest ∧ ∀ now h, d.poll now h (next (.page p))
      = d.collect now h (.ofPages d.request.domain first rest) p.nextPageToken := by
  cases hawaits with
  | first => exact ⟨p, [], rfl, fun now h => by rw [← DecisionTask.ofFirstPage_eq]; rfl⟩
  | @further first rest token hfollowing =>
      exact ⟨first, rest ++ [p], rfl, fun now h => by rw [← DecisionTask.extend_ofPages]; rfl⟩

/-- A poll ends with what is no page, and asks for nothing more. -/
theorem Awaits.ends (hawaits : d.Awaits pages token next) {answer : PageAnswer}
    (hanswer : PageAnswer.page? answer = none) (now : Time) (h : Host State) :
    (d.poll now h (next answer)).1 = h ∧ Ends pages answer (d.poll now h (next answer)).2 := by
  rcases answer with (e | _ | p) | message
  · cases hawaits <;> exact ⟨rfl, .refused e⟩
  · cases hawaits with
    | first => exact ⟨rfl, .nothing rfl⟩
    | further hfollowing => exact ⟨rfl, .missing hfollowing⟩
  · cases hanswer
  · cases hawaits <;> exact ⟨rfl, .broken message⟩

/-- **What one step does.**  A poll that goes on with an answer asks for the page that the answer
announces, if it announces one, and stands where the answers so far have brought it. -/
theorem Awaits.poll (hawaits : d.Awaits pages token next) (hannouncing : Announcing pages)
    (front : List (Stride (Host State))) (answer : PageAnswer) (now : Time) (h : Host State) :
    h.since (d.poll now h (next answer)).1
        = ((PageAnswer.announced? answer).toList.map some).map (Call.pollDecision d.request) ∧
      Stands d (front ++ [⟨now, h, (d.poll now h (next answer)).1⟩]) (pages.map .page ++ [answer])
        (d.poll now h (next answer)).2 := by
  cases hanswer : PageAnswer.page? answer with
  | none =>
      obtain ⟨hsame, hends⟩ := hawaits.ends hanswer now h
      refine ⟨?_, .ended hannouncing hends⟩
      rw [PageAnswer.announced?, hanswer, Option.bind_none]
      exact Host.since_of_eq (congrArg Host.calls hsame)
  | some p =>
      obtain rfl := PageAnswer.eq_page hanswer
      obtain ⟨first, rest, hpages, hpoll⟩ := hawaits.exists_collect p
      have hanswers : pages.map PageAnswer.page ++ [.page p] = (first :: rest).map .page := by
        rw [← hpages, List.map_append, List.map_singleton]
      rw [hpoll, hanswers, PageAnswer.announced?, hanswer, Option.bind_some]
      cases htoken : p.nextPageToken with
      | none =>
          exact ⟨Host.since_of_eq rfl, .collected ⟨pages, p, hpages.symm, hannouncing, htoken⟩⟩
      | some token =>
          have hask := since_ask d now (some token) h
          refine ⟨hask, .waits ?_ hask (.further ?_)⟩
          · rw [← hpages]
            exact HistoryPage.announcing_concat.mpr ⟨hannouncing, by rw [htoken]; rfl⟩
          · rw [← hpages, HistoryPage.following?_concat, htoken]

/-! ### A whole poll -/

variable {strides : List (Stride (Host State))} {answers : List PageAnswer}
  {progress : Progress Collection (Except Error (Option DecisionTask))}

/-- A poll that goes on has been waiting for the answer that it goes on with. -/
theorem Stands.exists_of_next? (h : d.Stands strides answers progress) {state : Collection}
    (hnext : progress.next? = some state) :
    ∃ front asked pages token next ms answer, strides = front ++ [asked] ∧
      answers = pages.map .page ∧ Announcing pages ∧ d.Asks asked token ∧
      d.Awaits pages token next ∧ d.reply token asked.before = .after ms answer ∧
      state = next answer := by
  cases h with
  | @waits front asked pages token next hannouncing hasked hawaits =>
      cases hreply : d.reply token asked.before with
      | never =>
          rw [hreply] at hnext
          cases hnext
      | after ms answer =>
          rw [hreply] at hnext
          cases hnext
          exact ⟨front, asked, pages, token, next, ms, answer, rfl, rfl, hannouncing, hasked,
            hawaits, hreply, rfl⟩
  | collected => cases hnext
  | ended hannouncing hends => cases hends <;> cases hnext

/-- **Where a poll stands**, whatever the service has answered. -/
theorem Polls.stands (h : d.Polls strides answers progress) :
    d.Stands strides answers progress := by
  induction h with
  | start now h =>
      have hnone : Announcing [] := fun _ hp => absurd hp List.not_mem_nil
      exact @Stands.waits _ d [] _ [] _ _ hnone (since_ask d now none h) .first
  | step hpolls hnext now h ih =>
      obtain ⟨front, asked, pages, token, next, ms, answer, rfl, rfl, hannouncing, -, hawaits, -,
        rfl⟩ := ih.exists_of_next? hnext
      rw [hawaits.answer?_next]
      exact (hawaits.poll hannouncing _ answer now h).2

/-- The calls of a poll: for a first page, and for each page that is announced. -/
theorem Polls.calls (h : d.Polls strides answers progress) :
    strides.flatMap Stride.calls
      = (none :: (answers.filterMap PageAnswer.announced?).map some).map
          (Call.pollDecision d.request) := by
  induction h with
  | start now h => exact (List.append_nil _).trans (since_ask d now none h)
  | step hpolls hnext now h ih =>
      obtain ⟨front, asked, pages, token, next, ms, answer, -, -, hannouncing, -, hawaits, -,
        rfl⟩ := hpolls.stands.exists_of_next? hnext
      have hcalls := (hawaits.poll hannouncing front answer now h).1
      rw [hawaits.answer?_next, List.flatMap_append, ih, List.flatMap_singleton, Stride.calls,
        hcalls, Option.toList_some, List.filterMap_append, List.map_append, ← List.cons_append,
        List.map_append]
      cases hannounced : PageAnswer.announced? answer <;> simp [hannounced]

/-- The answers that a poll goes on with are those that the service has given to its calls. -/
theorem Polls.given (h : d.Polls strides answers progress) :
    List.Forall₂ d.Gives strides.dropLast answers := by
  induction h with
  | start now h => exact .nil
  | step hpolls hnext now h ih =>
      obtain ⟨front, asked, pages, token, next, ms, answer, rfl, -, -, hasked, hawaits, hreply,
        rfl⟩ := hpolls.stands.exists_of_next? hnext
      rw [hawaits.answer?_next, Option.toList_some, List.dropLast_concat]
      rw [List.dropLast_concat] at ih
      exact List.rel_append ih (.cons ⟨token, ms, hasked, hreply⟩ .nil)

/-- What a poll makes of the answers that it gets. -/
structure Collects (d : DecisionDuty State) (strides : List (Stride (Host State)))
    (answers : List PageAnswer)
    (progress : Progress Collection (Except Error (Option DecisionTask))) : Prop where
  /-- It asks for a first page, and then once for each page that is announced, in the order in
  which they are announced and always with the same request. -/
  requests : strides.flatMap Stride.calls
    = (none :: (answers.filterMap PageAnswer.announced?).map some).map (Call.pollDecision d.request)
  /-- The answers are those of the service to its calls. -/
  given : List.Forall₂ d.Gives strides.dropLast answers
  /-- As long as every page announces another it waits for the answer to its last call, and goes on
  with it. -/
  waits : ∀ pages, answers = pages.map .page → Announcing pages →
    ∃ asked token next, strides.getLast? = some asked ∧ d.Asks asked token ∧
      progress = (d.reply token asked.before).progress next ∧
      ∀ answer, (next answer).answer? = some answer
  /-- It gives a task if all pages have been handed out, and the task is that of all pages. -/
  task_iff : ∀ task, progress = .done (.ok (some task)) ↔
    ∃ first rest, answers = (first :: rest).map .page ∧ Entire (first :: rest) ∧
      task = .ofPages d.request.domain first rest
  /-- It gives nothing if there is no first page. -/
  nothing_iff : progress = .done (.ok none) ↔ answers = [.given (.ok none)]
  /-- It fails if the service refuses a call, for the reason that the service gives, or if a page
  that was announced is not delivered. -/
  error_iff : ∀ e, progress = .done (.error e) ↔ ∃ pages, Announcing pages ∧
    ((∃ refusal, answers = pages.map .page ++ [.given (.error refusal)] ∧ e = .remote refusal) ∨
      ∃ token, following? pages = some token ∧ answers = pages.map .page ++ [.given (.ok none)] ∧
        e = .remote (.transient ("history page " ++ token ++ " was not delivered")))
  /-- It breaks off if a call does. -/
  crash_iff : ∀ message, progress = .crash message ↔
    ∃ pages, Announcing pages ∧ answers = pages.map .page ++ [.broken message]
  /-- No failure of a poll stops its poller. -/
  passing : ∀ e, progress = .done (.error e) → d.source.isFatal e = false

theorem Ends.page?_eq_none {answer : PageAnswer} (hends : Ends pages answer progress) :
    PageAnswer.page? answer = none := by
  cases hends <;> rfl

theorem progress_ne_done {reply : Reply (Remote (Option HistoryPage))}
    {result : Except Error (Option DecisionTask)} : reply.progress next ≠ .done result := by
  cases reply <;> nofun

theorem progress_ne_crash {reply : Reply (Remote (Option HistoryPage))} {message : String} :
    (reply.progress next : Progress Collection (Except Error (Option DecisionTask)))
      ≠ .crash message := by
  cases reply <;> nofun

namespace Stands

/-- A poll that has been given nothing but pages waits for another one, or has collected all. -/
theorem of_pages (h : d.Stands strides answers progress) (hanswers : answers = pages.map .page) :
    (Announcing pages ∧ ∃ front asked token next, strides = front ++ [asked] ∧
        d.Asks asked token ∧ d.Awaits pages token next ∧
        progress = (d.reply token asked.before).progress next) ∨
      ∃ first rest, pages = first :: rest ∧ Entire pages ∧
        progress = .done (.ok (some (.ofPages d.request.domain first rest))) := by
  cases h with
  | @waits front asked pages' token next hannouncing hasked hawaits =>
      obtain rfl := PageAnswer.map_page_injective hanswers
      exact .inl ⟨hannouncing, front, asked, token, next, rfl, hasked, hawaits, rfl⟩
  | @collected strides first rest hentire =>
      obtain rfl := PageAnswer.map_page_injective hanswers
      exact .inr ⟨first, rest, rfl, hentire, rfl⟩
  | ended hannouncing hends =>
      exact absurd hanswers (PageAnswer.concat_ne_pages hends.page?_eq_none _ _)

/-- A poll ends with an answer that is no page. -/
theorem of_concat (h : d.Stands strides answers progress) {answer : PageAnswer}
    (hanswer : PageAnswer.page? answer = none) (hanswers : answers = pages.map .page ++ [answer]) :
    Ends pages answer progress := by
  cases h with
  | waits | collected => exact absurd hanswers.symm (PageAnswer.concat_ne_pages hanswer _ _)
  | ended hannouncing hends =>
      obtain ⟨hpages, hlast⟩ := List.append_inj' hanswers rfl
      obtain rfl := PageAnswer.map_page_injective hpages
      cases hlast
      exact hends

/-- A poll that is over has collected all pages, or has ended with an answer that is no page. -/
theorem of_over (h : d.Stands strides answers progress)
    (hover : ∀ (reply : Reply (Remote (Option HistoryPage))) next, progress ≠ reply.progress next) :
    (∃ first rest, answers = (first :: rest).map .page ∧ Entire (first :: rest) ∧
        progress = .done (.ok (some (.ofPages d.request.domain first rest)))) ∨
      ∃ pages answer, Announcing pages ∧ answers = pages.map .page ++ [answer] ∧
        Ends pages answer progress := by
  cases h with
  | waits => exact absurd rfl (hover _ _)
  | @collected strides first rest hentire => exact .inl ⟨first, rest, rfl, hentire, rfl⟩
  | @ended strides pages answer progress hannouncing hends =>
      exact .inr ⟨pages, answer, hannouncing, rfl, hends⟩

/-- A poll gives a task exactly if all pages that were announced have come. -/
theorem task_iff (h : d.Stands strides answers progress) (task : DecisionTask) :
    progress = .done (.ok (some task)) ↔ ∃ first rest, answers = (first :: rest).map .page ∧
      Entire (first :: rest) ∧ task = .ofPages d.request.domain first rest := by
  constructor
  · rintro rfl
    rcases h.of_over (fun _ _ => progress_ne_done.symm) with
      ⟨first, rest, hanswers, hentire, htask⟩ | ⟨pages, answer, -, -, hends⟩
    · cases htask
      exact ⟨first, rest, hanswers, hentire, rfl⟩
    · cases hends
  · rintro ⟨first, rest, hanswers, hentire, rfl⟩
    rcases h.of_pages hanswers with ⟨hannouncing, -⟩ | ⟨first', rest', hpages, -, hprogress⟩
    · exact absurd hannouncing hentire.not_announcing
    · cases hpages
      exact hprogress

/-- A poll gives nothing exactly if the service has nothing to begin with. -/
theorem nothing_iff (h : d.Stands strides answers progress) :
    progress = .done (.ok none) ↔ answers = [.given (.ok none)] := by
  constructor
  · rintro rfl
    rcases h.of_over (fun _ _ => progress_ne_done.symm) with
      ⟨first, rest, -, -, hresult⟩ | ⟨pages, answer, -, hanswers, hends⟩
    · cases hresult
    · cases hends with
      | nothing hpages => rw [hanswers, hpages, List.map_nil, List.nil_append]
  · intro hanswers
    have hempty : answers = ([] : List HistoryPage).map .page ++ [.given (.ok none)] := hanswers
    cases h.of_concat rfl hempty with
    | nothing => rfl
    | missing hfollowing => cases hfollowing

/-- A poll fails exactly if a call is refused, or a page does not come although it was announced. -/
theorem error_iff (h : d.Stands strides answers progress) (e : Error) :
    progress = .done (.error e) ↔ ∃ pages, Announcing pages ∧
      ((∃ refusal, answers = pages.map .page ++ [.given (.error refusal)] ∧ e = .remote refusal) ∨
        ∃ token, following? pages = some token ∧ answers = pages.map .page ++ [.given (.ok none)] ∧
          e = .remote (.missingPage token)) := by
  constructor
  · rintro rfl
    rcases h.of_over (fun _ _ => progress_ne_done.symm) with
      ⟨first, rest, -, -, hresult⟩ | ⟨pages, answer, hannouncing, hanswers, hends⟩
    · cases hresult
    · cases hends with
      | @missing token hfollowing =>
          exact ⟨pages, hannouncing, .inr ⟨token, hfollowing, hanswers, rfl⟩⟩
      | refused refusal => exact ⟨pages, hannouncing, .inl ⟨refusal, hanswers, rfl⟩⟩
  · rintro ⟨pages, -, ⟨refusal, hanswers, rfl⟩ | ⟨token, hfollowing, hanswers, rfl⟩⟩
    · cases h.of_concat rfl hanswers
      rfl
    · cases h.of_concat rfl hanswers with
      | nothing hpages =>
          rw [hpages] at hfollowing
          cases hfollowing
      | missing hfollowing' =>
          rw [hfollowing] at hfollowing'
          cases hfollowing'
          rfl

/-- A poll breaks off exactly if a call does. -/
theorem crash_iff (h : d.Stands strides answers progress) (message : String) :
    progress = .crash message ↔
      ∃ pages, Announcing pages ∧ answers = pages.map .page ++ [.broken message] := by
  constructor
  · rintro rfl
    rcases h.of_over (fun _ _ => progress_ne_crash.symm) with
      ⟨first, rest, -, -, hresult⟩ | ⟨pages, answer, hannouncing, hanswers, hends⟩
    · cases hresult
    · cases hends
      exact ⟨pages, hannouncing, hanswers⟩
  · rintro ⟨pages, -, hanswers⟩
    cases h.of_concat rfl hanswers
    rfl

end Stands

/-- **All pages are collected, or there is no task.**  Whatever the service answers to the calls of
a poll, and whatever becomes of the host between its steps, the poll asks once for each page that is
announced, gives the task of all pages if all of them have come, and fails in a way that its poller
survives if one of them has not. -/
theorem Polls.collects_all_or_nothing (h : d.Polls strides answers progress) :
    d.Collects strides answers progress where
  requests := h.calls
  given := h.given
  waits := fun pages hanswers hannouncing => by
    rcases h.stands.of_pages hanswers with
      ⟨-, front, asked, token, next, rfl, hasked, hawaits, hprogress⟩ | ⟨first, rest, -, hentire, -⟩
    · exact ⟨asked, token, next, List.getLast?_concat, hasked, hprogress, hawaits.answer?_next⟩
    · exact absurd hannouncing hentire.not_announcing
  task_iff := h.stands.task_iff
  nothing_iff := h.stands.nothing_iff
  error_iff := h.stands.error_iff
  crash_iff := h.stands.crash_iff
  passing := fun e he => by
    obtain ⟨pages, -, ⟨refusal, -, rfl⟩ | ⟨token, -, -, rfl⟩⟩ := (h.stands.error_iff e).mp he
    · rfl
    · rfl

/-- A poll of a worker without handlers, which comes to a first page and goes on with what the
service has for the page behind it. -/
theorem polls_twice (first : HistoryPage) (second : Option HistoryPage)
    (hnext : first.nextPageToken = some "next") :
    ∃ strides progress, idle.Polls strides [.page first, .given (.ok second)] progress := by
  let script : Script :=
    { Script.empty with
      decisionPolls := [⟨0, .given (some first)⟩], pages := [("next", [⟨0, .given second⟩])] }
  let host : Host Script := .start script ⟨toString, 0⟩
  let asked : Host Script := (idle.poll 0 host .start).1
  have hfirst : (idle.poll 0 asked (.first (PageAnswer.page first))).2
      = .wait 0 (.further (.ofFirstPage "test-domain" first) "next" (.given (.ok second))) := by
    have hpoll : idle.poll 0 asked (.first (PageAnswer.page first))
      = idle.collect 0 asked (.ofFirstPage "test-domain" first) first.nextPageToken := rfl
    rw [hpoll, hnext]
    rfl
  have hstart := Polls.start (d := idle) 0 host
  have hanswer : (idle.poll 0 host .start).2.next? = some (.first (PageAnswer.page first)) := rfl
  have hone := hstart.step hanswer 0 asked
  have htwo := hone.step (congrArg Progress.next? hfirst) 0 asked
  exact ⟨_, _, htwo⟩

/-- The second of two pages says something else than the first, or is not delivered. -/
theorem Polls.collects_all_or_nothing_twoPages :
    let request : PollRequest := ⟨"test-domain", "list", "w"⟩
    let paid : Event := ⟨2, .epoch, .workflowExecutionSignaled "paid" none⟩
    let placed : Event := ⟨1, .epoch, .workflowExecutionSignaled "placed" none⟩
    let first : HistoryPage := .ofFirstTask [paid] (some "next")
    let second : HistoryPage :=
      ⟨"other", ⟨"wf-2", "run-2"⟩, ⟨"refund", "2"⟩, 7, 9, [placed, paid], none⟩
    (∃ strides, idle.Polls strides [.page first, .page second] (.done (.ok (some
        ⟨"token", ⟨"test-domain", ⟨"wf-1", "run-1"⟩, ⟨"order", "1"⟩, 3⟩, 0,
          [paid, placed, paid]⟩))) ∧
      strides.flatMap Stride.calls
        = [.pollDecision request none, .pollDecision request (some "next")]) ∧
    ∃ strides e, idle.Polls strides [.page first, .given (.ok none)] (.done (.error e)) ∧
      e = .remote (.transient "history page next was not delivered") ∧
      idle.source.isFatal e = false := by
  intro request paid placed first second
  have hannouncing : Announcing [first] := List.forall_mem_singleton.mpr rfl
  obtain ⟨strides, progress, htaken⟩ := polls_twice first (some second) rfl
  obtain ⟨strides', progress', hmissed⟩ := polls_twice first none rfl
  have htask := (htaken.collects_all_or_nothing.task_iff _).mpr
    ⟨first, [second], rfl, ⟨[first], second, rfl, hannouncing, rfl⟩, rfl⟩
  have herror := (hmissed.collects_all_or_nothing.error_iff _).mpr
    ⟨[first], hannouncing, .inr ⟨"next", rfl, rfl, rfl⟩⟩
  exact ⟨⟨strides, htask ▸ htaken, htaken.collects_all_or_nothing.requests⟩, strides', _,
    herror ▸ hmissed, rfl, hmissed.collects_all_or_nothing.passing _ herror⟩

end DecisionDuty

end DurableWorkflow
