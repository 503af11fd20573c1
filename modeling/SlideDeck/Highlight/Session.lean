import SlideDeck.Highlight.Request

/-!
# Highlighting side by side

Several workers share one table of languages. A session asks for batches of requests and goes on
with their results; the requests of a batch are worked on in any order. A request takes the table
up to twice: to look, and, when the language is not in it, to look again and load the language if it
still is not. Between the two sections others may take the table.
-/

namespace SlideDeck.Highlight

/-- A computation that asks for batches of requests to be resolved. -/
inductive Session (α : Type) where
  /-- Nothing more is asked for. -/
  | done (value : α)
  /-- A batch is asked for, and its results decide what follows. -/
  | ask (requests : List Request) (next : List Result → Session α)

namespace Session

variable {α β : Type}

/-- The session with a function applied to its value. -/
def map (f : α → β) : Session α → Session β
  | done value => .done (f value)
  | ask requests next => .ask requests fun results => (next results).map f

/-- The session that asks for batches in order and collects their results. -/
def ofBatches : List (List Request) → Session (List (List Result))
  | [] => .done []
  | batch :: rest => .ask batch fun results => (ofBatches rest).map (results :: ·)

/-- A session on its own, one request after another. -/
def run (h : Highlighter) (table : LanguageTable) : Session α → α × LanguageTable
  | done value => (value, table)
  | ask requests next =>
    let (results, table) := resolveAll h table requests
    (next results).run h table

end Session

/-- What the workers share. -/
structure Shared where
  /-- The languages that were tried. -/
  table : LanguageTable
  /-- The languages that the highlighter was asked to load, in the order of the calls. -/
  calls : List String

/-- The section that looks again, and loads and remembers a language that is still not known. -/
def Shared.load (h : Highlighter) (shared : Shared) (lang : String) : Bool × Shared :=
  match shared.table.get? lang with
  | some available => (available, shared)
  | none =>
    let available := match h.load lang with
      | .ok () => true
      | .error _ => false
    (available, { table := shared.table.insert lang available, calls := shared.calls ++ [lang] })

/-- The result of a request whose language is available, or is not. -/
def Request.result (h : Highlighter) (r : Request) (available : Bool) : Result :=
  let used := if available then r.lang else plaintext
  { handle := r.handle, nodes := markup h r.code used, used
    unknown := if available then none else some r.lang }

/-- How far a request has come. -/
inductive Phase where
  /-- No worker has taken it up. -/
  | waiting
  /-- Its language was not in the table when a worker looked. -/
  | missed
  /-- It is resolved. -/
  | resolved (result : Result)

/-- A request that is worked on. -/
structure Job where
  /-- The request. -/
  request : Request
  /-- How far it has come. -/
  phase : Phase

/-- The result of a job that is resolved. -/
def Job.result? (job : Job) : Option Result :=
  match job.phase with
  | .resolved result => some result
  | _ => none

/-- True of a job that holds a worker between its two sections. -/
def Job.isBusy (job : Job) : Bool :=
  match job.phase with
  | .missed => true
  | _ => false

/-- How far a request comes when a worker looks for its language. -/
def Request.look (h : Highlighter) (table : LanguageTable) (r : Request) : Phase :=
  if r.lang = plaintext then .resolved (r.result h true)
  else
    match table.get? r.lang with
    | some available => .resolved (r.result h available)
    | none => .missed

/-- One section of a job; a free worker takes up a job that waits. -/
inductive JobStep (h : Highlighter) (free : Prop) : Shared → Job → Shared → Job → Prop
  | look (shared : Shared) (r : Request) (worker : free) :
      JobStep h free shared ⟨r, .waiting⟩ shared ⟨r, r.look h shared.table⟩
  | load (shared : Shared) (r : Request) :
      JobStep h free shared ⟨r, .missed⟩ (shared.load h r.lang).2
        ⟨r, .resolved (r.result h (shared.load h r.lang).1)⟩

/-- A session whose batch is worked on, or that has come to its end. -/
inductive Caller (α : Type) where
  | finished (value : α)
  | working (jobs : List Job) (next : List Result → Session α)

namespace Caller

variable {α : Type}

/-- The caller of a session from which nothing is done. -/
def ofSession : Session α → Caller α
  | .done value => .finished value
  | .ask requests next => .working (requests.map fun r => ⟨r, .waiting⟩) next

/-- The jobs of the batch that is worked on. -/
def jobs : Caller α → List Job
  | finished _ => []
  | working jobs _ => jobs

end Caller

/-- One step of a caller: a section of one of its jobs, or the end of a batch, whose results go on in
the order of the requests. -/
inductive CallerStep {α : Type} (h : Highlighter) (free : Prop) :
    Shared → Caller α → Shared → Caller α → Prop
  | job {shared shared' : Shared} {job job' : Job} (before after : List Job)
      (next : List Result → Session α) (step : JobStep h free shared job shared' job') :
      CallerStep h free shared (.working (before ++ job :: after) next) shared'
        (.working (before ++ job' :: after) next)
  | join {jobs : List Job} {results : List Result} (shared : Shared)
      (next : List Result → Session α) (all : jobs.map Job.result? = results.map some) :
      CallerStep h free shared (.working jobs next) shared (.ofSession (next results))

/-- Tasks that share a table. -/
structure Pool (α : Type) where
  /-- What they share. -/
  shared : Shared
  /-- The callers. -/
  callers : List (Caller α)

namespace Pool

variable {α : Type}

/-- Sessions from which nothing is done, with a table. -/
def start (table : LanguageTable) (sessions : List (Session α)) : Pool α where
  shared := { table, calls := [] }
  callers := sessions.map Caller.ofSession

/-- The number of workers that stand between the two sections of a job. -/
def busy (pool : Pool α) : Nat := (pool.callers.flatMap Caller.jobs).countP Job.isBusy

/-- One step of any of the callers, with a number of workers. -/
inductive Step (h : Highlighter) (workers : Nat) : Pool α → Pool α → Prop
  | caller {shared shared' : Shared} {t t' : Caller α} (before after : List (Caller α))
      (step : CallerStep h (busy ⟨shared, before ++ t :: after⟩ < workers) shared t shared' t') :
      Step h workers ⟨shared, before ++ t :: after⟩ ⟨shared', before ++ t' :: after⟩

/-- A number of steps, one after another. -/
inductive Run (h : Highlighter) (workers : Nat) : Nat → Pool α → Pool α → Prop
  | refl (pool : Pool α) : Run h workers 0 pool pool
  | tail {n : Nat} {first middle last : Pool α} (run : Run h workers n first middle)
      (step : Step h workers middle last) : Run h workers (n + 1) first last

end Pool

end SlideDeck.Highlight
