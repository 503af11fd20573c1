import Mathlib.Algebra.GroupWithZero.Nat
import Mathlib.Data.List.Nodup
import Mathlib.Tactic.Common
import SlideDeck.Highlight.Session
import SlideDeck.Proofs.Highlight.Table

/-!
# Any order of the sections

Whatever workers share a table, and in whatever order their sections follow one another, each
request gets the result that it gets alone. The table agrees with the highlighter at every step, and
a language that was loaded is in the table, so the second look keeps it from being loaded again.
-/

namespace SlideDeck.Highlight

variable {α : Type} {h : Highlighter} {workers : Nat} {free : Prop}

/-! ## One request -/

/-- What a request is answered without a table. -/
structure Answers (h : Highlighter) (r : Request) (result : Result) : Prop where
  handle : result.handle = r.handle
  unknown : ∀ lang, result.unknown = some lang ↔
    lang = r.lang ∧ lang ≠ plaintext ∧ ∃ cause, h.load lang = .error cause
  used : result.used = if result.unknown.isSome then plaintext else r.lang
  nodes : result.nodes = match h.highlight r.code result.used with
    | .ok nodes => nodes
    | .error _ => plainLines r.code plaintext

theorem loads_eq_false_iff {lang : String} :
    loads h lang = false ↔ ∃ cause, h.load lang = .error cause := by
  unfold loads
  cases h.load lang <;> simp

theorem answers_resolveAlone (r : Request) : Answers h r (resolveAlone h r) := by
  unfold resolveAlone
  by_cases usable : r.lang = plaintext ∨ loads h r.lang = true
  · rw [if_pos usable]
    refine ⟨rfl, fun lang => ?_, rfl, rfl⟩
    constructor
    · intro unknown
      cases unknown
    · rintro ⟨rfl, not_plain, failed⟩
      rw [← loads_eq_false_iff] at failed
      simp [not_plain, failed] at usable
  · rw [if_neg usable]
    obtain ⟨not_plain, not_loaded⟩ := not_or.mp usable
    have failed := loads_eq_false_iff.mp (Bool.eq_false_iff.mpr not_loaded)
    refine ⟨rfl, fun lang => ?_, rfl, rfl⟩
    constructor
    · rintro ⟨⟩
      exact ⟨rfl, not_plain, failed⟩
    · rintro ⟨rfl, -, -⟩
      rfl

theorem result_of_plain {r : Request} (plain : r.lang = plaintext) :
    r.result h true = resolveAlone h r := by
  simp [Request.result, resolveAlone, plain]

theorem result_of_loads {r : Request} (not_plain : r.lang ≠ plaintext) :
    r.result h (loads h r.lang) = resolveAlone h r := by
  cases loaded : loads h r.lang <;> simp [Request.result, resolveAlone, not_plain, loaded]

/-! ## What the workers share -/

/-- What holds of the table between any two sections. -/
structure Shared.Sound (h : Highlighter) (shared : Shared) : Prop where
  agrees : Agrees h shared.table
  once : shared.calls.Nodup
  not_plain : plaintext ∉ shared.calls
  known : ∀ lang ∈ shared.calls, (shared.table.get? lang).isSome

theorem Shared.load_eq_ensure (shared : Shared) (lang : String) :
    ((shared.load h lang).1, (shared.load h lang).2.table) = ensure h shared.table lang := by
  unfold Shared.load ensure
  cases shared.table.get? lang <;> rfl

theorem Shared.Sound.fst_load {shared : Shared} (sound : shared.Sound h) (lang : String) :
    (shared.load h lang).1 = loads h lang := by
  have same : (shared.load h lang).1 = (ensure h shared.table lang).1 :=
    congrArg Prod.fst (shared.load_eq_ensure lang)
  exact same.trans (ensure_of_agrees sound.agrees lang).1

theorem Shared.Sound.load {shared : Shared} (sound : shared.Sound h) {lang : String}
    (not_plain : lang ≠ plaintext) : (shared.load h lang).2.Sound h := by
  have agrees : Agrees h (shared.load h lang).2.table := by
    have same : (shared.load h lang).2.table = (ensure h shared.table lang).2 :=
      congrArg Prod.snd (shared.load_eq_ensure lang)
    rw [same]
    exact (ensure_of_agrees sound.agrees lang).2
  cases found : shared.table.get? lang with
  | some available =>
      have kept : (shared.load h lang).2 = shared := by simp only [Shared.load, found]
      rwa [kept]
  | none =>
      have calls : (shared.load h lang).2.calls = shared.calls ++ [lang] := by
        simp only [Shared.load, found]
      -- a language that was loaded before would have been found by the second look
      have fresh : lang ∉ shared.calls := fun called => by
        simpa [found] using sound.known lang called
      refine ⟨agrees, ?_, ?_, fun other called => ?_⟩
      · rw [calls]
        exact List.Nodup.append sound.once (List.nodup_singleton lang)
          (List.disjoint_singleton.mpr fresh)
      · rw [calls, List.mem_append, List.mem_singleton]
        exact not_or.mpr ⟨sound.not_plain, not_plain.symm⟩
      · rw [calls, List.mem_append, List.mem_singleton] at called
        simp only [Shared.load, found, Dict.get?_insert]
        split_ifs with same
        · rfl
        · exact sound.known other (called.resolve_right (Ne.symm same))

/-! ## One job -/

/-- What holds of a job between any two sections. -/
def Job.Sound (h : Highlighter) (job : Job) : Prop :=
  match job.phase with
  | .waiting => True
  | .missed => job.request.lang ≠ plaintext
  | .resolved result => result = resolveAlone h job.request

/-- The sections that a job may still take. -/
def Job.sections (job : Job) : Nat :=
  match job.phase with
  | .waiting => 2
  | .missed => 1
  | .resolved _ => 0

theorem Job.Sound.of_result? {job : Job} (sound : job.Sound h) {result : Result}
    (found : job.result? = some result) : result = resolveAlone h job.request := by
  obtain ⟨r, phase⟩ := job
  cases phase with
  | resolved _ => exact (Option.some.inj found).symm.trans sound
  | _ => cases found

theorem sound_look {table : LanguageTable} (agrees : Agrees h table) (r : Request) :
    Job.Sound h ⟨r, r.look h table⟩ ∧ Job.sections ⟨r, r.look h table⟩ < 2 := by
  unfold Request.look
  by_cases plain : r.lang = plaintext
  · rw [if_pos plain]
    exact ⟨result_of_plain plain, Nat.two_pos⟩
  · rw [if_neg plain]
    cases found : table.get? r.lang with
    | some available =>
        have answer : r.result h available = resolveAlone h r := by
          rw [agrees _ _ found]
          exact result_of_loads plain
        exact ⟨answer, by simp [Job.sections]⟩
    | none => exact ⟨plain, by simp [Job.sections]⟩

/-- What one section of a job keeps, and what it uses up. -/
theorem JobStep.keeps {shared shared' : Shared} {job job' : Job}
    (step : JobStep h free shared job shared' job') (sound : shared.Sound h)
    (job_sound : job.Sound h) :
    shared'.Sound h ∧ job'.Sound h ∧ job'.request = job.request ∧ job'.sections < job.sections := by
  cases step with
  | look r _ =>
      obtain ⟨looked, fewer⟩ := sound_look sound.agrees r
      exact ⟨sound, looked, rfl, fewer⟩
  | load r =>
      have answer : r.result h (shared.load h r.lang).1 = resolveAlone h r := by
        rw [sound.fst_load]
        exact result_of_loads job_sound
      exact ⟨sound.load job_sound, answer, rfl, Nat.one_pos⟩

/-- What holds of all members still does when one of them is replaced. -/
theorem forall_mem_replace {β : Type} {p : β → Prop} {before after : List β} {x y : β}
    (all : ∀ z ∈ before ++ x :: after, p z) (here : p y) : ∀ z ∈ before ++ y :: after, p z := by
  obtain ⟨early, late⟩ := List.forall_mem_append.mp all
  exact List.forall_mem_append.mpr
    ⟨early, List.forall_mem_cons.mpr ⟨here, (List.forall_mem_cons.mp late).2⟩⟩

/-! ## One caller -/

/-- What a session comes to when each request is resolved alone. -/
def Session.answer (h : Highlighter) : Session α → α
  | .done value => value
  | .ask requests next => (next (requests.map (resolveAlone h))).answer h

/-- The steps that a session takes at most. -/
def Session.steps (h : Highlighter) : Session α → Nat
  | .done _ => 0
  | .ask requests next =>
    2 * requests.length + 1 + (next (requests.map (resolveAlone h))).steps h

namespace Caller

/-- The session that goes on when the jobs of a caller are resolved. -/
def rest (h : Highlighter) (jobs : List Job) (next : List Result → Session α) : Session α :=
  next (jobs.map fun job => resolveAlone h job.request)

/-- What a caller comes to. -/
def answer (h : Highlighter) : Caller α → α
  | finished value => value
  | working jobs next => (rest h jobs next).answer h

/-- The steps that a caller may still take. -/
def steps (h : Highlighter) : Caller α → Nat
  | finished _ => 0
  | working jobs next => (jobs.map Job.sections).sum + 1 + (rest h jobs next).steps h

/-- What holds of a caller between any two steps. -/
def Sound (h : Highlighter) (caller : Caller α) : Prop := ∀ job ∈ caller.jobs, job.Sound h

end Caller

theorem Caller.ofSession_spec (session : Session α) :
    (ofSession session).Sound h ∧ (ofSession session).answer h = session.answer h ∧
      (ofSession session).steps h = session.steps h := by
  cases session with
  | done value =>
      refine ⟨fun job member => ?_, rfl, rfl⟩
      cases member
  | ask requests next =>
      have alone : rest h (requests.map fun r => (⟨r, .waiting⟩ : Job)) next =
          next (requests.map (resolveAlone h)) := by
        simp only [rest, List.map_map, Function.comp_def]
      have two : (requests.map fun r => Job.sections ⟨r, .waiting⟩).sum = 2 * requests.length := by
        simp [Job.sections, Nat.mul_comm]
      refine ⟨fun job member => ?_, ?_, ?_⟩
      · obtain ⟨r, -, rfl⟩ := List.mem_map.mp member
        trivial
      · simp only [ofSession, answer, alone, Session.answer]
      · simp only [ofSession, steps, alone, List.map_map, Function.comp_def, two, Session.steps]

/-- The results of jobs that are all resolved. -/
theorem results_of_sound {jobs : List Job} {results : List Result}
    (sound : ∀ job ∈ jobs, job.Sound h) (all : jobs.map Job.result? = results.map some) :
    results = jobs.map fun job => resolveAlone h job.request := by
  induction jobs generalizing results with
  | nil => simpa using all
  | cons job jobs ih =>
      cases results with
      | nil => cases all
      | cons result results =>
          obtain ⟨first, others⟩ := List.cons.inj all
          rw [List.map_cons, ← (sound job List.mem_cons_self).of_result? first,
            ← ih (fun job member => sound job (List.mem_cons_of_mem _ member)) others]

/-- What one step of a caller keeps, and what it uses up. -/
theorem CallerStep.keeps {shared shared' : Shared} {caller caller' : Caller α}
    (step : CallerStep h free shared caller shared' caller') (sound : shared.Sound h)
    (caller_sound : caller.Sound h) :
    shared'.Sound h ∧ caller'.Sound h ∧ caller'.answer h = caller.answer h ∧
      caller'.steps h < caller.steps h := by
  cases step with
  | @job _ _ job job' before after next section_step =>
      obtain ⟨kept, job_kept, request, fewer⟩ :=
        section_step.keeps sound (caller_sound job List.mem_append_cons_self)
      have same : Caller.rest h (before ++ job' :: after) next =
          Caller.rest h (before ++ job :: after) next := by
        simp only [Caller.rest, List.map_append, List.map_cons, request]
      refine ⟨kept, forall_mem_replace caller_sound job_kept, congrArg (Session.answer h) same, ?_⟩
      simp only [Caller.steps, same, List.map_append, List.map_cons, List.sum_append, List.sum_cons]
      omega
  | @join jobs results _ next all =>
      have alone : next results = Caller.rest h jobs next :=
        congrArg next (results_of_sound caller_sound all)
      obtain ⟨started, answer, steps⟩ := Caller.ofSession_spec (h := h) (next results)
      refine ⟨sound, started, ?_, ?_⟩
      · rw [answer, alone, Caller.answer]
      · rw [steps, alone, Caller.steps]
        omega

/-! ## All callers -/

namespace Pool

/-- What holds between any two steps. -/
structure Sound (h : Highlighter) (pool : Pool α) : Prop where
  shared : pool.shared.Sound h
  callers : ∀ caller ∈ pool.callers, caller.Sound h

/-- What the callers come to. -/
def answers (h : Highlighter) (pool : Pool α) : List α := pool.callers.map (Caller.answer h)

/-- The steps that the callers may still take. -/
def steps (h : Highlighter) (pool : Pool α) : Nat := (pool.callers.map (Caller.steps h)).sum

theorem sound_start {table : LanguageTable} (agrees : Agrees h table)
    (sessions : List (Session α)) : (start table sessions).Sound h := by
  refine ⟨⟨agrees, List.nodup_nil, List.not_mem_nil, fun lang called => ?_⟩,
    fun caller member => ?_⟩
  · cases called
  · obtain ⟨session, -, rfl⟩ := List.mem_map.mp member
    exact (Caller.ofSession_spec session).1

theorem answers_start (table : LanguageTable) (sessions : List (Session α)) :
    (start table sessions).answers h = sessions.map (Session.answer h) := by
  simp only [answers, start, List.map_map, Function.comp_def, (Caller.ofSession_spec _).2.1]

theorem steps_start (table : LanguageTable) (sessions : List (Session α)) :
    (start table sessions).steps h = (sessions.map (Session.steps h)).sum := by
  simp only [steps, start, List.map_map, Function.comp_def, (Caller.ofSession_spec _).2.2]

theorem Step.keeps {pool pool' : Pool α} (step : Step h workers pool pool')
    (sound : pool.Sound h) :
    pool'.Sound h ∧ pool'.answers h = pool.answers h ∧ pool'.steps h < pool.steps h := by
  cases step with
  | @caller shared shared' t t' before after caller_step =>
      obtain ⟨kept, caller_kept, answer, fewer⟩ :=
        caller_step.keeps sound.shared (sound.callers t List.mem_append_cons_self)
      refine ⟨⟨kept, forall_mem_replace sound.callers caller_kept⟩, ?_, ?_⟩
      · simp only [answers, List.map_append, List.map_cons, answer]
      · simp only [steps, List.map_append, List.map_cons, List.sum_append, List.sum_cons]
        omega

theorem Run.keeps {n : Nat} {pool pool' : Pool α} (run : Run h workers n pool pool')
    (sound : pool.Sound h) :
    pool'.Sound h ∧ pool'.answers h = pool.answers h ∧ n + pool'.steps h ≤ pool.steps h := by
  -- each step uses up what it adds to the length of the run
  induction run with
  | refl => exact ⟨sound, rfl, by omega⟩
  | tail _ step ih =>
      obtain ⟨middle, answers, spent⟩ := ih sound
      obtain ⟨kept, answer, fewer⟩ := step.keeps middle
      exact ⟨kept, answer.trans answers, by omega⟩

/-- A section of any job is a step. -/
theorem exists_step_of_job {pool : Pool α} {caller : Caller α} (caller_mem : caller ∈ pool.callers)
    {job : Job} (job_mem : job ∈ caller.jobs) {shared' : Shared} {job' : Job}
    (step : JobStep h (busy pool < workers) pool.shared job shared' job') :
    ∃ pool', Step h workers pool pool' := by
  obtain ⟨shared, callers⟩ := pool
  obtain ⟨before, after, rfl⟩ := List.append_of_mem caller_mem
  cases caller with
  | finished _ => cases job_mem
  | working jobs next =>
      obtain ⟨earlier, later, rfl⟩ := List.append_of_mem job_mem
      exact ⟨_, .caller before after (.job earlier later next step)⟩

theorem map_result?_of_resolved {jobs : List Job}
    (resolved : ∀ job ∈ jobs, job.result? ≠ none) :
    jobs.map Job.result? = (jobs.filterMap Job.result?).map some := by
  induction jobs with
  | nil => rfl
  | cons job jobs ih =>
      obtain ⟨first, others⟩ := List.forall_mem_cons.mp resolved
      obtain ⟨result, found⟩ := Option.ne_none_iff_exists'.mp first
      rw [List.map_cons, List.filterMap_cons_some found, List.map_cons, found, ih others]

/-- With a worker, some caller can go on until all are finished. -/
theorem finished_or_exists_step (some_worker : 0 < workers) (pool : Pool α) :
    (∀ caller ∈ pool.callers, ∃ value, caller = .finished value) ∨
      ∃ pool', Step h workers pool pool' := by
  -- a worker between two sections can always take the second one
  by_cases held : ∃ caller ∈ pool.callers, ∃ job ∈ caller.jobs, job.isBusy
  · obtain ⟨caller, caller_mem, ⟨r, phase⟩, job_mem, busy⟩ := held
    cases phase with
    | missed => exact .inr (exists_step_of_job caller_mem job_mem (.load _ r))
    | _ => cases busy
  · have idle : busy pool < workers := by
      have none_busy : busy pool = 0 := by
        refine List.countP_eq_zero.mpr fun job member => ?_
        obtain ⟨caller, caller_mem, job_mem⟩ := List.mem_flatMap.mp member
        exact fun busy => held ⟨caller, caller_mem, job, job_mem, busy⟩
      omega
    by_cases open_job : ∃ caller ∈ pool.callers, ∃ job ∈ caller.jobs, job.result? = none
    · obtain ⟨caller, caller_mem, ⟨r, phase⟩, job_mem, unresolved⟩ := open_job
      cases phase with
      | waiting => exact .inr (exists_step_of_job caller_mem job_mem (.look _ r idle))
      | missed => exact (held ⟨caller, caller_mem, _, job_mem, rfl⟩).elim
      | resolved _ => cases unresolved
    · by_cases working : ∃ caller ∈ pool.callers, ∃ jobs next, caller = .working jobs next
      · obtain ⟨_, caller_mem, jobs, next, rfl⟩ := working
        have all := map_result?_of_resolved fun job job_mem unresolved =>
          open_job ⟨_, caller_mem, job, job_mem, unresolved⟩
        obtain ⟨shared, callers⟩ := pool
        obtain ⟨before, after, rfl⟩ := List.append_of_mem caller_mem
        exact .inr ⟨_, .caller before after (.join shared next all)⟩
      · refine .inl fun caller caller_mem => ?_
        cases caller with
        | finished value => exact ⟨value, rfl⟩
        | working jobs next => exact (working ⟨_, caller_mem, jobs, next, rfl⟩).elim

theorem callers_eq_of_finished {pool : Pool α}
    (finished : ∀ caller ∈ pool.callers, ∃ value, caller = .finished value) :
    pool.callers = (pool.answers h).map .finished := by
  rw [answers, List.map_map]
  conv_lhs => rw [← List.map_id pool.callers]
  refine List.map_congr_left fun caller member => ?_
  obtain ⟨value, rfl⟩ := finished caller member
  rfl

end Pool

/-! ## Batches in a row -/

/-- One request after another, with a table that agrees, is one of the orders. -/
theorem Session.run_of_agrees (session : Session α) {table : LanguageTable}
    (agrees : Agrees h table) :
    (session.run h table).1 = session.answer h ∧ Agrees h (session.run h table).2 := by
  induction session generalizing table with
  | done value => exact ⟨rfl, agrees⟩
  | ask requests next ih =>
      obtain ⟨results, still⟩ := resolveAll_of_agrees agrees requests
      obtain ⟨answer, left⟩ := ih (requests.map (resolveAlone h)) still
      simp only [Session.run, results]
      exact ⟨answer, left⟩

theorem Session.run_map {β : Type} (f : α → β) (session : Session α) (table : LanguageTable) :
    (session.map f).run h table = (f (session.run h table).1, (session.run h table).2) := by
  induction session generalizing table with
  | done value => rfl
  | ask requests next ih => exact ih _ _

theorem Session.answer_map {β : Type} (f : α → β) (session : Session α) :
    (session.map f).answer h = f (session.answer h) := by
  induction session with
  | done value => rfl
  | ask requests next ih => exact ih _

theorem Session.steps_map {β : Type} (f : α → β) (session : Session α) :
    (session.map f).steps h = session.steps h := by
  induction session with
  | done value => rfl
  | ask requests next ih =>
      simp only [Session.map, Session.steps]
      rw [ih]

theorem Session.answer_ofBatches (batches : List (List Request)) :
    (ofBatches batches).answer h = batches.map (List.map (resolveAlone h)) := by
  induction batches with
  | nil => rfl
  | cons batch rest ih =>
      simp only [ofBatches, Session.answer]
      rw [Session.answer_map, ih, List.map_cons]

theorem Session.steps_ofBatches (batches : List (List Request)) :
    (ofBatches batches).steps h = (batches.map fun batch => 2 * batch.length + 1).sum := by
  induction batches with
  | nil => rfl
  | cons batch rest ih =>
      simp only [ofBatches, Session.steps]
      rw [Session.steps_map, ih, List.map_cons, List.sum_cons]

/-- Whatever the number of workers and the order of their sections: no language is loaded twice,
none is loaded for plain text, every request is answered as without a table, and a run that is not
at its end goes on and comes to it. -/
theorem run_answers_alone {n : Nat} {pool : Pool (List (List Result))}
    (threads : List (List (List Request)))
    (run : Pool.Run h workers n (.start Dict.empty (threads.map .ofBatches)) pool) :
    pool.shared.calls.Nodup ∧ plaintext ∉ pool.shared.calls ∧
      (∀ caller ∈ pool.callers, ∀ job ∈ caller.jobs, ∀ result, job.result? = some result →
        result = resolveAlone h job.request) ∧
      (∀ (i : Nat) (batches : List (List Request)) value, threads[i]? = some batches →
        pool.callers[i]? = some (Caller.finished value) →
        value = batches.map (List.map (resolveAlone h))) ∧
      (0 < workers →
        pool.callers = (threads.map (List.map (List.map (resolveAlone h)))).map .finished ∨
          ∃ pool', Pool.Step h workers pool pool') ∧
      n ≤ (threads.map fun batches =>
        (batches.map fun batch => 2 * batch.length + 1).sum).sum ∧
      (∀ batch, (resolveAll h Dict.empty batch).1 = batch.map (resolveAlone h)) ∧
      ∀ r, Answers h r (resolveAlone h r) := by
  obtain ⟨sound, answers, spent⟩ := run.keeps (Pool.sound_start (agrees_empty h) _)
  have alone : pool.answers h = threads.map (List.map (List.map (resolveAlone h))) := by
    rw [answers, Pool.answers_start, List.map_map]
    exact List.map_congr_left fun batches _ => Session.answer_ofBatches batches
  have bound : n ≤ (threads.map fun batches =>
      (batches.map fun batch => 2 * batch.length + 1).sum).sum := by
    have each : (threads.map .ofBatches).map (Session.steps h) = threads.map fun batches =>
        (batches.map fun batch => 2 * batch.length + 1).sum := by
      rw [List.map_map]
      exact List.map_congr_left fun batches _ => Session.steps_ofBatches batches
    rw [Pool.steps_start, each] at spent
    omega
  refine ⟨sound.shared.once, sound.shared.not_plain, fun caller caller_mem job job_mem result found =>
    (sound.callers caller caller_mem job job_mem).of_result? found, fun i batches value asked found => ?_,
    fun some_worker => ?_, bound, fun batch => (resolveAll_of_agrees (agrees_empty h) batch).1,
    answers_resolveAlone⟩
  · have same := congrArg (·[i]?) alone
    simpa [Pool.answers, asked, found, Caller.answer] using same
  · refine (Pool.finished_or_exists_step some_worker pool).imp_left fun finished => ?_
    rw [Pool.callers_eq_of_finished finished, alone]

/-- Two callers that look for one language before either loads it. -/
theorem run_answers_alone_race :
    ∃ pool : Pool (List (List Result)),
      Pool.Run builtin 2 4
        (.start Dict.empty ([[[⟨0, "a", "klingon"⟩]], [[⟨0, "b", "klingon"⟩]]].map .ofBatches))
        pool ∧
      pool.shared.calls = ["klingon"] ∧ pool.shared.calls.Nodup := by
  have run : Pool.Run builtin 2 4
      (.start Dict.empty ([[[⟨0, "a", "klingon"⟩]], [[⟨0, "b", "klingon"⟩]]].map .ofBatches)) _ :=
    .tail (.tail (.tail (.tail (.refl _)
      (.caller [] [_] (.job [] [] _ (.look _ _ (by decide)))))
      (.caller [_] [] (.job [] [] _ (.look _ _ (by decide)))))
      (.caller [] [_] (.job [] [] _ (.load _ _))))
      (.caller [_] [] (.job [] [] _ (.load _ _)))
  exact ⟨_, run, rfl, (run_answers_alone _ run).1⟩

end SlideDeck.Highlight
