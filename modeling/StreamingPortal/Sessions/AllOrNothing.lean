import StreamingPortal.Sessions.Dates
import Mathlib.Data.List.Induction

set_option autoImplicit false

/-! # What one call of `end_session` leaves behind -/

namespace StreamingPortal.Sessions

open Tasks

/-! ## One call, in a run of the whole process -/

def EndCall.inside (e : EndCall) : Frame → Prop
  -- The next call of the watcher has fewer sessions left in its caller.
  | .ending (.deleting e') => e' = e
  | .ending (.closingWebsocket e' _) => e' = e
  | .ending (.saving e' _) => e'.caller = e.caller
  | _ => False

/-- Task `p` makes the call `e` from `st` to `st'`; other tasks move in between. -/
structure Call (cfg : Config) (p : Nat) (e : EndCall) (st : State) (acts : List Action)
    (st' : State) : Prop where
  called : st.tasks[p]? = some ⟨.ending (.deleting e), none⟩
  ran : run cfg st acts = some st'
  inside : Along cfg (fun s _ _ => ∃ f, s.frame? p = some f ∧ e.inside f) st acts
  returned : ∀ f, st'.frame? p = some f → ¬ e.inside f

def answerTo (p : Nat) (st : State) (act : Action) : Option Answer :=
  match st.resumed act with
  | some (q, _, a) => if q = p then some a else none
  | none => none

def answersTo (cfg : Config) (p : Nat) (st : State) (acts : List Action) : List Answer :=
  Runs.trace (step cfg) (answerTo p) st acts

/-- NVCF has confirmed the termination. -/
def Confirmed (answers : List Answer) : Prop :=
  ∃ response rest, answers = .nvcf response :: rest ∧ response.statusCode = 200

/-- After the confirmation, the close of the websocket or the save has raised. -/
def RaisedAfterwards (answers : List Answer) : Prop :=
  ∃ response rest, answers = .nvcf response :: rest ∧ response.statusCode = 200 ∧ .raised ∈ rest

def Unchanged (s t : State) : Prop :=
  t.store.sessions = s.store.sessions ∧ t.world.sessionEnd = s.world.sessionEnd

/-- No step of task `p` changes a row or emits an end metric. -/
def Untouched (cfg : Config) (p : Nat) : State → List Action → Prop :=
  Along cfg fun s act t => act.actor = some p → Unchanged s t

/-- Task `p` has stored the end of the session once, and done nothing else. -/
structure Stored (cfg : Config) (p : Nat) (e : EndCall) (st : State) (acts : List Action)
    (before between : List Action) (s s' : State) (row : SessionModel) (endDate : Int) : Prop where
  split : acts = before ++ .execute p :: between
  reached : run cfg st before = some s
  quietBefore : Untouched cfg p st before
  found : s.session? e.session.row.id = some row
  saves : step cfg s (.execute p) = some s'
  silent : s'.world.sessionEnd = s.world.sessionEnd
  stored : s'.session? e.session.row.id = some { row with
    status := e.finalStatus
    endDate := some endDate
    duration := wholeSeconds row.startDate endDate }
  quietBetween : Untouched cfg p s' between

/-- The end of the session is stored once and then counted once. -/
def StoredAndCounted (cfg : Config) (p : Nat) (e : EndCall) (st : State) (acts : List Action)
    (st' : State) : Prop :=
  ∃ saving before between s s' row endDate u metrics,
    acts = saving ++ [.resume p] ∧ Stored cfg p e st saving before between s s' row endDate ∧
      run cfg st saving = some u ∧ st'.store.sessions = u.store.sessions ∧
      st'.world.sessionEnd = u.world.sessionEnd ++ [metrics] ∧
      metrics.sessionId = e.session.row.id

def AllOrNothing (cfg : Config) (p : Nat) (e : EndCall) (st : State) (acts : List Action)
    (st' : State) : Prop :=
  (Untouched cfg p st acts ∨ StoredAndCounted cfg p e st acts st') ∧
    (Confirmed (answersTo cfg p st acts) → StoredAndCounted cfg p e st acts st')

/-! ## How far a call has come -/

inductive Progress (cfg : Config) (p : Nat) (e : EndCall) (st : State) (acts : List Action)
    (s : State) : Prop
  | deleting (task : s.tasks[p]? = some ⟨.ending (.deleting e), none⟩)
      (quiet : Untouched cfg p st acts) (given : answersTo cfg p st acts = [])
  | closing (response : NvcfResponse)
      (task : s.tasks[p]? = some ⟨.ending (.closingWebsocket e response), none⟩)
      (ok : response.statusCode = 200) (quiet : Untouched cfg p st acts)
      (given : answersTo cfg p st acts = [.nvcf response])
  | saving (e' : EndCall) (response : NvcfResponse) (now : Int) (a : Option Answer)
      (rest : List Answer)
      (task : s.tasks[p]? = some ⟨.ending (.saving e' response), a⟩)
      (marked : e' = { e with session := e.session.markEnded e.finalStatus now })
      (waits : a = none ∨ a = some .raised) (quiet : Untouched cfg p st acts)
      (given : answersTo cfg p st acts = .nvcf response :: rest) (safe : .raised ∉ rest)
  | saved (e' : EndCall) (response : NvcfResponse) (rest : List Answer)
      (before between : List Action) (t t' : State) (row : SessionModel) (now : Int)
      (task : s.tasks[p]? = some ⟨.ending (.saving e' response), some .saved⟩)
      (marked : e' = { e with session := e.session.markEnded e.finalStatus now })
      (stored : Stored cfg p e st acts before between t t' row now)
      (given : answersTo cfg p st acts = .nvcf response :: rest) (safe : .raised ∉ rest)

inductive Returned (cfg : Config) (p : Nat) (e : EndCall) (st : State) (acts : List Action)
    (s : State) : Prop
  | nothing (quiet : Untouched cfg p st acts)
      (unconfirmed : ¬ Confirmed (answersTo cfg p st acts))
  | lost (quiet : Untouched cfg p st acts) (raised : RaisedAfterwards (answersTo cfg p st acts))
  | ended (ended : StoredAndCounted cfg p e st acts s)
      (kept : ¬ RaisedAfterwards (answersTo cfg p st acts))

section Steps

variable {cfg : Config} {p : Nat} {e : EndCall} {st s s' : State} {acts : List Action}
variable {act : Action}

theorem answersTo_concat (reached : run cfg st acts = some s) (act : Action) :
    answersTo cfg p st (acts ++ [act]) = answersTo cfg p st acts ++ (answerTo p s act).toList :=
  Runs.trace_concat act reached

theorem answerTo_other (other : act.actor ≠ some p) : answerTo p s act = none := by
  unfold answerTo
  split
  next q f a resumed =>
    rw [if_neg]
    rintro rfl
    exact other (State.resumed_actor resumed)
  next => rfl

theorem answerTo_resumed {f : Frame} {a : Answer} (resumed : s.resumed act = some (p, f, a)) :
    answerTo p s act = some a := by
  simp [answerTo, resumed]

theorem Untouched.concat (quiet : Untouched cfg p st acts) (reached : run cfg st acts = some s)
    (taken : step cfg s act = some s') (unchanged : act.actor = some p → Unchanged s s') :
    Untouched cfg p st (acts ++ [act]) := by
  refine Runs.Along.concat quiet reached fun t next => ?_
  obtain rfl := Option.some.inj (taken.symm.trans next)
  exact unchanged

theorem Stored.concat {before between : List Action} {t t' : State} {row : SessionModel}
    {now : Int} (stored : Stored cfg p e st acts before between t t' row now)
    (reached : run cfg st acts = some s) (taken : step cfg s act = some s')
    (unchanged : act.actor = some p → Unchanged s s') :
    Stored cfg p e st (acts ++ [act]) before (between ++ [act]) t t' row now where
  split := by rw [stored.split, List.append_assoc, List.cons_append]
  reached := stored.reached
  quietBefore := stored.quietBefore
  found := stored.found
  saves := stored.saves
  silent := stored.silent
  stored := stored.stored
  quietBetween := by
    have rest : run cfg t' between = some s := by
      rw [stored.split, run, Runs.run_append stored.reached] at reached
      obtain ⟨v, first, rest⟩ := Runs.run_cons.mp reached
      obtain rfl := Option.some.inj (stored.saves.symm.trans first)
      exact rest
    exact stored.quietBetween.concat rest taken unchanged

theorem Progress.other (progress : Progress cfg p e st acts s)
    (reached : run cfg st acts = some s) (taken : step cfg s act = some s')
    (other : act.actor ≠ some p) : Progress cfg p e st (acts ++ [act]) s' := by
  have still : answersTo cfg p st (acts ++ [act]) = answersTo cfg p st acts := by
    simp [answersTo_concat reached, answerTo_other other]
  cases progress with
  | deleting task quiet given =>
      exact .deleting (step_other taken other task)
        (quiet.concat reached taken fun own => absurd own other) (still.trans given)
  | closing response task ok quiet given =>
      exact .closing response (step_other taken other task) ok
        (quiet.concat reached taken fun own => absurd own other) (still.trans given)
  | saving e' response now a rest task marked waits quiet given safe =>
      exact .saving e' response now a rest (step_other taken other task) marked waits
        (quiet.concat reached taken fun own => absurd own other) (still.trans given) safe
  | saved e' response rest before between t t' row now task marked stored given safe =>
      exact .saved e' response rest before (between ++ [act]) t t' row now
        (step_other taken other task) marked
        (stored.concat reached taken fun own => absurd own other) (still.trans given) safe

theorem Progress.executed (progress : Progress cfg p e st acts s) (fixed : ColumnsFixed s)
    (reached : run cfg st acts = some s) (taken : step cfg s (.execute p) = some s') :
    Progress cfg p e st (acts ++ [.execute p]) s' := by
  have still : answersTo cfg p st (acts ++ [.execute p]) = answersTo cfg p st acts := by
    simp [answersTo_concat reached, answerTo, State.resumed]
  cases step_cases taken with
  | execute _ frame op db answer waiting awaits effect =>
    obtain ⟨-, rfl, rfl⟩ := perform_of_effect effect
    cases progress with
    | deleting task quiet given =>
        obtain ⟨rfl, -⟩ := Task.mk.inj (Option.some.inj (waiting.symm.trans task))
        contradiction
    | closing response task ok quiet given =>
        obtain ⟨rfl, -⟩ := Task.mk.inj (Option.some.inj (waiting.symm.trans task))
        contradiction
    | saved e' response rest before between t t' row now task marked stored given safe =>
        obtain ⟨-, same⟩ := Task.mk.inj (Option.some.inj (waiting.symm.trans task))
        contradiction
    | saving e' response now a rest task marked waits quiet given safe =>
        obtain ⟨rfl, rfl⟩ := Task.mk.inj (Option.some.inj (waiting.symm.trans task))
        subst marked
        obtain rfl := Option.some.inj awaits
        obtain ⟨row, found, same⟩ := fixed.stored task List.mem_cons_self
        have found : s.session? e.session.row.id = some row := found
        have start : e.session.row.startDate = row.startDate :=
          (startDate_of_fixed same).symm
        refine .saved _ response rest acts [] s _ row now (getElem?_set_acting task) rfl
          ⟨rfl, reached, quiet, found, taken, rfl, ?_, trivial⟩ (still.trans given) safe
        have found : s.store.sessions.get? e.session.row.id = some row := found
        simp [State.session?, Db.perform, Db.get?_save, SessionInstance.markEnded, found,
          SessionModel.assign, start]

theorem Progress.raised (progress : Progress cfg p e st acts s)
    (reached : run cfg st acts = some s) (taken : step cfg s (.raise p) = some s') :
    Progress cfg p e st (acts ++ [.raise p]) s' := by
  have still : answersTo cfg p st (acts ++ [.raise p]) = answersTo cfg p st acts := by
    simp [answersTo_concat reached, answerTo, State.resumed]
  cases step_cases taken with
  | raise _ frame op answer waiting awaits effect =>
    obtain rfl := failure_raised effect
    cases progress with
    | deleting task quiet given =>
        obtain ⟨rfl, -⟩ := Task.mk.inj (Option.some.inj (waiting.symm.trans task))
        contradiction
    | closing response task ok quiet given =>
        obtain ⟨rfl, -⟩ := Task.mk.inj (Option.some.inj (waiting.symm.trans task))
        contradiction
    | saved e' response rest before between t t' row now task marked stored given safe =>
        obtain ⟨-, same⟩ := Task.mk.inj (Option.some.inj (waiting.symm.trans task))
        contradiction
    | saving e' response now a rest task marked waits quiet given safe =>
        obtain ⟨rfl, rfl⟩ := Task.mk.inj (Option.some.inj (waiting.symm.trans task))
        exact .saving e' response now _ rest (getElem?_set_acting task) marked (Or.inr rfl)
          (quiet.concat reached taken fun _ => ⟨rfl, rfl⟩) (still.trans given) safe

theorem caller_return_outside (e : EndCall) (response : Response) :
    ¬ e.inside (e.caller.return response) := by
  cases called : e.caller with
  | stopStream | terminateSession => exact id
  | watchSessionTimeout rest =>
      cases rest with
      | nil => exact id
      | cons session rest =>
          intro same
          have caller : EndCaller.watchSessionTimeout rest = e.caller :=
            congrArg EndCall.caller same
          rw [called] at caller
          have length := congrArg List.length (EndCaller.watchSessionTimeout.inj caller)
          simp at length

theorem outside_of_task {f : Frame} {a : Option Answer} (task : s.tasks[p]? = some ⟨f, a⟩)
    (outside : ¬ e.inside f) : ∀ g, s.frame? p = some g → ¬ e.inside g := by
  intro g here
  rw [State.frame?_of_task task] at here
  exact Option.some.inj here ▸ outside

theorem unconfirmed_of_head {answers : List Answer} {a : Answer} {rest : List Answer}
    (given : answers = a :: rest) (refused : ∀ response, a = .nvcf response →
      response.statusCode ≠ 200) : ¬ Confirmed answers := by
  rintro ⟨response, rest', same, ok⟩
  obtain ⟨rfl, -⟩ := List.cons.inj (given.symm.trans same)
  exact refused response rfl ok

theorem kept_of_rest {answers : List Answer} {response : NvcfResponse} {rest : List Answer}
    (given : answers = .nvcf response :: rest) (safe : .raised ∉ rest) :
    ¬ RaisedAfterwards answers := by
  rintro ⟨response', rest', same, -, raised⟩
  obtain ⟨-, rfl⟩ := List.cons.inj (given.symm.trans same)
  exact safe raised

/-- A step of the environment's answer to a call that waits for NVCF or for the websocket. -/
theorem Progress.answered (progress : Progress cfg p e st acts s)
    (reached : run cfg st acts = some s) {a : Answer}
    (taken : step cfg s (.answer p a) = some s') :
    Progress cfg p e st (acts ++ [.answer p a]) s' ∨
      Returned cfg p e st (acts ++ [.answer p a]) s' ∧
        ∀ f, s'.frame? p = some f → ¬ e.inside f := by
  cases step_cases taken with
  | answer _ frame next _ world waiting awaits effect =>
    have given : answersTo cfg p st (acts ++ [.answer p a]) = answersTo cfg p st acts ++ [a] := by
      rw [answersTo_concat reached, answerTo_resumed (State.resumed_answer a waiting),
        Option.toList_some]
    cases progress with
    | deleting task quiet before =>
        obtain ⟨rfl, -⟩ := Task.mk.inj (Option.some.inj (waiting.symm.trans task))
        rw [before, List.nil_append] at given
        have here := getElem?_set_acting (t := ⟨next, none⟩) waiting
        have step : EndStep s.world (.deleting e) a world next := endResume_cases effect
        cases step with
        | deleted _ response websocket ok registered =>
            exact Or.inl (.closing response here ok
              (quiet.concat reached taken fun _ => ⟨rfl, rfl⟩) given)
        | answered _ response unregistered =>
            exact Or.inl (.saving _ response s.world.now none [] here rfl (Or.inl rfl)
              (quiet.concat reached taken fun _ => ⟨rfl, rfl⟩) given (by simp))
        | timedOut =>
            refine Or.inr ⟨.nothing (quiet.concat reached taken fun _ => ⟨rfl, rfl⟩)
              (unconfirmed_of_head given (by simp)), ?_⟩
            exact outside_of_task here (caller_return_outside e _)
        | raised =>
            refine Or.inr ⟨.nothing (quiet.concat reached taken fun _ => ⟨rfl, rfl⟩)
              (unconfirmed_of_head given (by simp)), ?_⟩
            exact outside_of_task here id
    | closing response task ok quiet before =>
        obtain ⟨rfl, -⟩ := Task.mk.inj (Option.some.inj (waiting.symm.trans task))
        rw [before] at given
        have here := getElem?_set_acting (t := ⟨next, none⟩) waiting
        have step : EndStep s.world (.closingWebsocket e response) a world next :=
          endResume_cases effect
        cases step with
        | closed =>
            exact Or.inl (.saving _ response s.world.now none [.done] here rfl (Or.inl rfl)
              (quiet.concat reached taken fun _ => ⟨rfl, rfl⟩) given (by simp))
        | raised =>
            refine Or.inr ⟨.lost (quiet.concat reached taken fun _ => ⟨rfl, rfl⟩)
              ⟨response, [.raised], given, ok, List.mem_singleton_self _⟩, ?_⟩
            exact outside_of_task here id
    | saving e' response now b rest task =>
        obtain ⟨rfl, -⟩ := Task.mk.inj (Option.some.inj (waiting.symm.trans task))
        contradiction
    | saved e' response rest before between t t' row now task =>
        obtain ⟨rfl, -⟩ := Task.mk.inj (Option.some.inj (waiting.symm.trans task))
        contradiction

/-- The call goes on with the outcome of its save. -/
theorem Progress.resumed (progress : Progress cfg p e st acts s)
    (reached : run cfg st acts = some s) (taken : step cfg s (.resume p) = some s') :
    Returned cfg p e st (acts ++ [.resume p]) s' ∧ ∀ f, s'.frame? p = some f → ¬ e.inside f := by
  cases step_cases taken with
  | resume _ frame next a world waiting effect =>
    have given : answersTo cfg p st (acts ++ [.resume p]) = answersTo cfg p st acts ++ [a] := by
      rw [answersTo_concat reached, answerTo_resumed (State.resumed_resume waiting),
        Option.toList_some]
    have here := getElem?_set_acting (t := ⟨next, none⟩) waiting
    cases progress with
    | deleting task =>
        obtain ⟨-, same⟩ := Task.mk.inj (Option.some.inj (waiting.symm.trans task))
        contradiction
    | closing response task =>
        obtain ⟨-, same⟩ := Task.mk.inj (Option.some.inj (waiting.symm.trans task))
        contradiction
    | saving e' response now b rest task marked waits quiet before safe =>
        obtain ⟨rfl, rfl⟩ := Task.mk.inj (Option.some.inj (waiting.symm.trans task))
        obtain rfl : a = .raised := by simpa using waits
        rw [before, List.cons_append] at given
        have step : EndStep s.world (.saving e' response) .raised world next :=
          endResume_cases effect
        cases step with
        | raised =>
            refine ⟨?_, outside_of_task here id⟩
            have quiet := quiet.concat reached taken fun _ => ⟨rfl, rfl⟩
            by_cases ok : response.statusCode = 200
            · exact .lost quiet ⟨response, rest ++ [.raised], given, ok, by simp⟩
            · refine .nothing quiet (unconfirmed_of_head given ?_)
              rintro _ ⟨⟩
              exact ok
    | saved e' response rest before between t t' row now task marked stored earlier safe =>
        obtain ⟨rfl, same⟩ := Task.mk.inj (Option.some.inj (waiting.symm.trans task))
        obtain rfl := Option.some.inj same
        rw [earlier, List.cons_append] at given
        subst marked
        have step : EndStep s.world (.saving _ response) .saved world next :=
          endResume_cases effect
        cases step with
        | saved =>
            refine ⟨.ended ⟨acts, before, between, t, t', row, now, s, _, rfl, stored, reached, rfl,
              rfl, rfl⟩ (kept_of_rest given (by simpa using safe)), ?_⟩
            exact outside_of_task here (caller_return_outside e _)

theorem Progress.inside (progress : Progress cfg p e st acts s) :
    ∃ f, s.frame? p = some f ∧ e.inside f := by
  cases progress with
  | deleting task => exact ⟨_, State.frame?_of_task task, rfl⟩
  | closing response task => exact ⟨_, State.frame?_of_task task, rfl⟩
  | saving e' response now a rest task marked =>
      subst marked
      exact ⟨_, State.frame?_of_task task, rfl⟩
  | saved e' response rest before between t t' row now task marked =>
      subst marked
      exact ⟨_, State.frame?_of_task task, rfl⟩

theorem progress_step (progress : Progress cfg p e st acts s) (fixed : ColumnsFixed s)
    (reached : run cfg st acts = some s) (taken : step cfg s act = some s') :
    Progress cfg p e st (acts ++ [act]) s' ∨
      Returned cfg p e st (acts ++ [act]) s' ∧ ∀ f, s'.frame? p = some f → ¬ e.inside f := by
  by_cases own : act.actor = some p
  · cases act with
    | execute q =>
        obtain rfl := Option.some.inj own
        exact Or.inl (progress.executed fixed reached taken)
    | raise q =>
        obtain rfl := Option.some.inj own
        exact Or.inl (progress.raised reached taken)
    | resume q =>
        obtain rfl := Option.some.inj own
        exact Or.inr (progress.resumed reached taken)
    | answer q a =>
        obtain rfl := Option.some.inj own
        exact progress.answered reached taken
    | request | tick => contradiction
  · exact Or.inl (progress.other reached taken own)

end Steps

theorem progress_run {cfg : Config} {p : Nat} {e : EndCall} {st s : State} {acts : List Action}
    (fixed : ColumnsFixed st) (called : st.tasks[p]? = some ⟨.ending (.deleting e), none⟩)
    (inside : Along cfg (fun s _ _ => ∃ f, s.frame? p = some f ∧ e.inside f) st acts)
    (reached : run cfg st acts = some s) :
    ColumnsFixed s ∧ (Progress cfg p e st acts s ∨
      Returned cfg p e st acts s ∧ ∀ f, s.frame? p = some f → ¬ e.inside f) := by
  induction acts using List.reverseRecOn generalizing s with
  | nil =>
      obtain rfl := Option.some.inj reached
      exact ⟨fixed, Or.inl (.deleting called trivial rfl)⟩
  | append_singleton acts act ih =>
      obtain ⟨t, before, taken⟩ := Runs.run_concat.mp reached
      obtain ⟨fixed, phase⟩ := ih (inside.append before).1 before
      refine ⟨columnsFixed_step fixed taken, ?_⟩
      rcases phase with progress | ⟨-, outside⟩
      · exact progress_step progress fixed before taken
      · obtain ⟨f, here, within⟩ := inside.at_step acts [] before taken
        exact absurd within (outside f here)

theorem Call.finished {cfg : Config} {p : Nat} {e : EndCall} {st st' : State}
    {acts : List Action} (call : Call cfg p e st acts st') (fixed : ColumnsFixed st) :
    Returned cfg p e st acts st' := by
  rcases (progress_run fixed call.called call.inside call.ran).2 with progress | ⟨returned, -⟩
  · obtain ⟨f, here, within⟩ := progress.inside
    exact absurd within (call.returned f here)
  · exact returned

theorem Untouched.not_counted {cfg : Config} {p : Nat} {e : EndCall} {st st' : State}
    {acts : List Action} (quiet : Untouched cfg p st acts) (ran : run cfg st acts = some st') :
    ¬ StoredAndCounted cfg p e st acts st' := by
  rintro ⟨saving, before, between, s, s', row, endDate, u, metrics, rfl, -, reached, -, counted, -⟩
  obtain ⟨v, first, last⟩ := Runs.run_concat.mp ran
  obtain rfl := Option.some.inj (reached.symm.trans first)
  have same := (quiet.at_step saving [] reached last rfl).2
  rw [counted] at same
  simp at same

theorem Returned.decides {cfg : Config} {p : Nat} {e : EndCall} {st st' : State}
    {acts : List Action} (returned : Returned cfg p e st acts st')
    (ran : run cfg st acts = some st') :
    AllOrNothing cfg p e st acts st' ↔ ¬ RaisedAfterwards (answersTo cfg p st acts) := by
  cases returned with
  | nothing quiet unconfirmed =>
      refine iff_of_true ⟨Or.inl quiet, fun confirmed => absurd confirmed unconfirmed⟩ ?_
      rintro ⟨response, rest, given, ok, -⟩
      exact unconfirmed ⟨response, rest, given, ok⟩
  | lost quiet raised =>
      refine iff_of_false ?_ (not_not.mpr raised)
      obtain ⟨response, rest, given, ok, -⟩ := raised
      exact fun both => quiet.not_counted ran (both.2 ⟨response, rest, given, ok⟩)
  | ended ended kept => exact iff_of_true ⟨Or.inr ended, fun _ => ended⟩ kept

theorem columnsFixed_run {cfg : Config} {sessions : SessionTable} {apps : AppTable} {now : Int}
    {acts : List Action} {st : State} (reached : run cfg (init sessions apps now) acts = some st) :
    ColumnsFixed st :=
  Runs.invariant ColumnsFixed (fun _ _ _ fixed _ => columnsFixed_step fixed)
    (columnsFixed_init sessions apps now) (Runs.along_trivial acts) reached

/--
A call is all or nothing unless the close of the websocket or the save raises after
NVCF has confirmed the termination.
-/
theorem allOrNothing_iff (cfg : Config) (sessions : SessionTable) (apps : AppTable) (now : Int)
    (earlier : List Action) {p : Nat} {e : EndCall} {st st' : State} {acts : List Action}
    (reached : run cfg (init sessions apps now) earlier = some st)
    (call : Call cfg p e st acts st') :
    AllOrNothing cfg p e st acts st' ↔ ¬ RaisedAfterwards (answersTo cfg p st acts) :=
  (call.finished (columnsFixed_run reached)).decides call.ran

def clientGone : List Action :=
  -- The client has closed its connection; its handler has not left the registry yet.
  Sample.accepted 0 ++
    [.execute 0, .resume 0, .execute 0, .resume 0, .answer 0 .connected, .execute 0, .resume 0,
      .answer 0 (.relayEnded .consumer (.disconnect 1001 none)), .answer 0 .relayWoken]

def terminating : List Action :=
  clientGone ++ [.request (.terminateSession Sample.user "session"), .execute 1, .resume 1]

def terminatingState : State :=
  (run (Sample.config 1) (Sample.start none 0) terminating).get (by decide)

def terminatedCall : EndCall where
  session := ⟨{ Sample.session "session" none with status := .active }, some Sample.app, 2⟩
  reason := "Terminated by the user."
  finalStatus := .stopped
  caller := .terminateSession

theorem terminating_reached :
    run (Sample.config 1) (Sample.start none 0) terminating = some terminatingState :=
  (Option.some_get _).symm

/-- NVCF confirms, and the websocket closes. -/
def closedAnswers : List Action :=
  [.answer 1 (.nvcf Sample.ok), .answer 1 .done, .execute 1, .resume 1]

def lostAnswers : List Action := [.answer 1 (.nvcf Sample.ok), .answer 1 .raised]

theorem call_closed : ∃ st', Call (Sample.config 1) 1 terminatedCall terminatingState closedAnswers
    st' ∧ st'.session? "session" = some { Sample.session "session" (some 0) with
      status := .stopped } := by
  refine ⟨_, ⟨rfl, rfl, ?_, ?_⟩, rfl⟩
  · rintro _ ⟨⟩
    refine ⟨⟨_, rfl, rfl⟩, ?_⟩
    rintro _ ⟨⟩
    refine ⟨⟨_, rfl, rfl⟩, ?_⟩
    rintro _ ⟨⟩
    refine ⟨⟨_, rfl, rfl⟩, ?_⟩
    rintro _ ⟨⟩
    exact ⟨⟨_, rfl, rfl⟩, trivial⟩
  · rintro _ ⟨⟩
    exact id

theorem call_lost : ∃ st', Call (Sample.config 1) 1 terminatedCall terminatingState lostAnswers
    st' ∧ (st'.session? "session").map SessionModel.status = some .active := by
  refine ⟨_, ⟨rfl, rfl, ?_, ?_⟩, rfl⟩
  · rintro _ ⟨⟩
    refine ⟨⟨_, rfl, rfl⟩, ?_⟩
    rintro _ ⟨⟩
    exact ⟨⟨_, rfl, rfl⟩, trivial⟩
  · rintro _ ⟨⟩
    exact id

theorem allOrNothing_closed :
    ∃ st', AllOrNothing (Sample.config 1) 1 terminatedCall terminatingState closedAnswers st' := by
  obtain ⟨st', call, -⟩ := call_closed
  refine ⟨st', (allOrNothing_iff (Sample.config 1) _ _ 0 terminating terminating_reached
    call).mpr ?_⟩
  have given : answersTo (Sample.config 1) 1 terminatingState closedAnswers =
      [.nvcf Sample.ok, .done, .saved] := rfl
  exact kept_of_rest given (by simp)

theorem allOrNothing_fails :
    ∃ st', Call (Sample.config 1) 1 terminatedCall terminatingState lostAnswers st' ∧
      (st'.session? "session").map SessionModel.status = some .active ∧
      ¬ AllOrNothing (Sample.config 1) 1 terminatedCall terminatingState lostAnswers st' := by
  obtain ⟨st', call, active⟩ := call_lost
  refine ⟨st', call, active, fun all => ?_⟩
  have returned := call.finished (columnsFixed_run terminating_reached)
  exact (returned.decides call.ran).mp all ⟨Sample.ok, [.raised], rfl, rfl, by simp⟩

end StreamingPortal.Sessions
