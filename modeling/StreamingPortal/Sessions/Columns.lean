import StreamingPortal.Sessions.Saves
import StreamingPortal.Sessions.Terminal

set_option autoImplicit false

/-! # The columns that no handler assigns -/

namespace StreamingPortal.Sessions

open Tasks

def SessionModel.fixed (row : SessionModel) : SessionModel :=
  -- The row without the columns that a save can name.
  { row with status := .idle, endDate := none, duration := 0, error := none }

@[simp] theorem fixed_assign (s : SessionModel) (fields : List Column) (row : SessionModel) :
    (s.assign fields row).fixed = row.fixed := rfl

@[simp] theorem fixed_markConnecting (s : SessionInstance) (now : Int) :
    (s.markConnecting now).row.fixed = s.row.fixed := rfl

@[simp] theorem fixed_markActive (s : SessionInstance) :
    s.markActive.row.fixed = s.row.fixed := rfl

@[simp] theorem fixed_markEnded (s : SessionInstance) (status : SessionStatus) (now : Int) :
    (s.markEnded status now).row.fixed = s.row.fixed := rfl

@[simp] theorem fixed_markIdleExpired (s : SessionInstance) (now : Int) :
    (s.markIdleExpired now).row.fixed = s.row.fixed := rfl

@[simp] theorem fixed_markExpired (s : SessionInstance) :
    s.markExpired.row.fixed = s.row.fixed := rfl

@[simp] theorem fixed_setError (s : SessionInstance) (error : Option String) :
    (s.setError error).row.fixed = s.row.fixed := rfl

/-! ## The copies in a frame and in the answer it gets -/

def fixedRows (l : List SessionInstance) : List SessionModel := l.map fun s => s.row.fixed

def connectCopies : ConnectFrame → List SessionInstance
  | .savingConnecting c | .openingUpstream c | .savingActive c | .relaying c _ _
  | .closingUpstream c _ _ | .savingFailed c | .recordingError c _ | .savingIdle c
  | .closingClient c => [c.session]
  | _ => []

def callerCopies : EndCaller → List SessionInstance
  | .watchSessionTimeout rest => rest
  | _ => []

def endCopies : EndFrame → List SessionInstance
  | .deleting e | .closingWebsocket e _ | .saving e _ => e.session :: callerCopies e.caller

def requestCopies : RequestFrame → List SessionInstance
  | .askingAdmin _ _ s _ | .savingError s | .savingCheck s => [s]
  | _ => []

def watchCopies : WatchFrame → List SessionInstance
  | .queryingOrphaned expired _ => expired
  | .savingExpiry s rest _ => s :: rest
  | _ => []

def frameCopies : Frame → List SessionInstance
  | .connect f => connectCopies f
  | .ending f => endCopies f
  | .request f => requestCopies f
  | .watch f => watchCopies f
  | .start _ | .finished _ => []

def Answer.copies : Answer → List SessionInstance
  | .session found => found.toList
  | .sessions l => l
  | _ => []

def givenCopies (f : Frame) (a : Answer) : List SessionInstance :=
  -- Only the operations of the database bring copies in.
  if (frameOp f).isSome then a.copies else []

def copiesWith (f : Frame) (a : Answer) : List SessionModel :=
  fixedRows (frameCopies f) ++ fixedRows (givenCopies f a)

/-! ## A resumed task has no other copies -/

theorem cleanup_copies (w : World) (p : Nat) (c : Connection) :
    fixedRows (frameCopies (cleanup w p c).2) = [c.session.row.fixed] := by
  unfold cleanup
  simp only
  repeat' split
  all_goals rfl

theorem admit_copies (w : World) (p : Nat) (user : User) (found : Option SessionInstance) :
    fixedRows (frameCopies (checkAdmission w p user found).2) ⊆ fixedRows found.toList := by
  unfold checkAdmission
  repeat' split
  all_goals first | exact List.Subset.refl _ | exact List.nil_subset _

theorem connectResume_copies {w w' : World} {p : Nat} {f : ConnectFrame} {a : Answer}
    {f' : Frame} (h : connectResume w p f a = some (w', f')) :
    fixedRows (frameCopies f') ⊆ copiesWith (.connect f) a := by
  cases connectResume_cases h with
  | loaded user id cookie found => exact admit_copies w p user found
  | saveConnectingFailed c | closed c | closeFailed c =>
      rw [cleanup_copies]
      exact List.subset_append_left _ _
  | openFailed c c' a caught =>
      rw [cleanup_copies, connectFailed_session caught]
      exact List.subset_append_left _ _
  | relayEnded c d₁ d₂ d₁' d₂' task e | lateRelayEnded c d₁ d₂ d₁' d₂' task e =>
      simp [copiesWith, fixedRows, frameCopies, connectCopies]
  | recordedError c truncated n session same =>
      have fixed : session.row.fixed = c.session.row.fixed := by rcases same with rfl | rfl <;> rfl
      simp [copiesWith, fixedRows, frameCopies, connectCopies, finishFailed, removeWebsocket, fixed]
  | savedConnecting | opened | savedActive | saveActiveFailed | relayWoken | relayRaised
  | savedFailed | savedFailedRecording | savedIdle => exact List.subset_append_left _ _
  | noCookie | accepted | acceptFailed | rejected | loadFailed | saveFailedRaised
  | recordingRaised | saveIdleRaised | clientClosed | clientCloseFailed => exact List.nil_subset _

theorem terminateTimedOut_copies (rest : List SessionInstance) :
    frameCopies (terminateTimedOut rest) = rest := by
  cases rest <;> rfl

theorem caller_return_copies (caller : EndCaller) (r : Response) :
    frameCopies (caller.return r) = callerCopies caller := by
  cases caller with
  | stopStream | terminateSession => rfl
  | watchSessionTimeout rest => exact terminateTimedOut_copies rest

theorem endResume_copies {w w' : World} {f : EndFrame} {a : Answer} {f' : Frame}
    (h : endResume w f a = some (w', f')) :
    fixedRows (frameCopies f') ⊆ copiesWith (.ending f) a := by
  cases endResume_cases h with
  | deleted | answered | closed => exact List.subset_append_left _ _
  | timedOut e | saved e =>
      rw [caller_return_copies]
      exact fun row mine => List.mem_append_left _ (List.mem_cons_of_mem _ mine)
  | raised => exact List.nil_subset _

theorem withSession_copies (user : User) (s : SessionInstance) (caller : SessionQueryCaller) :
    fixedRows (frameCopies (withSession user s caller)) ⊆ [s.row.fixed] := by
  unfold withSession terminateSession
  repeat' split
  all_goals first | exact List.Subset.refl _ | exact List.nil_subset _

theorem requestResume_copies {cfg : Config} {w : World} {f : RequestFrame} {a : Answer}
    {f' : Frame} (h : requestResume cfg w f a = some f') :
    fixedRows (frameCopies f') ⊆ copiesWith (.request f) a := by
  cases requestResume_cases h with
  | queried user id caller found =>
      cases found with
      | none => exact List.nil_subset _
      | some s =>
          unfold querySession
          simp only
          split
          · exact withSession_copies user s caller
          · exact List.Subset.refl _
  | admitted user id s caller =>
      exact List.Subset.trans (withSession_copies user s caller) (List.subset_append_left _ _)
  | stopped user id cookie found =>
      unfold stopStream
      repeat' split
      all_goals first | exact List.nil_subset _ | exact List.Subset.refl _
  | checked user id path found =>
      unfold checkSession
      repeat' split
      all_goals first | exact List.nil_subset _ | exact List.Subset.refl _
  | refused | savedError | savedCheck | askedListAdmin | counted | fetched | raised =>
      exact List.nil_subset _

theorem stopIdle_copies (now : Int) (rest : List SessionInstance) :
    fixedRows (frameCopies (stopIdle now rest)) = fixedRows rest := by
  cases rest <;> rfl

theorem watchResume_copies {cfg : Config} {w w' : World} {f : WatchFrame} {a : Answer} {f' : Frame}
    (h : watchResume cfg w f a = some (w', f')) :
    fixedRows (frameCopies f') ⊆ copiesWith (.watch f) a := by
  cases watchResume_cases h with
  | timedOut cutoff sessions =>
      rw [terminateTimedOut_copies]
      exact List.Subset.refl _
  | expired => exact List.Subset.refl _
  | orphaned expired cutoff orphaned =>
      rw [stopIdle_copies, fixedRows, List.map_append]
      exact List.Subset.refl _
  | saved s rest now =>
      rw [stopIdle_copies]
      exact fun row mine => List.mem_append_left _ (List.mem_cons_of_mem _ mine)
  | timeoutSlept | idleSlept | raised => exact List.nil_subset _

theorem resumeFrame_copies {cfg : Config} {w w' : World} {p : Nat} {f f' : Frame} {a : Answer}
    (h : resumeFrame cfg w p f a = some (w', f')) :
    fixedRows (frameCopies f') ⊆ copiesWith f a := by
  cases f with
  | connect f => exact connectResume_copies h
  | ending f => exact endResume_copies h
  | request f =>
      obtain ⟨next, resumed, same⟩ := Option.map_eq_some_iff.mp h
      obtain ⟨-, rfl⟩ := Prod.mk.inj same
      exact requestResume_copies resumed
  | start f => cases startResume_cases h <;> exact List.nil_subset _
  | watch f => exact watchResume_copies h
  | finished => contradiction

/-! ## Copies and rows -/

def Db.hasFixed (db : Db) (fixed : SessionModel) : Prop :=
  ∃ row, db.sessions.get? fixed.id = some row ∧ row.fixed = fixed

theorem RowChange.fixed {id : String} {op : DbOp} {row row' : SessionModel}
    (change : RowChange id op (some row) row') : row'.fixed = row.fixed := by
  cases change <;> rfl

theorem perform_stored (cfg : Config) {db : Db} (p : Nat) {id : String} {row : SessionModel}
    (stored : db.sessions.get? id = some row) (op : DbOp) :
    ∃ row', (db.perform cfg p op).1.sessions.get? id = some row' ∧
      RowChange id op (some row) row' := by
  obtain ⟨row', stored', -⟩ := perform_status cfg p stored op
  have change : RowChange id op (db.sessions.get? id) row' := perform_row stored'
  exact ⟨row', stored', stored ▸ change⟩

theorem Db.hasFixed.perform {cfg : Config} {db : Db} {p : Nat} {fixed : SessionModel}
    (has : db.hasFixed fixed) (op : DbOp) : (db.perform cfg p op).1.hasFixed fixed := by
  obtain ⟨row, stored, same⟩ := has
  obtain ⟨row', stored', change⟩ := perform_stored cfg p stored op
  exact ⟨row', stored', change.fixed.trans same⟩

theorem hasFixed_load {db : Db} {s : SessionInstance}
    (stored : db.sessions.get? s.row.id = some s.row) : db.hasFixed s.row.fixed :=
  ⟨s.row, stored, rfl⟩

theorem perform_copies {cfg : Config} {db : Db} {p : Nat} {op : DbOp} {s : SessionInstance}
    (copied : s ∈ (db.perform cfg p op).2.copies) :
    (db.perform cfg p op).1.hasFixed s.row.fixed := by
  have selected {q : SessionModel → Bool} (inside : s ∈ db.selectSessions q) :
      db.hasFixed s.row.fixed := hasFixed_load (Db.mem_selectSessions inside).1
  cases op with
  | getSession id cookie userId =>
      have found : db.getSession id cookie userId = some s := Option.mem_toList.mp copied
      obtain ⟨stored, -⟩ := Db.getSession_eq_some found
      exact hasFixed_load (by rwa [(Table.mem_of_get? stored).2])
  | timedOutSessions cutoff | expiredSessions cutoff | orphanedSessions cutoff =>
      exact selected copied
  | fetchSessions q order descending offset limit =>
      have arranged := List.mem_of_mem_drop (List.mem_of_mem_take copied)
      exact selected ((cfg.arrange_perm order descending _).mem_iff.mp arranged)
  | createSession row =>
      simp only [Db.perform, Db.createSession] at copied
      split at copied <;> simp [Answer.copies] at copied
  | countSessions | getApp | save | setErrorIfNull | beginTransaction | endTransaction =>
      simp [Db.perform, Answer.copies] at copied

def taskCopies (t : Task) : List SessionModel :=
  fixedRows (frameCopies t.frame) ++ ((t.answer.map (givenCopies t.frame)).elim [] fixedRows)

/-- Every copy of a row has the columns of the row that no handler assigns. -/
def ColumnsFixed (st : State) : Prop :=
  ∀ (p : Nat) (t : Task), st.tasks[p]? = some t → ∀ fixed ∈ taskCopies t, st.store.hasFixed fixed

theorem columnsFixed_init (sessions : SessionTable) (apps : AppTable) (now : Int) :
    ColumnsFixed (init sessions apps now) := by
  intro p t task
  simp [init] at task

theorem FirstFrame.copies {f : Frame} (first : FirstFrame f) : frameCopies f = [] := by
  cases first <;> rfl

theorem columnsFixed_step {cfg : Config} {st st' : State} {act : Action}
    (fixed : ColumnsFixed st) (taken : step cfg st act = some st') : ColumnsFixed st' := by
  cases step_cases taken with
  | request r =>
      refine forall_spawn ?_ fixed
      simp [taskCopies, backend, (startRequest_first cfg st.world r).copies, fixedRows]
  | execute p f op db a task awaits effect =>
      obtain ⟨-, rfl, rfl⟩ := perform_of_effect effect
      have awaits : frameOp f = some op := awaits
      refine forall_set (fun row copied => ?_)
        fun q t _ old row copied => (fixed q t old row copied).perform op
      rcases List.mem_append.mp copied with mine | given
      · exact (fixed p _ task row (List.mem_append_left _ mine)).perform op
      · simp only [Option.map_some, Option.elim_some, givenCopies, awaits, Option.isSome_some,
          if_true, fixedRows, List.mem_map] at given
        obtain ⟨s, loaded, rfl⟩ := given
        exact perform_copies loaded
  | raise p f op a task awaits effect =>
      obtain rfl := failure_raised effect
      refine forall_set (fun row copied => fixed p _ task row ?_) fun q t _ => fixed q t
      simpa [taskCopies, givenCopies, Answer.copies, fixedRows] using copied
  | resume p f next a world task effect =>
      refine forall_set (fun row copied => ?_) fun q t _ => fixed q t
      have mine : row ∈ fixedRows (frameCopies next) := by simpa [taskCopies] using copied
      exact fixed p _ task row (resumeFrame_copies effect mine)
  | answer p f next a world task awaits effect =>
      refine forall_set (fun row copied => ?_) fun q t _ => fixed q t
      have mine : row ∈ fixedRows (frameCopies next) := by simpa [taskCopies] using copied
      have known := resumeFrame_copies effect mine
      have awaits : frameOp f = none := awaits
      refine fixed p _ task row (List.mem_append_left _ ?_)
      simpa [copiesWith, givenCopies, awaits, fixedRows] using known
  | tick time => exact fixed

theorem frameCopies_of_save {f : Frame} {s : SessionInstance} {fields : List Column}
    (saves : SaveFrame f s fields) : s ∈ frameCopies f := by
  cases saves <;> simp [frameCopies, connectCopies, endCopies, requestCopies, watchCopies]

theorem ColumnsFixed.stored {st : State} (fixed : ColumnsFixed st) {p : Nat} {f : Frame}
    {a : Option Answer} {s : SessionInstance} (task : st.tasks[p]? = some ⟨f, a⟩)
    (copied : s ∈ frameCopies f) :
    ∃ row, st.session? s.row.id = some row ∧ row.fixed = s.row.fixed := by
  have mine : s.row.fixed ∈ taskCopies ⟨f, a⟩ :=
    List.mem_append_left _ (List.mem_map.mpr ⟨s, copied, rfl⟩)
  exact fixed p _ task _ mine

end StreamingPortal.Sessions
