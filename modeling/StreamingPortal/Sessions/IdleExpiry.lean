import StreamingPortal.Sessions.Terminal

set_option autoImplicit false

/-! # Idle sessions that `watch_idle_sessions` and `check_session` end -/

namespace StreamingPortal.Sessions

open Tasks

/-- The copy that a frame of the idle watcher or of `check_session` is about to save as ended. -/
def idleExpiry : Frame → Option SessionInstance
  | .watch (.savingExpiry s _ _) => some s
  | .request (.savingCheck s) => some s
  | _ => none

/--
When one of the two writes EXPIRED or FAILED to a row, the row is IDLE; a row that
is CONNECTING or ACTIVE keeps its status.
-/
def ExpiresOnlyIdle (st : State) : Action → State → Prop
  | .execute p, st' => ∀ f s row, st.tasks[p]? = some ⟨f, none⟩ → idleExpiry f = some s →
      st.session? s.row.id = some row →
        row.status = .idle ∧
          (row.status = .connecting ∨ row.status = .active →
            ∃ row', st'.session? s.row.id = some row' ∧ row'.status = row.status)
  | _, _ => True

/-- The last status that others saved to the row since the copy was read, if any, is IDLE. -/
def IdleSinceRead (st : State) : Action → State → Prop
  | .execute p, _ => ∀ f s, st.tasks[p]? = some ⟨f, none⟩ → idleExpiry f = some s →
      ∀ last, savedSince st.store s = some last → last = .idle
  | _, _ => True

theorem idleExpiry_held {f : Frame} {s : SessionInstance} (h : idleExpiry f = some s) :
    ⟨s, [.idle]⟩ ∈ frameHeld f := by
  unfold idleExpiry at h
  split at h
  · obtain rfl := Option.some.inj h
    simp [frameHeld, watchHeld]
  · obtain rfl := Option.some.inj h
    simp [frameHeld, requestHeld]
  · contradiction

theorem idleExpiry_row {st : State} {p : Nat} {f : Frame} {s : SessionInstance}
    (current : CopiesCurrent st) (task : st.tasks[p]? = some ⟨f, none⟩)
    (expires : idleExpiry f = some s) :
    ∃ row, st.session? s.row.id = some row ∧
      row.status = (savedSince st.store s).getD .idle := by
  obtain ⟨-, row, read, stored, asIdle, status⟩ :=
    current p _ task _ (List.mem_append_left _ (idleExpiry_held expires))
  obtain rfl : read = .idle := by simpa using asIdle
  exact ⟨row, stored, status⟩

theorem expiresOnlyIdle_iff_idleSinceRead {cfg : Config} {st st' : State} {act : Action}
    (current : CopiesCurrent st) (taken : step cfg st act = some st') :
    ExpiresOnlyIdle st act st' ↔ IdleSinceRead st act st' := by
  cases step_cases taken with
  | request | raise | resume | answer | tick => exact Iff.rfl
  | execute p frame op db a task awaits effect =>
      constructor
      · intro onlyIdle f s task' expires last since
        obtain ⟨row, stored, status⟩ := idleExpiry_row current task' expires
        have idle := (onlyIdle f s row task' expires stored).1
        rwa [status, since, Option.getD_some] at idle
      · intro idleSince f s row task' expires stored
        obtain ⟨row', stored', status⟩ := idleExpiry_row current task' expires
        obtain rfl : row = row' := Option.some.inj (stored.symm.trans stored')
        have idle : row.status = .idle := by
          cases since : savedSince st.store s with
          | none => simp [status, since]
          | some last => simp [status, since, idleSince f s task' expires last since]
        refine ⟨idle, fun connected => ?_⟩
        rw [idle] at connected
        rcases connected with h | h <;> contradiction

/--
Along any run from a fresh process, the idle watcher and `check_session` end only
idle sessions exactly when nobody has saved another status than IDLE last since
they read the row.
-/
theorem expiresOnlyIdle_iff (cfg : Config) (sessions : SessionTable) (apps : AppTable) (now : Int)
    (acts : List Action) :
    Along cfg ExpiresOnlyIdle (init sessions apps now) acts ↔
      Along cfg IdleSinceRead (init sessions apps now) acts :=
  Runs.along_iff CopiesCurrent
    (fun _ _ _ current _ taken => copiesCurrent_step current taken)
    (fun _ _ _ current taken => expiresOnlyIdle_iff_idleSinceRead current taken)
    (copiesCurrent_init sessions apps now)

/--
The watcher has loaded an idle session. Its client reconnects and CONNECTING is
saved before the watcher saves EXPIRED.
-/
def reconnectedBeforeExpiry : List Action :=
  [.request .watchIdleSessions, .execute 0, .resume 0, .execute 0, .resume 0] ++
    Sample.accepted 1 ++ [.execute 1, .resume 1, .execute 1]

theorem expiresOnlyIdle_fails :
    ¬ Along (Sample.config 1) ExpiresOnlyIdle (Sample.start (some 0) 1000000000)
      (reconnectedBeforeExpiry ++ [.execute 0]) := by
  intro onlyIdle
  have here := onlyIdle.at_step reconnectedBeforeExpiry [] rfl rfl
  have idle := (here _ _ _ rfl rfl rfl).1
  exact absurd idle (by decide)

end StreamingPortal.Sessions
