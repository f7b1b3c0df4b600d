import StreamingPortal.Sessions.System

set_option autoImplicit false

/-! # Handlers that have registered their websocket, and what a resumed task does to the registry -/

namespace StreamingPortal.Sessions

open Tasks

/-- The session of a handler that is past its admission checks, not yet in its `finally` block. -/
def openFor : Frame → Option String
  | .connect (.savingConnecting c) | .connect (.openingUpstream c) | .connect (.savingActive c)
  | .connect (.relaying c _ _) | .connect (.closingUpstream c _ _) => some c.session.row.id
  | _ => none

/-- The session of a handler that has stored its websocket and not yet removed it. -/
def registeredFor : Frame → Option String
  | .connect (.savingFailed c) | .connect (.recordingError c _) | .connect (.savingIdle c) =>
      some c.session.row.id
  | f => openFor f

def checkedCopy : Frame → Answer → Option SessionInstance
  -- The copy a handler of `connect_to_stream` makes its admission checks on.
  | .connect (.loading _ _ _), .session found => found
  | _, _ => none

def Admissible (s : SessionInstance) : Prop :=
  s.row.status ∉ terminalStatuses ∧ s.row.status ≠ .active ∧ s.app.isSome = true

instance (s : SessionInstance) : Decidable (Admissible s) :=
  inferInstanceAs (Decidable (_ ∧ _ ∧ _))

theorem checkedCopy_eq_some {f : Frame} {a : Answer} {s : SessionInstance}
    (h : checkedCopy f a = some s) :
    ∃ user id cookie, f = .connect (.loading user id cookie) ∧ a = .session (some s) := by
  unfold checkedCopy at h
  split at h
  next user id cookie found =>
    subst h
    exact ⟨user, id, cookie, rfl, rfl⟩
  next => contradiction

theorem checkedCopy_registeredFor {f : Frame} {a : Answer} {s : SessionInstance}
    (h : checkedCopy f a = some s) : registeredFor f = none := by
  obtain ⟨user, id, cookie, rfl, -⟩ := checkedCopy_eq_some h
  rfl

theorem openFor_of_kind {f : Frame} (other : f.kind ≠ .connect) : openFor f = none := by
  cases f with
  | connect => exact absurd rfl other
  | ending | request | start | watch | finished => rfl

theorem registeredFor_of_kind {f : Frame} (other : f.kind ≠ .connect) : registeredFor f = none := by
  cases f with
  | connect => exact absurd rfl other
  | ending | request | start | watch | finished => rfl

theorem registeredFor_of_openFor {f : Frame} {id : String} (h : openFor f = some id) :
    registeredFor f = some id := by
  unfold registeredFor
  split
  all_goals first | exact h | contradiction

/-- All a resumed task can do to its registration and to the registry. -/
inductive Registration (w : World) (p : Nat) (f : Frame) (a : Answer) (w' : World) (f' : Frame) :
    Prop
  | kept (registered : registeredFor f' = registeredFor f)
      (opened : openFor f' = openFor f ∨ openFor f' = none)
      (registry : w'.sessionWebsockets = w.sessionWebsockets)
  | admitted (s : SessionInstance) (checked : checkedCopy f a = some s) (admissible : Admissible s)
      (opened : openFor f' = some s.row.id)
      (registry : w'.sessionWebsockets = Function.update w.sessionWebsockets s.row.id (some p))
  | removed (id : String) (registered : registeredFor f = some id)
      (gone : registeredFor f' = none)
      (registry : w'.sessionWebsockets = Function.update w.sessionWebsockets id none)
  -- The save in the `finally` block has raised, so the removal is never reached.
  | abandoned (id : String) (registered : registeredFor f = some id) (closed : openFor f = none)
      (raised : a = .raised) (gone : registeredFor f' = none)
      (registry : w'.sessionWebsockets = w.sessionWebsockets)

theorem cleanup_registration (w : World) (p : Nat) (c c₀ : Connection) {f : Frame} {a : Answer}
    (same : c.session.row.id = c₀.session.row.id)
    (registered : registeredFor f = some c₀.session.row.id) :
    Registration w p f a (cleanup w p c).1 (cleanup w p c).2 := by
  unfold cleanup
  simp only
  -- FAILED or IDLE is saved before the removal; a close by the API removes at once.
  split
  · refine .kept ?_ (Or.inr rfl) ?_
    · simpa [registeredFor, SessionInstance.markEnded, same] using registered.symm
    · split <;> rfl
  · split
    · refine .kept ?_ (Or.inr rfl) ?_
      · simpa [registeredFor, SessionInstance.markEnded, same] using registered.symm
      · split <;> rfl
    · refine .removed _ registered rfl ?_
      rw [← same]
      split <;> rfl

theorem admit_registration (w : World) (p : Nat) (user : User) (id cookie : String)
    (found : Option SessionInstance) :
    Registration w p (.connect (.loading user id cookie)) (.session found)
      (checkAdmission w p user found).1 (checkAdmission w p user found).2 := by
  unfold checkAdmission
  split
  next => exact .kept rfl (Or.inl rfl) rfl
  next s =>
    split
    · exact .kept rfl (Or.inl rfl) rfl
    next running =>
      split
      · exact .kept rfl (Or.inl rfl) rfl
      next free =>
        split
        · exact .kept rfl (Or.inl rfl) rfl
        next app present =>
          exact .admitted s rfl ⟨running, free, by simp [present]⟩ rfl rfl

theorem admissible_registers {cfg : Config} {w w' : World} {p : Nat} {f f' : Frame} {a : Answer}
    {s : SessionInstance} (checked : checkedCopy f a = some s) (admissible : Admissible s)
    (h : resumeFrame cfg w p f a = some (w', f')) :
    openFor f' = some s.row.id ∧
      w'.sessionWebsockets = Function.update w.sessionWebsockets s.row.id (some p) := by
  obtain ⟨user, id, cookie, rfl, rfl⟩ := checkedCopy_eq_some checked
  obtain ⟨running, free, present⟩ := admissible
  obtain ⟨app, found⟩ := Option.isSome_iff_exists.mp present
  have admitted : checkAdmission w p user (some s) = (w', f') := Option.some.inj h
  simp only [checkAdmission, found] at admitted
  rw [if_neg running, if_neg free] at admitted
  obtain ⟨rfl, rfl⟩ := Prod.mk.inj admitted
  exact ⟨rfl, rfl⟩

theorem closing_raised {cfg : Config} {w w' : World} {p : Nat} {f f' : Frame} {id : String}
    (registered : registeredFor f = some id) (closed : openFor f = none)
    (h : resumeFrame cfg w p f .raised = some (w', f')) :
    registeredFor f' = none ∧ w'.sessionWebsockets = w.sessionWebsockets := by
  unfold registeredFor at registered
  split at registered
  case h_4 => simp [closed] at registered
  all_goals
    obtain ⟨rfl, rfl⟩ := Prod.mk.inj (Option.some.inj h)
    exact ⟨rfl, rfl⟩

theorem connectResume_registration {w w' : World} {p : Nat} {f : ConnectFrame} {a : Answer}
    {f' : Frame} (h : connectResume w p f a = some (w', f')) :
    Registration w p (.connect f) a w' f' := by
  cases connectResume_cases h with
  | loaded user id cookie found => exact admit_registration w p user id cookie found
  | saveConnectingFailed c | closeFailed c => exact cleanup_registration w p _ c rfl rfl
  | closed c => exact cleanup_registration w p c c rfl rfl
  | openFailed c c' _ caught =>
      exact cleanup_registration w p c' c (by rw [connectFailed_session caught]) rfl
  | relayEnded c _ _ _ _ _ e | lateRelayEnded c _ _ _ _ _ e =>
      have same : some (c.relayFailed e).session.row.id = some c.session.row.id := by simp
      exact .kept same (Or.inl same) rfl
  | savedFailed c | savedIdle c => exact .removed c.session.row.id rfl rfl rfl
  | recordedError c truncated n session same =>
      refine .removed c.session.row.id rfl rfl ?_
      rcases same with rfl | rfl <;> rfl
  | saveFailedRaised c | recordingRaised c | saveIdleRaised c =>
      exact .abandoned c.session.row.id rfl rfl rfl rfl rfl
  | noCookie | accepted | acceptFailed | rejected | loadFailed | clientClosed | clientCloseFailed
  | savedConnecting | opened | savedActive | saveActiveFailed | relayWoken | relayRaised
  | savedFailedRecording => exact .kept rfl (Or.inl rfl) rfl

theorem endResume_registry {w w' : World} {f : EndFrame} {a : Answer} {f' : Frame}
    (h : endResume w f a = some (w', f')) : w'.sessionWebsockets = w.sessionWebsockets := by
  cases endResume_cases h <;> rfl

theorem startResume_registry {cfg : Config} {w w' : World} {f : StartFrame} {a : Answer}
    {f' : Frame} (h : startResume cfg w f a = some (w', f')) :
    w'.sessionWebsockets = w.sessionWebsockets := by
  cases startResume_cases h <;> rfl

theorem watchResume_registry {cfg : Config} {w w' : World} {f : WatchFrame} {a : Answer}
    {f' : Frame} (h : watchResume cfg w f a = some (w', f')) :
    w'.sessionWebsockets = w.sessionWebsockets := by
  cases watchResume_cases h <;> rfl

theorem resumeFrame_registration {cfg : Config} {w w' : World} {p : Nat} {f f' : Frame}
    {a : Answer} (h : resumeFrame cfg w p f a = some (w', f')) : Registration w p f a w' f' := by
  -- Only `connect_to_stream` registers websockets.
  have keeps (other : f.kind ≠ .connect) (registry : w'.sessionWebsockets = w.sessionWebsockets) :
      Registration w p f a w' f' := by
    have other' : f'.kind ≠ .connect := by
      intro same
      have kinds := resumeFrame_kind h
      rw [same] at kinds
      cases f <;> simp [Frame.kind, Kind.next] at kinds other
    refine .kept ?_ (Or.inr (openFor_of_kind other')) registry
    rw [registeredFor_of_kind other, registeredFor_of_kind other']
  cases f with
  | connect f => exact connectResume_registration h
  | ending f => exact keeps (by simp [Frame.kind]) (endResume_registry h)
  | start f => exact keeps (by simp [Frame.kind]) (startResume_registry h)
  | watch f => exact keeps (by simp [Frame.kind]) (watchResume_registry h)
  | request f =>
      obtain ⟨next, -, same⟩ := Option.map_eq_some_iff.mp h
      obtain ⟨rfl, -⟩ := Prod.mk.inj same
      exact keeps (by simp [Frame.kind]) rfl
  | finished => contradiction

theorem FirstFrame.registeredFor {f : Frame} (first : FirstFrame f) : registeredFor f = none := by
  cases first <;> rfl

end StreamingPortal.Sessions
