import StreamingPortal.Settings.Reload
import StreamingPortal.Shared.Runs

set_option autoImplicit false

/-! # Files that the watcher does not accept -/

namespace StreamingPortal.Settings

open Overlay

/-- What the watcher finds: the content, `none` while the file is missing or unreadable. -/
abbrev FileState := Option String

section

variable (loads : String → Option Data)

def Instance.find (self : Instance) : FileState → Instance
  | some content => self.wake loads content
  | none =>
      match self.watcher with
      | .absent | .failed => self
      -- The task has not even slept, or `open` raises.
      | .running => { self with watcher := .failed }

def find (self : Instance) (state : FileState) : Option Instance := some (self.find loads state)

def Applies (self : Instance) (state : FileState) (s : Settings) : Prop :=
  -- The settings that the watcher is to have next.
  ∃ content data, state = some content ∧ loads content = some data ∧
    revalidate data (data.entries.foldl setattr self.settings) = .ok s

/-- A state is applied as a whole or not at all, and the watcher goes on. -/
structure RejectsWhole (before : Instance) (state : FileState) (after : Instance) : Prop where
  applied : ∀ s, Applies loads before state s → after.settings = s
  unchanged : (¬ ∃ s, Applies loads before state s) → after.settings = before.settings
  capped : exceedsMax (after.settings .sessionTtl) ≠ some true
  running : after.watcher = .running

/-- The file is there, and what it says validates; and the watcher could sleep before it looked. -/
def Acceptable (before : Instance) (state : FileState) (_ : Instance) : Prop :=
  canSleep (before.settings .watchInterval) = true ∧ ∃ s, Applies loads before state s

/-- The watcher runs, and would not change anything for the content it has seen last. -/
structure Live (inst : Instance) : Prop where
  running : inst.watcher = .running
  capped : exceedsMax (inst.settings .sessionTtl) ≠ some true
  current : Applies loads inst (some inst.lastContent) inst.settings

end

variable {loads : String → Option Data}

theorem applies_normal {self : Instance} {content : String} {s : Settings}
    (applies : Applies loads self (some content) s) :
    ∃ data, loads content = some data ∧ data.get? "validate" = none ∧
      Accepted (override self.settings data.values) ∧
      s = normal cap (override self.settings data.values) := by
  obtain ⟨content', data, same, loaded, valid⟩ := applies
  obtain rfl := Option.some.inj same
  have plain : data.get? "validate" = none := by
    cases named : data.get? "validate" with
    | none => rfl
    | some value => simp [revalidate, named] at valid
  rw [setattr_data, revalidate_plain plain] at valid
  have accepted : Accepted (override self.settings data.values) := ⟨s, valid⟩
  rw [validate_accepted accepted] at valid
  exact ⟨data, loaded, plain, accepted, (Except.ok.inj valid).symm⟩

theorem exceedsMax_capped (v : Value) : exceedsMax (cap .sessionTtl v) ≠ some true := by
  simp only [cap]
  split
  next => simp [exceedsMax]
  next within => exact within

theorem applies_capped {self : Instance} {content : String} {s : Settings}
    (applies : Applies loads self (some content) s) :
    exceedsMax (s .sessionTtl) ≠ some true := by
  obtain ⟨data, -, -, -, rfl⟩ := applies_normal applies
  exact exceedsMax_capped _

theorem applies_again {self after : Instance} {content : String}
    (applies : Applies loads self (some content) after.settings) :
    Applies loads after (some content) after.settings := by
  obtain ⟨data, loaded, plain, accepted, settings⟩ := applies_normal applies
  refine ⟨content, data, rfl, loaded, ?_⟩
  have again : Accepted (override after.settings data.values) := by
    rw [settings, accepted_override_normal, override_self]
    exact accepted
  rw [setattr_data, revalidate_plain plain, validate_accepted again, settings,
    normal_override_normal cap_cap, override_self]

theorem applies_unique {self : Instance} {state : FileState} {s s' : Settings}
    (applies : Applies loads self state s) (applies' : Applies loads self state s') : s = s' := by
  obtain ⟨content, data, rfl, loaded, valid⟩ := applies
  obtain ⟨content', data', same, loaded', valid'⟩ := applies'
  obtain rfl := Option.some.inj same
  obtain rfl := Option.some.inj (loaded.symm.trans loaded')
  exact Except.ok.inj (valid.symm.trans valid')

theorem find_acceptable {inst : Instance} {content : String} {s : Settings}
    (live : Live loads inst) (sleeps : canSleep (inst.settings .watchInterval) = true)
    (applies : Applies loads inst (some content) s) :
    inst.find loads (some content) = { inst with settings := s, lastContent := content } := by
  simp only [Instance.find, Instance.wake, live.running, sleeps, Bool.not_true, Bool.false_eq_true,
    if_false]
  split
  next same =>
    -- The content has not changed, and has been applied already.
    subst same
    rw [applies_unique applies live.current]
    obtain ⟨settings, lastContent, listeningTask, watcher⟩ := inst
    cases live.running
    rfl
  next =>
    obtain ⟨content', data, same, loaded, valid⟩ := applies
    obtain rfl := Option.some.inj same
    simp only [loaded, valid]

theorem live_find {inst : Instance} {state : FileState} (live : Live loads inst)
    (acceptable : Acceptable loads inst state (inst.find loads state)) :
    Live loads (inst.find loads state) := by
  obtain ⟨sleeps, s, applies⟩ := acceptable
  obtain ⟨content, data, rfl, loaded, valid⟩ := applies
  have applies : Applies loads inst (some content) s := ⟨content, data, rfl, loaded, valid⟩
  rw [find_acceptable live sleeps applies]
  refine ⟨live.running, applies_capped applies, ?_⟩
  exact @applies_again loads inst { inst with settings := s, lastContent := content } content
    applies

theorem acceptable_of_running {inst : Instance} {state : FileState} (live : Live loads inst)
    (running : (inst.find loads state).watcher = .running) :
    Acceptable loads inst state (inst.find loads state) := by
  cases state with
  | none => simp [Instance.find, live.running] at running
  | some content =>
      simp only [Instance.find, Instance.wake, live.running] at running
      split at running
      next => contradiction
      next sleeps =>
        have sleeps : canSleep (inst.settings .watchInterval) = true := by simpa using sleeps
        split at running
        next same => exact ⟨sleeps, inst.settings, same ▸ live.current⟩
        next =>
          split at running
          next => contradiction
          next data loaded =>
            split at running
            next s valid => exact ⟨sleeps, s, content, data, rfl, loaded, valid⟩
            next => contradiction

theorem rejectsWhole_iff {inst : Instance} {state : FileState} (live : Live loads inst) :
    RejectsWhole loads inst state (inst.find loads state) ↔
      Acceptable loads inst state (inst.find loads state) := by
  constructor
  · exact fun whole => acceptable_of_running live whole.running
  · intro acceptable
    have after := live_find live acceptable
    obtain ⟨sleeps, s, applies⟩ := acceptable
    refine ⟨?_, fun rejected => absurd ⟨s, applies⟩ rejected, after.capped, after.running⟩
    intro s' applies'
    obtain ⟨content, data, rfl, -⟩ := applies
    rw [find_acceptable live sleeps applies']

/-! ## Whole runs -/

theorem live_listen {content : String} {inst : Instance} (started : read loads content = .ok inst)
    (watching : inst.listen.watcher = .running) : Live loads inst.listen := by
  obtain ⟨data, loaded, plain, accepted, settings, current, -⟩ := read_ok started
  have kept : inst.listen.settings = inst.settings ∧
      inst.listen.lastContent = inst.lastContent := by
    unfold Instance.listen
    split <;> exact ⟨rfl, rfl⟩
  refine ⟨watching, ?_, ?_⟩
  · rw [kept.1, settings]
    exact exceedsMax_capped _
  · refine ⟨inst.listen.lastContent, data, rfl, by rw [kept.2, current, loaded], ?_⟩
    have again : Accepted
        (override (normal cap (override Field.default data.values)) data.values) := by
      rw [accepted_override_normal, override_self]
      exact accepted
    rw [setattr_data, kept.1, settings, revalidate_plain plain, validate_accepted again,
      normal_override_normal cap_cap, override_self]

/--
A state of the file is applied as a whole or not at all, with the watcher going on,
exactly along the states that it accepts: it survives no other.
-/
theorem rejectsWhole_along_iff {content : String} {inst : Instance}
    (started : read loads content = .ok inst) (watching : inst.listen.watcher = .running)
    (states : List FileState) :
    Runs.Along (find loads) (RejectsWhole loads) inst.listen states ↔
      Runs.Along (find loads) (Acceptable loads) inst.listen states := by
  refine Runs.along_iff (Live loads) ?_ ?_ (live_listen started watching)
  · rintro before state after live acceptable found
    obtain rfl := Option.some.inj found
    exact live_find live acceptable
  · rintro before state after live found
    obtain rfl := Option.some.inj found
    exact rejectsWhole_iff live

theorem rejectsWhole_long :
    Runs.Along (find Sample.tomllib) (RejectsWhole Sample.tomllib) Sample.opened.listen
      [some Sample.longFile, some Sample.openFile] := by
  refine (rejectsWhole_along_iff Sample.read_open rfl _).mpr ?_
  rintro after found
  obtain rfl := Option.some.inj found
  refine ⟨⟨rfl, _, _, Sample.longData, rfl, rfl, rfl⟩, ?_⟩
  rintro after found
  obtain rfl := Option.some.inj found
  exact ⟨⟨rfl, _, _, Sample.openData, rfl, rfl, rfl⟩, trivial⟩

namespace Sample

def lockedFile : String := "unsafe_disable_auth = false\nsession_ttl = 100000"

def lockedData : Data :=
  ⟨[("unsafe_disable_auth", .bool false), ("session_ttl", .int 100000)], by decide⟩

def lockedTomllib (content : String) : Option Data :=
  if content = lockedFile then some lockedData else tomllib content

end Sample

/--
The new content has no `metadata_uri`. `validate` refuses it when the fields have
been assigned and before `session_ttl` is capped, and the watcher is gone.
-/
theorem rejectsWhole_fails :
    read Sample.lockedTomllib Sample.openFile = .ok Sample.opened ∧
      ¬ Runs.Along (find Sample.lockedTomllib) (RejectsWhole Sample.lockedTomllib)
        Sample.opened.listen [some Sample.lockedFile] := by
  refine ⟨rfl, fun along => ?_⟩
  have whole := (along _ rfl).1
  exact absurd rfl whole.capped

end StreamingPortal.Settings
