import StreamingPortal.Migrations.Upgrade

set_option autoImplicit false

/-!
# What the downgrades undo

The first version file has no downgrade, and the third gives up the images of the applications.
-/

namespace StreamingPortal.Migrations

open Relational

def VersionFile.cycle (file : VersionFile) : List (Statement Value) :=
  file.upgrade ++ file.downgrade

-- The whole cycle, tried in a database without rows.
def VersionFile.returns (file : VersionFile) (e : Db Value) : Bool :=
  (run e file.cycle).any fun e' => file.cycle.all fun statement =>
    decide (schemas e' statement.table = schemas e statement.table) &&
      file.cycle.all fun other => (schemas e statement.table).all fun schema =>
        other.leaves statement.table schema.names

theorem blank_returns : ∀ version < 7, version ≠ 0 → version ≠ 2 →
    ∀ file, versionFiles[version]? = some file →
      (blank version).any (fun e => file.returns e) = true := by
  decide

theorem blank_safe : ∀ version < 7, version ≠ 0 → version ≠ 2 →
    ∀ file, versionFiles[version]? = some file →
      (blank (version + 1)).any (fun e => safeAlong e file.downgrade) = true := by
  decide

def namesAt (version : Nat) (table : String) : Option (List String) :=
  (schemasAt version table).map Schema.names

/-- What the version before had is not touched on the way back. -/
theorem downgrade_leaves : ∀ version < 7, version ≠ 0 → version ≠ 2 →
    ∀ file, versionFiles[version]? = some file → ∀ statement ∈ file.downgrade,
      (namesAt version statement.table).all
        (fun names => statement.leaves statement.table names) = true := by
  decide

theorem cycle_undone {file : VersionFile} {e db db' : Db Value} (returns : file.returns e = true)
    (same : schemas db = schemas e) (done : run db file.cycle = some db') : db' = db := by
  obtain ⟨e', tried, all⟩ := (Option.any_eq_true _ _).mp returns
  rw [List.all_eq_true] at all
  refine run_undone same done tried (fun statement listed => ?_) ?_
  · exact of_decide_eq_true (Bool.and_eq_true_iff.mp (all statement listed)).1
  · intro statement listed other member schema known
    have here := (Bool.and_eq_true_iff.mp (all statement listed)).2
    rw [List.all_eq_true] at here
    simpa [known] using here other member

/-- What a downgrade makes of any database of its version. -/
structure Lowered (version : Nat) (before after : Db Value) : Prop where
  schemas : schemas after = schemasAt version
  sound : Sound after
  kept : ∀ table schema names, schemasAt version table = some schema →
    (∀ name ∈ names, name ∈ schema.names) → Keeps before after table names

structure Reverts (version : Nat) (file : VersionFile) : Prop where
  undone : version ≠ 2 → ∀ st, At version st →
    (run st.db file.upgrade).bind (fun db => run db file.downgrade) = some st.db
  lowered : version ≠ 2 → ∀ st, At (version + 1) st →
    ∃ db, run st.db file.downgrade = some db ∧ Lowered version st.db db
  -- There is no image to give to an application.
  refused : version = 2 → ∀ st, At (version + 1) st →
    (run st.db file.downgrade = none ↔
      ∃ apps, st.db "published_app" = some apps ∧ apps.rows ≠ [])

section

variable {version : Nat} {file : VersionFile}

theorem downgrade_succeeds (h : versionFiles[version]? = some file) (later : version ≠ 0)
    (other : version ≠ 2) {st : State} (at_ : At (version + 1) st) :
    ∃ db, run st.db file.downgrade = some db := by
  have known : version < 7 := (List.getElem?_eq_some_iff.mp h).1
  obtain ⟨e, tried, along⟩ :=
    (Option.any_eq_true _ _).mp (blank_safe version known later other file h)
  obtain ⟨e', tried', same⟩ := at_.blank known
  obtain rfl := Option.some.inj (tried.symm.trans tried')
  exact run_succeeds_as along same at_.sound

theorem blank_cycle (h : versionFiles[version]? = some file) (later : version ≠ 0)
    (other : version ≠ 2) : ∃ e e', blank version = some e ∧ blank (version + 1) = some e' ∧
      file.returns e = true ∧ run e' file.downgrade = some e := by
  have known : version < 7 := (List.getElem?_eq_some_iff.mp h).1
  obtain ⟨e, before, returns⟩ :=
    (Option.any_eq_true _ _).mp (blank_returns version known later other file h)
  obtain ⟨e', after⟩ := Option.isSome_iff_exists.mp (blank_isSome (version + 1) known)
  obtain ⟨e'', tried, -⟩ := (Option.any_eq_true _ _).mp returns
  have cycled := tried
  rw [VersionFile.cycle, run_append, ← between_succ h] at cycled
  have up : run e (between version (version + 1)) = some e' := by
    rw [← after, blank_between (Nat.le_succ version), before, Option.bind_some]
  rw [up, Option.bind_some] at cycled
  obtain rfl := cycle_undone returns rfl tried
  exact ⟨e'', e', before, after, returns, cycled⟩

theorem imageColumn : (schemasAt 3 "published_app").any (fun schema =>
    decide ("image" ∉ schema.names) && decide ("page" ∈ schema.names) &&
      schema.unique.all fun names => decide ("page" ∉ names)) = true := by
  decide

theorem image_refused {st : State} (at_ : At 3 st) :
    run st.db pageOfApp.downgrade = none ↔
      ∃ apps, st.db "published_app" = some apps ∧ apps.rows ≠ [] := by
  obtain ⟨schema, known, facts⟩ := (Option.any_eq_true _ _).mp imageColumn
  obtain ⟨apps, found, rfl⟩ := at_.found known
  simp only [Bool.and_eq_true, decide_eq_true_eq, List.all_eq_true] at facts
  obtain ⟨⟨fresh, page⟩, free⟩ := facts
  constructor
  · intro failed
    refine ⟨apps, found, fun empty => ?_⟩
    obtain ⟨added, add⟩ : ∃ added, apps.add (required "image") none = some added :=
      Relation.add_succeeds fresh fun _ _ => empty
    obtain ⟨_, shape, -, -⟩ := Relation.add_eq_some add
    have listed : "page" ∈ added.schema.names := by
      rw [shape, Schema.names, Schema.add, List.map_append]
      exact List.mem_append_left _ page
    have unbound : ∀ names ∈ added.schema.unique, "page" ∉ names := by
      rw [shape]
      exact free
    obtain ⟨dropped, drop⟩ := Relation.drop_succeeds unbound listed
    simp [pageOfApp, run, exec, alter, found, add, drop] at failed
  · rintro ⟨apps', found', stored⟩
    obtain rfl := Option.some.inj (found.symm.trans found')
    cases ran : run st.db pageOfApp.downgrade with
    | none => rfl
    | some db =>
        obtain ⟨mid, step, -⟩ := run_cons_eq_some ran
        obtain ⟨r, r', found'', added, -⟩ := alter_eq_some step
        obtain rfl := Option.some.inj (found.symm.trans found'')
        obtain ⟨-, -, -, filled⟩ := Relation.add_eq_some added
        exact absurd (filled rfl rfl) stored

/-- A downgrade undoes its upgrade, and takes nothing else away later on. -/
theorem downgrade_reverts (h : versionFiles[version]? = some file) (later : version ≠ 0) :
    Reverts version file where
  undone := by
    intro other st at_
    have known : version < 7 := (List.getElem?_eq_some_iff.mp h).1
    obtain ⟨e, e', before, -, returns, -⟩ := blank_cycle h later other
    obtain ⟨e'', before', same⟩ := at_.blank (Nat.le_of_lt known)
    obtain rfl := Option.some.inj (before.symm.trans before')
    obtain ⟨mid, up⟩ := at_.succeeds h
    obtain ⟨db, down⟩ := downgrade_succeeds h later other (at_.next h up)
    have done : run st.db file.cycle = some db := by
      rw [VersionFile.cycle, run_append, up, Option.bind_some, down]
    rw [up, Option.bind_some, down, cycle_undone returns same done]
  lowered := by
    intro other st at_
    have known : version < 7 := (List.getElem?_eq_some_iff.mp h).1
    obtain ⟨db, down⟩ := downgrade_succeeds h later other at_
    obtain ⟨e, e', before, after, -, tried⟩ := blank_cycle h later other
    obtain ⟨e'', after', same⟩ := at_.blank known
    obtain rfl := Option.some.inj (after.symm.trans after')
    refine ⟨db, down, ?_, run_sound at_.sound down, ?_⟩
    · rw [run_schemas same down tried, schemasAt, before]
      rfl
    · intro table schema names shape within
      have all : namesAt version table = some schema.names := by
        rw [namesAt, shape, Option.map_some]
      exact run_keeps down fun statement listed => Statement.leaves_of_own
        (downgrade_leaves version known later other file h statement listed) all within
  refused := by
    rintro rfl st at_
    obtain rfl := Option.some.inj h
    exact image_refused at_

end

theorem downgrade_reverts_sample :
    (run sampleState.db mediaServer.upgrade).bind (fun db => run db mediaServer.downgrade) =
      some sampleState.db :=
  (downgrade_reverts rfl (by decide) : Reverts 1 mediaServer).undone (by decide) sampleState
    sample_at

end StreamingPortal.Migrations
