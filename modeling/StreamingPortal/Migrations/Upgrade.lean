import StreamingPortal.Migrations.Model

set_option autoImplicit false

/-! # What an upgrade does to a database in use -/

namespace StreamingPortal.Migrations

open Relational

def script (files : List VersionFile) : List (Statement Value) := files.flatMap VersionFile.upgrade

/-- An empty database that has seen the first version files. -/
def blank (version : Nat) : Option (Db Value) :=
  run (fun _ => none) (script (versionFiles.take version))

def schemasAt (version : Nat) : String → Option Schema :=
  (blank version).elim (fun _ => none) schemas

/-- A database to which the first version files have been applied, whatever has been stored in it
since. -/
structure At (version : Nat) (st : State) : Prop where
  applied : st.applied = (versionFiles.take version).map VersionFile.name
  schemas : schemas st.db = schemasAt version
  sound : Sound st.db

theorem blank_isSome : ∀ version ≤ 7, (blank version).isSome = true := by decide

theorem names_nodup : (versionFiles.map VersionFile.name).Nodup := by decide

/-- The models of the application are what the version files make. -/
theorem schemasAt_modelled : ∀ model ∈ models,
    (schemasAt 7 model.table).any
      (fun schema => decide (schema.columns.Perm model.fields)) = true := by
  decide

/-! ## Every statement succeeds -/

def between (version target : Nat) : List (Statement Value) :=
  script ((versionFiles.take target).drop version)

theorem blank_between {version target : Nat} (order : version ≤ target) :
    blank target = (blank version).bind fun db => run db (between version target) := by
  have cut : versionFiles.take target =
      versionFiles.take version ++ (versionFiles.take target).drop version := by
    conv_lhs => rw [← List.take_append_drop version (versionFiles.take target)]
    rw [List.take_take, Nat.min_eq_left order]
  rw [blank, cut, script, List.flatMap_append, run_append]
  rfl

theorem At.blank {version : Nat} {st : State} (at_ : At version st) (known : version ≤ 7) :
    ∃ e, blank version = some e ∧ Relational.schemas st.db = Relational.schemas e := by
  obtain ⟨e, same⟩ := Option.isSome_iff_exists.mp (blank_isSome version known)
  refine ⟨e, same, ?_⟩
  rw [at_.schemas, schemasAt, same]
  rfl

theorem At.reaches {version target : Nat} {st : State} (at_ : At version st)
    (order : version ≤ target) (known : target ≤ 7) {db : Db Value}
    (done : run st.db (between version target) = some db) :
    Relational.schemas db = schemasAt target := by
  obtain ⟨e, before, same⟩ := at_.blank (Nat.le_trans order known)
  obtain ⟨e', after⟩ := Option.isSome_iff_exists.mp (blank_isSome target known)
  have tried : run e (between version target) = some e' := by
    rw [← after, blank_between order, before]
    rfl
  rw [run_schemas same done tried, schemasAt, after]
  rfl

theorem At.missing {version : Nat} {st : State} (at_ : At version st) {table : String}
    (unknown : schemasAt version table = none) : st.db table = none := by
  have here := congrFun at_.schemas table
  rw [unknown] at here
  exact Option.map_eq_none_iff.mp here

theorem At.found {version : Nat} {st : State} (at_ : At version st) {table : String}
    {schema : Schema} (known : schemasAt version table = some schema) :
    ∃ r, st.db table = some r ∧ r.schema = schema := by
  have here := congrFun at_.schemas table
  rw [known] at here
  exact Option.map_eq_some_iff.mp here

theorem safe : ∀ version < 7, version ≠ 3 → ∀ file, versionFiles[version]? = some file →
    (blank version).any (fun e => safeAlong e file.upgrade) = true := by
  decide

theorem pageColumn : (schemasAt 3 "published_app").any
    (fun schema => decide (required "page" ∈ schema.columns)) = true := by
  decide

/-- The pages are told apart by the statement itself, and each application has one. -/
theorem At.pages_succeed {st : State} (at_ : At 3 st) :
    ∃ db, run st.db pages.upgrade = some db := by
  obtain ⟨schema, known, listed⟩ := (Option.any_eq_true _ _).mp pageColumn
  obtain ⟨apps, found, rfl⟩ := at_.found known
  have missing : st.db "published_page" = none := at_.missing (by decide)
  have apart : "published_app" ≠ "published_page" := by decide
  have source : Function.update st.db "published_page" (some (.empty publishedPage))
      "published_app" = some apps := by
    rw [Function.update_of_ne apart, found]
  obtain ⟨db, filled⟩ := insertDistinct_succeeds (Function.update_self ..)
    (show "name" ∈ publishedPage.names by decide) (by decide) (by decide) source
    (at_.sound _ apps found) (of_decide_eq_true listed) rfl
  refine ⟨db, ?_⟩
  rw [pages, run, exec, missing, Option.bind_some, run]
  exact Option.bind_eq_some_iff.mpr ⟨db, filled, rfl⟩

theorem At.succeeds {version : Nat} {st : State} (at_ : At version st) {file : VersionFile}
    (h : versionFiles[version]? = some file) : ∃ db, run st.db file.upgrade = some db := by
  have known : version < 7 := (List.getElem?_eq_some_iff.mp h).1
  by_cases third : version = 3
  · subst third
    obtain rfl := Option.some.inj h
    exact at_.pages_succeed
  · obtain ⟨e, tried, along⟩ := (Option.any_eq_true _ _).mp (safe version known third file h)
    obtain ⟨e', tried', same⟩ := at_.blank (Nat.le_of_lt known)
    obtain rfl := Option.some.inj (tried.symm.trans tried')
    exact run_succeeds_as along same at_.sound

theorem between_succ {version : Nat} {file : VersionFile} (h : versionFiles[version]? = some file) :
    between version (version + 1) = file.upgrade := by
  have length : (versionFiles.take version).length = version :=
    List.length_take_of_le (Nat.le_of_lt (List.getElem?_eq_some_iff.mp h).1)
  rw [between, List.take_add_one, h, Option.toList_some, List.drop_left' length, script,
    List.flatMap_singleton]

theorem At.next {version : Nat} {st : State} (at_ : At version st) {file : VersionFile}
    (h : versionFiles[version]? = some file) {db : Db Value}
    (done : run st.db file.upgrade = some db) :
    At (version + 1) ⟨db, st.applied ++ [file.name]⟩ where
  applied := by
    rw [List.take_add_one, h, Option.toList_some, List.map_append, at_.applied]
    rfl
  schemas := by
    have known : version < 7 := (List.getElem?_eq_some_iff.mp h).1
    refine at_.reaches (Nat.le_succ version) known ?_
    rw [between_succ h]
    exact done
  sound := run_sound at_.sound done

/-! ## The command -/

theorem drop_eq_cons {version : Nat} {file : VersionFile} (h : versionFiles[version]? = some file) :
    versionFiles.drop version = file :: versionFiles.drop (version + 1) := by
  obtain ⟨known, rfl⟩ := List.getElem?_eq_some_iff.mp h
  exact List.drop_eq_getElem_cons known

theorem At.pending {version : Nat} {st : State} (at_ : At version st) {file : VersionFile}
    (h : versionFiles[version]? = some file) : file.name ∉ st.applied := by
  have nodup := names_nodup
  rw [← List.take_append_drop version versionFiles, drop_eq_cons h, List.map_append,
    List.map_cons, List.nodup_append] at nodup
  rw [at_.applied]
  exact fun known => nodup.2.2 _ known _ List.mem_cons_self rfl

section Command

variable {upgrade : Command} (documented : Documented upgrade)

include documented

theorem upgrade_skip {st : State} {files : List VersionFile}
    (known : ∀ file ∈ files, file.name ∈ st.applied) (later : List VersionFile) :
    upgrade st (files ++ later) = upgrade st later := by
  induction files with
  | nil => rfl
  | cons file files ih =>
      rw [List.cons_append, documented.skips st file _ (known file List.mem_cons_self)]
      exact ih fun other listed => known other (List.mem_cons_of_mem _ listed)

/-- From any version on, what is missing is applied, in its order. -/
theorem At.upgrade_drop {version : Nat} {st : State} (at_ : At version st) (known : version ≤ 7) :
    ∃ after, upgrade st (versionFiles.drop version) = some after ∧ At 7 after ∧
      run st.db (script (versionFiles.drop version)) = some after.db := by
  obtain ⟨left, rfl⟩ : ∃ left, version = 7 - left := ⟨7 - version, by omega⟩
  induction left generalizing st with
  | zero => exact ⟨st, documented.ends st, at_, rfl⟩
  | succ left ih =>
      by_cases beyond : 7 ≤ left
      · have same : 7 - (left + 1) = 7 - left := by omega
        rw [same] at at_ ⊢
        exact ih at_ (by omega)
      · have within : 7 - (left + 1) < versionFiles.length := by
          have length : versionFiles.length = 7 := rfl
          omega
        have file := List.getElem?_eq_getElem within
        obtain ⟨db, done⟩ := at_.succeeds file
        have next := at_.next file done
        have succ : 7 - (left + 1) + 1 = 7 - left := by omega
        rw [succ] at next
        obtain ⟨after, rest, at_end, ran⟩ := ih next (by omega)
        refine ⟨after, ?_, at_end, ?_⟩
        · rw [drop_eq_cons file, succ,
            documented.applies st _ _ db (at_.pending file) done]
          exact rest
        · rw [drop_eq_cons file, succ, script, List.flatMap_cons, run_append, done]
          exact ran

theorem At.migrations {version : Nat} {st : State} (at_ : At version st) (known : version ≤ 7) :
    ∃ after, migrations upgrade st = some after ∧ At 7 after ∧
      run st.db (script (versionFiles.drop version)) = some after.db := by
  obtain ⟨after, done, at_end, ran⟩ := at_.upgrade_drop documented known
  refine ⟨after, ?_, at_end, ran⟩
  have skipped : ∀ file ∈ versionFiles.take version, file.name ∈ st.applied := fun file listed =>
    at_.applied ▸ List.mem_map_of_mem listed
  calc
    upgrade st versionFiles
        = upgrade st (versionFiles.take version ++ versionFiles.drop version) := by
          rw [List.take_append_drop]
    _ = upgrade st (versionFiles.drop version) := upgrade_skip documented skipped _
    _ = some after := done

theorem At.migrations_again {st : State} (at_ : At 7 st) :
    Migrations.migrations upgrade st = some st := by
  have known : ∀ file ∈ versionFiles, file.name ∈ st.applied := fun file listed =>
    at_.applied ▸ List.mem_map_of_mem listed
  have skipped := upgrade_skip documented known []
  rwa [List.append_nil, documented.ends] at skipped

end Command

/-! ## What is kept -/

/-- All columns but the one that has been given up. -/
def kept (version : Nat) (table : String) : Option (List String) :=
  (schemasAt version table).map fun schema =>
    schema.names.filter fun name => !decide (table = "published_app" ∧ name = "image")

theorem script_leaves : ∀ version ≤ 7, ∀ statement ∈ script (versionFiles.drop version),
    (kept version statement.table).all
      (fun names => statement.leaves statement.table names) = true := by
  decide

/-! ## What is new -/

-- Whether what a statement adds is left as it is, the page of an application apart.
def settled : Statement Value → Statement Value → Bool
  | .addColumn table column _, later =>
      decide (column.name = "page") || later.leaves table [column.name]
  | _, _ => true

theorem script_settled :
    (script versionFiles).Pairwise fun first later => settled first later = true := by
  decide

theorem settled_later {version : Nat} {before later : List (Statement Value)}
    {statement : Statement Value}
    (cut : script (versionFiles.drop version) = before ++ statement :: later) :
    ∀ other ∈ later, settled statement other = true := by
  have all := script_settled
  rw [← List.take_append_drop version versionFiles, script, List.flatMap_append,
    List.pairwise_append] at all
  have rest := all.2.1
  rw [← script, cut, List.pairwise_append, List.pairwise_cons] at rest
  exact rest.2.1.1

def beforePage (version : Nat) : List (Statement Value) :=
  between version 2 ++ [.addColumn "published_app" (required "page") (some (.text ""))]

def afterPage : List (Statement Value) :=
  .dropColumn "published_app" "image" :: script (versionFiles.drop 3)

/-- Where the page of an application comes from. -/
theorem script_page : ∀ version ≤ 2, script (versionFiles.drop version) =
    beforePage version ++ .copyColumn "published_app" "page" "category" :: afterPage
  | 0, _ | 1, _ | 2, _ => rfl

theorem page_leaves : (∀ version ≤ 2, ∀ statement ∈ beforePage version,
      statement.leaves "published_app" ["category"] = true) ∧
    ∀ statement ∈ afterPage, statement.leaves "published_app" ["page"] = true := by
  decide

/-- Where the pages come from. -/
theorem script_pages : ∀ version ≤ 3, script (versionFiles.drop version) =
    between version 3 ++ .createTable "published_page" publishedPage ::
      .insertDistinct "published_page" "name" "published_app" "page" :: script (versionFiles.drop 4)
  | 0, _ | 1, _ | 2, _ | 3, _ => rfl

theorem pages_leave : (∀ statement ∈ script (versionFiles.drop 4),
      statement.leaves "published_page" ["name", "order"] = true) ∧
    ∀ statement ∈ script (versionFiles.drop 4),
      statement.leaves "published_app" ["page"] = true := by
  decide

/-! ## The whole upgrade -/

/-- What has become of a database that had seen the first version files only. -/
structure Upgraded (upgrade : Command) (version : Nat) (before after : State) : Prop where
  current : At 7 after
  modelled : ∀ model ∈ models, ∃ r, after.db model.table = some r ∧
    r.schema.columns.Perm model.fields
  -- The images of the applications are given up.
  kept : ∀ table r, before.db table = some r → ∀ names, (∀ name ∈ names, name ∈ r.schema.names) →
    ¬ (table = "published_app" ∧ "image" ∈ names) →
      ∃ r', after.db table = some r' ∧ r'.select names = r.select names
  page : version ≤ 2 → ∀ r, before.db "published_app" = some r →
    ∃ r', after.db "published_app" = some r' ∧ r'.select ["page"] = r.select ["category"]
  pages : version ≤ 3 → ∃ r apps, after.db "published_page" = some r ∧
    after.db "published_app" = some apps ∧
      r.select ["name", "order"] =
        ((apps.rows.map fun app => app "page").dedup).map fun page => [page, none]
  added : ∀ table column default,
    .addColumn table column default ∈ script (versionFiles.drop version) → column.name ≠ "page" →
      ∀ r, after.db table = some r → ∀ row ∈ r.rows, row column.name = default
  again : Migrations.migrations upgrade after = some after

theorem At.upgraded {upgrade : Command} (documented : Documented upgrade) {version : Nat}
    {before after : State} (at_ : At version before) (known : version ≤ 7) (current : At 7 after)
    (ran : run before.db (script (versionFiles.drop version)) = some after.db) :
    Upgraded upgrade version before after where
  current := current
  modelled := by
    intro model listed
    obtain ⟨schema, same, perm⟩ := (Option.any_eq_true _ _).mp (schemasAt_modelled model listed)
    obtain ⟨r, found, rfl⟩ := current.found same
    exact ⟨r, found, of_decide_eq_true perm⟩
  kept := by
    intro table r found names within without
    have shape : schemasAt version table = some r.schema := by
      rw [← at_.schemas, Relational.schemas, found]
      rfl
    have all : kept version table = some (r.schema.names.filter fun name =>
        !decide (table = "published_app" ∧ name = "image")) := by
      rw [kept, shape, Option.map_some]
    refine run_keeps ran (fun statement listed => ?_) r found
    refine Statement.leaves_of_own (script_leaves version known statement listed) all ?_
    intro name member
    refine List.mem_filter.mpr ⟨within name member, ?_⟩
    have other : ¬ (table = "published_app" ∧ name = "image") := fun image =>
      without ⟨image.1, image.2 ▸ member⟩
    rw [decide_eq_false other, Bool.not_false]
  page := by
    intro early r found
    rw [script_page version early] at ran
    exact run_copied ran (page_leaves.1 version early) page_leaves.2 found
  pages := by
    intro early
    rw [script_pages version early] at ran
    have missing : ∀ mid, run before.db (between version 3) = some mid →
        mid "published_page" = none := by
      intro mid done
      have shape := congrFun (at_.reaches early (by decide) done) "published_page"
      have unknown : schemasAt 3 "published_page" = none := by decide
      exact Option.map_eq_none_iff.mp (shape.trans unknown)
    obtain ⟨r, apps, found, found', same⟩ :=
      run_distinct (by decide) ran missing pages_leave.1 pages_leave.2
    exact ⟨r, apps, found, found', same⟩
  added := by
    intro table column default listed other r found row stored
    obtain ⟨first, later, cut⟩ := List.append_of_mem listed
    have settled := settled_later cut
    rw [cut] at ran
    refine run_filled ran (fun statement after => ?_) found stored
    simpa [Migrations.settled, other] using settled statement after
  again := current.migrations_again documented

/-- An upgrade from any version succeeds, keeps all that was stored, and need not be repeated. -/
theorem migrations_upgrade {upgrade : Command} (documented : Documented upgrade) {version : Nat}
    {st : State} (at_ : At version st) (known : version ≤ 7) :
    ∃ after, migrations upgrade st = some after ∧ Upgraded upgrade version st after := by
  obtain ⟨after, done, current, ran⟩ := at_.migrations documented known
  exact ⟨after, done, at_.upgraded documented known current ran⟩

/-! ## A sample -/

-- A command that stops at the first statement that fails.
def applyPending : Command
  | st, [] => some st
  | st, file :: files =>
      if file.name ∈ st.applied then applyPending st files
      else (run st.db file.upgrade).bind fun db =>
        applyPending ⟨db, st.applied ++ [file.name]⟩ files

theorem applyPending_documented : Documented applyPending where
  ends _ := rfl
  skips st file files known := by rw [applyPending, if_pos known]
  applies st file files db pending done := by
    rw [applyPending, if_neg pending, done, Option.bind_some]

def sampleRow (schema : Schema) (own : List (String × String)) : Row Value := fun name =>
  if name ∈ schema.names then some (.text ((own.lookup name).getD "-")) else none

def sampleRelation (schema : Schema) (rows : List (List (String × String))) : Relation Value where
  schema := schema
  rows := rows.map (sampleRow schema)
  absent := by
    intro row stored name unknown
    obtain ⟨own, -, rfl⟩ := List.mem_map.mp stored
    exact if_neg unknown

def sampleApps : Relation Value :=
  sampleRelation publishedApp
    [[("id", "viewer"), ("function_id", "a"), ("category", "demo")],
      [("id", "editor"), ("function_id", "b"), ("category", "demo")]]

def sampleSessions : Relation Value := sampleRelation session [[("id", "s"), ("app_id", "viewer")]]

-- A database of the first version, with two applications and a session.
def sampleState : State where
  db := Function.update (Function.update (fun _ => none) "published_app" (some sampleApps))
    "session" (some sampleSessions)
  applied := ["0_20250808174831_init.py"]

theorem sample_at : At 1 sampleState where
  applied := rfl
  schemas := by
    have made : blank 1 = some (Function.update
        (Function.update (fun _ => none) "published_app" (some (.empty publishedApp)))
          "session" (some (.empty session))) := rfl
    rw [schemasAt, made, sampleState, Option.elim_some, schemas_update, schemas_update,
      schemas_update, schemas_update]
    rfl
  sound := by
    have empty : Sound (fun _ => none : Db Value) := fun _ _ found => by contradiction
    exact (empty.update (r := sampleApps) (by decide)).update (by decide)

theorem migrations_upgrade_sample :
    (∃ after, migrations applyPending sampleState = some after ∧
      Upgraded applyPending 1 sampleState after) ∧
      ((migrations applyPending sampleState).bind fun after => after.db "published_page").map
        (fun r => r.select ["name", "order"]) = some [[some (.text "demo"), none]] :=
  ⟨migrations_upgrade applyPending_documented sample_at (by decide), by decide⟩

end StreamingPortal.Migrations
