import StreamingPortal.Settings.Model

set_option autoImplicit false

/-! # Reloading and restarting -/

namespace StreamingPortal.Settings

open Overlay

/-! ## `validate` accepts or caps -/

def Accepted (s : Settings) : Prop := ∃ s', validate s = .ok s'

def cap : Field → Value → Value
  -- What `validate` makes of a value.
  | .sessionTtl, v => if exceedsMax v = some true then some (.int maxSessionTtl) else v
  | _, v => v

theorem cap_of_ne {f : Field} (other : f ≠ .sessionTtl) (v : Value) : cap f v = v := by
  cases f <;> first | rfl | contradiction

theorem cap_cap (f : Field) (v : Value) : cap f (cap f v) = cap f v := by
  by_cases same : f = .sessionTtl
  · subst same
    simp only [cap]
    split
    · rfl
    · rfl
  · simp [cap_of_ne same]

theorem exceedsMax_cap (v : Value) :
    (exceedsMax (cap .sessionTtl v)).isSome = (exceedsMax v).isSome := by
  simp only [cap]
  split
  next above => rw [above]; rfl
  next => rfl

theorem cap_default (f : Field) : cap f f.default = f.default := by
  cases f <;> rfl

theorem accepted_iff {s : Settings} :
    Accepted s ↔ missing s = none ∧ (exceedsMax (s .sessionTtl)).isSome = true := by
  unfold Accepted validate
  cases missing s with
  | some text => simp
  | none => cases exceedsMax (s .sessionTtl) with
    | none => simp
    | some above => cases above <;> simp

theorem validate_accepted {s : Settings} (accepted : Accepted s) :
    validate s = .ok (normal cap s) := by
  obtain ⟨complete, comparable⟩ := accepted_iff.mp accepted
  unfold validate
  rw [complete]
  cases above : exceedsMax (s .sessionTtl) with
  | none => simp [above] at comparable
  | some above' =>
      cases above' with
      | true =>
          refine congrArg Except.ok (funext fun f => ?_)
          by_cases same : f = .sessionTtl
          · subst same
            simp [normal, cap, above]
          · simp [normal, cap_of_ne same, same]
      | false =>
          refine congrArg Except.ok (funext fun f => ?_)
          by_cases same : f = .sessionTtl
          · subst same
            simp [normal, cap, above]
          · simp [normal, cap_of_ne same]

theorem missing_congr {s s' : Settings} (others : ∀ f, f ≠ .sessionTtl → s f = s' f) :
    missing s = missing s' := by
  unfold missing
  rw [others .unsafeDisableAuth (by decide), others .metadataUri (by decide),
    others .mcpEnabled (by decide), others .mcpResourceUrl (by decide),
    others .mcpUpstreamClientId (by decide), others .mcpUpstreamClientSecret (by decide)]

theorem accepted_congr {s s' : Settings} (others : ∀ f, f ≠ .sessionTtl → s f = s' f)
    (comparable : (exceedsMax (s .sessionTtl)).isSome = (exceedsMax (s' .sessionTtl)).isSome) :
    Accepted s ↔ Accepted s' := by
  rw [accepted_iff, accepted_iff, missing_congr others, comparable]

theorem accepted_normal (s : Settings) : Accepted (normal cap s) ↔ Accepted s :=
  accepted_congr (fun f other => cap_of_ne other (s f)) (exceedsMax_cap (s .sessionTtl))

theorem accepted_override_normal (s : Settings) (d : Field → Option Value) :
    Accepted (override (normal cap s) d) ↔ Accepted (override s d) := by
  apply accepted_congr
  · intro f other
    simp [override, normal, cap_of_ne other]
  · cases mentioned : d .sessionTtl with
    | none =>
        rw [override_unmentioned mentioned, override_unmentioned mentioned]
        exact exceedsMax_cap _
    | some v => rw [override_mentioned mentioned, override_mentioned mentioned]

/-! ## Setting attributes one by one -/

theorem setattr_field (s : Settings) (key : String) (value : Toml) (f : Field) :
    setattr s (key, value) f = if f.key = key then some value else s f := by
  unfold setattr
  cases named : Field.ofKey? key with
  | none =>
      have other : f.key ≠ key := by
        rintro rfl
        simp [Field.ofKey?_key] at named
      simp [other]
  | some g =>
      obtain rfl := Field.key_of_ofKey? named
      by_cases same : f = g
      · simp [same]
      · have other : f.key ≠ g.key := by
          intro keys
          rw [← keys, Field.ofKey?_key] at named
          exact same (Option.some.inj named)
        simp [same, other]

theorem foldl_setattr (entries : List (String × Toml)) (nodup : (entries.map Prod.fst).Nodup)
    (s : Settings) (f : Field) :
    entries.foldl setattr s f = ((entries.lookup f.key).map some).getD (s f) := by
  induction entries generalizing s with
  | nil => rfl
  | cons entry rest ih =>
      obtain ⟨key, value⟩ := entry
      rw [List.map_cons, List.nodup_cons] at nodup
      rw [List.foldl_cons, ih nodup.2, setattr_field]
      by_cases same : f.key = key
      · subst same
        have later : rest.lookup f.key = none := by
          rw [List.lookup_eq_none_iff]
          intro entry inside
          rw [bne_iff_ne]
          intro hit
          exact nodup.1 (List.mem_map.mpr ⟨entry, inside, hit.symm⟩)
        rw [later, if_pos rfl, List.lookup_cons_self]
        rfl
      · have missed : (f.key == key) = false := beq_eq_false_iff_ne.mpr same
        rw [List.lookup_cons, missed, if_neg same]

theorem setattr_data (s : Settings) (data : Data) :
    data.entries.foldl setattr s = override s data.values :=
  funext fun f => foldl_setattr data.entries data.keys_nodup s f

/-! ## What the contents say together -/

section

variable (loads : String → Option Data)

def merged (contents : List String) : Settings :=
  -- Every field as the last of the contents to mention it has it.
  replay Field.default (contents.filterMap fun content => (loads content).map Data.values)

def heard (history : List String) : List String → List String
  -- The contents the watcher gets to see: it stops at an interval it cannot sleep for.
  | [] => history
  | content :: rest =>
      if canSleep (merged loads history .watchInterval) then heard (history ++ [content]) rest
      else history

def ValidThroughout (contents : List String) : Prop :=
  ∀ pre, pre <+: contents → pre ≠ [] → Accepted (merged loads pre)

/--
What the watcher sees is valid all along, and leaves the fields that `data` does not
mention at their defaults.
-/
structure ReloadsAs (contents : List String) (data : Data) : Prop where
  valid : ValidThroughout loads contents
  restored : ∀ f, data.values f = none → cap f (merged loads contents f) = f.default
  -- Says nothing when the contents end with `data`.
  reached : ∀ f v, data.values f = some v → cap f (merged loads contents f) = cap f v

end

variable {loads : String → Option Data}

@[simp] theorem merged_concat {contents : List String} {content : String} {data : Data}
    (loaded : loads content = some data) :
    merged loads (contents ++ [content]) = override (merged loads contents) data.values := by
  simp [merged, loaded, replay_concat]

theorem prefix_heard (history rest : List String) : history <+: heard loads history rest := by
  induction rest generalizing history with
  | nil => exact List.prefix_refl history
  | cons content rest ih =>
      unfold heard
      split
      · exact (List.prefix_append history [content]).trans (ih (history ++ [content]))
      · exact List.prefix_refl history

theorem validThroughout_concat {contents : List String} {content : String} :
    ValidThroughout loads (contents ++ [content]) ↔
      ValidThroughout loads contents ∧ Accepted (merged loads (contents ++ [content])) := by
  unfold ValidThroughout
  constructor
  · intro valid
    exact ⟨fun pre before some => valid pre (before.trans (List.prefix_append _ _)) some,
      valid _ (List.prefix_refl _) (by simp)⟩
  · rintro ⟨valid, here⟩ pre before some
    rcases List.prefix_concat_iff.mp before with rfl | before
    · exact here
    · exact valid pre before some

theorem reloadsAs_concat_iff {history : List String} {last : String} {data : Data}
    (loaded : loads last = some data) :
    ReloadsAs loads (history ++ [last]) data ↔
      ValidThroughout loads (history ++ [last]) ∧
        ∀ f, data.values f = none → cap f (merged loads history f) = f.default := by
  constructor
  · rintro ⟨valid, restored, -⟩
    refine ⟨valid, fun f unmentioned => ?_⟩
    rw [← restored f unmentioned, merged_concat loaded, override_unmentioned unmentioned]
  · rintro ⟨valid, restored⟩
    refine ⟨valid, fun f unmentioned => ?_, fun f v mentioned => ?_⟩
    · rw [merged_concat loaded, override_unmentioned unmentioned, restored f unmentioned]
    · rw [merged_concat loaded, override_mentioned mentioned]

/-! ## The watcher along the contents -/

structure Follows (loads : String → Option Data) (history : List String) (inst : Instance) :
    Prop where
  running : inst.watcher = .running
  current : history.getLast? = some inst.lastContent
  valid : ValidThroughout loads history
  settings : inst.settings = normal cap (merged loads history)

/-- The contents it has seen are `contents`, and it has failed if they are not all valid. -/
def Processed (loads : String → Option Data) (contents : List String) (inst : Instance) : Prop :=
  ValidThroughout loads contents ∧ inst.settings = normal cap (merged loads contents) ∨
    ¬ ValidThroughout loads contents ∧ ¬ Accepted inst.settings

theorem wake_failed {inst : Instance} (failed : inst.watcher = .failed) (contents : List String) :
    contents.foldl (Instance.wake loads) inst = inst := by
  induction contents with
  | nil => rfl
  | cons content rest ih =>
      have still : inst.wake loads content = inst := by simp [Instance.wake, failed]
      rw [List.foldl_cons, still, ih]

theorem merged_repeat {history : List String} {content : String} {data : Data}
    (loaded : loads content = some data) (last : history.getLast? = some content) :
    merged loads (history ++ [content]) = merged loads history := by
  obtain ⟨before, rfl⟩ := List.getLast?_eq_some_iff.mp last
  rw [merged_concat loaded, merged_concat loaded, override_self]

theorem revalidate_plain {data : Data} (plain : data.get? "validate" = none) (s : Settings) :
    revalidate data s = validate s := by
  simp [revalidate, plain]

theorem follows_wake {history : List String} {inst : Instance} {content : String} {data : Data}
    (follows : Follows loads history inst) (loaded : loads content = some data)
    (plain : data.get? "validate" = none)
    (sleeps : canSleep (merged loads history .watchInterval) = true)
    (accepted : Accepted (merged loads (history ++ [content]))) :
    Follows loads (history ++ [content]) (inst.wake loads content) := by
  have interval : canSleep (inst.settings .watchInterval) = true := by
    rw [follows.settings, normal, cap_of_ne (by decide), sleeps]
  have valid := validThroughout_concat.mpr ⟨follows.valid, accepted⟩
  unfold Instance.wake
  rw [follows.running]
  simp only [interval, Bool.not_true, Bool.false_eq_true, if_false]
  split
  next same =>
    -- The file has not changed, and its content again merges to the same.
    refine ⟨follows.running, by simp [same], valid, ?_⟩
    rw [merged_repeat loaded (same ▸ follows.current), follows.settings]
  next =>
    -- The live object is capped already; `validate` says the same of the uncapped merge.
    have next : Accepted (override inst.settings data.values) := by
      rw [follows.settings, accepted_override_normal, ← merged_concat loaded]
      exact accepted
    simp only [loaded, setattr_data, revalidate_plain plain, validate_accepted next]
    refine ⟨rfl, by simp, valid, ?_⟩
    rw [follows.settings, normal_override_normal cap_cap, ← merged_concat loaded]

theorem wake_rejected {history : List String} {inst : Instance} {content : String} {data : Data}
    (follows : Follows loads history inst) (loaded : loads content = some data)
    (plain : data.get? "validate" = none)
    (sleeps : canSleep (merged loads history .watchInterval) = true) (some_ : history ≠ [])
    (rejected : ¬ Accepted (merged loads (history ++ [content]))) :
    (inst.wake loads content).watcher = .failed ∧
      ¬ Accepted (inst.wake loads content).settings := by
  have interval : canSleep (inst.settings .watchInterval) = true := by
    rw [follows.settings, normal, cap_of_ne (by decide), sleeps]
  have changed : content ≠ inst.lastContent := by
    rintro rfl
    rw [merged_repeat loaded follows.current] at rejected
    exact rejected (follows.valid history (List.prefix_refl _) some_)
  have next : ¬ Accepted (override inst.settings data.values) := by
    rw [follows.settings, accepted_override_normal, ← merged_concat loaded]
    exact rejected
  unfold Instance.wake
  rw [follows.running]
  simp only [interval, Bool.not_true, Bool.false_eq_true, if_false, changed, loaded, setattr_data,
    revalidate_plain plain]
  cases outcome : validate (override inst.settings data.values) with
  | ok s => exact absurd ⟨s, outcome⟩ next
  | error e => exact ⟨rfl, next⟩

theorem processed {history rest : List String} {inst : Instance}
    (follows : Follows loads history inst) (some_ : history ≠ [])
    (loaded : ∀ content ∈ rest, ∃ data, loads content = some data ∧ data.get? "validate" = none) :
    Processed loads (heard loads history rest) (rest.foldl (Instance.wake loads) inst) := by
  induction rest generalizing history inst with
  | nil => exact Or.inl ⟨follows.valid, follows.settings⟩
  | cons content rest ih =>
      obtain ⟨data, loads_, plain⟩ := loaded content List.mem_cons_self
      unfold heard
      split
      next sleeps =>
        by_cases accepted : Accepted (merged loads (history ++ [content]))
        · exact ih (follows_wake follows loads_ plain sleeps accepted) (by simp)
            fun c inside => loaded c (List.mem_cons_of_mem _ inside)
        · -- Nothing wakes the watcher again: it stays on what `validate` has refused.
          obtain ⟨failed, broken⟩ := wake_rejected follows loads_ plain sleeps some_ accepted
          rw [List.foldl_cons, wake_failed failed]
          refine Or.inr ⟨fun valid => accepted ?_, broken⟩
          exact valid _ (prefix_heard (history ++ [content]) rest) (by simp)
      next awake =>
        have interval : canSleep (inst.settings .watchInterval) = false := by
          rw [follows.settings, normal, cap_of_ne (by decide)]
          exact Bool.eq_false_iff.mpr awake
        have stopped : inst.wake loads content = { inst with watcher := .failed } := by
          simp [Instance.wake, follows.running, interval]
        rw [List.foldl_cons, stopped, wake_failed rfl]
        exact Or.inl ⟨follows.valid, follows.settings⟩

/-! ## The two ways to build the settings -/

theorem get?_of_accepts {data : Data} {key : String}
    (named : (data.entries.all fun entry => accepts entry.1) = true)
    (unnamed : accepts key = false) : data.get? key = none := by
  rw [Data.get?, List.lookup_eq_none_iff]
  intro entry inside
  rw [bne_iff_ne]
  rintro rfl
  rw [List.all_eq_true.mp named entry inside] at unnamed
  contradiction

theorem read_ok {content : String} {inst : Instance} (h : read loads content = .ok inst) :
    ∃ data, loads content = some data ∧ data.get? "validate" = none ∧
      Accepted (override Field.default data.values) ∧
      inst.settings = normal cap (override Field.default data.values) ∧
      inst.lastContent = content ∧ inst.watcher = .absent := by
  unfold read at h
  cases loaded : loads content with
  | none => simp [loaded] at h
  | some data =>
      simp only [loaded] at h
      split at h
      next named =>
        cases outcome : validate (override Field.default data.values) with
        | error e => simp [outcome, Except.map] at h
        | ok s =>
            have accepted : Accepted (override Field.default data.values) := ⟨s, outcome⟩
            rw [validate_accepted accepted] at h
            obtain rfl := Except.ok.inj h
            exact ⟨data, rfl, get?_of_accepts named (by decide), accepted, rfl, rfl, rfl⟩
      next => contradiction

theorem listen_follows {content : String} {inst : Instance}
    (started : read loads content = .ok inst) (watching : inst.listen.watcher = .running) :
    Follows loads [content] inst.listen := by
  obtain ⟨data, loaded, -, accepted, settings, current, absent⟩ := read_ok started
  have alone : merged loads [content] = override Field.default data.values := by
    simp [merged, loaded, replay]
  have kept : inst.listen.settings = inst.settings ∧
      inst.listen.lastContent = inst.lastContent := by
    unfold Instance.listen
    split <;> exact ⟨rfl, rfl⟩
  refine ⟨watching, by simp [kept.2, current], ?_, by rw [kept.1, settings, alone]⟩
  intro pre before some_
  rcases List.prefix_cons_iff.mp before with rfl | ⟨tail, rfl, inside⟩
  · contradiction
  · rw [List.prefix_nil.mp inside, alone]
    exact accepted

/--
The watcher updates the object it has key by key, and a field that a content no longer
mentions keeps its value: where this comes to what reading the last content gives.
-/
theorem reload_eq_read_iff {first : String} {rest : List String} {inst fresh : Instance}
    {data : Data} (accepted : ∀ content ∈ first :: rest, ∃ inst, read loads content = .ok inst)
    (started : read loads first = .ok inst) (watching : inst.listen.watcher = .running)
    (loaded : loads ((first :: rest).getLast (List.cons_ne_nil first rest)) = some data)
    (restarted : read loads ((first :: rest).getLast (List.cons_ne_nil first rest)) = .ok fresh) :
    (rest.foldl (Instance.wake loads) inst.listen).settings = fresh.settings ↔
      ReloadsAs loads (heard loads [first] rest) data := by
  obtain ⟨data', loaded', -, valid, settings, -⟩ := read_ok restarted
  obtain rfl := Option.some.inj (loaded.symm.trans loaded')
  have readable (content : String) (inside : content ∈ rest) :
      ∃ data, loads content = some data ∧ data.get? "validate" = none := by
    obtain ⟨inst, ok⟩ := accepted content (List.mem_cons_of_mem _ inside)
    obtain ⟨data, loaded, plain, -⟩ := read_ok ok
    exact ⟨data, loaded, plain⟩
  rw [settings]
  rcases processed (listen_follows started watching) (by simp) readable with
    ⟨throughout, live⟩ | ⟨broken, rejected⟩
  · rw [live]
    constructor
    · intro same
      refine ⟨throughout, fun f unmentioned => ?_, fun f v mentioned => ?_⟩
      · have here := congrFun same f
        rwa [normal, normal, override_unmentioned unmentioned, cap_default] at here
      · have here := congrFun same f
        rwa [normal, normal, override_mentioned mentioned] at here
    · intro reloads
      funext f
      rw [normal, normal]
      cases mentioned : data.values f with
      | none =>
          rw [reloads.restored f mentioned, override_unmentioned mentioned, cap_default]
      | some v => rw [reloads.reached f v mentioned, override_mentioned mentioned]
  · constructor
    · intro same
      rw [same, accepted_normal] at rejected
      exact absurd valid rejected
    · intro reloads
      exact absurd reloads.valid broken

/-! ## Three files -/

namespace Sample

def openFile : String := "unsafe_disable_auth = true"

def longFile : String := "unsafe_disable_auth = true\nsession_ttl = 100000"

def securedFile : String := "metadata_uri = 'https://idp/'"

def openData : Data := ⟨[("unsafe_disable_auth", .bool true)], by decide⟩

def longData : Data :=
  ⟨[("unsafe_disable_auth", .bool true), ("session_ttl", .int 100000)], by decide⟩

def securedData : Data := ⟨[("metadata_uri", .string "https://idp/")], by decide⟩

def tomllib (content : String) : Option Data :=
  if content = openFile then some openData
  else if content = longFile then some longData
  else if content = securedFile then some securedData
  else none

def opened : Instance where
  settings := override Field.default openData.values
  lastContent := openFile
  listeningTask := false
  watcher := .absent

theorem read_open : read tomllib openFile = .ok opened := rfl

end Sample

/-- A session time beyond the maximum is capped to its default, and then left out again. -/
theorem reload_eq_read_capped :
    ([Sample.longFile, Sample.openFile].foldl (Instance.wake Sample.tomllib)
      Sample.opened.listen).settings = Sample.opened.settings := by
  have accepted : ∀ content ∈ [Sample.openFile, Sample.longFile, Sample.openFile],
      ∃ inst, read Sample.tomllib content = .ok inst := by
    simp only [List.forall_mem_cons]
    exact ⟨⟨_, rfl⟩, ⟨_, rfl⟩, ⟨_, rfl⟩, by simp⟩
  have valid : ValidThroughout Sample.tomllib
      ((([] ++ [Sample.openFile]) ++ [Sample.longFile]) ++ [Sample.openFile]) := by
    simp only [validThroughout_concat]
    refine ⟨⟨⟨?_, ⟨_, rfl⟩⟩, ⟨_, rfl⟩⟩, ⟨_, rfl⟩⟩
    exact fun pre before some_ => absurd (List.prefix_nil.mp before) some_
  have reloads : ReloadsAs Sample.tomllib
      ([Sample.openFile, Sample.longFile] ++ [Sample.openFile]) Sample.openData := by
    refine (reloadsAs_concat_iff rfl).mpr ⟨valid, fun f unmentioned => ?_⟩
    cases f <;> first | rfl | cases unmentioned
  exact (reload_eq_read_iff accepted Sample.read_open rfl rfl Sample.read_open).mpr reloads

/-- The next content leaves `unsafe_disable_auth` out, and authentication stays off. -/
theorem reload_eq_read_fails :
    ∃ fresh, read Sample.tomllib Sample.openFile = .ok Sample.opened ∧
      Sample.opened.listen.watcher = .running ∧
      read Sample.tomllib Sample.securedFile = .ok fresh ∧
      ([Sample.securedFile].foldl (Instance.wake Sample.tomllib) Sample.opened.listen).settings
        ≠ fresh.settings := by
  refine ⟨_, Sample.read_open, rfl, rfl, fun same => ?_⟩
  have here : some (Toml.bool true) = some (.bool false) := congrFun same .unsafeDisableAuth
  cases here

end StreamingPortal.Settings
