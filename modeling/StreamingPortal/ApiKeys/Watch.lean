import StreamingPortal.ApiKeys.Model

set_option autoImplicit false

/-! # The accepted keys and the key file -/

namespace StreamingPortal.ApiKeys

open Settings (Toml Data Value Watcher)

structure Accepts (current : ApiKeys) (entries : List ApiKey) : Prop where
  keys : current.keys = entries
  valid : ∀ keyValue, (current.isValidKey keyValue).isSome = true ↔
    ∃ key ∈ entries, equals key.value keyValue = true

theorem accepts_iff {self : ApiKeys} {entries : List ApiKey} :
    Accepts self entries ↔ self.keys = entries := by
  constructor
  · exact Accepts.keys
  · rintro rfl
    exact ⟨rfl, self.isValidKey_isSome⟩

section

variable (loads : String → Option Data)

def Access.entries (seen : Access) : Option (List ApiKey) :=
  -- What the file holds, `none` if it could not be read.
  if seen.pathExists then
    seen.opened.map fun c => (c.read.map (entriesOf loads)).getD []
  else some []

/--
A poll that read a content leaves the well-formed entries of it accepted, in their
order, and one that found no file leaves none.
-/
def InSync (_ : ApiKeys) (q : Poll) (after : ApiKeys) : Prop :=
  ∀ entries, q.first.entries loads = some entries → Accepts after entries

/-- The poll at each point of a run leaves what it saw accepted. -/
def NeverDrifts (self : ApiKeys) (polls : List Poll) : Prop :=
  Runs.Along (poll loads) (InSync loads) self polls

/-- What was loaded at import is what the first read of the watcher remembers. -/
def StartAgrees (imported first : Access) : Prop :=
  ∀ content, first.initialContent = some content →
    loadKeys loads imported = some (entriesOf loads content)

/--
Where a poll has read a new content, `_load_keys` opens a file with the entries of
that content; a file that is no UTF-8 is met only while no key is accepted.
-/
def OpensAgree (self : ApiKeys) (q : Poll) (_ : ApiKeys) : Prop :=
  q.first.pathExists = true → ∀ c, q.first.opened = some c →
    match c.read with
    | none => self.keys = []
    | some content => content ≠ self.lastContent →
        (loadKeys loads q.again).getD self.keys = entriesOf loads content

def Remembers (self : ApiKeys) : Prop :=
  self.watcher = .running → self.keys = entriesOf loads self.lastContent

end

section

variable {loads : String → Option Data}

/-! ## All a poll can do -/

inductive PollStep (loads : String → Option Data) (self : ApiKeys) (q : Poll) : ApiKeys → Prop
  | removed (absent : q.first.pathExists = false) (remembered : self.lastContent ≠ "") :
      PollStep loads self q { self with keys := [], lastContent := "" }
  | stillAbsent (absent : q.first.pathExists = false)
      (remembered : self.lastContent = "") : PollStep loads self q self
  | unreadable (present : q.first.pathExists = true) (opened : q.first.opened = none) :
      PollStep loads self q self
  | undecodable (c : Content) (present : q.first.pathExists = true)
      (opened : q.first.opened = some c) (text : c.read = none) :
      PollStep loads self q { self with watcher := .failed }
  | unchanged (c : Content) (present : q.first.pathExists = true)
      (opened : q.first.opened = some c) (text : c.read = some self.lastContent) :
      PollStep loads self q self
  | reloadFailed (c : Content) (content : String)
      (present : q.first.pathExists = true) (opened : q.first.opened = some c)
      (text : c.read = some content) (changed : content ≠ self.lastContent)
      (failed : loadKeys loads q.again = none) :
      PollStep loads self q { self with watcher := .failed }
  | reloaded (c : Content) (content : String) (keys : List ApiKey)
      (present : q.first.pathExists = true) (opened : q.first.opened = some c)
      (text : c.read = some content) (changed : content ≠ self.lastContent)
      (loaded : loadKeys loads q.again = some keys) :
      PollStep loads self q { self with keys := keys, lastContent := content }

theorem poll_cases {self after : ApiKeys} {q : Poll} (taken : poll loads self q = some after) :
    self.watcher = .running ∧ PollStep loads self q after := by
  unfold poll at taken
  split at taken
  next => contradiction
  next => contradiction
  next running =>
    refine ⟨running, ?_⟩
    rw [Option.some.injEq] at taken
    split at taken
    next present =>
      split at taken
      next opened =>
        subst taken
        exact .unreadable present opened
      next c opened =>
        split at taken
        next text =>
          subst taken
          exact .undecodable c present opened text
        next content text =>
          split at taken
          next unchanged =>
            subst taken
            exact .unchanged c present opened (unchanged ▸ text)
          next changed =>
            split at taken
            next failed =>
              subst taken
              exact .reloadFailed c content present opened text changed failed
            next keys loaded =>
              subst taken
              exact .reloaded c content keys present opened text changed loaded
    next absent =>
      have absent : q.first.pathExists = false := by simpa using absent
      split at taken
      next remembered =>
        subst taken
        exact .removed absent remembered
      next forgotten =>
        subst taken
        exact .stillAbsent absent (not_not.mp forgotten)

/-! ## A run of polls -/

theorem entries_absent {seen : Access} (absent : seen.pathExists = false) :
    seen.entries loads = some [] := by
  simp [Access.entries, absent]

theorem entries_opened {seen : Access} {c : Content} (present : seen.pathExists = true)
    (opened : seen.opened = some c) :
    seen.entries loads = some ((c.read.map (entriesOf loads)).getD []) := by
  simp [Access.entries, present, opened]

theorem inSync_of_entries {self after : ApiKeys} {q : Poll} {entries : List ApiKey}
    (seen : q.first.entries loads = some entries) :
    InSync loads self q after ↔ after.keys = entries := by
  simp [InSync, seen, accepts_iff]

theorem opensAgree_of_opened {self after : ApiKeys} {q : Poll} {c : Content}
    (present : q.first.pathExists = true) (opened : q.first.opened = some c) :
    OpensAgree loads self q after ↔
      match c.read with
      | none => self.keys = []
      | some content => content ≠ self.lastContent →
          (loadKeys loads q.again).getD self.keys = entriesOf loads content := by
  simp [OpensAgree, present, opened]

theorem inSync_iff_opensAgree (emptyFile : loads "" = some ⟨[], List.nodup_nil⟩)
    {self after : ApiKeys} {q : Poll} (remembers : Remembers loads self)
    (taken : poll loads self q = some after) :
    InSync loads self q after ↔ OpensAgree loads self q after := by
  obtain ⟨running, poll⟩ := poll_cases taken
  have keys := remembers running
  have blank : entriesOf loads "" = [] := by simp [entriesOf, emptyFile, Data.keyEntries, Data.get?]
  cases poll with
  | removed absent =>
      simp [inSync_of_entries (entries_absent absent), OpensAgree, absent]
  | stillAbsent absent remembered =>
      rw [remembered, blank] at keys
      simp [inSync_of_entries (entries_absent absent), OpensAgree, absent, keys]
  | unreadable present opened =>
      simp [InSync, Access.entries, OpensAgree, present, opened]
  | undecodable c present opened text =>
      rw [inSync_of_entries (entries_opened present opened),
        opensAgree_of_opened present opened, text]
      rfl
  | unchanged c present opened text =>
      rw [inSync_of_entries (entries_opened present opened),
        opensAgree_of_opened present opened, text]
      simp [keys]
  | reloadFailed c content present opened text changed failed =>
      rw [inSync_of_entries (entries_opened present opened),
        opensAgree_of_opened present opened, text, failed]
      simp [changed]
  | reloaded c content keys present opened text changed loaded =>
      rw [inSync_of_entries (entries_opened present opened),
        opensAgree_of_opened present opened, text, loaded]
      simp [changed]

theorem remembers_poll (emptyFile : loads "" = some ⟨[], List.nodup_nil⟩) {self after : ApiKeys}
    {q : Poll} (remembers : Remembers loads self) (agrees : OpensAgree loads self q after)
    (taken : poll loads self q = some after) : Remembers loads after := by
  have sync := (inSync_iff_opensAgree emptyFile remembers taken).mpr agrees
  obtain ⟨running, poll⟩ := poll_cases taken
  cases poll with
  | removed => simp [Remembers, entriesOf, emptyFile, Data.keyEntries, Data.get?]
  | stillAbsent | unreadable | unchanged => exact remembers
  | undecodable | reloadFailed =>
      intro alive
      contradiction
  | reloaded c content keys present opened text =>
      intro _
      have seen : q.first.entries loads = some (entriesOf loads content) := by
        rw [entries_opened present opened, text]
        rfl
      exact (inSync_of_entries seen).mp sync

theorem remembers_listen {imported first : Access} {self : ApiKeys}
    (imports : read loads imported = some self) (agrees : StartAgrees loads imported first) :
    Remembers loads (self.listen first) := by
  obtain ⟨keys, loaded, rfl⟩ := Option.map_eq_some_iff.mp imports
  intro running
  cases start : first.initialContent with
  | none => simp [listen, start] at running
  | some content =>
      have same := agrees content start
      rw [loaded] at same
      simpa [listen, start] using Option.some.inj same

theorem initialContent_cases {first : Access} {content : String}
    (start : first.initialContent = some content) :
    content = "" ∨
      ∃ c, first.pathExists = true ∧ first.opened = some c ∧ c.read = some content := by
  unfold Access.initialContent at start
  split at start
  next present =>
    split at start
    next => exact Or.inl (Option.some.inj start).symm
    next c opened => exact Or.inr ⟨c, present, opened, start⟩
  next => exact Or.inl (Option.some.inj start).symm

theorem drifts_of_disagreeing (emptyFile : loads "" = some ⟨[], List.nodup_nil⟩)
    {imported first : Access} {self : ApiKeys} (imports : read loads imported = some self)
    (disagrees : ¬ StartAgrees loads imported first) :
    ∃ q, Runs.Along (poll loads) (OpensAgree loads) (self.listen first) [q] ∧
      ¬ NeverDrifts loads (self.listen first) [q] := by
  obtain ⟨keys, loaded, rfl⟩ := Option.map_eq_some_iff.mp imports
  simp only [StartAgrees, not_forall] at disagrees
  obtain ⟨content, start, other⟩ := disagrees
  rw [loaded, Option.some.injEq] at other
  have listening : listen ⟨keys, "", .absent⟩ first = ⟨keys, content, .running⟩ := by
    simp [listen, start]
  rw [listening]
  have found {q : Poll} {entries : List ApiKey}
      (stays : poll loads ⟨keys, content, .running⟩ q = some ⟨keys, content, .running⟩)
      (seen : q.first.entries loads = some entries) (differs : keys ≠ entries) :
      ¬ NeverDrifts loads ⟨keys, content, .running⟩ [q] :=
    fun never => differs ((inSync_of_entries seen).mp (never _ stays).1)
  rcases initialContent_cases start with rfl | ⟨c, present, opened, text⟩
  · -- Nothing is remembered, so a file that is gone is not noticed.
    refine ⟨⟨⟨false, none⟩, first⟩,
      fun _ _ => ⟨fun present => by simp at present, trivial⟩,
      found (by simp [poll]) (entries_absent rfl) ?_⟩
    simpa [entriesOf, emptyFile, Data.keyEntries, Data.get?] using other
  · refine ⟨⟨first, first⟩, fun _ _ => ⟨?_, trivial⟩,
      found (by simp [poll, present, opened, text]) (entries_opened present opened) ?_⟩
    · rw [opensAgree_of_opened present opened, text]
      exact fun changed => absurd rfl changed
    · simpa [text] using other

/--
If the import and the first read of the watcher agree, then in every run of polls the
accepted keys follow the file exactly when the two openings of each poll agree. If
they do not, a poll that sees no further change already leaves other keys accepted.
-/
theorem neverDrifts_iff (emptyFile : loads "" = some ⟨[], List.nodup_nil⟩)
    {imported first : Access} {self : ApiKeys} (imports : read loads imported = some self) :
    (StartAgrees loads imported first → ∀ polls,
      (NeverDrifts loads (self.listen first) polls ↔
        Runs.Along (poll loads) (OpensAgree loads) (self.listen first) polls)) ∧
      (¬ StartAgrees loads imported first →
        ∃ q, Runs.Along (poll loads) (OpensAgree loads) (self.listen first) [q] ∧
          ¬ NeverDrifts loads (self.listen first) [q]) := by
  refine ⟨fun agrees polls => ?_, drifts_of_disagreeing emptyFile imports⟩
  refine Runs.along_iff (Remembers loads) ?_ ?_ (remembers_listen imports agrees)
  · intro before q after remembers agree taken
    exact remembers_poll emptyFile remembers agree taken
  · intro before q after remembers taken
    exact inSync_iff_opensAgree emptyFile remembers taken

/-! ## How long the watcher lasts -/

variable (loads) in
/-- Whatever is read is text: the file as the poll finds it, and as a reload opens it again. -/
def Survives (self : ApiKeys) (q : Poll) (_ : ApiKeys) : Prop :=
  q.first.pathExists = true → ∀ c, q.first.opened = some c →
    ∃ content, c.read = some content ∧
      (content ≠ self.lastContent → (loadKeys loads q.again).isSome = true)

theorem survives_of_opened {self after : ApiKeys} {q : Poll} {c : Content}
    (present : q.first.pathExists = true) (opened : q.first.opened = some c) :
    Survives loads self q after ↔ ∃ content, c.read = some content ∧
      (content ≠ self.lastContent → (loadKeys loads q.again).isSome = true) := by
  simp [Survives, present, opened]

theorem running_poll_iff {self after : ApiKeys} {q : Poll}
    (taken : poll loads self q = some after) :
    after.watcher = .running ↔ Survives loads self q after := by
  obtain ⟨running, poll⟩ := poll_cases taken
  cases poll with
  | removed absent | stillAbsent absent => simp [Survives, absent, running]
  | unreadable present opened => simp [Survives, opened, running]
  | undecodable c present opened text => simp [survives_of_opened present opened, text]
  | unchanged c present opened text => simp [survives_of_opened present opened, text, running]
  | reloadFailed c content present opened text changed failed =>
      simp [survives_of_opened present opened, text, changed, failed]
  | reloaded c content keys present opened text changed loaded =>
      simp [survives_of_opened present opened, text, loaded, running]

variable (loads) in
theorem poll_of_running {self : ApiKeys} (running : self.watcher = .running) (q : Poll) :
    ∃ after, poll loads self q = some after := by
  simp only [poll, running]
  exact ⟨_, rfl⟩

theorem lasts_iff {self : ApiKeys} (running : self.watcher = .running) (polls : List Poll) :
    (∃ after, Runs.run (poll loads) self polls = some after ∧ after.watcher = .running) ↔
      Runs.Along (poll loads) (Survives loads) self polls := by
  induction polls generalizing self with
  | nil => exact ⟨fun _ => trivial, fun _ => ⟨self, rfl, running⟩⟩
  | cons q polls ih =>
      obtain ⟨mid, taken⟩ := poll_of_running loads running q
      constructor
      · rintro ⟨after, reached, alive⟩
        obtain ⟨mid', taken', rest⟩ := Runs.run_cons.mp reached
        obtain rfl := Option.some.inj (taken.symm.trans taken')
        have lasting : mid.watcher = .running := by
          cases polls with
          | nil =>
              obtain rfl := Option.some.inj rest
              exact alive
          | cons q' polls =>
              obtain ⟨_, next, -⟩ := Runs.run_cons.mp rest
              exact (poll_cases next).1
        exact Runs.Along.cons taken ((running_poll_iff taken).mp lasting)
          ((ih lasting).mp ⟨after, rest, alive⟩)
      · intro along
        obtain ⟨here, rest⟩ := along mid taken
        obtain ⟨after, reached, alive⟩ := (ih ((running_poll_iff taken).mpr here)).mpr rest
        exact ⟨after, Runs.run_cons.mpr ⟨mid, taken, reached⟩, alive⟩

/-- The watcher is still running after some polls exactly when its first look, before the loop, and
each of the polls has read text. -/
theorem survives_iff {imported first : Access} {self : ApiKeys}
    (imports : read loads imported = some self) (polls : List Poll) :
    (∃ after, Runs.run (poll loads) (self.listen first) polls = some after ∧
        after.watcher = .running) ↔
      first.initialContent.isSome = true ∧
        Runs.Along (poll loads) (Survives loads) (self.listen first) polls := by
  obtain ⟨keys, loaded, rfl⟩ := Option.map_eq_some_iff.mp imports
  cases start : first.initialContent with
  | some content =>
      have running : (listen ⟨keys, "", .absent⟩ first).watcher = .running := by
        simp [listen, start]
      simpa using lasts_iff running polls
  | none =>
      have dead : (listen ⟨keys, "", .absent⟩ first).watcher = .failed := by simp [listen, start]
      constructor
      · rintro ⟨after, reached, alive⟩
        cases polls with
        | nil =>
            obtain rfl := Option.some.inj reached
            rw [dead] at alive
            contradiction
        | cons q polls =>
            obtain ⟨mid, taken, -⟩ := Runs.run_cons.mp reached
            have running := (poll_cases taken).1
            rw [dead] at running
            contradiction
      · rintro ⟨⟨⟩, -⟩

end

/-! ## A file with one key -/

namespace Sample

def text : String := "[[keys]]\nname = \"key1\"\nvalue = \"value1\""

def loads (content : String) : Option Data :=
  if content = text then
    some ⟨[("keys", .array [.table [("name", .string "key1"), ("value", .string "value1")]])],
      List.nodup_singleton _⟩
  else if content = "" then some ⟨[], List.nodup_nil⟩
  else none

def file : Access := ⟨true, some (.text text)⟩

def removed : Access := ⟨false, none⟩

def imported : ApiKeys := ⟨[⟨.string "key1", .string "value1"⟩], "", .absent⟩

end Sample

theorem startAgrees_sample : StartAgrees Sample.loads Sample.file Sample.file := by
  intro content start
  obtain rfl : Sample.text = content := Option.some.inj start
  rfl

theorem neverDrifts_sample :
    NeverDrifts Sample.loads (Sample.imported.listen Sample.file)
      [⟨Sample.removed, Sample.removed⟩] := by
  have imports : read Sample.loads Sample.file = some Sample.imported := rfl
  have follows := (neverDrifts_iff rfl imports).1 startAgrees_sample
    [⟨Sample.removed, Sample.removed⟩]
  exact follows.mpr fun _ _ => ⟨fun present => by simp [Sample.removed] at present, trivial⟩

/--
The file is removed after the import and before the first read of the watcher, which
remembers nothing and so never notices: the removed key stays accepted.
-/
theorem neverDrifts_fails :
    ¬ NeverDrifts Sample.loads (Sample.imported.listen Sample.removed)
      [⟨Sample.removed, Sample.removed⟩] := by
  intro never
  have accepts := (never (Sample.imported.listen Sample.removed) rfl).1 [] rfl
  have kept : (Sample.imported.listen Sample.removed).keys = Sample.imported.keys := rfl
  rw [accepts.keys] at kept
  contradiction

end StreamingPortal.ApiKeys
