import Mathlib.Data.List.Induction
import StreamingPortal.Shared.Runs
import StreamingPortal.Shared.TtlCache

set_option autoImplicit false

/-!
# Calls that are answered from a cache

A call looks its key up. If it finds nothing it asks the source, and stores what it reads from the
reply. Calls do not wait for each other, so several may be asking for one key, and the cache may
be cleared while they do.
-/

namespace StreamingPortal.CachedCalls

variable {κ ν ρ : Type}

inductive Call (κ ν : Type)
  | asking (key : κ)
  | returned (key : κ) (value : ν)
  | failed

structure State (cache : TtlCache κ ν) where
  contents : cache.Contents
  now : Int
  calls : List (Call κ ν)

inductive Action (κ ρ : Type)
  | call (key : κ)
  | reply (p : Nat) (r : ρ)
  | clear
  | tick (time : Int)

section

variable (cache : TtlCache κ ν)
-- What a call makes of a reply, `none` where that raises.
variable (read : κ → ρ → Option ν)

def lookUp (s : State cache) (key : κ) : State cache :=
  match cache.get? s.contents s.now key with
  | some v =>
      { s with
        contents := cache.touch s.contents s.now key
        calls := s.calls ++ [.returned key v] }
  | none => { s with calls := s.calls ++ [.asking key] }

def receive (s : State cache) (p : Nat) (key : κ) (r : ρ) : State cache :=
  match read key r with
  | some v =>
      { s with
        contents := cache.store s.contents s.now key v
        calls := s.calls.set p (.returned key v) }
  -- Exceptions are not cached.
  | none => { s with calls := s.calls.set p .failed }

def step (s : State cache) : Action κ ρ → Option (State cache)
  | .call key => some (lookUp cache s key)
  | .reply p r =>
      match s.calls[p]? with
      | some (.asking key) => some (receive cache read s p key r)
      | _ => none
  | .clear => some { s with contents := cache.empty }
  -- The clock of the cache is monotonic.
  | .tick time => if s.now ≤ time then some { s with now := time } else none

def init (now : Int) : State cache := ⟨cache.empty, now, []⟩

end

/-! ## What has been stored -/

structure Stored (κ ν ρ : Type) where
  key : κ
  reply : ρ
  value : ν
  time : Int

inductive Event (κ ν ρ : Type)
  | stored (s : Stored κ ν ρ)
  | cleared

variable {cache : TtlCache κ ν} {read : κ → ρ → Option ν}

def observe (read : κ → ρ → Option ν) (s : State cache) : Action κ ρ → Option (Event κ ν ρ)
  | .reply p r =>
      match s.calls[p]? with
      | some (.asking key) => (read key r).map fun v => .stored ⟨key, r, v, s.now⟩
      | _ => none
  | .clear => some .cleared
  | .call _ | .tick _ => none

def eventsOf (cache : TtlCache κ ν) (read : κ → ρ → Option ν) (s : State cache)
    (acts : List (Action κ ρ)) : List (Event κ ν ρ) :=
  Runs.trace (step cache read) (observe read) s acts

variable [DecidableEq κ]

def Event.next (key : κ) (last : Option (Stored κ ν ρ)) : Event κ ν ρ → Option (Stored κ ν ρ)
  | .stored s => if s.key = key then some s else last
  | .cleared => none

/-- What was stored last under the key, since the cache was cleared last. -/
def lastStored (key : κ) (events : List (Event κ ν ρ)) : Option (Stored κ ν ρ) :=
  events.foldl (Event.next key) none

def Stored.fresh (ttl now : Int) (s : Stored κ ν ρ) : Bool := now < s.time + ttl

@[simp] theorem lastStored_append (key : κ) (events : List (Event κ ν ρ))
    (e : Option (Event κ ν ρ)) :
    lastStored key (events ++ e.toList) =
      e.elim (lastStored key events) (Event.next key (lastStored key events)) := by
  cases e <;> simp [lastStored]

theorem lastStored_cases {key : κ} {events : List (Event κ ν ρ)} {s : Stored κ ν ρ}
    (last : lastStored key events = some s) : .stored s ∈ events ∧ s.key = key := by
  induction events using List.reverseRecOn with
  | nil => contradiction
  | append_singleton events e ih =>
      have split := lastStored_append key events (some e)
      simp only [Option.toList_some, Option.elim_some] at split
      rw [split] at last
      cases e with
      | cleared => contradiction
      | stored s' =>
          simp only [Event.next] at last
          split at last
          next same =>
            obtain rfl := Option.some.inj last
            exact ⟨by simp, same⟩
          next =>
            obtain ⟨inside, same⟩ := ih last
            exact ⟨List.mem_append_left _ inside, same⟩

/-- Nothing that was stored before the cache was cleared. -/
def SinceCleared (events : List (Event κ ν ρ)) (s : Stored κ ν ρ) : Prop :=
  ∀ before after, events = before ++ .cleared :: after → .stored s ∈ after

theorem sinceCleared_of_lastStored {key : κ} {events : List (Event κ ν ρ)} {s : Stored κ ν ρ}
    (last : lastStored key events = some s) : SinceCleared events s := by
  rintro before after rfl
  rw [lastStored, List.foldl_append, List.foldl_cons] at last
  exact (lastStored_cases last).1

/-! ## What the cache holds -/

/-- What the cache holds from now on is what was stored last and has not expired. -/
structure Holds (read : κ → ρ → Option ν) (s : State cache) (events : List (Event κ ν ρ)) :
    Prop where
  sound : ∀ time key v, s.now ≤ time → cache.get? s.contents time key = some v →
    ∃ last, lastStored key events = some last ∧ last.value = v ∧
      last.fresh cache.ttl time = true
  -- Where there is one key only, nothing is evicted.
  complete : Subsingleton κ → ∀ time key last, s.now ≤ time →
    lastStored key events = some last → last.fresh cache.ttl time = true →
      cache.get? s.contents time key = some last.value
  past : ∀ stored, .stored stored ∈ events → stored.time ≤ s.now
  wasRead : ∀ stored, .stored stored ∈ events → read stored.key stored.reply = some stored.value

theorem holds_init (cache : TtlCache κ ν) (read : κ → ρ → Option ν) (now : Int) :
    Holds read (init cache now) [] where
  sound := by
    intro time key v _ found
    simp [init, cache.get?_empty] at found
  complete := by simp [lastStored]
  past := by simp
  wasRead := by simp

theorem holds_receive {s : State cache} {events : List (Event κ ν ρ)} (inv : Holds read s events)
    {p : Nat} {key : κ} {r : ρ} {v : ν} (readAs : read key r = some v) :
    Holds read (receive cache read s p key r)
      (events ++ [.stored ⟨key, r, v, s.now⟩]) := by
  have last (j : κ) : lastStored j (events ++ [.stored ⟨key, r, v, s.now⟩]) =
      if key = j then some ⟨key, r, v, s.now⟩ else lastStored j events := by
    simp [lastStored, Event.next]
  simp only [receive, readAs]
  constructor
  next =>
    intro time j w later found
    rw [last]
    by_cases same : key = j
    next =>
      subst same
      rw [cache.get?_store_self] at found
      split at found
      next live =>
        obtain rfl := Option.some.inj found
        exact ⟨_, if_pos rfl, rfl, by simpa [Stored.fresh] using live⟩
      next => contradiction
    next =>
      rw [if_neg same]
      exact inv.sound time j w later
        (cache.get?_store_ne s.contents s.now key v time j w (Ne.symm same) found)
  next =>
    intro single time j stored later found fresh
    obtain rfl : key = j := Subsingleton.elim key j
    rw [last, if_pos rfl] at found
    obtain rfl := Option.some.inj found
    have live : time < s.now + cache.ttl := by simpa [Stored.fresh] using fresh
    rw [cache.get?_store_self, if_pos live]
  next =>
    intro stored inside
    rcases List.mem_append.mp inside with before | now
    next => exact inv.past stored before
    next =>
      obtain rfl : stored = ⟨key, r, v, s.now⟩ := by simpa using now
      exact Int.le_refl _
  next =>
    intro stored inside
    rcases List.mem_append.mp inside with before | now
    next => exact inv.wasRead stored before
    next =>
      obtain rfl : stored = ⟨key, r, v, s.now⟩ := by simpa using now
      exact readAs

theorem holds_step {s t : State cache} {act : Action κ ρ} {events : List (Event κ ν ρ)}
    (inv : Holds read s events) (taken : step cache read s act = some t) :
    Holds read t (events ++ (observe read s act).toList) := by
  cases act with
  | call key =>
      obtain rfl := Option.some.inj taken
      simp only [observe, Option.toList_none, List.append_nil]
      unfold lookUp
      split
      next =>
        refine ⟨?_, ?_, inv.past, inv.wasRead⟩
        next =>
          intro time j w later found
          exact inv.sound time j w later (by rwa [cache.get?_touch] at found)
        next =>
          intro single time j last later found fresh
          rw [cache.get?_touch]
          exact inv.complete single time j last later found fresh
      next => exact ⟨inv.sound, inv.complete, inv.past, inv.wasRead⟩
  | reply p r =>
      simp only [step] at taken
      split at taken
      next key asking =>
        obtain rfl := Option.some.inj taken
        simp only [observe, asking]
        cases readAs : read key r with
        | some v => exact holds_receive inv readAs
        | none =>
            simp only [receive, readAs, Option.map_none, Option.toList_none, List.append_nil]
            exact ⟨inv.sound, inv.complete, inv.past, inv.wasRead⟩
      next => contradiction
  | clear =>
      obtain rfl := Option.some.inj taken
      have nothing (key : κ) : lastStored key (events ++ [.cleared]) = none := by
        simp [lastStored, Event.next]
      simp only [observe, Option.toList_some]
      constructor
      next =>
        intro time key v _ found
        simp [cache.get?_empty] at found
      next =>
        intro _ time key last _ found
        rw [nothing] at found
        contradiction
      next =>
        intro stored inside
        exact inv.past stored (by simpa using inside)
      next =>
        intro stored inside
        exact inv.wasRead stored (by simpa using inside)
  | tick time =>
      simp only [step] at taken
      split at taken
      next forward =>
        obtain rfl := Option.some.inj taken
        simp only [observe, Option.toList_none, List.append_nil]
        constructor
        next => exact fun later key v order => inv.sound later key v (Int.le_trans forward order)
        next =>
          exact fun single later key last order =>
            inv.complete single later key last (Int.le_trans forward order)
        next => exact fun stored inside => Int.le_trans (inv.past stored inside) forward
        next => exact inv.wasRead
      next => contradiction

theorem holds_run {now : Int} {acts : List (Action κ ρ)} {s : State cache}
    (reached : Runs.run (step cache read) (init cache now) acts = some s) :
    Holds read s (eventsOf cache read (init cache now) acts) :=
  Runs.invariant_trace (Holds read) (fun _ _ _ _ inv _ taken => holds_step inv taken)
    (holds_init cache read now) (Runs.along_trivial acts) reached

/-! ## What a call is answered -/

/-- What was stored last under the key, unless it has expired. -/
def freshStored (ttl now : Int) (key : κ) (events : List (Event κ ν ρ)) : Option (Stored κ ν ρ) :=
  (lastStored key events).filter (Stored.fresh ttl now)

theorem freshStored_cases {ttl now : Int} {key : κ} {events : List (Event κ ν ρ)}
    {last : Stored κ ν ρ} (fresh : freshStored ttl now key events = some last) :
    now < last.time + ttl ∧ .stored last ∈ events ∧ last.key = key ∧ SinceCleared events last := by
  obtain ⟨stored, young⟩ := Option.filter_eq_some_iff.mp fresh
  obtain ⟨inside, same⟩ := lastStored_cases stored
  exact ⟨by simpa [Stored.fresh] using young, inside, same, sinceCleared_of_lastStored stored⟩

omit [DecidableEq κ] in
theorem lookUp_calls (s : State cache) (key : κ) :
    (lookUp cache s key).calls =
      s.calls ++ [(cache.get? s.contents s.now key).elim (.asking key) (.returned key)] := by
  unfold lookUp
  split
  next found => simp [found]
  next missing => simp [missing]

theorem Holds.answer {s : State cache} {events : List (Event κ ν ρ)} (inv : Holds read s events)
    {key : κ} {v : ν} (found : cache.get? s.contents s.now key = some v) :
    ∃ last, freshStored cache.ttl s.now key events = some last ∧ last.value = v := by
  obtain ⟨last, stored, value, fresh⟩ := inv.sound s.now key v (Int.le_refl _) found
  exact ⟨last, Option.filter_eq_some_iff.mpr ⟨stored, fresh⟩, value⟩

theorem Holds.get?_single [Subsingleton κ] {s : State cache} {events : List (Event κ ν ρ)}
    (inv : Holds read s events) (key : κ) :
    cache.get? s.contents s.now key =
      (freshStored cache.ttl s.now key events).map Stored.value := by
  cases found : cache.get? s.contents s.now key with
  | some v =>
      obtain ⟨last, fresh, value⟩ := inv.answer found
      simp [fresh, value]
  | none =>
      cases kept : freshStored cache.ttl s.now key events with
      | none => rfl
      | some last =>
          obtain ⟨stored, fresh⟩ := Option.filter_eq_some_iff.mp kept
          have held := inv.complete inferInstance s.now key last (Int.le_refl _) stored fresh
          rw [found] at held
          contradiction

/-- What a stored value is, however long ago it was stored. -/
structure Stored.Of (read : κ → ρ → Option ν) (events : List (Event κ ν ρ)) (now : Int)
    (key : κ) (value : ν) (s : Stored κ ν ρ) : Prop where
  inside : .stored s ∈ events
  sameKey : s.key = key
  sameValue : s.value = value
  wasRead : read key s.reply = some value
  past : s.time ≤ now

theorem Holds.of_lastStored {s : State cache} {events : List (Event κ ν ρ)}
    (inv : Holds read s events) {key : κ} {last : Stored κ ν ρ}
    (stored : lastStored key events = some last) :
    last.Of read events s.now key last.value := by
  obtain ⟨inside, rfl⟩ := lastStored_cases stored
  exact ⟨inside, rfl, rfl, inv.wasRead last inside, inv.past last inside⟩

omit [DecidableEq κ] in
theorem Stored.Of.later {events : List (Event κ ν ρ)} {now later : Int} {key : κ} {value : ν}
    {s : Stored κ ν ρ} (of : s.Of read events now key value) (order : now ≤ later)
    (more : List (Event κ ν ρ)) : s.Of read (events ++ more) later key value :=
  ⟨List.mem_append_left _ of.inside, of.sameKey, of.sameValue, of.wasRead,
    Int.le_trans of.past order⟩

/-- Whatever a call has returned has been read from a reply for its own key. -/
def Traced (read : κ → ρ → Option ν) (s : State cache) (events : List (Event κ ν ρ)) : Prop :=
  ∀ (p : Nat) (key : κ) (v : ν), s.calls[p]? = some (.returned key v) →
    ∃ stored : Stored κ ν ρ, stored.Of read events s.now key v

omit [DecidableEq κ] in
theorem now_step {s t : State cache} {act : Action κ ρ} (taken : step cache read s act = some t) :
    s.now ≤ t.now := by
  cases act with
  | call key =>
      obtain rfl := Option.some.inj taken
      unfold lookUp
      split <;> exact Int.le_refl _
  | reply p r =>
      simp only [step] at taken
      split at taken
      next =>
        obtain rfl := Option.some.inj taken
        unfold receive
        split <;> exact Int.le_refl _
      next => contradiction
  | clear =>
      obtain rfl := Option.some.inj taken
      exact Int.le_refl _
  | tick time =>
      simp only [step] at taken
      split at taken
      next forward =>
        obtain rfl := Option.some.inj taken
        exact forward
      next => contradiction

theorem traced_step {s t : State cache} {act : Action κ ρ} {events : List (Event κ ν ρ)}
    (inv : Holds read s events) (traced : Traced read s events)
    (taken : step cache read s act = some t) :
    Traced read t (events ++ (observe read s act).toList) := by
  have forward := now_step taken
  -- What has been returned before stays traced.
  have before {p : Nat} {key : κ} {v : ν} (old : s.calls[p]? = some (.returned key v)) :
      ∃ stored : Stored κ ν ρ,
        stored.Of read (events ++ (observe read s act).toList) t.now key v := by
    obtain ⟨stored, of⟩ := traced p key v old
    exact ⟨stored, of.later forward _⟩
  intro p key v returned
  cases act with
  | call k =>
      obtain rfl := Option.some.inj taken
      rw [lookUp_calls, List.getElem?_append] at returned
      split at returned
      next => exact before returned
      next =>
        rw [List.getElem?_singleton] at returned
        split at returned
        next =>
          cases found : cache.get? s.contents s.now k with
          | none => simp [found] at returned
          | some w =>
              simp only [found, Option.elim_some, Option.some.injEq, Call.returned.injEq]
                at returned
              obtain ⟨rfl, rfl⟩ := returned
              obtain ⟨last, fresh, rfl⟩ := inv.answer found
              exact ⟨last, (inv.of_lastStored (Option.filter_eq_some_iff.mp fresh).1).later
                forward _⟩
        next => contradiction
  | reply q r =>
      simp only [step] at taken
      split at taken
      next k asking =>
        obtain rfl := Option.some.inj taken
        have shown : observe read s (.reply q r) =
            (read k r).map fun w => .stored ⟨k, r, w, s.now⟩ := by
          simp [observe, asking]
        cases readAs : read k r with
        | none =>
            simp only [receive, readAs, List.getElem?_set] at returned
            split at returned
            next => simp at returned
            next => exact before returned
        | some w =>
            have now : (receive cache read s q k r).now = s.now := by simp [receive, readAs]
            simp only [receive, readAs, List.getElem?_set] at returned
            split at returned
            next =>
              obtain ⟨-, rfl, rfl⟩ : q < s.calls.length ∧ k = key ∧ w = v := by simpa using returned
              refine ⟨⟨k, r, w, s.now⟩, ?_, rfl, rfl, readAs, Int.le_of_eq now.symm⟩
              simp [shown, readAs]
            next => exact before returned
      next => contradiction
  | clear =>
      obtain rfl := Option.some.inj taken
      exact before returned
  | tick time =>
      simp only [step] at taken
      split at taken
      next =>
        obtain rfl := Option.some.inj taken
        exact before returned
      next => contradiction

theorem traced_run {now : Int} {acts : List (Action κ ρ)} {s : State cache}
    (reached : Runs.run (step cache read) (init cache now) acts = some s) :
    Traced read s (eventsOf cache read (init cache now) acts) := by
  have both := Runs.invariant_trace (fun s events => Holds read s events ∧ Traced read s events)
    (fun _ _ _ _ inv _ taken => ⟨holds_step inv.1 taken, traced_step inv.1 inv.2 taken⟩)
    ⟨holds_init cache read now, by simp [Traced, init]⟩ (Runs.along_trivial acts) reached
  exact both.2

end StreamingPortal.CachedCalls
