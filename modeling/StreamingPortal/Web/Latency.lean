import Mathlib.Algebra.Order.Ring.Rat
import Mathlib.Algebra.BigOperators.Group.List.Basic
import Mathlib.Data.List.Induction
import Mathlib.Order.Lattice
import StreamingPortal.Shared.SlidingWindow

set_option autoImplicit false

/-!
# The latency indicator

`useLatencyIndicator` keeps the losses of the last three minutes and the previous counter.
-/

namespace StreamingPortal.Web.Latency

open StreamingPortal.SlidingWindow

-- Milliseconds.
def packetLossWindow : Int := 3 * 60 * 1000

/-- What `data.stats` of a `StatsEvent` is read for. -/
structure StreamStats where
  rtd : Rat
  packetLoss : Int
deriving DecidableEq

structure StatsEvent where
  stats : Option StreamStats
deriving DecidableEq

structure LatencyStats where
  rtd : Rat
  packetLoss : Int
  recentPacketLoss : Int
deriving DecidableEq

structure PacketLossSample where
  time : Int
  lost : Int
deriving DecidableEq

def emptyStats : LatencyStats := ⟨0, 0, 0⟩

/-- The state and the two references of the hook. -/
structure Indicator where
  stats : LatencyStats
  samples : List PacketLossSample
  lastPacketLoss : Option Int
deriving DecidableEq

def lostSinceLast (previous : Option Int) (packetLoss : Int) : Int :=
  match previous with
  | none => 0
  | some previous => max 0 (packetLoss - previous)

def recordStats (s : Indicator) (now : Int) (event : StatsEvent) : Indicator :=
  match event.stats with
  | none => s
  | some next =>
      let lost := lostSinceLast s.lastPacketLoss next.packetLoss
      let samples := shiftOld PacketLossSample.time (now - packetLossWindow)
        (s.samples ++ [⟨now, lost⟩])
      let recentPacketLoss := samples.foldl (fun total sample => total + sample.lost) 0
      { stats :=
          if s.stats.rtd = next.rtd ∧ s.stats.packetLoss = next.packetLoss ∧
              s.stats.recentPacketLoss = recentPacketLoss then s.stats
          else ⟨next.rtd, next.packetLoss, recentPacketLoss⟩
        samples := samples
        lastPacketLoss := some next.packetLoss }

def resetStats (_ : Indicator) : Indicator := ⟨emptyStats, [], none⟩

-- The calls of `recordStats`, each with its `Date.now()`.
def recordAll (s : Indicator) (events : List (Int × StatsEvent)) : Indicator :=
  events.foldl (fun s event => recordStats s event.1 event.2) s

/-! ## What the indicator is to show -/

/-- An event with stats. -/
structure Measurement where
  time : Int
  packetLoss : Int
deriving DecidableEq

def measured (event : Int × StatsEvent) : Option Measurement :=
  event.2.stats.map fun stats => ⟨event.1, stats.packetLoss⟩

-- What each measurement has lost since the one before it.
def losses (previous : Option Int) : List Measurement → List PacketLossSample
  | [] => []
  | m :: rest =>
      ⟨m.time, lostSinceLast previous m.packetLoss⟩ :: losses (some m.packetLoss) rest

def total (samples : List PacketLossSample) : Int := (samples.map PacketLossSample.lost).sum

-- The last measurement older than the window, or the first one.
def baseline (now : Int) (history : List Measurement) (last : Measurement) : Measurement :=
  ((history.filter fun m => m.time < now - packetLossWindow).getLast?).getD
    (history.headD last)

/-- `shown` is what the last three minutes have lost by the measurement `last`. -/
structure Exact (shown : Int) (history : List Measurement) (last : Measurement) : Prop where
  sum : shown =
    total (recent PacketLossSample.time (last.time - packetLossWindow)
      (losses none (history ++ [last])))
  difference : (history ++ [last]).Pairwise (fun m n => m.packetLoss ≤ n.packetLoss) →
    shown = last.packetLoss - (baseline last.time history last).packetLoss
  bounded : (history ++ [last]).Pairwise (fun m n => m.packetLoss ≤ n.packetLoss) →
    shown ≤ last.packetLoss - (history.headD last).packetLoss

/-! ## The queue against the history -/

-- The counter that the next measurement is compared with.
def lastCounter (previous : Option Int) (history : List Measurement) : Option Int :=
  history.foldl (fun _ m => some m.packetLoss) previous

theorem losses_append (previous : Option Int) (before after : List Measurement) :
    losses previous (before ++ after) =
      losses previous before ++ losses (lastCounter previous before) after := by
  induction before generalizing previous with
  | nil => rfl
  | cons m rest ih => simp [losses, lastCounter, ih]

theorem losses_times (previous : Option Int) (history : List Measurement) :
    (losses previous history).map PacketLossSample.time = history.map Measurement.time := by
  induction history generalizing previous with
  | nil => rfl
  | cons m rest ih => simp [losses, ih]

theorem losses_inOrder {previous : Option Int} {history : List Measurement}
    (ordered : InOrder Measurement.time history) :
    InOrder PacketLossSample.time (losses previous history) := by
  have times := List.pairwise_map.mpr ordered
  rw [← losses_times previous history] at times
  exact List.pairwise_map.mp times

/-- The references of the hook: every later window finds the same losses in them as in the history
since the last reset. -/
structure Tracks (s : Indicator) (history : List Measurement) : Prop where
  counter : s.lastPacketLoss = lastCounter none history
  ordered : InOrder PacketLossSample.time s.samples
  earlier : ∀ x ∈ s.samples, ∃ m ∈ history, x.time = m.time
  samples : ∀ start, (∀ m ∈ history, m.time - packetLossWindow ≤ start) →
    recent PacketLossSample.time start s.samples =
      recent PacketLossSample.time start (losses none history)

theorem tracks_reset (s : Indicator) : Tracks (resetStats s) [] where
  counter := rfl
  ordered := List.Pairwise.nil
  earlier := by simp [resetStats]
  samples := fun _ _ => rfl

theorem total_eq_foldl (samples : List PacketLossSample) :
    samples.foldl (fun total sample => total + sample.lost) 0 = total samples := by
  rw [total, List.sum_eq_foldl, List.foldl_map]

-- The update of the state ends with the values just computed, whichever branch it takes.
theorem recordStats_shown (s : Indicator) (now : Int) (next : StreamStats) :
    (recordStats s now ⟨some next⟩).stats.recentPacketLoss =
      total (recordStats s now ⟨some next⟩).samples := by
  rw [← total_eq_foldl]
  simp only [recordStats]
  split
  next same => exact same.2.2
  next => rfl

section Record

variable {s : Indicator} {history : List Measurement} (tracks : Tracks s history) {now : Int}
variable (later : ∀ m ∈ history, m.time ≤ now) (next : StreamStats)

include tracks later

theorem recordStats_samples : (recordStats s now ⟨some next⟩).samples =
    recent PacketLossSample.time (now - packetLossWindow)
      (losses none (history ++ [⟨now, next.packetLoss⟩])) := by
  have ordered : InOrder PacketLossSample.time
      (s.samples ++ [⟨now, lostSinceLast s.lastPacketLoss next.packetLoss⟩]) := by
    refine List.pairwise_append.mpr ⟨tracks.ordered, List.pairwise_singleton _ _, ?_⟩
    intro x inside y last
    obtain ⟨m, member, same⟩ := tracks.earlier x inside
    rw [List.mem_singleton.mp last, same]
    exact later m member
  have window : ∀ m ∈ history, m.time - packetLossWindow ≤ now - packetLossWindow :=
    fun m member => Int.sub_le_sub_right (later m member) _
  have before := tracks.samples (now - packetLossWindow) window
  simp only [recordStats]
  rw [shiftOld_eq_recent ordered, losses_append, ← tracks.counter]
  unfold recent at before ⊢
  rw [List.filter_append, List.filter_append, before]
  rfl

theorem Tracks.recorded (inOrder : InOrder Measurement.time history) :
    Tracks (recordStats s now ⟨some next⟩) (history ++ [⟨now, next.packetLoss⟩]) := by
  have samples := recordStats_samples tracks later next
  have inOrder' : InOrder Measurement.time (history ++ [⟨now, next.packetLoss⟩]) := by
    refine List.pairwise_append.mpr ⟨inOrder, List.pairwise_singleton _ _, ?_⟩
    intro m member n last
    rw [List.mem_singleton.mp last]
    exact later m member
  constructor
  next => simp [recordStats, lastCounter]
  next =>
    rw [samples]
    exact (losses_inOrder inOrder').recent
  next =>
    intro x inside
    rw [samples] at inside
    have time := List.mem_map_of_mem (f := PacketLossSample.time) (List.mem_filter.mp inside).1
    rw [losses_times] at time
    obtain ⟨m, member, same⟩ := List.mem_map.mp time
    exact ⟨m, member, same.symm⟩
  next =>
    intro start window
    rw [samples, recent_recent]
    exact window _ (List.mem_append_right _ List.mem_cons_self)

end Record

theorem recordAll_concat (s : Indicator) (events : List (Int × StatsEvent))
    (event : Int × StatsEvent) :
    recordAll s (events ++ [event]) = recordStats (recordAll s events) event.1 event.2 := by
  simp [recordAll]

theorem measured_time {event : Int × StatsEvent} {m : Measurement}
    (found : measured event = some m) : m.time = event.1 := by
  obtain ⟨stats, _, rfl⟩ := Option.map_eq_some_iff.mp found
  rfl

theorem tracks_recordAll (s : Indicator) {events : List (Int × StatsEvent)}
    (ordered : InOrder Prod.fst events) :
    Tracks (recordAll (resetStats s) events) (events.filterMap measured) ∧
      InOrder Measurement.time (events.filterMap measured) := by
  have inOrder : InOrder Measurement.time (events.filterMap measured) := by
    refine List.Pairwise.filterMap measured ?_ ordered
    intro x y less m first n second
    rw [measured_time first, measured_time second]
    exact less
  refine ⟨?_, inOrder⟩
  induction events using List.reverseRecOn with
  | nil => exact tracks_reset s
  | append_singleton events event ih =>
      have parts := List.pairwise_append.mp ordered
      rw [List.filterMap_append] at inOrder ⊢
      have before := ih parts.1 (List.pairwise_append.mp inOrder).1
      rw [recordAll_concat]
      cases stats : event.2.stats with
      | none =>
          -- A call without stats returns at once.
          have none : measured event = none := by simp [measured, stats]
          have same : recordStats (recordAll (resetStats s) events) event.1 event.2 =
              recordAll (resetStats s) events := by simp [recordStats, stats]
          rw [same, List.filterMap_cons_none none, List.filterMap_nil, List.append_nil]
          exact before
      | some next =>
          have here : measured event = some ⟨event.1, next.packetLoss⟩ := by
            simp [measured, stats]
          have later : ∀ m ∈ events.filterMap measured, m.time ≤ event.1 := by
            intro m member
            obtain ⟨other, inside, found⟩ := List.mem_filterMap.mp member
            rw [measured_time found]
            exact parts.2.2 other inside event List.mem_cons_self
          have recorded := before.recorded later next (List.pairwise_append.mp inOrder).1
          rw [List.filterMap_cons_some here, List.filterMap_nil]
          have shape : event.2 = ⟨some next⟩ := by rw [← stats]
          rw [shape]
          exact recorded

/-! ## Counters that never decrease -/

theorem total_losses {previous : Int} {history : List Measurement}
    (growing : (previous :: history.map Measurement.packetLoss).Pairwise (· ≤ ·)) :
    total (losses (some previous) history) =
      ((history.map Measurement.packetLoss).getLast?).getD previous - previous := by
  induction history generalizing previous with
  | nil => simp [losses, total]
  | cons m rest ih =>
      have later := List.pairwise_cons.mp growing
      have step : previous ≤ m.packetLoss := later.1 _ List.mem_cons_self
      have lost : lostSinceLast (some previous) m.packetLoss = m.packetLoss - previous :=
        max_eq_right (Int.sub_nonneg_of_le step)
      have first : total (losses (some previous) (m :: rest)) =
          (m.packetLoss - previous) + total (losses (some m.packetLoss) rest) := by
        simp [losses, total, lost]
      rw [first, ih later.2, List.map_cons, List.getLast?_cons, Option.getD_some]
      omega

section Growing

variable {history : List Measurement} {last : Measurement}
variable (growing : (history ++ [last]).Pairwise fun m n => m.packetLoss ≤ n.packetLoss)

include growing

-- From a measurement on, the losses are the difference of the counters.
theorem total_since {old rest : List Measurement} {base : Measurement}
    (split : history ++ [last] = old ++ base :: rest) (more : rest ≠ []) :
    total (losses (some base.packetLoss) rest) = last.packetLoss - base.packetLoss := by
  rw [split] at growing
  have counters := List.pairwise_map.mpr (List.pairwise_append.mp growing).2.1
  rw [List.map_cons] at counters
  rw [total_losses counters]
  obtain ⟨front, final, rfl⟩ := (List.eq_nil_or_concat' rest).resolve_left more
  have ends : last = final := by
    rw [← List.cons_append, ← List.append_assoc] at split
    exact List.singleton_injective (List.append_inj_right' split rfl)
  simp [ends]

theorem first_le {m : Measurement} (member : m ∈ history ++ [last]) :
    (history.headD last).packetLoss ≤ m.packetLoss := by
  cases history with
  | nil =>
      rw [List.nil_append, List.mem_singleton] at member
      exact member ▸ Int.le_refl _
  | cons first rest =>
      cases List.mem_cons.mp member with
      | inl same => exact same ▸ Int.le_refl _
      | inr later => exact (List.pairwise_cons.mp growing).1 m later

end Growing

theorem baseline_mem (now : Int) (history : List Measurement) (last : Measurement) :
    baseline now history last ∈ history ++ [last] := by
  unfold baseline
  cases old : (history.filter fun m => m.time < now - packetLossWindow).getLast? with
  | some m =>
      have member := List.mem_of_getLast? old
      exact List.mem_append_left _ (List.mem_filter.mp member).1
  | none => cases history <;> simp

section Window

variable {history : List Measurement} {last : Measurement}
variable (ordered : InOrder Measurement.time (history ++ [last]))

-- The losses in the window are those of the measurements in it.
theorem recent_losses {old rest : List Measurement} {start : Int}
    (before : ∀ m ∈ old, m.time < start) (inside : ∀ m ∈ rest, start ≤ m.time) :
    recent PacketLossSample.time start (losses none (old ++ rest)) =
      losses (lastCounter none old) rest := by
  have times (previous : Option Int) (part : List Measurement) (x : PacketLossSample)
      (member : x ∈ losses previous part) : ∃ m ∈ part, m.time = x.time := by
    have time := List.mem_map_of_mem (f := PacketLossSample.time) member
    rw [losses_times] at time
    exact List.mem_map.mp time
  unfold recent
  rw [losses_append, List.filter_append, List.filter_eq_nil_iff.mpr, List.filter_eq_self.mpr,
    List.nil_append]
  next =>
    intro x member
    obtain ⟨m, own, same⟩ := times _ rest x member
    rw [← same, decide_eq_true_eq]
    exact inside m own
  next =>
    intro x member
    obtain ⟨m, own, same⟩ := times _ old x member
    rw [← same, decide_eq_true_eq]
    exact Int.not_le.mpr (before m own)

include ordered

theorem total_recent
    (growing : (history ++ [last]).Pairwise fun m n => m.packetLoss ≤ n.packetLoss) :
    total (recent PacketLossSample.time (last.time - packetLossWindow)
      (losses none (history ++ [last]))) =
      last.packetLoss - (baseline last.time history last).packetLoss := by
  generalize window : last.time - packetLossWindow = start
  have here : start ≤ last.time := by
    rw [← window, packetLossWindow]
    omega
  obtain ⟨old, split, before⟩ := split_recent ordered start
  have inside : ∀ m ∈ recent Measurement.time start (history ++ [last]), start ≤ m.time := by
    intro m member
    simpa using (List.mem_filter.mp member).2
  have kept : last ∈ recent Measurement.time start (history ++ [last]) := by
    simp [recent, here]
  generalize recent Measurement.time start (history ++ [last]) = rest at split inside kept
  have filtered : history.filter (fun m => m.time < start) = old := by
    have parts := congrArg (List.filter fun m => decide (m.time < start)) split
    have early : old.filter (fun m => m.time < start) = old :=
      List.filter_eq_self.mpr (by simpa using before)
    have late : rest.filter (fun m => m.time < start) = [] :=
      List.filter_eq_nil_iff.mpr (by simpa using inside)
    have out : ¬ last.time < start := Int.not_lt.mpr here
    rw [List.filter_append, List.filter_append, early, late] at parts
    simpa [out] using parts
  rw [baseline, window, filtered]
  have shape := recent_losses before inside
  rw [← split] at shape
  rw [shape]
  obtain rfl | ⟨front, base, rfl⟩ := List.eq_nil_or_concat' old
  next =>
    rw [List.nil_append] at split
    subst split
    cases history with
    | nil => simp [losses, lastCounter, lostSinceLast, total]
    | cons first more =>
        have since : total (losses (some first.packetLoss) (more ++ [last])) =
            last.packetLoss - first.packetLoss :=
          total_since growing (List.nil_append _).symm (by simp)
        simpa [losses, lastCounter, lostSinceLast, total] using since
  next =>
    rw [List.append_assoc, List.singleton_append] at split
    have since := total_since growing split (List.ne_nil_of_mem kept)
    simpa [lastCounter] using since

end Window

/-- After each call, the indicator shows the losses of the last three minutes. -/
theorem recentPacketLoss_exact (s : Indicator) (events : List (Int × StatsEvent)) (now : Int)
    (stats : StreamStats) (ordered : InOrder Prod.fst (events ++ [(now, ⟨some stats⟩)])) :
    Exact (recordAll (resetStats s) (events ++ [(now, ⟨some stats⟩)])).stats.recentPacketLoss
      (events.filterMap measured) ⟨now, stats.packetLoss⟩ := by
  have parts := List.pairwise_append.mp ordered
  obtain ⟨tracks, inOrder⟩ := tracks_recordAll s parts.1
  have later : ∀ m ∈ events.filterMap measured, m.time ≤ now := by
    intro m member
    obtain ⟨other, inside, found⟩ := List.mem_filterMap.mp member
    rw [measured_time found]
    exact parts.2.2 other inside _ List.mem_cons_self
  have inOrder' : InOrder Measurement.time
      (events.filterMap measured ++ [⟨now, stats.packetLoss⟩]) := by
    refine List.pairwise_append.mpr ⟨inOrder, List.pairwise_singleton _ _, ?_⟩
    intro m member n final
    rw [List.mem_singleton.mp final]
    exact later m member
  rw [recordAll_concat, recordStats_shown, recordStats_samples tracks later stats]
  constructor
  next => rfl
  next => exact fun growing => total_recent inOrder' growing
  next =>
    intro growing
    have first := first_le growing (baseline_mem now _ _)
    have difference := total_recent inOrder' growing
    exact difference ▸ Int.sub_le_sub_left first _

-- The counter starts again after the second call, which is too old for the window of the last one.
def session : List (Int × StatsEvent) :=
  [(0, ⟨some ⟨20, 7⟩⟩), (60000, ⟨some ⟨25, 9⟩⟩), (120000, ⟨none⟩), (180000, ⟨some ⟨20, 1⟩⟩)]

theorem recentPacketLoss_exact_session :
    Exact (recordAll (resetStats ⟨emptyStats, [], none⟩)
        (session ++ [(241000, ⟨some ⟨20, 4⟩⟩)])).stats.recentPacketLoss
      (session.filterMap measured) ⟨241000, 4⟩ :=
  recentPacketLoss_exact ⟨emptyStats, [], none⟩ session 241000 ⟨20, 4⟩ (by simp [InOrder, session])

example : (recordAll (resetStats ⟨emptyStats, [], none⟩)
    (session ++ [(241000, ⟨some ⟨20, 4⟩⟩)])).stats.recentPacketLoss = 3 := by decide

end StreamingPortal.Web.Latency
