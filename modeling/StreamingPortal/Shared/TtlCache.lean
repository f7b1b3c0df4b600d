import Mathlib.Data.List.Perm.Basic
import StreamingPortal.Shared.Table

set_option autoImplicit false

/-!
# Caches whose entries expire

What a user of such a cache may rely on, and a cache of bounded size that evicts the least
recently used entry.
-/

namespace StreamingPortal

structure TtlCache (κ ν : Type) where
  Contents : Type
  ttl : Int
  empty : Contents
  get? : Contents → Int → κ → Option ν
  -- A lookup may change which entry is evicted next.
  touch : Contents → Int → κ → Contents
  store : Contents → Int → κ → ν → Contents
  get?_empty : ∀ now k, get? empty now k = none
  get?_touch : ∀ contents now k time j, get? (touch contents now k) time j = get? contents time j
  get?_store_self : ∀ contents now k v time,
    get? (store contents now k v) time k = if time < now + ttl then some v else none
  -- Other entries stay as they are or are evicted.
  get?_store_ne : ∀ contents now k v time j w, j ≠ k →
    get? (store contents now k v) time j = some w → get? contents time j = some w

namespace TtlCache

/-! ## The least recently used entry goes first -/

structure Entry (κ ν : Type) where
  key : κ
  value : ν
  expires : Int

-- The least recently used entry is the first one.
abbrev Entries (κ ν : Type) := Table κ (Entry κ ν) Entry.key

variable {κ ν : Type} [DecidableEq κ]

namespace Entries

def get? (entries : Entries κ ν) (now : Int) (k : κ) : Option ν :=
  ((Table.get? entries k).filter fun e => now < e.expires).map Entry.value

def touch (entries : Entries κ ν) (_now : Int) (k : κ) : Entries κ ν where
  rows := entries.rows.filter (fun e => decide (e.key ≠ k)) ++
    entries.rows.filter fun e => !decide (e.key ≠ k)
  keys_nodup :=
    ((List.filter_append_perm _ _).map Entry.key).nodup_iff.mpr entries.keys_nodup

-- The entries that stay when room is made for `k`: what has expired goes before the others.
def spare (maxsize : Nat) (entries : Entries κ ν) (now : Int) (k : κ) : List (Entry κ ν) :=
  let live := entries.rows.filter fun e => decide (now < e.expires ∧ e.key ≠ k)
  live.drop (live.length + 1 - maxsize)

theorem get?_eq_some {entries : Entries κ ν} {now : Int} {k : κ} {v : ν} :
    entries.get? now k = some v ↔
      ∃ e ∈ entries.rows, e.key = k ∧ now < e.expires ∧ e.value = v := by
  unfold get?
  simp only [Option.map_eq_some_iff, Option.filter_eq_some_iff, decide_eq_true_eq,
    Table.get?_eq_some_iff]
  constructor
  next =>
    rintro ⟨e, ⟨⟨stored, key⟩, live⟩, value⟩
    exact ⟨e, stored, key, live, value⟩
  next =>
    rintro ⟨e, stored, key, live, value⟩
    exact ⟨e, ⟨⟨stored, key⟩, live⟩, value⟩

theorem mem_spare {maxsize : Nat} {entries : Entries κ ν} {now : Int} {k : κ} {e : Entry κ ν}
    (kept : e ∈ spare maxsize entries now k) : e ∈ entries.rows ∧ e.key ≠ k := by
  have live := List.mem_of_mem_drop kept
  simp only [List.mem_filter, decide_eq_true_eq] at live
  exact ⟨live.1, live.2.2⟩

def store (maxsize : Nat) (ttl : Int) (entries : Entries κ ν) (now : Int) (k : κ) (v : ν) :
    Entries κ ν where
  rows := spare maxsize entries now k ++ [⟨k, v, now + ttl⟩]
  keys_nodup := by
    have sublist : (spare maxsize entries now k).Sublist entries.rows :=
      (List.drop_sublist _ _).trans List.filter_sublist
    rw [List.map_append, List.nodup_append]
    refine ⟨entries.keys_nodup.sublist (sublist.map Entry.key), by simp, ?_⟩
    intro key kept other last
    obtain ⟨e, inside, rfl⟩ := List.mem_map.mp kept
    obtain rfl : other = k := by simpa using last
    exact (mem_spare inside).2

theorem get?_touch (entries : Entries κ ν) (now : Int) (k : κ) (time : Int) (j : κ) :
    (entries.touch now k).get? time j = entries.get? time j := by
  have same (e : Entry κ ν) : e ∈ (entries.touch now k).rows ↔ e ∈ entries.rows :=
    (List.filter_append_perm _ _).mem_iff
  apply Option.ext
  intro v
  simp only [get?_eq_some, same]

theorem get?_store_self (maxsize : Nat) (ttl : Int) (entries : Entries κ ν) (now : Int) (k : κ)
    (v : ν) (time : Int) :
    (store maxsize ttl entries now k v).get? time k =
      if time < now + ttl then some v else none := by
  have last : Table.get? (store maxsize ttl entries now k v) k = some ⟨k, v, now + ttl⟩ :=
    Table.get?_eq_some_iff.mpr ⟨by simp [store], rfl⟩
  rw [get?, last]
  by_cases live : time < now + ttl <;> simp [Option.filter, live]

theorem get?_store_ne (maxsize : Nat) (ttl : Int) (entries : Entries κ ν) (now : Int) (k : κ)
    (v : ν) (time : Int) (j : κ) (w : ν) (other : j ≠ k)
    (found : (store maxsize ttl entries now k v).get? time j = some w) :
    entries.get? time j = some w := by
  obtain ⟨e, stored, key, live, value⟩ := get?_eq_some.mp found
  rcases List.mem_append.mp stored with kept | last
  next => exact get?_eq_some.mpr ⟨e, (mem_spare kept).1, key, live, value⟩
  next =>
    obtain rfl : e = ⟨k, v, now + ttl⟩ := by simpa using last
    exact absurd key.symm other

end Entries

/-- A cache of at most `maxsize` entries. -/
def lru (κ ν : Type) [DecidableEq κ] (maxsize : Nat) (ttl : Int) : TtlCache κ ν where
  Contents := Entries κ ν
  ttl := ttl
  empty := .empty
  get? := Entries.get?
  touch := Entries.touch
  store := Entries.store maxsize ttl
  get?_empty := fun _ _ => rfl
  get?_touch := Entries.get?_touch
  get?_store_self := Entries.get?_store_self maxsize ttl
  get?_store_ne := Entries.get?_store_ne maxsize ttl

end TtlCache

end StreamingPortal
