import Mathlib.Data.Fintype.Option
import Mathlib.Order.Defs.LinearOrder
import StreamingPortal.Shared.OrderedMap

set_option autoImplicit false

/-!
# What a point cloud extension keeps in the browser

The extension has values stored in the local storage, each until a time of its own, and asks for
them later. The items are shared by all tabs of the portal; a message is handled to its end before
another one is. Left out are the failures of the local storage itself, as when it is full.
-/

namespace StreamingPortal.Web.PointCloud

variable {V τ : Type}

/-- What the checks can tell of a value that has come as JSON. -/
inductive Shape (V τ : Type)
  | string (text : String)
  -- No `NaN`, which no JSON text stands for.
  | number (n : τ)
  -- Any object but `null`; an array has none of the fields that are asked for.
  | object (fields : List (String × V))
  | other

structure Codec (V τ : Type) where
  shape : V → Shape V τ
  null : V
  finite : τ → Bool
  -- What becomes of a value that is written and read again: infinite numbers in it are `null`.
  kept : V → V
  -- Of `{ value, expiration_time }`.
  stringify : V → τ → String
  -- `none` for the `SyntaxError`.
  parse : String → Option V
  parse_stringify : ∀ value expirationTime, ∃ data time fields,
    parse (stringify value expirationTime) = some data ∧ shape data = .object fields ∧
      fields.lookup "value" = some (kept value) ∧
      fields.lookup "expiration_time" = some time ∧
      shape time = if finite expirationTime then .number expirationTime else .other

namespace Codec

variable (c : Codec V τ)

-- `typeof value === "object" && value !== null && name in value`, and what it has there.
def field (value : V) (name : String) : Option V :=
  match c.shape value with
  | .object fields => fields.lookup name
  | _ => none

def string (value : V) : Option String :=
  match c.shape value with
  | .string text => some text
  | _ => none

def number (value : V) : Option τ :=
  match c.shape value with
  | .number n => some n
  | _ => none

end Codec

section Checks

variable (c : Codec V τ)

/-! Each check gives the fields that it has looked at, and `none` where it fails. -/

def isPotree2Message (message : V) : Option (String × V) := do
  let eventType ← c.field message "event_type"
  let payload ← c.field message "payload"
  return (← c.string eventType, payload)

def isPotree2OpenUrlPayload (payload : V) : Option String := do
  c.string (← c.field payload "url")

def isPotree2StoreDataPayload (payload : V) : Option (String × V × τ) := do
  let key ← c.field payload "key"
  let value ← c.field payload "value"
  let expirationTime ← c.field payload "expiration_time"
  return (← c.string key, value, ← c.number expirationTime)

def isPotree2GetDataPayload (payload : V) : Option String := do
  c.string (← c.field payload "key")

end Checks

abbrev Storage := OrderedMap String String

def potree2StoragePrefix : String := "omni.pointcloud.potree2:"

def startsWith (key start : String) : Bool := decide (start.toList <+: key.toList)

def itemKey (key : String) : String := potree2StoragePrefix ++ key

/-- What is sent back to the streamed application. -/
inductive Answer (V : Type)
  | result (fine : Bool)
  | data (key : String) (value : V)
deriving DecidableEq

inductive Effect (V : Type)
  | opened (url : String)
  | sent (eventType : String) (payload : Answer V)
  -- To `callbacks.current.onCustomEvent`.
  | passedOn (message : V)
  | raised
deriving DecidableEq

/-- A message, with the clock as it is read for each item, and for the answer. -/
structure Received (V τ : Type) where
  message : V
  clock : String → τ
  now : τ

section Handler

variable [LE τ] [DecidableLE τ] (c : Codec V τ)

def expired (data : V) (now : τ) : Bool :=
  ((c.field data "expiration_time").bind c.number).any fun expirationTime =>
    decide (expirationTime ≤ now)

-- The loop; the clock is read for each key, and `true` tells that an item could not be parsed.
def expireItems (clearAll : Bool) (clock : String → τ) : List String → Storage → Storage × Bool
  | [], storage => (storage, false)
  | key :: keys, storage =>
      if clearAll then expireItems clearAll clock keys (storage.erase key)
      else
        match storage.get? key with
        | none => expireItems clearAll clock keys storage
        | some text =>
            match c.parse text with
            | none => (storage, true)
            | some data =>
                expireItems clearAll clock keys
                  (if expired c data (clock key) then storage.erase key else storage)

def expirePotree2Storage (clearAll : Bool) (clock : String → τ) (storage : Storage) :
    Storage × Bool :=
  expireItems c clearAll clock
    (storage.keys.filter fun key => startsWith key potree2StoragePrefix) storage

def openUrl (storage : Storage) (payload : V) : Storage × List (Effect V) :=
  (storage, ((isPotree2OpenUrlPayload c payload).map Effect.opened).toList)

def storeData (storage : Storage) (payload : V) : Storage × List (Effect V) :=
  match isPotree2StoreDataPayload c payload with
  | none => (storage, [])
  | some (key, value, expirationTime) =>
      if key = "" then (storage, [])
      else (storage.set (itemKey key) (c.stringify value expirationTime), [])

-- The value under a key, `null` where there is no valid item; no value when it cannot be parsed.
def lookUp (storage : Storage) (key : String) (now : τ) : Storage × Option V :=
  match storage.get? (itemKey key) with
  | none => (storage, some c.null)
  | some text =>
      match c.parse text with
      | none => (storage, none)
      | some data =>
          match c.field data "value" with
          | none => (storage, some c.null)
          | some value =>
              if expired c data now then (storage.erase (itemKey key), some c.null)
              else (storage, some value)

def getData (storage : Storage) (eventType : String) (payload : V) (clock : String → τ)
    (now : τ) : Storage × List (Effect V) :=
  let (storage, raised) := expirePotree2Storage c false clock storage
  if raised then (storage, [.raised])
  else
    match isPotree2GetDataPayload c payload with
    | none => (storage, [])
    | some key =>
        if key = "" then (storage, [])
        else
          let (storage, value) := lookUp c storage key now
          match value with
          | none => (storage, [.raised])
          | some value => (storage, [.sent (eventType ++ "_result") (.data key value)])

-- `none` for `false`.
def handlePotree2Event (storage : Storage) (r : Received V τ) :
    Option (Storage × List (Effect V)) :=
  match isPotree2Message c r.message with
  | none => none
  | some (eventType, payload) =>
      if eventType = "omni.pointcloud.potree2@open_url" then some (openUrl c storage payload)
      else if eventType = "omni.pointcloud.potree2@ping" then
        some (storage, [.sent (eventType ++ "_result") (.result true)])
      else if eventType = "omni.pointcloud.potree2@store_data" then
        some (storeData c storage payload)
      else if eventType = "omni.pointcloud.potree2@get_data" then
        some (getData c storage eventType payload r.clock r.now)
      else none

def onCustomEvent (storage : Storage) (r : Received V τ) : Storage × List (Effect V) :=
  (handlePotree2Event c storage r).getD (storage, [.passedOn r.message])

/-- The storage after some messages, and all that they have had done. -/
def handle : Storage → List (Received V τ) → Storage × List (Effect V)
  | storage, [] => (storage, [])
  | storage, r :: received =>
      let (storage, effects) := onCustomEvent c storage r
      let (storage, later) := handle storage received
      (storage, effects ++ later)

end Handler

/-! ## A memory that forgets -/

/-- What a message of the extension is for. -/
inductive Event (V τ : Type)
  | opens (url : String)
  | pings
  | stores (key : String) (value : V) (expirationTime : τ)
  | asks (key : String)
  -- It names no key, or lacks what it should have.
  | nothing

/-- What has been stored last under each key, and until when. -/
abbrev Memory (V τ : Type) := String → Option (V × τ)

section Memory

variable (c : Codec V τ)

def named (key : String) (event : Event V τ) : Event V τ := if key = "" then .nothing else event

/-- `none` for the messages of others. -/
def eventOf (message : V) : Option (Event V τ) := do
  let (eventType, payload) ← isPotree2Message c message
  if eventType = "omni.pointcloud.potree2@open_url" then
    some ((isPotree2OpenUrlPayload c payload).elim .nothing .opens)
  else if eventType = "omni.pointcloud.potree2@ping" then some .pings
  else if eventType = "omni.pointcloud.potree2@store_data" then
    some ((isPotree2StoreDataPayload c payload).elim .nothing fun (key, value, expirationTime) =>
      named key (.stores key value expirationTime))
  else if eventType = "omni.pointcloud.potree2@get_data" then
    some ((isPotree2GetDataPayload c payload).elim .nothing fun key => named key (.asks key))
  else none

variable [LE τ] [DecidableLE τ]

-- Without a finite time a value is kept for ever.
def old (now : τ) (entry : V × τ) : Bool := c.finite entry.2 && decide (entry.2 ≤ now)

def Memory.recall (memory : Memory V τ) (key : String) (now : τ) : V :=
  match memory key with
  | some entry => if old c now entry then c.null else c.kept entry.1
  | none => c.null

def Memory.next (memory : Memory V τ) : Option (Event V τ) → Memory V τ
  | some (.stores key value expirationTime) =>
      Function.update memory key (some (value, expirationTime))
  | _ => memory

def Memory.effects (memory : Memory V τ) (message : V) (now : τ) :
    Option (Event V τ) → List (Effect V)
  | none => [.passedOn message]
  | some (.opens url) => [.opened url]
  | some .pings => [.sent "omni.pointcloud.potree2@ping_result" (.result true)]
  | some (.asks key) =>
      [.sent "omni.pointcloud.potree2@get_data_result" (.data key (memory.recall c key now))]
  | some _ => []

def Memory.handle : Memory V τ → List (Received V τ) → List (Effect V)
  | _, [] => []
  | memory, r :: received =>
      let event := eventOf c r.message
      memory.effects c r.message r.now event ++ Memory.handle (memory.next event) received

end Memory

/-! ## The loop -/

section Loop

variable [LinearOrder τ] {c : Codec V τ} {clearAll : Bool} {clock : String → τ}

def drops (c : Codec V τ) (clearAll : Bool) (now : τ) (found : Option String) : Bool :=
  clearAll || found.any fun text => (c.parse text).any fun data => expired c data now

def Readable (c : Codec V τ) (storage : Storage) (key : String) : Prop :=
  ∀ text, storage.get? key = some text → ∃ data, c.parse text = some data

theorem expireItems_cons {key : String} {keys : List String} {storage : Storage}
    (readable : Readable c storage key) :
    expireItems c clearAll clock (key :: keys) storage =
      expireItems c clearAll clock keys
        (if drops c clearAll (clock key) (storage.get? key) then storage.erase key
          else storage) := by
  cases clearAll with
  | true => simp [expireItems, drops]
  | false =>
      cases found : storage.get? key with
      | none => simp [expireItems, drops, found]
      | some text =>
          obtain ⟨data, parsed⟩ := readable text found
          simp [expireItems, drops, found, parsed]

theorem get?_dropped (storage : Storage) (key j : String) (drop : Bool) :
    (if drop then storage.erase key else storage).get? j =
      if j = key ∧ drop = true then none else storage.get? j := by
  cases drop with
  | true => simp [OrderedMap.get?_erase]
  | false => simp

/-- The loop removes those of the items that it is meant to, and no others. -/
theorem expireItems_get? (clearAll : Bool) (clock : String → τ) {keys : List String}
    {storage : Storage}
    (readable : ∀ key ∈ keys, Readable c storage key) :
    (expireItems c clearAll clock keys storage).2 = false ∧
      ∀ j, (expireItems c clearAll clock keys storage).1.get? j =
        if j ∈ keys ∧ drops c clearAll (clock j) (storage.get? j) = true then none
        else storage.get? j := by
  induction keys generalizing storage with
  | nil => exact ⟨rfl, by simp [expireItems]⟩
  | cons key keys ih =>
      rw [expireItems_cons (readable key List.mem_cons_self)]
      have kept : ∀ k ∈ keys, Readable c
          (if drops c clearAll (clock key) (storage.get? key) then storage.erase key
            else storage) k := by
        intro k later text found
        rw [get?_dropped] at found
        split at found
        next => contradiction
        next => exact readable k (List.mem_cons_of_mem _ later) text found
      obtain ⟨fine, items⟩ := ih kept
      refine ⟨fine, fun j => ?_⟩
      rw [items, get?_dropped]
      by_cases same : j = key
      · subst same
        cases drop : drops c clearAll (clock j) (storage.get? j) with
        | true => simp
        | false => simp [drop]
      · simp [same]

end Loop

/-! ## The memory and the storage -/

section Keys

theorem itemKey_injective {key key' : String} (same : itemKey key = itemKey key') : key = key' := by
  have lists := congrArg String.toList same
  rw [itemKey, itemKey, String.toList_append, String.toList_append] at lists
  exact String.toList_inj.mp (List.append_cancel_left lists)

theorem startsWith_itemKey (key : String) :
    startsWith (itemKey key) potree2StoragePrefix = true := by
  rw [startsWith, itemKey, String.toList_append]
  exact decide_eq_true (List.prefix_append _ _)

theorem ne_itemKey {item : String} (other : startsWith item potree2StoragePrefix = false)
    (key : String) : item ≠ itemKey key := by
  rintro rfl
  rw [startsWith_itemKey] at other
  contradiction

theorem itemKey_of_startsWith {item : String}
    (own : startsWith item potree2StoragePrefix = true) : ∃ key, item = itemKey key := by
  obtain ⟨rest, same⟩ := of_decide_eq_true own
  refine ⟨String.ofList rest, String.toList_inj.mp ?_⟩
  rw [itemKey, String.toList_append, String.toList_ofList, same]

end Keys

section Stored

variable [LinearOrder τ] (c : Codec V τ)

/-- What is stored is read as what it was, and expires at its time. -/
theorem parse_stored (entry : V × τ) :
    ∃ data, c.parse (c.stringify entry.1 entry.2) = some data ∧
      c.field data "value" = some (c.kept entry.1) ∧
      ∀ now, expired c data now = old c now entry := by
  obtain ⟨data, time, fields, parsed, object, value, timed, is⟩ :=
    c.parse_stringify entry.1 entry.2
  refine ⟨data, parsed, by simp [Codec.field, object, value], fun now => ?_⟩
  cases finite : c.finite entry.2 with
  | true =>
      have number : c.number time = some entry.2 := by simp [Codec.number, is, finite]
      simp [expired, old, Codec.field, object, timed, number, finite]
  | false =>
      have number : c.number time = none := by simp [Codec.number, is, finite]
      simp [expired, old, Codec.field, object, timed, number, finite]

theorem drops_stringify (entry : V × τ) (now : τ) :
    drops c false now (some (c.stringify entry.1 entry.2)) = old c now entry := by
  obtain ⟨data, parsed, -, due⟩ := parse_stored c entry
  simp [drops, parsed, due]

variable {c}

theorem old_later {entry : V × τ} {now later : τ} (is : old c now entry = true)
    (order : now ≤ later) : old c later entry = true := by
  simp only [old, Bool.and_eq_true, decide_eq_true_eq] at is ⊢
  exact ⟨is.1, le_trans is.2 order⟩

end Stored

section Refinement

variable [LinearOrder τ] {c : Codec V τ}

/-- Each item of the extension is what has been stored last, or has gone since it expired. -/
def Holds (c : Codec V τ) (storage : Storage) (memory : Memory V τ) (now : τ) : Prop :=
  ∀ key, storage.get? (itemKey key) = (memory key).map (fun entry => c.stringify entry.1 entry.2) ∨
    storage.get? (itemKey key) = none ∧ ∀ entry, memory key = some entry → old c now entry = true

/-- The clock never goes back. -/
def Chronological : τ → List (Received V τ) → Prop
  | _, [] => True
  | past, r :: received =>
      (∀ item, past ≤ r.clock item ∧ r.clock item ≤ r.now) ∧ Chronological r.now received

theorem Holds.later {storage : Storage} {memory : Memory V τ} {now later : τ}
    (holds : Holds c storage memory now) (order : now ≤ later) : Holds c storage memory later := by
  intro key
  rcases holds key with stored | ⟨gone, passed⟩
  · exact Or.inl stored
  · exact Or.inr ⟨gone, fun entry is => old_later (passed entry is) order⟩

theorem Holds.readable {storage : Storage} {memory : Memory V τ} {now : τ}
    (holds : Holds c storage memory now) (key : String) : Readable c storage (itemKey key) := by
  intro text found
  rcases holds key with stored | ⟨gone, -⟩
  · rw [found] at stored
    obtain ⟨entry, -, rfl⟩ := Option.map_eq_some_iff.mp stored.symm
    obtain ⟨data, parsed, -, -⟩ := parse_stored c entry
    exact ⟨data, parsed⟩
  · rw [found] at gone
    contradiction

/-! ### The sweep -/

/-- After the loop an own item is as before unless it has expired by its reading of the clock. -/
theorem Holds.swept {storage : Storage} {memory : Memory V τ} {past : τ}
    (holds : Holds c storage memory past) (clock : String → τ) :
    (expirePotree2Storage c false clock storage).2 = false ∧
      ∀ item, (expirePotree2Storage c false clock storage).1.get? item =
        if startsWith item potree2StoragePrefix = true ∧
            drops c false (clock item) (storage.get? item) = true then none
        else storage.get? item := by
  have readable : ∀ key ∈ storage.keys.filter (fun key => startsWith key potree2StoragePrefix),
      Readable c storage key := by
    intro item listed
    obtain ⟨key, rfl⟩ := itemKey_of_startsWith (List.mem_filter.mp listed).2
    exact holds.readable key
  obtain ⟨fine, items⟩ := expireItems_get? false clock readable
  refine ⟨fine, fun item => ?_⟩
  cases found : storage.get? item with
  | none => simp [expirePotree2Storage, items, found]
  | some text => simp [expirePotree2Storage, items, OrderedMap.mem_keys_iff, found]

/-- The sweep takes away nothing that has not expired by then. -/
theorem Holds.after_sweep {storage : Storage} {memory : Memory V τ} {past now : τ}
    {clock : String → τ} (holds : Holds c storage memory past)
    (order : ∀ item, past ≤ clock item ∧ clock item ≤ now) :
    Holds c (expirePotree2Storage c false clock storage).1 memory now := by
  intro key
  rw [(holds.swept clock).2, startsWith_itemKey]
  rcases holds key with stored | ⟨gone, passed⟩
  · cases known : memory key with
    | none => simp [stored, known]
    | some entry =>
        rw [known, Option.map_some] at stored
        rw [stored, drops_stringify]
        cases due : old c (clock (itemKey key)) entry with
        | true =>
            refine Or.inr ⟨by simp, fun found is => ?_⟩
            cases is
            exact old_later due (order _).2
        | false => exact Or.inl (by simp)
  · refine Or.inr ⟨by simp [gone], fun entry is => ?_⟩
    exact old_later (passed entry is) (le_trans (order (itemKey key)).1 (order (itemKey key)).2)

theorem Holds.swept_fresh {storage : Storage} {memory : Memory V τ} {past : τ}
    (holds : Holds c storage memory past) {clock : String → τ} {item text : String}
    (own : startsWith item potree2StoragePrefix = true)
    (left : (expirePotree2Storage c false clock storage).1.get? item = some text) :
    drops c false (clock item) (some text) = false := by
  rw [(holds.swept clock).2] at left
  split at left
  next => contradiction
  next fresh =>
    rw [left] at fresh
    exact Bool.eq_false_iff.mpr fun due => fresh ⟨own, due⟩

/-! ### Looking up -/

theorem lookUp_storage (c : Codec V τ) (storage : Storage) (key : String) (now : τ) :
    (lookUp c storage key now).1 = storage ∨
      (lookUp c storage key now).1 = storage.erase (itemKey key) := by
  rw [lookUp]
  split
  next => exact Or.inl rfl
  next =>
    split
    next => exact Or.inl rfl
    next =>
      split
      next => exact Or.inl rfl
      next =>
        split
        next => exact Or.inr rfl
        next => exact Or.inl rfl

/-- What is found is what the memory tells, and only an item that has expired goes. -/
theorem Holds.lookUp {storage : Storage} {memory : Memory V τ} {now : τ}
    (holds : Holds c storage memory now) (key : String) :
    (lookUp c storage key now).2 = some (memory.recall c key now) ∧
      Holds c (lookUp c storage key now).1 memory now := by
  rcases holds key with stored | ⟨gone, passed⟩
  · cases known : memory key with
    | none =>
        rw [known, Option.map_none] at stored
        have same : PointCloud.lookUp c storage key now = (storage, some c.null) := by
          simp [PointCloud.lookUp, stored]
        rw [same]
        exact ⟨by simp [Memory.recall, known], holds⟩
    | some entry =>
        rw [known, Option.map_some] at stored
        obtain ⟨data, parsed, value, times⟩ := parse_stored c entry
        cases due : old c now entry with
        | true =>
            have same : PointCloud.lookUp c storage key now =
                (storage.erase (itemKey key), some c.null) := by
              simp [PointCloud.lookUp, stored, parsed, value, times, due]
            rw [same]
            refine ⟨by simp [Memory.recall, known, due], fun other => ?_⟩
            by_cases here : other = key
            · subst here
              refine Or.inr ⟨by simp [OrderedMap.get?_erase], fun found is => ?_⟩
              rw [known] at is
              cases is
              exact due
            · have apart : itemKey other ≠ itemKey key := fun same => here (itemKey_injective same)
              rw [OrderedMap.get?_erase, if_neg apart]
              exact holds other
        | false =>
            have same : PointCloud.lookUp c storage key now =
                (storage, some (c.kept entry.1)) := by
              simp [PointCloud.lookUp, stored, parsed, value, times, due]
            rw [same]
            exact ⟨by simp [Memory.recall, known, due], holds⟩
  · have same : PointCloud.lookUp c storage key now = (storage, some c.null) := by
      simp [PointCloud.lookUp, gone]
    rw [same]
    refine ⟨?_, holds⟩
    cases known : memory key with
    | none => simp [Memory.recall, known]
    | some entry => simp [Memory.recall, known, passed entry known]

/-! ### A message -/

/-- What has been done for a message is what it does to the memory. -/
structure Does (c : Codec V τ) (storage : Storage) (memory : Memory V τ) (r : Received V τ)
    (result : Storage × List (Effect V)) (event : Option (Event V τ)) : Prop where
  effects : result.2 = memory.effects c r.message r.now event
  holds : Holds c result.1 (memory.next event) r.now
  others : ∀ item, startsWith item potree2StoragePrefix = false →
    result.1.get? item = storage.get? item

theorem Holds.openUrl {storage : Storage} {memory : Memory V τ} {r : Received V τ}
    (holds : Holds c storage memory r.now) (payload : V) :
    Does c storage memory r (openUrl c storage payload)
      (some ((isPotree2OpenUrlPayload c payload).elim .nothing .opens)) := by
  cases checked : isPotree2OpenUrlPayload c payload with
  | none => exact ⟨by simp [PointCloud.openUrl, checked, Memory.effects], holds, fun _ _ => rfl⟩
  | some url => exact ⟨by simp [PointCloud.openUrl, checked, Memory.effects], holds, fun _ _ => rfl⟩

theorem Holds.set {storage : Storage} {memory : Memory V τ} {now : τ}
    (holds : Holds c storage memory now) (key : String) (entry : V × τ) :
    Holds c (storage.set (itemKey key) (c.stringify entry.1 entry.2))
      (Function.update memory key (some entry)) now := by
  intro other
  by_cases here : other = key
  · subst here
    exact Or.inl (by simp)
  · have apart : itemKey other ≠ itemKey key := fun same => here (itemKey_injective same)
    rw [OrderedMap.get?_set_ne _ _ apart, Function.update_of_ne here]
    exact holds other

theorem Holds.storeData {storage : Storage} {memory : Memory V τ} {r : Received V τ}
    (holds : Holds c storage memory r.now) (payload : V) :
    Does c storage memory r (storeData c storage payload)
      (some ((isPotree2StoreDataPayload c payload).elim .nothing
        fun (key, value, expirationTime) => named key (.stores key value expirationTime))) := by
  cases checked : isPotree2StoreDataPayload c payload with
  | none =>
      have same : PointCloud.storeData c storage payload = (storage, []) := by
        simp [PointCloud.storeData, checked]
      rw [same]
      exact ⟨rfl, holds, fun _ _ => rfl⟩
  | some data =>
      obtain ⟨key, value, expirationTime⟩ := data
      by_cases empty : key = ""
      · have same : PointCloud.storeData c storage payload = (storage, []) := by
          simp [PointCloud.storeData, checked, empty]
        rw [same]
        dsimp only [Option.elim_some]
        rw [named, if_pos empty]
        exact ⟨rfl, holds, fun _ _ => rfl⟩
      · have same : PointCloud.storeData c storage payload =
            (storage.set (itemKey key) (c.stringify value expirationTime), []) := by
          simp [PointCloud.storeData, checked, empty]
        rw [same]
        dsimp only [Option.elim_some]
        rw [named, if_neg empty]
        refine ⟨rfl, holds.set key (value, expirationTime), fun item foreign => ?_⟩
        rw [OrderedMap.get?_set_ne _ _ (ne_itemKey foreign key)]

theorem getData_unasked {storage : Storage} {memory : Memory V τ} {past : τ}
    (holds : Holds c storage memory past) (eventType : String) {payload : V}
    (clock : String → τ) (now : τ)
    (unasked : ∀ key, isPotree2GetDataPayload c payload = some key → key = "") :
    getData c storage eventType payload clock now =
      ((expirePotree2Storage c false clock storage).1, []) := by
  have fine := (holds.swept clock).1
  cases checked : isPotree2GetDataPayload c payload with
  | none => simp [getData, fine, checked]
  | some key => simp [getData, fine, checked, unasked key checked]

theorem getData_asked {storage : Storage} {memory : Memory V τ} {past : τ}
    (holds : Holds c storage memory past) (eventType : String) {payload : V}
    {clock : String → τ} {now : τ} (order : ∀ item, past ≤ clock item ∧ clock item ≤ now)
    {key : String} (checked : isPotree2GetDataPayload c payload = some key) (named : key ≠ "") :
    getData c storage eventType payload clock now =
      ((lookUp c (expirePotree2Storage c false clock storage).1 key now).1,
        [.sent (eventType ++ "_result") (.data key (memory.recall c key now))]) := by
  have fine := (holds.swept clock).1
  have found := ((holds.after_sweep order).lookUp key).1
  simp [getData, fine, checked, named, found]

theorem Holds.getData {storage : Storage} {memory : Memory V τ} {past : τ} {r : Received V τ}
    (holds : Holds c storage memory past)
    (order : ∀ item, past ≤ r.clock item ∧ r.clock item ≤ r.now) (payload : V) :
    Does c storage memory r
      (getData c storage "omni.pointcloud.potree2@get_data" payload r.clock r.now)
      (some ((isPotree2GetDataPayload c payload).elim .nothing fun key =>
        named key (.asks key))) := by
  have swept : Holds c (expirePotree2Storage c false r.clock storage).1 memory r.now :=
    holds.after_sweep order
  have foreign : ∀ item, startsWith item potree2StoragePrefix = false →
      (expirePotree2Storage c false r.clock storage).1.get? item = storage.get? item := by
    intro item foreign
    simp [(holds.swept r.clock).2, foreign]
  cases checked : isPotree2GetDataPayload c payload with
  | none =>
      rw [getData_unasked holds _ _ _ (by simp [checked])]
      exact ⟨rfl, swept, foreign⟩
  | some key =>
      by_cases empty : key = ""
      · rw [getData_unasked holds _ _ _ (by simp [checked, empty]), Option.elim_some, named,
          if_pos empty]
        exact ⟨rfl, swept, foreign⟩
      · rw [getData_asked holds _ order checked empty, Option.elim_some, named, if_neg empty]
        refine ⟨by simp [Memory.effects], (swept.lookUp key).2, fun item own => ?_⟩
        rw [← foreign item own]
        rcases lookUp_storage c
          (expirePotree2Storage c false r.clock storage).1 key r.now with same | same
        · rw [same]
        · rw [same, OrderedMap.get?_erase, if_neg (ne_itemKey own key)]

theorem Holds.does {storage : Storage} {memory : Memory V τ} {past : τ} {r : Received V τ}
    (holds : Holds c storage memory past)
    (order : ∀ item, past ≤ r.clock item ∧ r.clock item ≤ r.now) :
    Does c storage memory r (onCustomEvent c storage r) (eventOf c r.message) := by
  have now : Holds c storage memory r.now :=
    holds.later (le_trans (order "").1 (order "").2)
  rw [onCustomEvent, handlePotree2Event, eventOf]
  cases checked : isPotree2Message c r.message with
  | none => exact ⟨rfl, now, fun _ _ => rfl⟩
  | some fields =>
      obtain ⟨eventType, payload⟩ := fields
      simp only [Option.bind_eq_bind, Option.bind_some]
      split_ifs with opens pings stores asks
      next => exact now.openUrl payload
      next =>
        subst pings
        exact ⟨by simp [Memory.effects], now, fun _ _ => rfl⟩
      next => exact now.storeData payload
      next =>
        subst asks
        exact holds.getData order payload
      next => exact ⟨rfl, now, fun _ _ => rfl⟩

/-! ### Whose message it is -/

def potree2Events : List String :=
  ["omni.pointcloud.potree2@open_url", "omni.pointcloud.potree2@ping",
    "omni.pointcloud.potree2@store_data", "omni.pointcloud.potree2@get_data"]

/-- A message of the extension has a payload, whatever that is, and one of four event types. -/
def Own (c : Codec V τ) (message : V) : Prop :=
  ∃ eventType payload, c.field message "event_type" = some eventType ∧
    c.field message "payload" = some payload ∧
    ∃ name ∈ potree2Events, c.string eventType = some name

omit [LinearOrder τ] in
theorem own_iff {message : V} :
    Own c message ↔
      ∃ name payload, isPotree2Message c message = some (name, payload) ∧ name ∈ potree2Events := by
  constructor
  · rintro ⟨eventType, payload, typed, found, name, listed, is⟩
    exact ⟨name, payload, by simp [isPotree2Message, typed, found, is], listed⟩
  · rintro ⟨name, payload, checked, listed⟩
    simp only [isPotree2Message, Option.bind_eq_bind, Option.bind_eq_some_iff, Option.pure_def,
      Option.some.injEq, Prod.mk.injEq] at checked
    obtain ⟨eventType, typed, found, has, _, is, rfl, rfl⟩ := checked
    exact ⟨eventType, found, typed, has, _, listed, is⟩

theorem not_passedOn (storage : Storage) (message : V) (payload : V) (eventType : String)
    (clock : String → τ) (now : τ) :
    .passedOn message ∉ (openUrl c storage payload).2 ∧
      .passedOn message ∉ (storeData c storage payload).2 ∧
      .passedOn message ∉ (getData c storage eventType payload clock now).2 := by
  refine ⟨by simp [openUrl], ?_, ?_⟩
  · rw [storeData]
    split
    next => simp
    next => split_ifs <;> simp
  · rw [getData]
    dsimp only
    split_ifs
    next => simp
    next =>
      split
      next => simp
      next =>
        split_ifs
        next => simp
        next =>
          split <;> simp

/-- Nothing is passed on but the message itself, and only when it is not the extension's. -/
theorem passedOn_iff (storage : Storage) (r : Received V τ) (message : V) :
    .passedOn message ∈ (onCustomEvent c storage r).2 ↔
      message = r.message ∧ ¬ Own c r.message := by
  rw [own_iff, onCustomEvent, handlePotree2Event]
  cases checked : isPotree2Message c r.message with
  | none => simp
  | some fields =>
      obtain ⟨eventType, payload⟩ := fields
      have silent := not_passedOn (c := c) storage message payload eventType r.clock r.now
      dsimp only
      split_ifs with opens pings stores asks
      next => simp [silent, opens, potree2Events]
      next => simp [pings, potree2Events]
      next => simp [silent, stores, potree2Events]
      next =>
        subst asks
        simp [silent, potree2Events]
      next => simp [opens, pings, stores, asks, potree2Events]

/-- Whatever is left by a message that asks for data had not expired when it was looked at. -/
theorem Holds.fresh {storage : Storage} {memory : Memory V τ} {past : τ}
    (holds : Holds c storage memory past) {r : Received V τ} {payload : V}
    (asks : isPotree2Message c r.message = some ("omni.pointcloud.potree2@get_data", payload))
    (order : ∀ item, past ≤ r.clock item ∧ r.clock item ≤ r.now) {item text : String}
    (own : startsWith item potree2StoragePrefix = true)
    (left : (onCustomEvent c storage r).1.get? item = some text) :
    drops c false (r.clock item) (some text) = false := by
  have is : onCustomEvent c storage r =
      PointCloud.getData c storage "omni.pointcloud.potree2@get_data" payload r.clock r.now := by
    simp [onCustomEvent, handlePotree2Event, asks]
  apply holds.swept_fresh own
  rw [is] at left
  by_cases asked : ∃ key, isPotree2GetDataPayload c payload = some key ∧ key ≠ ""
  · obtain ⟨key, checked, present⟩ := asked
    rw [getData_asked holds _ order checked present] at left
    rcases lookUp_storage c
      (expirePotree2Storage c false r.clock storage).1 key r.now with same | same
    · rwa [same] at left
    · rw [same, OrderedMap.get?_erase] at left
      split at left
      next => contradiction
      next => exact left
  · have unasked : ∀ key, isPotree2GetDataPayload c payload = some key → key = "" :=
      fun key checked => not_not.mp fun present => asked ⟨key, checked, present⟩
    rwa [getData_unasked holds _ _ _ unasked] at left

/-! ### Any number of messages -/

theorem handle_cons (storage : Storage) (r : Received V τ) (received : List (Received V τ)) :
    handle c storage (r :: received) =
      ((handle c (onCustomEvent c storage r).1 received).1,
        (onCustomEvent c storage r).2 ++ (handle c (onCustomEvent c storage r).1 received).2) := rfl

theorem handle_concat (storage : Storage) (received : List (Received V τ)) (last : Received V τ) :
    (handle c storage (received ++ [last])).1 =
      (onCustomEvent c (handle c storage received).1 last).1 := by
  induction received generalizing storage with
  | nil => rfl
  | cons r received ih => exact ih (onCustomEvent c storage r).1

/-- After any messages the items still are what the memory tells. -/
theorem Holds.handle {received : List (Received V τ)} {storage : Storage} {memory : Memory V τ}
    {past : τ} (holds : Holds c storage memory past) (order : Chronological past received) :
    Holds c (handle c storage received).1
      (received.foldl (fun memory r => memory.next (eventOf c r.message)) memory)
      (received.foldl (fun _ r => r.now) past) := by
  induction received generalizing storage memory past with
  | nil => exact holds
  | cons r received ih => exact ih (holds.does order.1).holds order.2

theorem Chronological.of_append {past : τ} {received : List (Received V τ)} {r : Received V τ}
    {later : List (Received V τ)} (order : Chronological past (received ++ r :: later)) :
    Chronological past received ∧
      ∀ item, received.foldl (fun _ r => r.now) past ≤ r.clock item ∧ r.clock item ≤ r.now := by
  induction received generalizing past with
  | nil => exact ⟨trivial, order.1⟩
  | cons first received ih =>
      obtain ⟨before, here⟩ := ih order.2
      exact ⟨⟨order.1, before⟩, here⟩

structure Remembers (c : Codec V τ) (storage : Storage) (memory : Memory V τ)
    (received : List (Received V τ)) : Prop where
  effects : (handle c storage received).2 = memory.handle c received
  others : ∀ item, startsWith item potree2StoragePrefix = false →
    (handle c storage received).1.get? item = storage.get? item
  fresh : ∀ earlier r later payload, received = earlier ++ r :: later →
    isPotree2Message c r.message = some ("omni.pointcloud.potree2@get_data", payload) →
    ∀ item text, startsWith item potree2StoragePrefix = true →
      (handle c storage (earlier ++ [r])).1.get? item = some text →
        drops c false (r.clock item) (some text) = false
  passed : ∀ earlier r later message, received = earlier ++ r :: later →
    (.passedOn message ∈ (onCustomEvent c (handle c storage earlier).1 r).2 ↔
      message = r.message ∧ ¬ Own c r.message)

/-- The extension is answered as by a memory that forgets each value in its time, whatever else
the local storage is used for and whatever else is received. -/
theorem potree2_remembers {storage : Storage} {memory : Memory V τ} {past : τ}
    {received : List (Received V τ)} (holds : Holds c storage memory past)
    (order : Chronological past received) : Remembers c storage memory received where
  effects := by
    induction received generalizing storage memory past with
    | nil => rfl
    | cons r received ih =>
        have does := holds.does order.1
        rw [handle_cons, Memory.handle, does.effects, ih does.holds order.2]
  others := by
    induction received generalizing storage memory past with
    | nil => exact fun _ _ => rfl
    | cons r received ih =>
        have does := holds.does order.1
        intro item foreign
        rw [handle_cons, ih does.holds order.2 item foreign, does.others item foreign]
  fresh := by
    intro earlier r later payload cut asks item text own left
    subst cut
    obtain ⟨before, here⟩ := order.of_append
    rw [handle_concat] at left
    exact (holds.handle before).fresh asks here own left
  passed := fun earlier r _ message _ => passedOn_iff (handle c storage earlier).1 r message

end Refinement

/-! ## A sample -/

section Sample

-- The last of the times is infinite.
inductive Sample
  | null
  | flag (on : Bool)
  | text (text : String)
  | time (time : Fin 5)
  | item (value : Option Bool) (expirationTime : Option (Fin 5))
  | storing (key : String) (value : Bool) (expirationTime : Fin 5)
  | asking (key : String)
  | message (eventType : String) (payload : Sample)
deriving DecidableEq

namespace Sample

def flag? (value : Option Bool) : Sample := value.elim .null .flag

def shape : Sample → Shape Sample (Fin 5)
  | .text said => .string said
  | .time now => .number now
  | .item value expirationTime =>
      .object [("value", flag? value), ("expiration_time", expirationTime.elim .null .time)]
  | .storing key value expirationTime =>
      .object [("key", .text key), ("value", .flag value),
        ("expiration_time", .time expirationTime)]
  | .asking key => .object [("key", .text key)]
  | .message eventType payload => .object [("event_type", .text eventType), ("payload", payload)]
  | _ => .other

def shown (time : Fin 5) : Option (Fin 5) := if time = 4 then none else some time

def written (value : Option Bool) (expirationTime : Option (Fin 5)) : String :=
  "\x7b\"value\":" ++ value.elim "null" toString ++ ",\"expiration_time\":" ++
    (expirationTime.elim "null" fun time => toString time.val) ++ "\x7d"

-- The sample stores flags only.
def asFlag : Sample → Option Bool
  | .flag on => some on
  | _ => none

def parse (text : String) : Option Sample :=
  ([none, some true, some false].flatMap fun value =>
    [none, some 0, some 1, some 2, some 3].map fun time => (value, time)).findSome? fun entry =>
      if written entry.1 entry.2 = text then some (Sample.item entry.1 entry.2) else none

theorem parse_written : ∀ (value : Option Bool) (time : Fin 5),
    parse (written value (shown time)) = some (.item value (shown time)) := by
  decide

def codec : Codec Sample (Fin 5) where
  shape := shape
  null := .null
  finite time := !decide (time = 4)
  kept value := flag? value.asFlag
  stringify value time := written value.asFlag (shown time)
  parse := parse
  parse_stringify value time := by
    refine ⟨_, (shown time).elim .null .time, _, parse_written value.asFlag time, rfl, by simp,
      by rfl, ?_⟩
    by_cases infinite : time = 4
    · simp [shown, infinite, shape]
    · simp [shown, infinite, shape]

def storage : Storage := OrderedMap.empty.set "theme" "dark"

def receivedAt (now : Fin 5) (message : Sample) : Received Sample (Fin 5) :=
  ⟨message, fun _ => now, now⟩

def foreign : Sample := .message "loadingProgress" (.flag true)

-- The first answer is given at the very time at which the item expires.
def received : List (Received Sample (Fin 5)) :=
  [receivedAt 0 (.message "omni.pointcloud.potree2@store_data" (.storing "token" true 2)),
    receivedAt 0 (.message "omni.pointcloud.potree2@store_data" (.storing "seen" false 4)),
    receivedAt 1 (.message "omni.pointcloud.potree2@store_data" (.asking "seen")),
    ⟨.message "omni.pointcloud.potree2@get_data" (.asking "token"), fun _ => 1, 2⟩,
    receivedAt 3 (.message "omni.pointcloud.potree2@get_data" (.asking "seen")),
    receivedAt 3 foreign]

theorem holds : Holds codec storage (fun _ => none) 0 := by
  intro key
  have foreign : "theme" ≠ itemKey key := ne_itemKey (by decide) key
  exact Or.inl (by simp [storage, OrderedMap.get?_set, foreign.symm])

theorem chronological : Chronological 0 received := by
  simp [Chronological, received, receivedAt]

end Sample

theorem potree2_remembers_expiring :
    Remembers Sample.codec Sample.storage (fun _ => none) Sample.received ∧
      (handle Sample.codec Sample.storage Sample.received).2 =
        [.sent "omni.pointcloud.potree2@get_data_result" (.data "token" .null),
          .sent "omni.pointcloud.potree2@get_data_result" (.data "seen" (.flag false)),
          .passedOn Sample.foreign] :=
  ⟨potree2_remembers Sample.holds Sample.chronological, by decide⟩

end Sample

end StreamingPortal.Web.PointCloud
