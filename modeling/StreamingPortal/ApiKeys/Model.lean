import StreamingPortal.Settings.Model
import StreamingPortal.Shared.Runs

set_option autoImplicit false

/-!
# The API keys: `api-keys.toml` and the `ApiKeys` object

The file may change between any two accesses. An access sees whether the path
exists and, apart from that, what opening it gives.
-/

namespace StreamingPortal.ApiKeys

open Settings (Toml Data Value Watcher)

structure ApiKey where
  name : Toml
  value : Toml

/-! ## The file -/

inductive Content
  | text (s : String)
  -- Bytes that are no UTF-8.
  | undecodable

structure Access where
  -- `os.path.exists`
  pathExists : Bool
  -- `none` for an `IOError`, a missing file included.
  opened : Option Content

def newlines : Bool → List Char → List Char
  -- Universal newlines; the flag says whether the last character was `\r`.
  | _, [] => []
  | afterReturn, c :: rest =>
      if c = '\r' then '\n' :: newlines true rest
      else if c = '\n' ∧ afterReturn = true then newlines false rest
      else c :: newlines false rest

/-- `file.read()` in text mode, `none` where it raises `UnicodeDecodeError`. -/
def Content.read : Content → Option String
  | .text s => some (String.ofList (newlines false s.toList))
  | .undecodable => none

def Access.initialContent (seen : Access) : Option String :=
  -- The `last_content` with which the watcher's loop starts, if it starts.
  if seen.pathExists then
    match seen.opened with
    | none => some ""
    | some c => c.read
  else some ""

/-! ## Entries -/

def keyEntry : Toml → Option ApiKey
  | .table fields =>
      match fields.lookup "name", fields.lookup "value" with
      | some name, some value =>
          if Value.truthy (some name) && Value.truthy (some value) then some ⟨name, value⟩
          else none
      | _, _ => none
  | _ => none

def Data.keyEntries (data : Data) : List ApiKey :=
  match data.get? "keys" with
  | some (.array items) => items.filterMap keyEntry
  | _ => []

def equals (value : Toml) (text : String) : Bool :=
  -- `value == text` in Python.
  match value with
  | .string s => decide (s = text)
  | _ => false

end StreamingPortal.ApiKeys

namespace StreamingPortal

/-- The `ApiKeys` object with the `last_content` of its watcher. -/
structure ApiKeys where
  keys : List ApiKeys.ApiKey
  lastContent : String
  watcher : Settings.Watcher

namespace ApiKeys

open Settings (Toml Data Value Watcher)

section

-- `tomllib.loads`, `none` for a `TOMLDecodeError`.
variable (loads : String → Option Data)

/-- The well-formed entries of a text, none if it is no TOML. -/
def entriesOf (text : String) : List ApiKey := ((loads text).map Data.keyEntries).getD []

def loadKeys (seen : Access) : Option (List ApiKey) :=
  -- `_load_keys`; `none` where a `UnicodeDecodeError` leaves it.
  if seen.pathExists then
    match seen.opened with
    | none => some []
    | some .undecodable => none
    -- The file is opened in binary mode here.
    | some (.text s) => some (entriesOf loads s)
  else some []

def read (seen : Access) : Option ApiKeys :=
  (loadKeys loads seen).map fun keys => ⟨keys, "", .absent⟩

def listen (self : ApiKeys) (seen : Access) : ApiKeys :=
  -- `seen` is what the new task sees before its loop.
  if self.watcher ≠ .absent then self
  else
    match seen.initialContent with
    | none => { self with watcher := .failed }
    | some content => { self with lastContent := content, watcher := .running }

structure Poll where
  first : Access
  -- What `_load_keys` sees, if the poll calls it.
  again : Access

/-- One round of the loop; there is none after an exception has ended the task. -/
def poll (self : ApiKeys) (q : Poll) : Option ApiKeys :=
  match self.watcher with
  | .absent | .failed => none
  | .running => some <|
      if q.first.pathExists then
        match q.first.opened with
        | none => self
        | some c =>
            match c.read with
            | none => { self with watcher := .failed }
            | some content =>
                if content = self.lastContent then self
                else
                  match loadKeys loads q.again with
                  | none => { self with watcher := .failed }
                  | some keys => { self with keys := keys, lastContent := content }
      else if self.lastContent ≠ "" then { self with keys := [], lastContent := "" }
      else self

end

def isValidKey (self : ApiKeys) (keyValue : String) : Option ApiKey :=
  self.keys.find? fun key => equals key.value keyValue

theorem isValidKey_isSome (self : ApiKeys) (keyValue : String) :
    (self.isValidKey keyValue).isSome = true ↔
      ∃ key ∈ self.keys, equals key.value keyValue = true := by
  simp [isValidKey, List.find?_isSome]

end ApiKeys

end StreamingPortal
