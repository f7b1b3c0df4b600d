import Mathlib.Data.List.DropRight
import StreamingPortal.Shared.OrderedMap

set_option autoImplicit false

/-!
# Cookies of a user agent

What a `Set-Cookie` without a `Domain` does to the store, and what a request to the same host
sends: the storage model of RFC 6265. Points in time and durations are of one unit.
-/

namespace StreamingPortal.Cookies

structure SetCookie where
  name : String
  value : String
  maxAge : Option Int
  expires : Option Int
  path : Option (List Char)

structure Key where
  name : String
  host : String
  path : List Char
deriving DecidableEq

inductive Lifetime
  -- Until the user agent is closed.
  | session
  | expires (time : Int)
  | past
deriving DecidableEq

def Lifetime.alive (now : Int) : Lifetime → Bool
  | .session => true
  | .expires time => decide (now < time)
  | .past => false

structure Stored where
  value : String
  lifetime : Lifetime

-- A cookie that is replaced keeps its place.
abbrev Jar := OrderedMap Key Stored

-- Up to the rightmost slash, which goes unless it is the first character.
def defaultPath (uriPath : List Char) : List Char :=
  let before := (uriPath.rdropWhile (· ≠ '/')).dropLast
  if uriPath.head? ≠ some '/' ∨ before = [] then ['/'] else before

def pathMatch (requestPath cookiePath : List Char) : Bool :=
  requestPath = cookiePath ∨
    (cookiePath <+: requestPath ∧
      (cookiePath.getLast? = some '/' ∨
        (requestPath.drop cookiePath.length).head? = some '/'))

def SetCookie.cookiePath (c : SetCookie) (uriPath : List Char) : List Char :=
  match c.path with
  | some path => if path.head? = some '/' then path else defaultPath uriPath
  | none => defaultPath uriPath

-- `Max-Age` goes before `Expires`.
def SetCookie.lifetime (c : SetCookie) (now : Int) : Lifetime :=
  match c.maxAge, c.expires with
  | some age, _ => if age ≤ 0 then .past else .expires (now + age)
  | none, some time => .expires time
  | none, none => .session

def SetCookie.key (c : SetCookie) (host : String) (uriPath : List Char) : Key :=
  ⟨c.name, host, c.cookiePath uriPath⟩

def SetCookie.stored (c : SetCookie) (now : Int) : Stored := ⟨c.value, c.lifetime now⟩

def Jar.receive (jar : Jar) (host : String) (uriPath : List Char) (now : Int) (c : SetCookie) :
    Jar :=
  jar.set (c.key host uriPath) (c.stored now)

def Jar.sent (jar : Jar) (host : String) (requestPath : List Char) (now : Int) :
    List (Key × Stored) :=
  jar.entries.filter fun cookie =>
    cookie.1.host = host ∧ pathMatch requestPath cookie.1.path = true ∧
      cookie.2.lifetime.alive now = true

theorem mem_sent {jar : Jar} {host : String} {requestPath : List Char} {now : Int} {key : Key}
    {cookie : Stored} : (key, cookie) ∈ jar.sent host requestPath now ↔
      jar.get? key = some cookie ∧ key.host = host ∧ pathMatch requestPath key.path = true ∧
        cookie.lifetime.alive now = true := by
  unfold Jar.sent
  rw [List.mem_filter, decide_eq_true_eq]
  constructor
  next =>
    rintro ⟨stored, matching⟩
    exact ⟨OrderedMap.get?_of_mem stored, matching⟩
  next =>
    rintro ⟨stored, matching⟩
    exact ⟨OrderedMap.mem_of_get? stored, matching⟩

theorem alive_earlier {lifetime : Lifetime} {now later : Int} (order : now ≤ later)
    (alive : lifetime.alive later = true) : lifetime.alive now = true := by
  cases lifetime with
  | session => rfl
  | past => contradiction
  | expires time =>
      simp only [Lifetime.alive, decide_eq_true_eq] at alive ⊢
      omega

theorem pathMatch_self (path : List Char) : pathMatch path path = true := by
  simp [pathMatch]

-- The default path is never the path itself, the root apart.
theorem defaultPath_length_lt {uriPath : List Char} (long : 1 < uriPath.length) :
    (defaultPath uriPath).length < uriPath.length := by
  unfold defaultPath
  simp only
  split
  next => exact long
  next =>
    have shorter : (uriPath.rdropWhile (· ≠ '/')).length ≤ uriPath.length :=
      (List.rdropWhile_prefix _ uriPath).length_le
    rw [List.length_dropLast]
    omega

end StreamingPortal.Cookies
