import StreamingPortal.Shared.OrderedMap
import StreamingPortal.Shared.Url

set_option autoImplicit false

/-!
# The sign-in URLs of NVCF

What `start_stream` posts to and `connect_to_stream` opens, with the query of the client's request.
-/

namespace StreamingPortal.Sessions.SignIn

open StreamingPortal.Percent StreamingPortal.Url

/-! ## `urllib.parse` -/

-- What `quote` escapes where no further character is safe.
def quoteSet (c : Char) : Bool := !(isAlphanumeric c || "_.-~".toList.contains c)

def urlencode (query : Params) : List Char := formQuery quoteSet query

-- With `keep_blank_values`. A character outside ASCII ends the escapes that are decoded together.
def parseQsl (qs : List Char) : Params := readPairs qs

/-! ## The two URLs -/

/-- Starlette's `QueryParams`: all pairs, and the dictionary with one value for each key. -/
structure QueryParams where
  list : Params
  dict : OrderedMap (List Char) (List Char)
  dict_eq : dict = OrderedMap.ofList list

def QueryParams.ofString (query : List Char) : QueryParams where
  list := parseQsl query
  dict := OrderedMap.ofList (parseQsl query)
  dict_eq := rfl

-- `__str__`.
def QueryParams.toString (query : QueryParams) : List Char := urlencode query.list

-- `__bool__` by way of `__len__`, which counts the keys.
def QueryParams.isTrue (query : QueryParams) : Bool := !query.dict.entries.isEmpty

/-- `settings.nvcf_signaling_endpoint`, a URL with neither a query nor a fragment. -/
structure SignalingEndpoint where
  text : List Char
  no_query : '?' ∉ text
  no_fragment : '#' ∉ text

def constructNvcfEndpoint (settings : SignalingEndpoint) (query : QueryParams) : List Char :=
  let endpoint :=
    if "ws".toList.isPrefixOf settings.text then "http".toList ++ settings.text.drop 2
    else settings.text
  endpoint ++ "/sign_in?".toList ++ if query.isTrue then query.toString else []

-- The URL of `connect_to_stream`; `{**websocket.query_params}` copies the dictionary.
def connectUrl (settings : SignalingEndpoint) (query : QueryParams) : List Char :=
  settings.text ++ "/sign_in?".toList ++ urlencode query.dict.entries

/-- The query of either URL is read as the client's. -/
structure Forwarded (settings : SignalingEndpoint) (query : List Char) : Prop where
  started : parseQsl (queryOf (constructNvcfEndpoint settings (.ofString query))) = parseQsl query
  connected : parseQsl (queryOf (connectUrl settings (.ofString query))) = parseQsl query

/-! ## What is read back -/

theorem quoteSet_escapes : EscapesMarks quoteSet := ⟨rfl, rfl, rfl, rfl⟩

theorem parseQsl_urlencode (query : Params) : parseQsl (urlencode query) = query :=
  readPairs_formQuery quoteSet_escapes query

theorem hash_not_mem_urlencode (query : Params) : '#' ∉ urlencode query :=
  not_mem_formQuery (by decide) (by decide) (by decide) (by decide) query

theorem queryOf_signIn {endpoint : List Char} (mark : '?' ∉ endpoint) (hash : '#' ∉ endpoint)
    (query : Params) : queryOf (endpoint ++ "/sign_in?".toList ++ urlencode query) =
      urlencode query := by
  have split : endpoint ++ "/sign_in?".toList ++ urlencode query =
      (endpoint ++ "/sign_in".toList) ++ '?' :: urlencode query := by simp
  have mark' : '?' ∉ endpoint ++ "/sign_in".toList := by simp [mark]
  have hash' : '#' ∉ endpoint ++ "/sign_in".toList := by simp [hash]
  rw [split, queryOf_append mark' hash' (hash_not_mem_urlencode query)]

theorem QueryParams.list_of_not_isTrue {query : QueryParams} (empty : query.isTrue = false) :
    query.list = [] := by
  have none : query.dict.entries = [] := by simpa [isTrue] using empty
  rw [query.dict_eq] at none
  -- The first pair would have left its key.
  cases shape : query.list using List.reverseRecOn with
  | nil => rfl
  | append_singleton pairs pair =>
      have stored := OrderedMap.get?_set_self (OrderedMap.ofList pairs) pair.1 pair.2
      rw [← OrderedMap.ofList_concat, ← shape] at stored
      have member := OrderedMap.mem_of_get? stored
      rw [none] at member
      contradiction

theorem QueryParams.written (query : QueryParams) :
    (if query.isTrue then query.toString else []) = urlencode query.list := by
  cases empty : query.isTrue with
  | true => rfl
  | false =>
      rw [list_of_not_isTrue empty]
      rfl

theorem started_pairs (settings : SignalingEndpoint) (query : QueryParams) :
    parseQsl (queryOf (constructNvcfEndpoint settings query)) = query.list := by
  have mark : '?' ∉ settings.text.drop 2 := fun member =>
    settings.no_query (List.mem_of_mem_drop member)
  have hash : '#' ∉ settings.text.drop 2 := fun member =>
    settings.no_fragment (List.mem_of_mem_drop member)
  rw [constructNvcfEndpoint, query.written]
  split
  next => rw [queryOf_signIn (by simp [mark]) (by simp [hash]), parseQsl_urlencode]
  next => rw [queryOf_signIn settings.no_query settings.no_fragment, parseQsl_urlencode]

-- Each key at its first place, with its last value.
theorem connected_pairs (settings : SignalingEndpoint) (query : QueryParams) :
    parseQsl (queryOf (connectUrl settings query)) = query.dict.entries := by
  rw [connectUrl, queryOf_signIn settings.no_query settings.no_fragment, parseQsl_urlencode]

/-- The client's query reaches NVCF on both ways exactly if no key comes twice. -/
theorem forwarded_iff (settings : SignalingEndpoint) (query : List Char) :
    Forwarded settings query ↔ ((parseQsl query).map Prod.fst).Nodup := by
  have connected := connected_pairs settings (.ofString query)
  constructor
  next =>
    intro forwarded
    exact (OrderedMap.ofList_entries_iff _).mp (connected.symm.trans forwarded.connected)
  next =>
    intro nodup
    constructor
    next => exact started_pairs settings (.ofString query)
    next => exact connected.trans (OrderedMap.ofList_entries nodup)

def grpc : SignalingEndpoint := ⟨"wss://grpc.nvcf.nvidia.com".toList, by decide, by decide⟩

theorem repeated_not_forwarded : ¬ Forwarded grpc "codec=h264&codec=av1".toList := by
  intro forwarded
  have connected := forwarded.connected
  rw [connected_pairs] at connected
  exact absurd connected (by decide)

end StreamingPortal.Sessions.SignIn
