import StreamingPortal.Apps.Listing
import StreamingPortal.Shared.CachedCalls

set_option autoImplicit false

/-!
# What is known of the NVCF functions between two requests to NVCF

`get_nvcf_functions` and `get_nvcf_deployment_details` keep their results for `nvcf_cache_ttl`;
publishing and deleting an application clears both caches. The caches are parameters.
-/

namespace StreamingPortal.Apps

open CachedCalls

variable {υ : Type}

/-- How the request of a call ends. -/
inductive NvcfAnswer (α : Type)
  | reply (r : α)
  -- `httpx` raises, or the body is not the expected JSON.
  | raised

/-! ## The functions -/

def readFunctions (_ : Unit) : NvcfAnswer NvcfReply → Option NvcfFunctions
  | .reply r => some (getNvcfFunctions r)
  | .raised => none

/-- The function that a reply has under these ids; of several the last one. -/
def NvcfReply.function? (r : NvcfReply) (functionId functionVersionId : String) :
    Option NvcfFunction :=
  match r with
  | .success functions =>
      functions.reverse.find? fun function =>
        function.id = functionId ∧ function.versionId = functionVersionId
  | .failure => none

/-- The status that a reply tells of an application. -/
def NvcfReply.status (r : NvcfReply) (uuids : Uuids υ) (app : PublishedApp υ) :
    NvcfFunctionStatus :=
  ((r.function? (uuids.str app.functionId) (uuids.str app.functionVersionId)).bind
    fun function => NvcfFunctionStatus.ofValue? function.status).getD .unknown

theorem getNvcfFunctions_get? (r : NvcfReply) (functionId functionVersionId : String) :
    (getNvcfFunctions r).get? (functionId, functionVersionId) =
      r.function? functionId functionVersionId := by
  cases r with
  | failure => rfl
  | success functions =>
      simp only [getNvcfFunctions, NvcfReply.function?]
      induction functions using List.reverseRecOn with
      | nil => rfl
      | append_singleton functions function ih =>
          rw [List.foldl_append, List.foldl_cons, List.foldl_nil, OrderedMap.get?_set, ih,
            List.reverse_append, List.reverse_singleton, List.singleton_append, List.find?_cons]
          by_cases same : function.id = functionId ∧ function.versionId = functionVersionId
          next => simp [same.1, same.2]
          next =>
            have other : ¬ (functionId, functionVersionId) = (function.id, function.versionId) := by
              rintro same'
              obtain ⟨rfl, rfl⟩ := Prod.mk.inj same'
              exact same ⟨rfl, rfl⟩
            simp [same, other]

theorem nvcfStatus_getNvcfFunctions (uuids : Uuids υ) (r : NvcfReply) (app : PublishedApp υ) :
    nvcfStatus uuids (getNvcfFunctions r) app = r.status uuids app := by
  rw [nvcfStatus, getNvcfFunctions_get?]
  rfl

/-- The statuses in a list are those that one reply tells. -/
def ToldBy (uuids : Uuids υ) (functions : NvcfFunctions) (answer : NvcfAnswer NvcfReply) : Prop :=
  ∃ r, answer = .reply r ∧ ∀ app, nvcfStatus uuids functions app = r.status uuids app

theorem toldBy_of_read {uuids : Uuids υ} {functions : NvcfFunctions}
    {answer : NvcfAnswer NvcfReply} (wasRead : readFunctions () answer = some functions) :
    ToldBy uuids functions answer := by
  cases answer with
  | raised => contradiction
  | reply r =>
      obtain rfl := Option.some.inj wasRead
      exact ⟨r, rfl, nvcfStatus_getNvcfFunctions uuids r⟩

/-! ## The deployment of a function -/

structure DeploymentSpecification where
  instanceType : Option String
  gpu : Option String
  clusters : List String
  minInstances : Option Int
  maxInstances : Option Int
  maxRequestConcurrency : Option Int

inductive DeploymentReply
  | success (deploymentSpecifications : List DeploymentSpecification)
  -- An error of NVCF, or no API key to ask it with.
  | failure

structure NvcfDeploymentDetails where
  instanceType : Option String
  gpu : Option String
  cluster : Option String
  minInstances : Option Int
  maxInstances : Option Int
  maxRequestConcurrency : Option Int
deriving DecidableEq

def getNvcfDeploymentDetails : DeploymentReply → Option NvcfDeploymentDetails
  | .failure => none
  | .success [] => some ⟨none, none, none, none, none, none⟩
  | .success (spec :: _) =>
      some
        { instanceType := spec.instanceType
          gpu := spec.gpu
          cluster := spec.clusters.head?
          minInstances := spec.minInstances
          maxInstances := spec.maxInstances
          maxRequestConcurrency := spec.maxRequestConcurrency }

-- That nothing could be retrieved is cached as well.
def readDetails (_ : υ × υ) : NvcfAnswer DeploymentReply → Option (Option NvcfDeploymentDetails)
  | .reply r => some (getNvcfDeploymentDetails r)
  | .raised => none

/-! ## Both caches along a run -/

section Follows

variable {functionCache : TtlCache Unit NvcfFunctions}
variable {detailsCache : TtlCache (υ × υ) (Option NvcfDeploymentDetails)}

structure FunctionsFollow (uuids : Uuids υ) (s : State functionCache)
    (events : List (Event Unit NvcfFunctions (NvcfAnswer NvcfReply))) : Prop where
  -- Whatever has been returned, NVCF told in one of its replies.
  returned : ∀ (p : Nat) functions, s.calls[p]? = some (.returned () functions) →
    ∃ stored, .stored stored ∈ events ∧ stored.time ≤ s.now ∧
      ToldBy uuids functions stored.reply
  -- A call asks NVCF unless the last reply that was stored is young enough.
  next : (lookUp functionCache s ()).calls = s.calls ++
    [match freshStored functionCache.ttl s.now () events with
      | some last => .returned () last.value
      | none => .asking ()]
  kept : ∀ last, freshStored functionCache.ttl s.now () events = some last →
    s.now < last.time + functionCache.ttl ∧ SinceCleared events last

structure DetailsFollow [DecidableEq υ] (s : State detailsCache)
    (events : List (Event (υ × υ) (Option NvcfDeploymentDetails) (NvcfAnswer DeploymentReply))) :
    Prop where
  -- Whatever has been returned, NVCF told of the same function and version.
  returned : ∀ (p : Nat) key details, s.calls[p]? = some (.returned key details) →
    ∃ stored r, .stored stored ∈ events ∧ stored.key = key ∧ stored.time ≤ s.now ∧
      stored.reply = .reply r ∧ details = getNvcfDeploymentDetails r
  next : ∀ key, (lookUp detailsCache s key).calls = s.calls ++ [.asking key] ∨
    ∃ last, (lookUp detailsCache s key).calls = s.calls ++ [.returned key last.value] ∧
      .stored last ∈ events ∧ last.key = key ∧ s.now < last.time + detailsCache.ttl ∧
      SinceCleared events last

theorem functionsFollow_run (uuids : Uuids υ) {start : Int} {acts : List (Action Unit _)}
    {s : State functionCache}
    (reached : Runs.run (step functionCache readFunctions) (init functionCache start) acts =
      some s) :
    FunctionsFollow uuids s (eventsOf functionCache readFunctions (init functionCache start) acts)
    where
  returned := by
    intro p functions returned
    obtain ⟨stored, of⟩ := traced_run reached p () functions returned
    exact ⟨stored, of.inside, of.past, toldBy_of_read of.wasRead⟩
  next := by
    rw [lookUp_calls, (holds_run reached).get?_single ()]
    cases freshStored functionCache.ttl s.now () _ <;> rfl
  kept := by
    intro last fresh
    obtain ⟨young, -, -, since⟩ := freshStored_cases fresh
    exact ⟨young, since⟩

theorem details_of_read {key : υ × υ} {answer : NvcfAnswer DeploymentReply}
    {details : Option NvcfDeploymentDetails} (wasRead : readDetails key answer = some details) :
    ∃ r, answer = .reply r ∧ details = getNvcfDeploymentDetails r := by
  cases answer with
  | raised => contradiction
  | reply r => exact ⟨r, rfl, (Option.some.inj wasRead).symm⟩

theorem detailsFollow_run [DecidableEq υ] {start : Int} {acts : List (Action (υ × υ) _)}
    {s : State detailsCache}
    (reached : Runs.run (step detailsCache readDetails) (init detailsCache start) acts = some s) :
    DetailsFollow s (eventsOf detailsCache readDetails (init detailsCache start) acts) where
  returned := by
    intro p key details returned
    obtain ⟨stored, of⟩ := traced_run reached p key details returned
    obtain ⟨r, reply, same⟩ := details_of_read of.wasRead
    exact ⟨stored, r, of.inside, of.sameKey, of.past, reply, same⟩
  next := by
    intro key
    rw [lookUp_calls]
    cases found : detailsCache.get? s.contents s.now key with
    | none => exact Or.inl rfl
    | some details =>
        obtain ⟨last, fresh, rfl⟩ := (holds_run reached).answer found
        obtain ⟨young, inside, same, since⟩ := freshStored_cases fresh
        exact Or.inr ⟨last, rfl, inside, same, young, since⟩

/--
However calls, replies of NVCF, clears by publishing or deleting and the clock interleave, both
functions answer with what NVCF told, for the function that was asked about and not too long ago.
-/
theorem nvcfCaches_follow [DecidableEq υ] (uuids : Uuids υ) {start : Int}
    {functionActs : List (Action Unit (NvcfAnswer NvcfReply))}
    {detailsActs : List (Action (υ × υ) (NvcfAnswer DeploymentReply))}
    {s : State functionCache} {s' : State detailsCache}
    (reached : Runs.run (step functionCache readFunctions) (init functionCache start)
      functionActs = some s)
    (reached' : Runs.run (step detailsCache readDetails) (init detailsCache start)
      detailsActs = some s') :
    FunctionsFollow uuids s
        (eventsOf functionCache readFunctions (init functionCache start) functionActs) ∧
      DetailsFollow s'
        (eventsOf detailsCache readDetails (init detailsCache start) detailsActs) :=
  ⟨functionsFollow_run uuids reached, detailsFollow_run reached'⟩

end Follows

namespace Sample

def functionCache : TtlCache Unit NvcfFunctions := .lru Unit NvcfFunctions 1 60

def detailsCache : TtlCache (String × String) (Option NvcfDeploymentDetails) :=
  .lru _ _ 128 60

/-- NVCF is asked, fails, is not asked again until an application is published, and answers. -/
def functionActs : List (Action Unit (NvcfAnswer NvcfReply)) :=
  [.call (), .reply 0 (.reply .failure), .tick 59, .call (), .clear, .call (),
    .reply 2 (.reply (.success [⟨"f1", "1", "", "ACTIVE"⟩])), .call ()]

def detailsActs : List (Action (String × String) (NvcfAnswer DeploymentReply)) :=
  [.call ("f1", "1"), .call ("f2", "1"), .reply 1 .raised,
    .reply 0 (.reply (.success [⟨none, some "L40S", ["east", "west"], some 1, some 2, none⟩])),
    .call ("f1", "1"), .call ("f2", "1")]

end Sample

theorem nvcfCaches_follow_sample :
    FunctionsFollow Sample.uuids
        ((Runs.run (step Sample.functionCache readFunctions) (init Sample.functionCache 0)
          Sample.functionActs).get (by decide))
        (eventsOf Sample.functionCache readFunctions (init Sample.functionCache 0)
          Sample.functionActs) ∧
      DetailsFollow
        ((Runs.run (step Sample.detailsCache readDetails) (init Sample.detailsCache 0)
          Sample.detailsActs).get (by decide))
        (eventsOf Sample.detailsCache readDetails (init Sample.detailsCache 0)
          Sample.detailsActs) :=
  nvcfCaches_follow Sample.uuids (Option.some_get _).symm (Option.some_get _).symm

end StreamingPortal.Apps
