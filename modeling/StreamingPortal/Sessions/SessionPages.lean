import StreamingPortal.Sessions.Listing

set_option autoImplicit false

/-! # Whether the pages of `get_sessions` partition the result -/

namespace StreamingPortal.Sessions

open Pagination

/-! ## The orders the database may answer in -/

inductive SortKey
  | null
  | number (n : Int)
  | text (s : String)
deriving DecidableEq, Repr

def SessionOrder.key (s : SessionInstance) : SessionOrder → SortKey
  | .id => .text s.row.id
  | .appTitle => (s.app.map fun app => SortKey.text app.title).getD .null
  | .userName => .text s.row.userName
  | .startDate => .number s.row.startDate
  | .endDate => (s.row.endDate.map SortKey.number).getD .null
  | .duration => .number s.row.duration

/-- How the database compares values in `ORDER BY`; where it puts `NULL` is up to it. -/
structure Collation where
  le : SortKey → SortKey → Bool
  trans : ∀ x y z, le x y = true → le y z = true → le x z = true
  total : ∀ x y, (le x y || le y x) = true

def Collation.sessionLe (c : Collation) (order : SessionOrder) (descending : Bool)
    (s t : SessionInstance) : Bool :=
  if descending then c.le (order.key t) (order.key s) else c.le (order.key s) (order.key t)

theorem Collation.sessionLe_trans (c : Collation) (order : SessionOrder) (descending : Bool)
    (s t u : SessionInstance) (first : c.sessionLe order descending s t = true)
    (second : c.sessionLe order descending t u = true) :
    c.sessionLe order descending s u = true := by
  unfold Collation.sessionLe at first second ⊢
  split at first
  next down =>
    simp only [down, if_true] at second ⊢
    exact c.trans _ _ _ second first
  next up =>
    simp only [up] at second ⊢
    exact c.trans _ _ _ first second

theorem Collation.sessionLe_total (c : Collation) (order : SessionOrder) (descending : Bool)
    (s t : SessionInstance) :
    (c.sessionLe order descending s t || c.sessionLe order descending t s) = true := by
  unfold Collation.sessionLe
  split
  · exact c.total _ _
  · exact c.total _ _

/-- One answer of the database: sorted, and with equal keys in any order. -/
structure Arrangement (c : Collation) where
  arrange : SessionOrder → Bool → List SessionInstance → List SessionInstance
  perm : ∀ order descending l, (arrange order descending l).Perm l
  sorted : ∀ order descending l, Sorted (c.sessionLe order descending) (arrange order descending l)

def Collation.sorting (c : Collation) : Arrangement c where
  arrange order descending l := l.mergeSort (c.sessionLe order descending)
  perm _ _ l := List.mergeSort_perm l _
  sorted order descending l :=
    List.pairwise_mergeSort (c.sessionLe_trans order descending)
      (c.sessionLe_total order descending) l

def Arrangement.swapping {c : Collation} (a : Arrangement c) (i : Nat) : Arrangement c where
  arrange order descending l :=
    swapTied (c.sessionLe order descending) i (a.arrange order descending l)
  perm order descending l := (swapTied_perm _ i _).trans (a.perm order descending l)
  sorted order descending l := swapTied_sorted i (a.sorted order descending l)

def Config.answering {c : Collation} (cfg : Config) (a : Arrangement c) : Config :=
  { cfg with arrange := a.arrange, arrange_perm := a.perm }

/-! ## All the pages of one request -/

def ListRequest.atPage (l : ListRequest) (page : Int) : ListRequest := { l with page := page }

def servedPage (cfg : Config) (w : World) (admin : Bool) (l : ListRequest) (counted fetched : Db) :
    Option Page :=
  match serve cfg w 0 admin (l.moments counted fetched) (getSessions l) with
  | some (.response ⟨200, .page page, _, _⟩) => some page
  | _ => none

def ListRequest.matching (l : ListRequest) (admin : Bool) (db : Db) : List SessionInstance :=
  db.selectSessions (l.scope admin).matches

/--
Every page of the request is served, the first to the last one contain each matching
session exactly once, and `total_size` is their number.
-/
def PagesPartition {c : Collation} (cfg : Config) (w : World) (admin : Bool) (db : Db)
    (l : ListRequest) (answers : Nat → Arrangement c) : Prop :=
  ∃ (pages : Nat → Page) (totalPages : Nat),
    (∀ k : Nat, servedPage (cfg.answering (answers k)) w admin (l.atPage (k + 1)) db db =
        some (pages k) ∧
      (pages k).totalSize = (l.matching admin db).length ∧ (pages k).totalPages = totalPages) ∧
    ((List.range totalPages).flatMap fun k => (pages k).items).Perm
      ((l.matching admin db).map SessionResponse.ofInstance)

theorem totalPages_eq (total : Nat) {size : Nat} (positive : 0 < size) :
    totalPages total size = ((total + size - 1) / size : Nat) := by
  have numerator : (total : Int) + size - 1 = (total + size - 1 : Nat) := by omega
  rw [totalPages, numerator]
  exact (Int.natCast_ediv _ _).symm

theorem lt_totalPages {total size k : Nat} (positive : 0 < size) :
    k < (total + size - 1) / size ↔ k * size < total := by
  rw [Nat.lt_iff_add_one_le, Nat.le_div_iff_mul_le positive, Nat.succ_mul]
  omega

section Served

variable {cfg : Config} {l : ListRequest} {order : SessionOrder}

theorem servedPage_atPage (cfg : Config) (size : 5 ≤ l.pageSize)
    (field : sessionOrderFields.lookup l.fieldName = some order) (w : World) (admin : Bool)
    (counted fetched : Db) (k : Nat) :
    servedPage cfg w admin (l.atPage (k + 1)) counted fetched =
      some (sessionsPage (l.atPage (k + 1)) (counted.sessions.count (l.scope admin).matches)
        (page l.pageSize.toNat k
          (cfg.arrange order l.descending (l.matching admin fetched)))) := by
  have valid : (l.atPage (k + 1)).invalidValues = [] := by
    have first : ¬ (k : Int) + 1 < 1 := by omega
    have large : ¬ l.pageSize < 5 := by omega
    simp [ListRequest.invalidValues, ListRequest.atPage, first, large]
  have offset : (((l.atPage (k + 1)).page - 1) * (l.atPage (k + 1)).pageSize).toNat =
      k * l.pageSize.toNat := by
    have nonneg : 0 ≤ l.pageSize := by omega
    simp only [ListRequest.atPage, Int.add_sub_cancel]
    rw [Int.toNat_mul (Int.natCast_nonneg k) nonneg, Int.toNat_natCast]
  have served := serve_getSessions cfg (l := l.atPage (k + 1)) valid field w 0 admin
    counted fetched
  simp only [servedPage, served, fetchedRows, offset]
  rfl

theorem pagesPartition_iff_perm {c : Collation} (size : 5 ≤ l.pageSize)
    (field : sessionOrderFields.lookup l.fieldName = some order) (w : World) (admin : Bool)
    (db : Db) (answers : Nat → Arrangement c) :
    PagesPartition cfg w admin db l answers ↔
      (((List.range (((l.matching admin db).length + l.pageSize.toNat - 1) /
        l.pageSize.toNat)).flatMap fun k => page l.pageSize.toNat k
          ((answers k).arrange order l.descending (l.matching admin db))).map
            SessionResponse.ofInstance).Perm
        ((l.matching admin db).map SessionResponse.ofInstance) := by
  have served (k : Nat) := servedPage_atPage (cfg.answering (answers k)) size field w admin
    db db k
  have total : db.sessions.count (l.scope admin).matches = (l.matching admin db).length := by
    simp [ListRequest.matching, Db.selectSessions, Table.count_eq_length]
  have positive : 0 < l.pageSize.toNat := by omega
  have natural : ((l.pageSize.toNat : Nat) : Int) = l.pageSize := by omega
  have last := totalPages_eq (l.matching admin db).length positive
  rw [natural] at last
  rw [List.map_flatMap]
  constructor
  · rintro ⟨pages, n, answered, perm⟩
    have same (k : Nat) := Option.some.inj ((served k).symm.trans (answered k).1)
    have bound : ((l.matching admin db).length + l.pageSize.toNat - 1) / l.pageSize.toNat = n := by
      have pagesOf := (answered 0).2.2
      rw [← same 0, total] at pagesOf
      exact Int.natCast_inj.mp (last.symm.trans pagesOf)
    rw [bound]
    simp only [← same] at perm
    exact perm
  · intro perm
    refine ⟨_, _, fun k => ⟨served k, total, ?_⟩, perm⟩
    rw [total]
    exact last

theorem matching_nodup (l : ListRequest) (admin : Bool) (db : Db) :
    ((l.matching admin db).map fun s => s.row.id).Nodup := by
  have ids : ((l.matching admin db).map fun s => s.row.id) =
      (db.sessions.select (l.scope admin).matches).map SessionModel.id := by
    simp [ListRequest.matching, Db.selectSessions, Function.comp_def]
  rw [ids]
  exact db.sessions.keys_nodup.sublist (List.filter_sublist.map _)

theorem pagesPartition_of_together {c : Collation} (size : 5 ≤ l.pageSize)
    (field : sessionOrderFields.lookup l.fieldName = some order) (w : World) (admin : Bool)
    (db : Db) (together : TiesTogether (c.sessionLe order l.descending) l.pageSize.toNat
      (l.matching admin db)) (answers : Nat → Arrangement c) :
    PagesPartition cfg w admin db l answers := by
  have positive : 0 < l.pageSize.toNat := by omega
  rw [pagesPartition_iff_perm size field]
  refine (pages_perm (c.sessionLe_total order l.descending) positive ?_
    (fun k => (answers k).perm order l.descending _)
    (fun k => (answers k).sorted order l.descending _) together).map _
  -- The page after the last would start behind the last session.
  exact Nat.le_of_not_lt fun more => Nat.lt_irrefl _ ((lt_totalPages positive).mpr more)

theorem overlapping_of_crossing {c : Collation} (cfg : Config) (size : 5 ≤ l.pageSize)
    (field : sessionOrderFields.lookup l.fieldName = some order) (w : World) (admin : Bool)
    (db : Db) (crossing : ¬ TiesTogether (c.sessionLe order l.descending) l.pageSize.toNat
      (l.matching admin db)) :
    ∃ answers : Nat → Arrangement c, ¬ PagesPartition cfg w admin db l answers := by
  have positive : 0 < l.pageSize.toNat := by omega
  obtain ⟨k, u, more, first, second⟩ := exists_repeated
    (c.sessionLe_trans order l.descending) (c.sessionLe_total order l.descending) positive
    (c.sorting.perm order l.descending _) (c.sorting.sorted order l.descending _) crossing
  -- Only the page after the boundary is answered in the other order.
  refine ⟨fun j => if j = k + 1 then c.sorting.swapping ((k + 1) * l.pageSize.toNat - 1)
    else c.sorting, fun partition => ?_⟩
  rw [pagesPartition_iff_perm size field] at partition
  have ids := partition.map fun r => r.session.id
  simp only [List.map_map, List.map_flatMap, ← page_map] at ids
  refine not_perm_of_repeated (u := u.row.id) (matching_nodup l admin db)
    ((lt_totalPages positive).mpr more) ?_ ?_ ids
  · rw [if_neg (Nat.ne_of_lt (Nat.lt_succ_self k)), page_map]
    exact List.mem_map_of_mem first
  · rw [if_pos rfl, page_map]
    exact List.mem_map_of_mem second

end Served

/--
The pages partition the result, in whatever order the database answers each query, if
and only if no sessions with equal sort keys have a page boundary between them.
-/
theorem pagesPartition_iff (c : Collation) (cfg : Config) (w : World) (admin : Bool) (db : Db)
    (l : ListRequest) (order : SessionOrder) (size : 5 ≤ l.pageSize)
    (field : sessionOrderFields.lookup l.fieldName = some order) :
    (∀ answers : Nat → Arrangement c, PagesPartition cfg w admin db l answers) ↔
      TiesTogether (c.sessionLe order l.descending) l.pageSize.toNat (l.matching admin db) := by
  constructor
  · intro partition
    by_contra crossing
    obtain ⟨answers, overlapping⟩ := overlapping_of_crossing cfg size field w admin db
      crossing
    exact overlapping (partition answers)
  · exact fun together => pagesPartition_of_together size field w admin db together

theorem together_by_id {c : Collation}
    (bytewise : ∀ s t, c.le (.text s) (.text t) = true → c.le (.text t) (.text s) = true → s = t)
    (l : ListRequest) (admin : Bool) (db : Db) (descending : Bool) (size : Nat) :
    TiesTogether (c.sessionLe .id descending) size (l.matching admin db) := by
  have ids := matching_nodup l admin db
  refine tiesTogether_of_antisymm (c.sessionLe_total .id descending) ids.of_map size ?_
  intro s here t there above below
  refine List.inj_on_of_nodup_map ids there here ?_
  unfold Collation.sessionLe at above below
  split at above
  next down =>
    rw [if_pos down] at below
    exact bytewise _ _ above below
  next up =>
    rw [if_neg up] at below
    exact bytewise _ _ below above

def SortKey.le : SortKey → SortKey → Bool
  | .null, _ => true
  | .number m, .number n => decide (m ≤ n)
  | .number _, .text _ => true
  | .text s, .text t => decide (s ≤ t)
  | _, _ => false

/-- The order of the default database. -/
def binary : Collation where
  le := SortKey.le
  trans x y z first second := by
    cases x <;> cases y <;> cases z <;> simp only [SortKey.le, decide_eq_true_eq] at * <;>
      first | contradiction | exact Int.le_trans first second | exact String.le_trans first second
  total x y := by
    cases x <;> cases y <;> simp [SortKey.le, Int.le_total, String.le_total]

namespace Sample

def sixSessions : Db :=
  { (start none 0).store with
    sessions := ⟨["a", "b", "c", "d", "e", "f"].map fun id => session id none, by decide⟩ }

def listOwn (orderBy : String) : ListRequest where
  user := user
  filteredStatus := none
  filteredApp := none
  own := true
  page := 1
  pageSize := 5
  orderBy := orderBy

end Sample

theorem pagesPartition_byId :
    PagesPartition (Sample.config 1) (Sample.start none 0).world false Sample.sixSessions
      (Sample.listOwn "-id") binary.sorting.swapping :=
  (pagesPartition_iff binary (Sample.config 1) _ false Sample.sixSessions (Sample.listOwn "-id") .id
    (by decide) (by decide)).mpr (by decide) binary.sorting.swapping

/-- All sessions of one user have the same name of the user. -/
theorem pagesPartition_fails :
    ∃ answers : Nat → Arrangement binary,
      ¬ PagesPartition (Sample.config 1) (Sample.start none 0).world false Sample.sixSessions
        (Sample.listOwn "user_name") answers := by
  have field : sessionOrderFields.lookup (Sample.listOwn "user_name").fieldName =
      some .userName := by decide
  exact overlapping_of_crossing (Sample.config 1) (by decide) field _ false _ (by decide)

end StreamingPortal.Sessions
