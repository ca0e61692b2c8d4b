import Synapse.Service.Access

/-!
# Project enumeration

Model of `ListProjectsQuery`, of `CatalogProjectListProvider` and of the access wrapper of
`list_projects`. A `frozenset` is a list without repetition, compared by its members.
-/

namespace Synapse.Service

def projectListLimitMin : ℕ := 1
def projectListLimitMax : ℕ := 100
def projectListOffsetMax : ℕ := 100000
def projectListVisibilityMax : ℕ := 500

/-- A page request, with the projects it is restricted to. -/
structure ListProjectsQuery where
  limit : ℕ
  offset : ℕ
  visibleProjectIds : List Text
  limit_bounds : projectListLimitMin ≤ limit ∧ limit ≤ projectListLimitMax
  offset_le : offset ≤ projectListOffsetMax
  visible_length : visibleProjectIds.length ≤ projectListVisibilityMax
  visible_valid : ∀ projectId ∈ visibleProjectIds, projectId ≠ [] ∧ 0 ∉ projectId
  visible_nodup : visibleProjectIds.Nodup
  visible_sorted : visibleProjectIds.Pairwise (· ≤ ·)

namespace ListProjectsQuery

/-- `tuple(sorted(seen))`. -/
def sorted (visible : List Text) : List Text :=
  visible.dedup.insertionSort (· ≤ ·)

variable {visible : List Text}

theorem mem_sorted {projectId : Text} :
    projectId ∈ sorted visible ↔ projectId ∈ visible := by
  simp [sorted]

theorem length_sorted_le (visible : List Text) : (sorted visible).length ≤ visible.length := by
  rw [sorted, List.length_insertionSort]
  exact (List.dedup_sublist visible).length_le

theorem nodup_sorted (visible : List Text) : (sorted visible).Nodup :=
  (List.perm_insertionSort _ _).nodup_iff.2 visible.nodup_dedup

theorem pairwise_sorted (visible : List Text) : (sorted visible).Pairwise (· ≤ ·) :=
  List.pairwise_insertionSort _ _

/-- The `ListProjectsQuery` constructor. -/
def create (limit offset : ℤ) (visible : List Text) : Except AccessFailure ListProjectsQuery :=
  if limits : projectListLimitMin ≤ limit ∧ limit ≤ projectListLimitMax then
    if offsets : 0 ≤ offset ∧ offset ≤ projectListOffsetMax then
      if short : visible.length ≤ projectListVisibilityMax then
        if valid : ∀ projectId ∈ visible, projectId ≠ [] ∧ 0 ∉ projectId then
          .ok
            { limit := limit.toNat
              offset := offset.toNat
              visibleProjectIds := sorted visible
              limit_bounds := by omega
              offset_le := by omega
              visible_length := (length_sorted_le visible).trans short
              visible_valid := fun projectId present => valid projectId (mem_sorted.1 present)
              visible_nodup := nodup_sorted visible
              visible_sorted := pairwise_sorted visible }
        else .error (.value "visible_project_ids must contain non-empty strings")
      else .error (.value "visible_project_ids exceeds the visibility limit")
    else
      .error (.value ("offset must be between 0 and 100000, got " ++ toString offset))
  else
    .error (.value ("limit must be between 1 and 100, got " ++ toString limit))

theorem create_eq_ok {limit offset : ℤ} {query : ListProjectsQuery}
    (created : create limit offset visible = .ok query) :
    query.limit = limit.toNat ∧ query.offset = offset.toNat ∧
      ∀ projectId, projectId ∈ query.visibleProjectIds ↔ projectId ∈ visible := by
  unfold create at created
  split at created
  · split at created
    · split at created
      · split at created
        · cases created
          exact ⟨rfl, rfl, fun projectId => mem_sorted⟩
        · cases created
      · cases created
    · cases created
  · cases created

theorem create_unrestricted (query : ListProjectsQuery) :
    ∃ unrestricted, create query.limit query.offset [] = .ok unrestricted := by
  have limits : (projectListLimitMin : ℤ) ≤ query.limit ∧ (query.limit : ℤ) ≤ projectListLimitMax := by
    have bounds := query.limit_bounds
    omega
  have offsets : (0 : ℤ) ≤ query.offset ∧ (query.offset : ℤ) ≤ projectListOffsetMax := by
    have bound := query.offset_le
    omega
  unfold create
  rw [dif_pos limits, dif_pos offsets, dif_pos (show [].length ≤ _ from Nat.zero_le _),
    dif_pos (by simp)]
  exact ⟨_, rfl⟩

end ListProjectsQuery

/-- One registered project. -/
structure ProjectListItem where
  projectId : Text
  workspaceName : Option Text
  gitBranch : Option Text
  workspacePath : Text
  deriving DecidableEq

structure ProjectListPage where
  projects : List ProjectListItem
  nextOffset : Option ℕ
  total : ℕ
  deriving DecidableEq

/-- A row of the catalog; a field is missing where it does not hold a `str`. -/
structure CatalogRow where
  projectId : Option Text
  workspacePath : Option Text
  name : Option Text
  gitBranch : Option Text
  deriving DecidableEq

/-- `value if type(value) is str and value else None`. -/
def nonemptyText (value : Option Text) : Option Text :=
  value.filter (· ≠ [])

/-- What one row contributes to an unrestricted enumeration. -/
def CatalogRow.item (row : CatalogRow) : Option ProjectListItem := do
  let projectId ← nonemptyText row.projectId
  let workspacePath ← nonemptyText row.workspacePath
  return ⟨projectId, nonemptyText row.name, nonemptyText row.gitBranch, workspacePath⟩

/-- A catalog-like object, and how many of its rows one scan reads. -/
structure CatalogProjectListProvider where
  /-- `list_projects(limit=...)` of the catalog, where it has that method. -/
  listProjects : Option (ℕ → Except AccessFailure (List CatalogRow))
  scanLimit : ℕ
  scanLimit_bounds : 1 ≤ scanLimit ∧ scanLimit ≤ projectListVisibilityMax

namespace CatalogProjectListProvider

/-- The rows of one scan. -/
def rows (provider : CatalogProjectListProvider) : Except AccessFailure (List CatalogRow) :=
  match provider.listProjects with
  | none => .error (.value "catalog does not support project enumeration")
  | some listProjects => listProjects provider.scanLimit

/-- The items that the loop over the rows appends. -/
def items (query : ListProjectsQuery) (rows : List CatalogRow) : List ProjectListItem :=
  (rows.filterMap CatalogRow.item).filter fun item => Passes query.visibleProjectIds item.projectId

def page (query : ListProjectsQuery) (items : List ProjectListItem) : ProjectListPage :=
  let projects := (items.drop query.offset).take query.limit
  let consumed := query.offset + projects.length
  { projects
    nextOffset := if consumed < items.length then some consumed else none
    total := items.length }

/-- `__call__`. -/
def call (provider : CatalogProjectListProvider) (query : ListProjectsQuery) :
    Except AccessFailure ProjectListPage :=
  provider.rows.map fun rows => page query (items query rows)

end CatalogProjectListProvider

/-- `LocalAgentRuntimeService.list_projects`. -/
def listProjects (provider : Option CatalogProjectListProvider) (query : ListProjectsQuery) :
    Except AccessFailure ProjectListPage :=
  match provider with
  | none => .error (.invalidRequest "project list is unavailable")
  | some provider => provider.call query

/-- Principal and policy of one connection. -/
structure AccessControlled where
  principal : Principal
  authorizer : Authorizer

namespace AccessControlled

/-- The query that `list_projects` hands to its delegate. -/
def effectiveQuery (service : AccessControlled) (query : ListProjectsQuery) :
    Except AccessFailure ListProjectsQuery := do
  let visible ← service.authorizer.visibleProjectIds service.principal .projectList
  raiseIf (visible = some []) .permissionDenied
  let effective := narrowed visible query.visibleProjectIds
  if effective.toFinset ≠ query.visibleProjectIds.toFinset then
    ListProjectsQuery.create query.limit query.offset effective
  else return query

/-- `AccessControlledAgentRuntimeService.list_projects`. -/
def listProjects (service : AccessControlled) (provider : Option CatalogProjectListProvider)
    (query : ListProjectsQuery) : Except AccessFailure ProjectListPage := do
  Service.listProjects provider (← service.effectiveQuery query)

/-- The policy lets the principal pass `authorize_project` with `project.list`. -/
def Listable (service : AccessControlled) (projectId : Text) : Prop :=
  service.authorizer.authorizeProject service.principal .projectList projectId = .ok ()

instance (service : AccessControlled) (projectId : Text) : Decidable (service.Listable projectId) :=
  inferInstanceAs (Decidable (_ = _))

section

variable {service : AccessControlled} {provider : CatalogProjectListProvider}
  {query handed : ListProjectsQuery} {rows : List CatalogRow} {page : ProjectListPage}
  {item : ProjectListItem} {visible : Option (List Text)}

/-! ### The query handed on -/

theorem effectiveQuery_eq_ok (found : service.effectiveQuery query = .ok handed) :
    ∃ visible, service.authorizer.visibleProjectIds service.principal .projectList = .ok visible ∧
      visible ≠ some [] ∧ handed.limit = query.limit ∧ handed.offset = query.offset ∧
      ∀ projectId, projectId ∈ handed.visibleProjectIds ↔
        projectId ∈ narrowed visible query.visibleProjectIds := by
  simp only [effectiveQuery, bind_eq_ok_iff, raiseIf_eq_ok_iff] at found
  rcases found with ⟨visible, seen, -, some, result⟩
  refine ⟨visible, seen, some, ?_⟩
  split at result
  · rcases ListProjectsQuery.create_eq_ok result with ⟨limit, offset, members⟩
    exact ⟨by simpa using limit, by simpa using offset, members⟩
  · rename_i same
    cases result
    refine ⟨rfl, rfl, fun projectId => ?_⟩
    have same := Finset.ext_iff.1 (not_not.1 same) projectId
    simpa using same.symm

theorem effectiveQuery_succeeds
    (seen : service.authorizer.visibleProjectIds service.principal .projectList = .ok visible)
    (some : visible ≠ some [])
    (simple : narrowed visible query.visibleProjectIds = query.visibleProjectIds ∨
      narrowed visible query.visibleProjectIds = []) :
    ∃ handed, service.effectiveQuery query = .ok handed := by
  simp only [effectiveQuery, seen, ok_bind, raiseIf_of_not _ some]
  split
  · rename_i changed
    rcases simple with same | empty
    · exact absurd (congrArg List.toFinset same) changed
    · rw [empty]
      exact query.create_unrestricted
  · exact ⟨query, rfl⟩

/-! ### What is enumerated -/

theorem mem_items_iff (found : service.effectiveQuery query = .ok handed)
    (seen : service.authorizer.visibleProjectIds service.principal .projectList = .ok visible) :
    item ∈ CatalogProjectListProvider.items handed rows ↔
      item ∈ rows.filterMap CatalogRow.item ∧
        Passes (narrowed visible query.visibleProjectIds) item.projectId := by
  rcases effectiveQuery_eq_ok found with ⟨other, again, -, -, -, members⟩
  cases seen.symm.trans again
  unfold CatalogProjectListProvider.items
  rw [List.mem_filter, decide_eq_true_eq, passes_congr members]

theorem listProjects_eq_ok (scanned : provider.rows = .ok rows)
    (listed : service.listProjects (some provider) query = .ok page) :
    ∃ handed, service.effectiveQuery query = .ok handed ∧
      page = CatalogProjectListProvider.page handed
        (CatalogProjectListProvider.items handed rows) := by
  simp only [listProjects, bind_eq_ok_iff] at listed
  rcases listed with ⟨handed, found, called⟩
  refine ⟨handed, found, ?_⟩
  simp only [Service.listProjects, CatalogProjectListProvider.call, scanned, Except.map,
    Except.ok.injEq] at called
  exact called.symm

theorem listProjects_of_effectiveQuery (scanned : provider.rows = .ok rows)
    (found : service.effectiveQuery query = .ok handed) :
    service.listProjects (some provider) query =
      .ok (CatalogProjectListProvider.page handed
        (CatalogProjectListProvider.items handed rows)) := by
  simp only [listProjects, found, ok_bind, Service.listProjects, CatalogProjectListProvider.call,
    scanned, Except.map]

theorem mem_of_mem_page {items : List ProjectListItem}
    (present : item ∈ (CatalogProjectListProvider.page query items).projects) : item ∈ items :=
  List.mem_of_mem_drop (List.mem_of_mem_take present)

/-! ### Confinement -/

/-- Every project on the page is one the principal may list, and so is every project that its total
counts. -/
def Confined (service : AccessControlled) (query : ListProjectsQuery) (rows : List CatalogRow)
    (page : ProjectListPage) : Prop :=
  (∀ item ∈ page.projects, service.Listable item.projectId) ∧
    ∃ handed, service.effectiveQuery query = .ok handed ∧
      page.total = (CatalogProjectListProvider.items handed rows).length ∧
      ∀ item ∈ CatalogProjectListProvider.items handed rows, service.Listable item.projectId

/-- When the catalog's rows are enumerated within the policy. A policy that lists its projects needs
one of them among the requested ones, where the request names any; the daemon's policy needs ids
that an access context may hold. -/
def Contained (service : AccessControlled) (query : ListProjectsQuery) (rows : List CatalogRow) :
    Prop :=
  match service.authorizer.visibleProjectIds service.principal .projectList with
  | .error _ => True
  | .ok none =>
    ∀ item ∈ rows.filterMap CatalogRow.item,
      Passes query.visibleProjectIds item.projectId → IsAccessText item.projectId
  | .ok (some visible) =>
    visible = [] ∨ query.visibleProjectIds = [] ∨
      (∃ projectId ∈ visible, projectId ∈ query.visibleProjectIds) ∨
      ∀ item ∈ rows.filterMap CatalogRow.item, item.projectId ∈ visible

/-- What the provider enumerates is listable exactly when the catalog is contained. -/
theorem items_listable_iff (found : service.effectiveQuery query = .ok handed) :
    (∀ item ∈ CatalogProjectListProvider.items handed rows, service.Listable item.projectId) ↔
      Contained service query rows := by
  rcases effectiveQuery_eq_ok found with ⟨visible, seen, some, -⟩
  simp only [mem_items_iff found seen, and_imp]
  unfold Contained
  rw [seen]
  cases visible with
  | none =>
    refine forall₂_congr fun item _ => imp_congr Iff.rfl ?_
    rw [Listable, Authorizer.authorizeProject_iff seen]
    exact and_iff_left admits_none
  | some visible =>
    have nonempty : visible ≠ [] := fun empty => some (congrArg Option.some empty)
    simp only [Listable, Authorizer.authorizeProject_iff_mem seen]
    by_cases leaks : narrowed (Option.some visible) query.visibleProjectIds = []
    · -- The restriction became empty: everything passes.
      rcases (narrowed_eq_nil_iff nonempty).1 leaks with ⟨restricted, disjoint⟩
      rw [leaks]
      constructor
      · intro all
        exact Or.inr <| Or.inr <| Or.inr fun item present => all item present passes_nil
      · rintro (empty | unrestricted | ⟨projectId, first, second⟩ | all) item present -
        · exact absurd empty nonempty
        · exact absurd unrestricted restricted
        · exact absurd second (disjoint projectId first)
        · exact all item present
    · have admitted : ∀ item ∈ rows.filterMap CatalogRow.item,
          Passes (narrowed (Option.some visible) query.visibleProjectIds) item.projectId →
            item.projectId ∈ visible := by
        intro item _ passes
        exact admits_some.1 ((passes_narrowed (Or.inr leaks)).1 passes).1
      refine ⟨fun _ => ?_, fun _ => admitted⟩
      by_contra outside
      simp only [not_or, not_exists, not_and] at outside
      exact leaks ((narrowed_eq_nil_iff nonempty).2 ⟨outside.2.1, outside.2.2.1⟩)

theorem effectiveQuery_of_not_contained (outside : ¬Contained service query rows) :
    ∃ handed, service.effectiveQuery query = .ok handed := by
  unfold Contained at outside
  split at outside
  · exact absurd trivial outside
  · rename_i seen
    exact effectiveQuery_succeeds seen nofun (Or.inl rfl)
  · rename_i visible seen
    simp only [not_or, not_exists, not_and] at outside
    rcases outside with ⟨nonempty, restricted, disjoint, -⟩
    refine effectiveQuery_succeeds seen (fun same => nonempty (Option.some.inj same)) (Or.inr ?_)
    exact (narrowed_eq_nil_iff nonempty).2 ⟨restricted, disjoint⟩

/-- Enumeration stays within the policy exactly when the catalog is contained. -/
theorem listProjects_confined_iff (service : AccessControlled)
    (provider : CatalogProjectListProvider) (query : ListProjectsQuery) :
    (∀ rows page, provider.rows = .ok rows →
        service.listProjects (some provider) query = .ok page → Confined service query rows page) ↔
      ∀ rows, provider.rows = .ok rows → Contained service query rows := by
  constructor
  · intro confined rows scanned
    by_contra outside
    rcases effectiveQuery_of_not_contained outside with ⟨handed, found⟩
    have listed := listProjects_of_effectiveQuery scanned found
    rcases confined rows _ scanned listed with ⟨-, other, again, -, listable⟩
    cases found.symm.trans again
    exact outside ((items_listable_iff found).1 listable)
  · intro contained rows page scanned listed
    rcases listProjects_eq_ok scanned listed with ⟨handed, found, rfl⟩
    have listable := (items_listable_iff found).2 (contained rows scanned)
    exact ⟨fun item present => listable item (mem_of_mem_page present), handed, found, rfl, listable⟩

end

/-! A request that names only a project outside the policy. -/

namespace Leak

def subject : AccessText := ⟨Text.ofString "alice", by decide⟩

def granted : AccessText := ⟨Text.ofString "p1", by decide⟩

/-- One grant of `project.list`, on `p1`. -/
def grant : AclGrant where
  subject := subject
  projectId := granted
  capabilities := {.projectList}
  threadIds := none
  capabilities_nonempty := Finset.singleton_nonempty _
  threadIds_nonempty := nofun

def service : AccessControlled := ⟨⟨subject⟩, .plain (.acl [grant])⟩

def row (projectId : String) : CatalogRow where
  projectId := some (Text.ofString projectId)
  workspacePath := some (Text.ofString "/w")
  name := none
  gitBranch := none

def provider : CatalogProjectListProvider where
  listProjects := some fun _ => .ok [row "p1", row "p2"]
  scanLimit := 500
  scanLimit_bounds := by decide

/-- `ListProjectsQuery(visible_project_ids=("p2",))`. -/
def query : Except AccessFailure ListProjectsQuery :=
  ListProjectsQuery.create 50 0 [Text.ofString "p2"]

end Leak

/-- The intersection with the request is empty, and the provider reads it as no restriction. -/
theorem foreign_request_lists_everything :
    ∃ query page, Leak.query = .ok query ∧
      Leak.service.listProjects (some Leak.provider) query = .ok page ∧
      page.total = 2 ∧ ∃ item ∈ page.projects, ¬Leak.service.Listable item.projectId := by
  have created : Leak.query.isOk := by decide
  cases built : Leak.query with
  | error failure => simp [built, Except.isOk, Except.toBool] at created
  | ok query =>
    have listed : (Leak.query.bind (Leak.service.listProjects (some Leak.provider))).toOption.any
        (fun page => page.total = 2 ∧
          ∃ item ∈ page.projects, ¬Leak.service.Listable item.projectId) = true := by
      decide
    rw [built] at listed
    cases answered : Leak.service.listProjects (some Leak.provider) query with
    | error failure => simp [Except.bind, answered, Except.toOption] at listed
    | ok page =>
      have shown := by simpa [Except.bind, answered, Except.toOption] using listed
      exact ⟨query, page, rfl, answered, shown.1, by simpa using shown.2⟩

end AccessControlled

end Synapse.Service
