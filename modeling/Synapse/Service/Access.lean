import Synapse.Python.Text
import Synapse.Foundation.Fallible
import Synapse.Foundation.Restriction

/-!
# Access policies

Model of the access context: `Principal`, `AclGrant`, `AclAuthorizer`, `DaemonAuthorizer` and
`ProjectScopeAuthorizer`. Their constructors refuse every invalid text and set, so the checks that
the methods repeat on a principal always succeed.
-/

namespace Synapse.Service

/-- What the access layer and the services below it raise. -/
inductive AccessFailure where
  | value (message : String)
  | invalidContext
  | permissionDenied
  | invalidRequest (message : String)
  /-- The exception of a host object. -/
  | host
  deriving DecidableEq, Repr

def maxAccessTextBytes : ℕ := 256

/-- `_validate_access_text`. -/
def validateAccessText (value : Text) (field : String) : Except AccessFailure Text :=
  if value = [] then .error (.value (field ++ " must not be empty"))
  else if 0 ∈ value then .error (.value (field ++ " must not contain NUL"))
  else
    match value.utf8Size? with
    | none => .error (.value (field ++ " must be valid UTF-8"))
    | some size =>
      if maxAccessTextBytes < size then .error (.value (field ++ " exceeds the length limit"))
      else .ok value

/-- A text that `_validate_access_text` returns. -/
def IsAccessText (value : Text) : Prop :=
  value ≠ [] ∧ 0 ∉ value ∧ ∃ size, value.utf8Size? = some size ∧ size ≤ maxAccessTextBytes

theorem validateAccessText_eq_ok_iff {value result : Text} {field : String} :
    validateAccessText value field = .ok result ↔ IsAccessText value ∧ value = result := by
  unfold validateAccessText IsAccessText
  by_cases empty : value = []
  · simp [empty]
  by_cases nul : 0 ∈ value
  · simp [empty, nul]
  cases measured : value.utf8Size? with
  | none => simp [empty, nul]
  | some size =>
    by_cases long : maxAccessTextBytes < size
    · simp [empty, nul, long]
    · simp [empty, nul, long, Nat.le_of_not_lt long]

instance (value : Text) : Decidable (IsAccessText value) :=
  decidable_of_iff ((validateAccessText value "text").toOption = some value) <| by
    rw [← and_iff_left (a := IsAccessText value) (rfl : value = value),
      ← @validateAccessText_eq_ok_iff value value "text"]
    cases validateAccessText value "text" <;> simp [Except.toOption]

/-- A text of an access context. -/
structure AccessText where
  text : Text
  valid : IsAccessText text
  deriving DecidableEq

/-- `ALL_RUNTIME_CAPABILITIES`. -/
inductive Capability where
  | sessionOpen | turnSubmit | turnCancel | turnSteer | turnApprovalRead | turnApprovalResume
  | sessionClose | sessionRead | sessionRebind | sessionThinking | sessionGoal
  | collaborationRead | collaborationControl
  | projectThinking | projectTasks | projectList | projectRegister
  | fsList | skillsList
  | sessionCreate | sessionDelete | sessionFork | sessionList | sessionMcpReload | sessionRename
  | sessionSearch | eventsRead | eventsWatch
  | gitStatus | gitDiff | workspaceRevert
  | artifactsStat | artifactsList | artifactsRead
  | attachmentsRead | attachmentsWrite
  | codexUsageRead | codexResetConsume
  | appsList | workspaceOpenExternal
  | screenshotRead | screenshotControl | sttControl
  | modelsRead | modelsWrite | mcpRead | mcpWrite
  deriving DecidableEq, Repr

/-- An identity that the composition root authenticated. -/
structure Principal where
  subject : AccessText
  deriving DecidableEq

/-- A session as a request names it. -/
structure SessionRef where
  projectId : Text
  threadId : Text
  deriving DecidableEq

/-- `_is_valid_ref`. -/
def SessionRef.Valid (session : SessionRef) : Prop :=
  IsAccessText session.projectId ∧ IsAccessText session.threadId

instance (session : SessionRef) : Decidable session.Valid :=
  inferInstanceAs (Decidable (_ ∧ _))

/-- One grant of capabilities on a project, or on some of its threads. -/
structure AclGrant where
  subject : AccessText
  projectId : AccessText
  capabilities : Finset Capability
  threadIds : Option (Finset AccessText)
  capabilities_nonempty : capabilities.Nonempty
  threadIds_nonempty : ∀ threads, threadIds = some threads → threads.Nonempty

/-- The grant gives the capability on the project, to some thread at least. -/
def AclGrant.Covers (grant : AclGrant) (principal : Principal) (capability : Capability)
    (projectId : Text) : Prop :=
  grant.subject = principal.subject ∧ grant.projectId.text = projectId ∧
    capability ∈ grant.capabilities

instance (grant : AclGrant) (principal : Principal) (capability : Capability) (projectId : Text) :
    Decidable (grant.Covers principal capability projectId) :=
  inferInstanceAs (Decidable (_ ∧ _))

/-- An unscoped policy: the grants of `AclAuthorizer`, or `DaemonAuthorizer`. -/
inductive Policy where
  | acl (grants : List AclGrant)
  | daemon

namespace Policy

/-- The subject of the daemon's own principal. -/
def daemonSubject : Text := Text.ofString "runtime-daemon"

/-- `authorize` of `AclAuthorizer` and of `DaemonAuthorizer`. -/
def authorize (policy : Policy) (principal : Principal) (capability : Capability)
    (session : SessionRef) : Except AccessFailure Unit := do
  raiseIf (¬session.Valid) .invalidContext
  match policy with
  | acl grants =>
    raiseIf
      (¬∃ grant ∈ grants, grant.Covers principal capability session.projectId ∧
        ∀ threads ∈ grant.threadIds, ∃ thread ∈ threads, thread.text = session.threadId)
      .permissionDenied
  | daemon => raiseIf (principal.subject.text ≠ daemonSubject) .permissionDenied

/-- `authorize_project` of `AclAuthorizer` and of `DaemonAuthorizer`. -/
def authorizeProject (policy : Policy) (principal : Principal) (capability : Capability)
    (projectId : Text) : Except AccessFailure Unit := do
  raiseIf (¬IsAccessText projectId) .invalidContext
  match policy with
  | acl grants =>
    raiseIf
      (¬∃ grant ∈ grants, grant.Covers principal capability projectId ∧ grant.threadIds = none)
      .permissionDenied
  | daemon => raiseIf (principal.subject.text ≠ daemonSubject) .permissionDenied

/-- `visible_project_ids` of `AclAuthorizer` and of `DaemonAuthorizer`. -/
def visibleProjectIds (policy : Policy) (principal : Principal) (capability : Capability) :
    Except AccessFailure (Option (List Text)) :=
  match policy with
  | acl grants =>
    .ok <| some <|
      ((grants.filter fun grant =>
          grant.subject = principal.subject ∧ grant.threadIds = none ∧
            capability ∈ grant.capabilities).map fun grant => grant.projectId.text).dedup
  | daemon =>
    if principal.subject.text ≠ daemonSubject then .error .permissionDenied else .ok none

variable {policy : Policy} {principal : Principal} {capability : Capability} {projectId : Text}

/-- A project is authorized exactly when it is among the visible ones. -/
theorem authorizeProject_iff {visible : Option (List Text)}
    (seen : policy.visibleProjectIds principal capability = .ok visible) :
    policy.authorizeProject principal capability projectId = .ok () ↔
      IsAccessText projectId ∧ Admits visible projectId := by
  cases policy with
  | acl grants =>
    simp only [visibleProjectIds, Except.ok.injEq] at seen
    subst seen
    simp only [authorizeProject, bind_eq_ok_iff, raiseIf_eq_ok_iff, not_not, admits_some,
      List.mem_dedup, List.mem_map, List.mem_filter, decide_eq_true_eq]
    unfold AclGrant.Covers
    constructor
    · rintro ⟨-, valid, grant, present, ⟨subject, project, held⟩, wide⟩
      exact ⟨valid, grant, ⟨present, subject, wide, held⟩, project⟩
    · rintro ⟨valid, grant, ⟨present, subject, wide, held⟩, project⟩
      exact ⟨⟨⟩, valid, grant, present, ⟨subject, project, held⟩, wide⟩
  | daemon =>
    simp only [visibleProjectIds] at seen
    split at seen
    · cases seen
    · rename_i daemon
      cases seen
      simpa [authorizeProject, bind_eq_ok_iff] using fun _ => daemon

theorem isAccessText_of_visible {visible : List Text}
    (seen : policy.visibleProjectIds principal capability = .ok (some visible))
    (present : projectId ∈ visible) : IsAccessText projectId := by
  cases policy with
  | acl grants =>
    simp only [visibleProjectIds, Except.ok.injEq, Option.some.injEq] at seen
    subst seen
    simp only [List.mem_dedup, List.mem_map] at present
    rcases present with ⟨grant, -, rfl⟩
    exact grant.projectId.valid
  | daemon =>
    simp only [visibleProjectIds] at seen
    split at seen <;> cases seen

end Policy

/-- The policy of a connection, narrowed to one project by `ProjectScopeAuthorizer`. -/
inductive Authorizer where
  | plain (policy : Policy)
  | confined (inner : Policy) (scope : AccessText)

namespace Authorizer

variable {policy inner : Policy} {scope : AccessText} {authorizer : Authorizer}
  {principal : Principal} {capability : Capability} {session : SessionRef}
  {projectId : Text} {visible : Option (List Text)}

def authorize (authorizer : Authorizer) (principal : Principal) (capability : Capability)
    (session : SessionRef) : Except AccessFailure Unit :=
  match authorizer with
  | plain policy => policy.authorize principal capability session
  | confined inner scope => do
      raiseIf (¬session.Valid) .invalidContext
      raiseIf (session.projectId ≠ scope.text) .permissionDenied
      inner.authorize principal capability session

def authorizeProject (authorizer : Authorizer) (principal : Principal) (capability : Capability)
    (projectId : Text) : Except AccessFailure Unit :=
  match authorizer with
  | plain policy => policy.authorizeProject principal capability projectId
  | confined inner scope => do
      raiseIf (¬IsAccessText projectId) .invalidContext
      raiseIf (projectId ≠ scope.text) .permissionDenied
      inner.authorizeProject principal capability projectId

def visibleProjectIds (authorizer : Authorizer) (principal : Principal)
    (capability : Capability) : Except AccessFailure (Option (List Text)) :=
  match authorizer with
  | plain policy => policy.visibleProjectIds principal capability
  | confined inner scope => do
      match ← inner.visibleProjectIds principal capability with
      | none => return some [scope.text]
      | some visible => return some (visible.filter (· = scope.text))

/-- What the visible projects of a confined policy are. -/
theorem visibleProjectIds_confined
    (seen : (confined inner scope).visibleProjectIds principal capability = .ok visible) :
    ∃ wide, inner.visibleProjectIds principal capability = .ok wide ∧
      ∃ narrow, visible = some narrow ∧
        ∀ projectId, projectId ∈ narrow ↔ projectId = scope.text ∧ Admits wide projectId := by
  simp only [visibleProjectIds, bind_eq_ok_iff] at seen
  rcases seen with ⟨wide, found, result⟩
  refine ⟨wide, found, ?_⟩
  cases wide with
  | none =>
    refine ⟨[scope.text], (Except.ok.inj result).symm, ?_⟩
    intro projectId
    simp
  | some wide =>
    refine ⟨_, (Except.ok.inj result).symm, ?_⟩
    intro projectId
    simp [and_comm]

theorem authorizeProject_iff
    (seen : authorizer.visibleProjectIds principal capability = .ok visible) :
    authorizer.authorizeProject principal capability projectId = .ok () ↔
      IsAccessText projectId ∧ Admits visible projectId := by
  cases authorizer with
  | plain policy => exact policy.authorizeProject_iff seen
  | confined inner scope =>
    rcases visibleProjectIds_confined seen with ⟨wide, found, narrow, rfl, members⟩
    simp only [authorizeProject, bind_eq_ok_iff, raiseIf_eq_ok_iff, not_not,
      inner.authorizeProject_iff found, admits_some, members]
    constructor
    · rintro ⟨-, valid, -, same, -, admitted⟩
      exact ⟨valid, same, admitted⟩
    · rintro ⟨valid, same, admitted⟩
      exact ⟨⟨⟩, valid, ⟨⟩, same, valid, admitted⟩

theorem isAccessText_of_visible {visible : List Text}
    (seen : authorizer.visibleProjectIds principal capability = .ok (some visible))
    (present : projectId ∈ visible) : IsAccessText projectId := by
  cases authorizer with
  | plain policy => exact policy.isAccessText_of_visible seen present
  | confined inner scope =>
    rcases visibleProjectIds_confined seen with ⟨wide, found, narrow, same, members⟩
    cases same
    rw [((members projectId).1 present).1]
    exact scope.valid

/-- The visible projects of a policy that lists them are the ones it authorizes. -/
theorem authorizeProject_iff_mem {visible : List Text}
    (seen : authorizer.visibleProjectIds principal capability = .ok (some visible)) :
    authorizer.authorizeProject principal capability projectId = .ok () ↔ projectId ∈ visible := by
  rw [authorizeProject_iff seen, admits_some]
  exact and_iff_right_of_imp (isAccessText_of_visible seen)

end Authorizer

end Synapse.Service
