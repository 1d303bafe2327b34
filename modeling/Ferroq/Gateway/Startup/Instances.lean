import Ferroq.Core.Validation.Violations
import Ferroq.Gateway.Management
import Ferroq.Gateway.Startup
import Mathlib.Data.List.Forall2

/-!
# Validated accounts and their adapters

Validation and startup look at the type of a backend and at its URL in two
places of their own.  An account of a type that startup instantiates is started
with an adapter of that type for its URL.  A type that validation does not know
only gives a warning there, and startup leaves the backend out.
-/

namespace Ferroq.Gateway

open Ferroq.Core

/-- The schemes that the transport of an adapter opens. -/
def Backend.schemes : Backend → List String
  | .lagrange _ => ["ws", "wss"]
  | .official _ => ["http", "https"]

def AdapterObject.CanOpen (object : AdapterObject) : Prop :=
  HasScheme object.backend.schemes object.url

/-- A backend of a type that startup instantiates. -/
def Instantiated (config : Core.BackendConfig) : Prop :=
  config.backendType = "lagrange" ∨ config.backendType = "napcat" ∨
    config.backendType = "official"

def Unknown (config : Core.BackendConfig) : Prop := config.backendType ∉ knownTypes

/-- A backend whose URL is of the kind that is documented for its type. -/
def Suited (config : Core.BackendConfig) : Prop :=
  (config.backendType = "lagrange" ∨ config.backendType = "napcat") ∧
      HasScheme ["ws", "wss"] config.url ∨
    config.backendType = "official" ∧ HasScheme ["http", "https"] config.url

def unknownType (path : String) (config : Core.BackendConfig) : ValidationIssue :=
  ⟨.warning, s!"{path}.type",
    "unknown backend type \"" ++ config.backendType ++ "\". Known types: " ++
      ", ".intercalate knownTypes⟩

structure AdapterObject.Serves (object : AdapterObject) (config : Core.BackendConfig) : Prop where
  backendType : object.backendType = config.backendType
  url : object.url = config.url
  usable : UrlUsable object.url
  canOpen : Suited config → object.CanOpen

namespace Startup

inductive Started where
  | single (adapter : AdapterObject)
  | failover (name : String) (primary fallback : AdapterObject)

def Started.name : Started → String
  | .single adapter => adapter.name
  | .failover name _ _ => name

def Started.primary : Started → AdapterObject
  | .single adapter => adapter
  | .failover _ primary _ => primary

def Started.fallback : Started → Option AdapterObject
  | .single _ => none
  | .failover _ _ fallback => some fallback

def Started.identity : Started → Identity
  | .single adapter => adapter.identity
  | .failover name primary fallback => Startup.failover name primary.identity fallback.identity

section

variable (clientError : String → Option String)

/-- The adapter of a backend, if its type is known. -/
def instantiateBackend (what name : String) (config : Core.BackendConfig) :
    Except String (Option AdapterObject) :=
  if config.backendType = "lagrange" ∨ config.backendType = "napcat" ∨
      config.backendType = "official" then
    match AdapterObject.create name (.ofCore config) (clientError name) with
    | .ok object => .ok (some object)
    | .error error => .error s!"failed to create official {what}: {error.toText}"
  else .ok none

/-- The adapters of an account.  A fallback of an unknown type is ignored. -/
def instantiate (account : AccountConfig) : Except String (Option Started) :=
  match instantiateBackend clientError "adapter" account.name account.backend with
  | .error error => .error error
  | .ok none => .ok none
  | .ok (some primary) =>
      match account.fallback with
      | none => .ok (some (.single primary))
      | some config =>
          match instantiateBackend clientError "fallback adapter" s!"{account.name}-fallback"
              config with
          | .error error => .error error
          | .ok none => .ok (some (.single primary))
          | .ok (some fallback) => .ok (some (.failover account.name primary fallback))

def instantiateAll (accounts : List AccountConfig) : Except String (List (Option Started)) :=
  accounts.mapM (instantiate clientError)

end

variable {clientError : String → Option String}

theorem createBackend_eq (what name : String) (config : Core.BackendConfig) :
    createBackend clientError what name config =
      (instantiateBackend clientError what name config).map
        (Option.map AdapterObject.identity) := by
  unfold createBackend instantiateBackend
  split
  next =>
    cases AdapterObject.create name (.ofCore config) (clientError name) <;> rfl
  next => rfl

theorem createAccount_eq (account : AccountConfig) :
    createAccount clientError account =
      (instantiate clientError account).map (Option.map Started.identity) := by
  unfold createAccount instantiate
  rw [createBackend_eq]
  cases instantiateBackend clientError "adapter" account.name account.backend with
  | error error => rfl
  | ok outcome =>
      cases outcome with
      | none => rfl
      | some primary =>
          cases account.fallback with
          | none => rfl
          | some config =>
              simp only [Except.map, Option.map_some]
              rw [createBackend_eq]
              cases instantiateBackend clientError "fallback adapter"
                  s!"{account.name}-fallback" config with
              | error error => rfl
              | ok outcome => cases outcome <;> rfl

theorem createAccounts_eq (accounts : List AccountConfig) :
    createAccounts clientError accounts =
      (instantiateAll clientError accounts).map fun outcomes =>
        outcomes.reduceOption.map Started.identity := by
  induction accounts with
  | nil => rfl
  | cons account rest inductionHypothesis =>
      unfold createAccounts instantiateAll
      rw [createAccount_eq, inductionHypothesis, List.mapM_cons]
      cases instantiate clientError account with
      | error error => rfl
      | ok outcome =>
          unfold instantiateAll
          cases rest.mapM (instantiate clientError) with
          | error error => rfl
          | ok outcomes => cases outcome <;> rfl

/-- What becomes of an account by the types of its backends. -/
structure Treated (account : AccountConfig) (outcome : Option Started) : Prop where
  started : Instantiated account.backend → ∃ started, outcome = some started ∧
    started.name = account.name ∧ started.primary.Serves account.backend ∧
    (account.fallback = none → started.fallback = none) ∧
    ∀ config, account.fallback = some config →
      (Instantiated config → ∃ fallback, started.fallback = some fallback ∧
        fallback.Serves config) ∧
      (Unknown config → started.fallback = none)
  skipped : Unknown account.backend → outcome = none

def creationFailed (what reported : String) : String :=
  s!"failed to create official {what}: {(AdapterObject.clientFailed reported).toText}"

/-- An official backend of an account whose HTTP client cannot be built, with the error
that startup ends with. -/
inductive Failed (clientError : String → Option String) (account : AccountConfig) :
    String → Prop where
  | primary {reported : String} (official : account.backend.backendType = "official")
      (failed : clientError account.name = some reported) :
      Failed clientError account (creationFailed "adapter" reported)
  | fallback {config : Core.BackendConfig} {reported : String}
      (present : account.fallback = some config) (official : config.backendType = "official")
      (failed : clientError s!"{account.name}-fallback" = some reported) :
      Failed clientError account (creationFailed "fallback adapter" reported)

theorem create_serves {name : String} {config : Core.BackendConfig} {failure : Option String}
    {object : AdapterObject} (accepted : urlAccepted config.url = true)
    (created : AdapterObject.create name (.ofCore config) failure = .ok object) :
    object.name = name ∧ object.Serves config := by
  have usable := (urlAccepted_iff config.url).mp accepted
  unfold AdapterObject.create BackendConfig.ofCore at created
  split at created
  next onebot =>
    cases created
    refine ⟨rfl, rfl, rfl, usable, ?_⟩
    rintro (⟨-, scheme⟩ | ⟨official, -⟩)
    · exact scheme
    · rcases onebot with lagrange | napcat
      · exact absurd (lagrange.symm.trans official) (by decide)
      · exact absurd (napcat.symm.trans official) (by decide)
  next other =>
    split at created
    next official =>
      split at created
      next => cases created
      next =>
        cases created
        refine ⟨rfl, official.symm, rfl, usable, ?_⟩
        rintro (⟨onebot, -⟩ | ⟨-, scheme⟩)
        · exact absurd onebot other
        · exact scheme
    next => cases created

theorem instantiateBackend_cases (clientError : String → Option String) (what name : String)
    {config : Core.BackendConfig} (accepted : urlAccepted config.url = true) :
    (¬ Instantiated config ∧ instantiateBackend clientError what name config = .ok none) ∨
      (Instantiated config ∧ ∃ object,
        instantiateBackend clientError what name config = .ok (some object) ∧
          object.name = name ∧ object.Serves config) ∨
      ∃ reported, config.backendType = "official" ∧ clientError name = some reported ∧
        instantiateBackend clientError what name config =
          .error (creationFailed what reported) := by
  unfold instantiateBackend
  split
  next instantiated =>
    right
    cases created : AdapterObject.create name (.ofCore config) (clientError name) with
    | ok object =>
        obtain ⟨named, serves⟩ := create_serves accepted created
        exact .inl ⟨instantiated, object, rfl, named, serves⟩
    | error error =>
        right
        unfold AdapterObject.create at created
        split at created
        next => cases created
        next other =>
          split at created
          next official =>
            split at created
            next reported failed =>
              cases created
              exact ⟨reported, official, failed, rfl⟩
            next => cases created
          next unofficial =>
            rcases instantiated with lagrange | napcat | official
            · exact absurd (.inl lagrange) other
            · exact absurd (.inr napcat) other
            · exact absurd official unofficial
  next left => exact .inl ⟨left, rfl⟩

theorem not_instantiated_of_unknown {config : Core.BackendConfig} (unknown : Unknown config) :
    ¬ Instantiated config := by
  rintro (type | type | type)
  all_goals exact unknown (type ▸ by decide)

theorem instantiate_treated (clientError : String → Option String) {account : AccountConfig}
    (accepted : AccountAccepted account) :
    (∃ outcome, instantiate clientError account = .ok outcome ∧ Treated account outcome) ∨
      ∃ error, Failed clientError account error ∧
        instantiate clientError account = .error error := by
  unfold instantiate
  rcases instantiateBackend_cases clientError "adapter" account.name accepted.url with
    ⟨left, same⟩ | ⟨instantiated, primary, same, named, serves⟩ |
      ⟨reported, official, failed, same⟩
  · rw [same]
    exact .inl ⟨none, rfl, fun instantiated => absurd instantiated left, fun _ => rfl⟩
  · rw [same]
    have alone : (∀ config, account.fallback = some config → ¬ Instantiated config) →
        Treated account (some (.single primary)) := by
      intro ignored
      constructor
      · intro _
        refine ⟨.single primary, rfl, named, serves, fun _ => rfl, ?_⟩
        intro config present
        exact ⟨fun known => absurd known (ignored config present), fun _ => rfl⟩
      · exact fun unknown => absurd instantiated (not_instantiated_of_unknown unknown)
    cases fallbacks : account.fallback with
    | none => exact .inl ⟨_, rfl, alone (by simp [fallbacks])⟩
    | some config =>
        rcases instantiateBackend_cases clientError "fallback adapter"
            s!"{account.name}-fallback" (accepted.fallbackUrl config fallbacks) with
          ⟨left, second⟩ | ⟨known, fallback, second, -, backs⟩ |
            ⟨reported, official, failed, second⟩
        · simp only [second]
          refine .inl ⟨_, rfl, alone ?_⟩
          intro other present
          rw [fallbacks, Option.some.injEq] at present
          exact present ▸ left
        · simp only [second]
          refine .inl ⟨_, rfl, ?_, fun unknown =>
            absurd instantiated (not_instantiated_of_unknown unknown)⟩
          intro _
          refine ⟨_, rfl, rfl, serves, fun absent => absurd (fallbacks.symm.trans absent) nofun, ?_⟩
          intro other present
          rw [fallbacks, Option.some.injEq] at present
          subst present
          exact ⟨fun _ => ⟨fallback, rfl, backs⟩,
            fun unknown => absurd known (not_instantiated_of_unknown unknown)⟩
        · simp only [second]
          exact .inr ⟨_, .fallback fallbacks official failed, rfl⟩
  · rw [same]
    exact .inr ⟨_, .primary official failed, rfl⟩

theorem instantiateAll_treated (clientError : String → Option String)
    {accounts : List AccountConfig} (accepted : ∀ account ∈ accounts, AccountAccepted account) :
    (∃ outcomes, instantiateAll clientError accounts = .ok outcomes ∧
        List.Forall₂ Treated accounts outcomes) ∨
      ∃ account ∈ accounts, ∃ error, Failed clientError account error ∧
        instantiateAll clientError accounts = .error error := by
  unfold instantiateAll
  induction accounts with
  | nil => exact .inl ⟨[], rfl, .nil⟩
  | cons account rest inductionHypothesis =>
      rw [List.mapM_cons]
      rcases instantiate_treated clientError (accepted account List.mem_cons_self) with
        ⟨outcome, same, treated⟩ | ⟨error, failed, same⟩
      · rw [same]
        rcases inductionHypothesis fun other member =>
            accepted other (List.mem_cons_of_mem account member) with
          ⟨outcomes, later, allTreated⟩ | ⟨other, member, error, failed, later⟩
        · rw [later]
          exact .inl ⟨outcome :: outcomes, rfl, .cons treated allTreated⟩
        · rw [later]
          exact .inr ⟨other, List.mem_cons_of_mem account member, error, failed, rfl⟩
      · rw [same]
        exact .inr ⟨account, List.mem_cons_self, error, failed, rfl⟩

theorem unknownType_mem_validateBackend {config : Core.BackendConfig} (path : String)
    (unknown : Unknown config) : unknownType path config ∈ validateBackend config path := by
  have contained : knownTypes.contains config.backendType = false := by
    simpa [Unknown] using unknown
  unfold validateBackend
  rw [contained]
  exact List.mem_append_left _ (List.mem_append_left _ List.mem_cons_self)

theorem mem_validateAccountsFrom {first : Nat} {seenNames : List String}
    {accounts : List AccountConfig} {index : Nat} {account : AccountConfig}
    (found : accounts[index]? = some account) {issue : ValidationIssue}
    (reported : issue ∈ validateBackend account.backend
          s!"{accountPath (first + index)}.backend" ∨
      issue ∈ validateFallback account.fallback s!"{accountPath (first + index)}.fallback") :
    issue ∈ validateAccountsFrom first seenNames accounts := by
  induction accounts generalizing first seenNames index with
  | nil => cases found
  | cons other rest inductionHypothesis =>
      unfold validateAccountsFrom
      cases index with
      | zero =>
          cases found
          apply List.mem_append_left
          rcases reported with primary | fallback
          · exact List.mem_append_left _ (List.mem_append_right _ primary)
          · exact List.mem_append_right _ fallback
      | succ index =>
          apply List.mem_append_right
          rw [← Nat.add_assoc, Nat.add_right_comm] at reported
          exact inductionHypothesis found reported

theorem mem_validate {config : AppConfig} {index : Nat} {account : AccountConfig}
    (found : config.accounts[index]? = some account) {issue : ValidationIssue}
    (reported : issue ∈ validateBackend account.backend s!"{accountPath index}.backend" ∨
      issue ∈ validateFallback account.fallback s!"{accountPath index}.fallback") :
    issue ∈ validate config := by
  apply List.mem_append_left
  apply List.mem_append_right
  have inhabited : config.accounts.isEmpty = false := by
    cases listed : config.accounts with
    | nil => simp [listed] at found
    | cons => rfl
  rw [validateAccounts, inhabited, if_neg Bool.false_ne_true]
  apply mem_validateAccountsFrom found
  rwa [Nat.zero_add]

/-- The accounts of a valid configuration are started by the types of their
backends, unless an HTTP client cannot be built.  Validation warns about each
type that it does not know. -/
theorem accounts_started (clientError : String → Option String) (config : ValidConfig) :
    ((∃ outcomes, createAccounts clientError config.1.accounts =
          .ok (outcomes.reduceOption.map Started.identity) ∧
        instantiateAll clientError config.1.accounts = .ok outcomes ∧
        List.Forall₂ Treated config.1.accounts outcomes) ∨
      ∃ account ∈ config.1.accounts, ∃ error, Failed clientError account error ∧
        instantiateAll clientError config.1.accounts = .error error) ∧
    ∀ index account, config.1.accounts[index]? = some account →
      (Unknown account.backend →
        unknownType s!"{accountPath index}.backend" account.backend ∈ validate config.1) ∧
      ∀ fallback, account.fallback = some fallback → Unknown fallback →
        unknownType s!"{accountPath index}.fallback" fallback ∈ validate config.1 := by
  constructor
  · rcases instantiateAll_treated clientError config.accountAccepted with
      ⟨outcomes, made, treated⟩ | failed
    · refine .inl ⟨outcomes, ?_, made, treated⟩
      rw [createAccounts_eq, made]
      rfl
    · exact .inr failed
  · intro index account found
    constructor
    · intro unknown
      exact mem_validate found (.inl (unknownType_mem_validateBackend _ unknown))
    · intro fallback present unknown
      apply mem_validate found
      right
      rw [present]
      exact unknownType_mem_validateBackend _ unknown

def backendOf (backendType url : String) : Core.BackendConfig :=
  { backendType, url, accessToken := "", reconnectInterval := 5, maxReconnectInterval := 120
    healthCheckInterval := 30, connectTimeout := 15, apiTimeout := 30 }

def unknownAccount : AppConfig :=
  { Management.settings "" none with
    accounts := [⟨"main", backendOf "gocq" "ws://127.0.0.1:8081", none⟩] }

/-- The account is left out, although there is no error. -/
theorem unknownAccount_skipped :
    hasErrors (validate unknownAccount) = false ∧
      createAccounts (fun _ => none) unknownAccount.accounts = .ok [] := by
  refine ⟨by decide +kernel, rfl⟩

end Startup

end Ferroq.Gateway
