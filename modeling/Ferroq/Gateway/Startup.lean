import Ferroq.Core.Validation
import Ferroq.Gateway.Manager.AdapterManager

/-!
# The adapters of the configuration

At startup every account gets the adapter of its backend, wrapped together with
that of its fallback when there is one.  A backend of an unknown type is left out
with a warning; an HTTP client that cannot be built ends the startup.
-/

namespace Ferroq.Gateway

open Ferroq.Core

/-- What an adapter is and stays: its name and the backends behind it. -/
structure Identity where
  name : String
  backendType : String
  url : String
  fallbackUrl : Option String
  deriving DecidableEq

def AdapterObject.identity (object : AdapterObject) : Identity :=
  ⟨object.name, object.backendType, object.url, none⟩

def BackendConfig.ofCore (config : Core.BackendConfig) : BackendConfig :=
  ⟨config.backendType, config.url⟩

/-- What validation asks of an adapter that is made at startup. -/
structure Identity.Accepted (identity : Identity) : Prop where
  name : nameAccepted identity.name = true
  url : urlAccepted identity.url = true
  fallbackUrl : ∀ url ∈ identity.fallbackUrl, urlAccepted url = true

theorem Identity.accepted_iff (identity : Identity) : identity.Accepted ↔
    nameAccepted identity.name = true ∧ urlAccepted identity.url = true ∧
      ∀ url ∈ identity.fallbackUrl, urlAccepted url = true :=
  ⟨fun accepted => ⟨accepted.name, accepted.url, accepted.fallbackUrl⟩,
    fun accepted => ⟨accepted.1, accepted.2.1, accepted.2.2⟩⟩

instance (identity : Identity) : Decidable identity.Accepted :=
  decidable_of_iff _ identity.accepted_iff.symm

theorem AdapterObject.create_identity {name : String} {config : BackendConfig}
    {clientError : Option String} {object : AdapterObject}
    (created : create name config clientError = .ok object) :
    object.identity = ⟨name, config.backendType, config.url, none⟩ := by
  unfold create at created
  split at created
  next =>
    cases created
    rfl
  next =>
    split at created
    next official =>
      split at created
      next => cases created
      next =>
        cases created
        rw [official]
        rfl
    next => cases created

namespace Startup

/-- The adapter of a backend, if its type is known.  `clientError` is what the
builder of the HTTP client reports for an adapter, if it fails. -/
def createBackend (clientError : String → Option String) (what name : String)
    (config : Core.BackendConfig) : Except String (Option Identity) :=
  if config.backendType = "lagrange" ∨ config.backendType = "napcat" ∨
      config.backendType = "official" then
    match AdapterObject.create name (.ofCore config) (clientError name) with
    | .ok object => .ok (some object.identity)
    | .error error => .error s!"failed to create official {what}: {error.toText}"
  else .ok none

/-- A failover adapter reports the URL of its primary. -/
def failover (name : String) (primary fallback : Identity) : Identity where
  name := name
  backendType := primary.backendType ++ "+" ++ fallback.backendType
  url := primary.url
  fallbackUrl := some fallback.url

/-- The adapter of an account.  A fallback of an unknown type is ignored. -/
def createAccount (clientError : String → Option String) (account : AccountConfig) :
    Except String (Option Identity) :=
  match createBackend clientError "adapter" account.name account.backend with
  | .error error => .error error
  | .ok none => .ok none
  | .ok (some primary) =>
      match account.fallback with
      | none => .ok (some primary)
      | some config =>
          match createBackend clientError "fallback adapter" s!"{account.name}-fallback" config with
          | .error error => .error error
          | .ok none => .ok (some primary)
          | .ok (some fallback) => .ok (some (failover account.name primary fallback))

def createAccounts (clientError : String → Option String) :
    List AccountConfig → Except String (List Identity)
  | [] => .ok []
  | account :: rest =>
      match createAccount clientError account with
      | .error error => .error error
      | .ok adapter =>
          match createAccounts clientError rest with
          | .error error => .error error
          | .ok adapters => .ok (adapter.toList ++ adapters)

variable {clientError : String → Option String}

theorem createBackend_identity {what name : String} {config : Core.BackendConfig}
    {identity : Identity}
    (created : createBackend clientError what name config = .ok (some identity)) :
    identity = ⟨name, config.backendType, config.url, none⟩ := by
  unfold createBackend at created
  split at created
  next =>
    split at created
    next object made =>
      cases created
      exact AdapterObject.create_identity made
    next => cases created
  next => cases created

theorem createAccount_accepted {account : AccountConfig} {identity : Identity}
    (accepted : AccountAccepted account)
    (created : createAccount clientError account = .ok (some identity)) :
    identity.Accepted ∧ identity.name = account.name := by
  unfold createAccount at created
  split at created
  next => cases created
  next => cases created
  next primary made =>
    have same := createBackend_identity made
    have alone : primary.Accepted ∧ primary.name = account.name := by
      rw [same]
      exact ⟨⟨accepted.name, accepted.url, by simp⟩, rfl⟩
    split at created
    next =>
      cases created
      exact alone
    next config found =>
      split at created
      next => cases created
      next =>
        cases created
        exact alone
      next fallback second =>
        cases created
        have fallbackUrl := accepted.fallbackUrl config found
        have other := createBackend_identity second
        refine ⟨⟨accepted.name, alone.1.url, ?_⟩, rfl⟩
        simpa [failover, other] using fallbackUrl

theorem createAccounts_accepted {accounts : List AccountConfig} {adapters : List Identity}
    (accepted : ∀ account ∈ accounts, AccountAccepted account)
    (created : createAccounts clientError accounts = .ok adapters) :
    ∀ adapter ∈ adapters, adapter.Accepted := by
  induction accounts generalizing adapters with
  | nil =>
      cases created
      simp
  | cons account rest inductionHypothesis =>
      unfold createAccounts at created
      split at created
      next => cases created
      next adapter first =>
        split at created
        next => cases created
        next others later =>
          cases created
          intro identity listed
          rcases List.mem_append.mp listed with own | other
          · have made := Option.mem_toList.mp own
            rw [made] at first
            exact (createAccount_accepted (accepted account List.mem_cons_self) first).1
          · exact inductionHypothesis
              (fun other listed => accepted other (List.mem_cons_of_mem account listed))
              later identity other

end Startup

end Ferroq.Gateway
