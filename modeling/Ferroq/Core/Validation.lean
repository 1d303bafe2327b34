import Ferroq.Core.Config
import Ferroq.Core.Text

/-!
# Validation of the configuration

The checks that run at startup and before a reload is applied.  All issues are
collected; one of the errors among them keeps the configuration from being used.
-/

namespace Ferroq.Core

inductive Severity where
  | error
  | warning
  deriving DecidableEq

structure ValidationIssue where
  severity : Severity
  path : String
  message : String
  deriving DecidableEq

def ValidationIssue.display (issue : ValidationIssue) : String :=
  let level := match issue.severity with
    | .error => "ERROR"
    | .warning => "WARN"
  s!"[{level}] {issue.path}: {issue.message}"

def reported (severity : Severity) (issues : List ValidationIssue) : List String :=
  (issues.filter fun issue => issue.severity = severity).map ValidationIssue.display

def hasErrors (issues : List ValidationIssue) : Bool :=
  issues.any fun issue => issue.severity = .error

def issueIf (reported : Bool) (severity : Severity) (path message : String) :
    List ValidationIssue :=
  if reported then [⟨severity, path, message⟩] else []

theorem reported_error_isEmpty (issues : List ValidationIssue) :
    (reported .error issues).isEmpty = !hasErrors issues := by
  induction issues with
  | nil => rfl
  | cons issue rest inductionHypothesis =>
      simp only [reported, hasErrors, List.any_cons] at inductionHypothesis ⊢
      by_cases severe : issue.severity = .error
      · simp [severe]
      · simpa [severe] using inductionHypothesis

@[simp]
theorem hasErrors_nil : hasErrors [] = false := rfl

@[simp]
theorem hasErrors_append (issues others : List ValidationIssue) :
    hasErrors (issues ++ others) = (hasErrors issues || hasErrors others) :=
  List.any_append

@[simp]
theorem hasErrors_issueIf_error (reported : Bool) (path message : String) :
    hasErrors (issueIf reported .error path message) = reported := by
  cases reported <;> rfl

@[simp]
theorem hasErrors_issueIf_warning (reported : Bool) (path message : String) :
    hasErrors (issueIf reported .warning path message) = false := by
  cases reported <;> rfl

def validateServer (server : ServerConfig) : List ValidationIssue :=
  issueIf (server.port = 0) .error "server.port" "port must be > 0" ++
    issueIf server.host.isEmpty .error "server.host" "host must not be empty"

def knownTypes : List String := ["lagrange", "napcat", "official", "mock"]

def validSchemes : List String := ["ws://", "wss://", "http://", "https://"]

/-- Whether a URL has a known scheme.  Lowering the case gives no letter of a
scheme that is not one in upper or lower case already. -/
def hasValidScheme (url : String) : Bool :=
  validSchemes.any fun scheme => scheme.toList.isPrefixOf (url.toList.map Char.toLower)

def urlAccepted (url : String) : Bool := !url.isEmpty && hasValidScheme url

def nameAccepted (name : String) : Bool := !(trim name.toList).isEmpty

def validateBackend (backend : BackendConfig) (path : String) : List ValidationIssue :=
  issueIf (!knownTypes.contains backend.backendType) .warning s!"{path}.type"
      ("unknown backend type \"" ++ backend.backendType ++ "\". Known types: " ++
        ", ".intercalate knownTypes) ++
    (if backend.url.isEmpty then
        issueIf true .error s!"{path}.url" "backend URL must not be empty"
      else
        issueIf (!hasValidScheme backend.url) .error s!"{path}.url"
          ("invalid URL scheme in \"" ++ backend.url ++
            "\". Expected ws://, wss://, http://, or https://")) ++
    issueIf (backend.reconnectInterval = 0) .warning s!"{path}.reconnect_interval"
      "reconnect_interval is 0 — this will cause tight reconnect loops"

def validateFallback (fallback : Option BackendConfig) (path : String) :
    List ValidationIssue :=
  match fallback with
  | some backend => validateBackend backend path
  | none => []

/-- The accounts from some index on, with the names before it. -/
def validateAccountsFrom (index : Nat) (seenNames : List String) :
    List AccountConfig → List ValidationIssue
  | [] => []
  | account :: rest =>
      let path := s!"accounts[{index}]"
      issueIf (!nameAccepted account.name) .error s!"{path}.name"
          "account name must not be empty" ++
        issueIf (seenNames.contains account.name) .error s!"{path}.name"
          ("duplicate account name: \"" ++ account.name ++ "\"") ++
        validateBackend account.backend s!"{path}.backend" ++
        validateFallback account.fallback s!"{path}.fallback" ++
        validateAccountsFrom (index + 1) (account.name :: seenNames) rest

def validateAccounts (accounts : List AccountConfig) : List ValidationIssue :=
  if accounts.isEmpty then
    issueIf true .warning "accounts"
      "no accounts configured — the gateway will have no backends"
  else validateAccountsFrom 0 [] accounts

def validateTargets (field message : String) (urls : List String) : List ValidationIssue :=
  urls.zipIdx.flatMap fun (url, index) =>
    issueIf url.isEmpty .error s!"protocols.onebot_v11.{field}[{index}].url" message

def validateOnebotV11 (config : OneBotV11Config) : List ValidationIssue :=
  issueIf (!config.http && !config.ws && config.wsReverse.isEmpty && config.httpPost.isEmpty)
      .warning "protocols.onebot_v11"
      "OneBot v11 is enabled but no transport (http/ws/ws_reverse/http_post) is active" ++
    validateTargets "ws_reverse" "reverse WS target URL must not be empty"
      (config.wsReverse.map WsReverseTarget.url) ++
    validateTargets "http_post" "HTTP POST target URL must not be empty"
      (config.httpPost.map HttpPostTarget.url)

def validateProtocols (protocols : ProtocolsConfig) : List ValidationIssue :=
  let hasAnyProtocol :=
    protocols.onebotV11.any (·.enabled) || protocols.onebotV12.any (·.enabled) ||
      protocols.milky.any (·.enabled) || protocols.satori.any (·.enabled)
  issueIf (!hasAnyProtocol) .warning "protocols"
      "no protocol servers enabled — upstream bot frameworks cannot connect" ++
    (match protocols.onebotV11 with
      | some config => if config.enabled then validateOnebotV11 config else []
      | none => [])

def validate (config : AppConfig) : List ValidationIssue :=
  validateServer config.server ++ validateAccounts config.accounts ++
    validateProtocols config.protocols

def ValidConfig : Type := { config : AppConfig // hasErrors (validate config) = false }

theorem hasErrors_validateBackend (backend : BackendConfig) (path : String) :
    hasErrors (validateBackend backend path) = !urlAccepted backend.url := by
  unfold validateBackend urlAccepted
  cases backend.url.isEmpty <;> simp

theorem hasErrors_validateFallback_iff (fallback : Option BackendConfig) (path : String) :
    hasErrors (validateFallback fallback path) = false ↔
      ∀ backend ∈ fallback, urlAccepted backend.url = true := by
  cases fallback with
  | none => simp [validateFallback]
  | some backend => simp [validateFallback, hasErrors_validateBackend]

/-- What validation asks of one account by itself. -/
structure AccountAccepted (account : AccountConfig) : Prop where
  name : nameAccepted account.name = true
  url : urlAccepted account.backend.url = true
  fallbackUrl : ∀ fallback ∈ account.fallback, urlAccepted fallback.url = true

theorem accountAccepted_iff (account : AccountConfig) :
    AccountAccepted account ↔ nameAccepted account.name = true ∧
      urlAccepted account.backend.url = true ∧
      ∀ fallback ∈ account.fallback, urlAccepted fallback.url = true :=
  ⟨fun accepted => ⟨accepted.name, accepted.url, accepted.fallbackUrl⟩,
    fun accepted => ⟨accepted.1, accepted.2.1, accepted.2.2⟩⟩

theorem hasErrors_validateAccountsFrom_iff (index : Nat) (seenNames : List String)
    (accounts : List AccountConfig) :
    hasErrors (validateAccountsFrom index seenNames accounts) = false ↔
      (∀ account ∈ accounts, AccountAccepted account) ∧
        (accounts.map AccountConfig.name).Nodup ∧
        ∀ account ∈ accounts, account.name ∉ seenNames := by
  induction accounts generalizing index seenNames with
  | nil => simp [validateAccountsFrom]
  | cons account rest inductionHypothesis =>
      simp only [validateAccountsFrom, hasErrors_append, Bool.or_eq_false_iff,
        hasErrors_issueIf_error, hasErrors_validateBackend, hasErrors_validateFallback_iff,
        inductionHypothesis, Bool.not_eq_false', List.forall_mem_cons, accountAccepted_iff,
        List.map_cons, List.nodup_cons, List.mem_map]
      constructor
      · rintro ⟨⟨⟨⟨name, unseen⟩, url⟩, fallback⟩, accepted, distinct, others⟩
        refine ⟨⟨⟨name, url, fallback⟩, accepted⟩, ⟨?_, distinct⟩, by simpa using unseen, ?_⟩
        · rintro ⟨other, listed, same⟩
          exact others other listed (same ▸ List.mem_cons_self)
        · exact fun other listed seen => others other listed (List.mem_cons_of_mem _ seen)
      · rintro ⟨⟨⟨name, url, fallback⟩, accepted⟩, ⟨fresh, distinct⟩, unseen, others⟩
        refine ⟨⟨⟨⟨name, by simpa using unseen⟩, url⟩, fallback⟩, accepted, distinct, ?_⟩
        intro other listed seen
        rcases List.mem_cons.mp seen with same | before
        · exact fresh ⟨other, listed, same⟩
        · exact others other listed before

theorem ValidConfig.accountAccepted (config : ValidConfig) :
    ∀ account ∈ config.1.accounts, AccountAccepted account := by
  intro account listed
  have valid := config.2
  have inhabited : config.1.accounts.isEmpty = false := by
    cases accounts : config.1.accounts with
    | nil => simp [accounts] at listed
    | cons => rfl
  simp only [validate, hasErrors_append, Bool.or_eq_false_iff, validateAccounts, inhabited,
    Bool.false_eq_true, if_false, hasErrors_validateAccountsFrom_iff] at valid
  exact valid.1.2.1 account listed

end Ferroq.Core
