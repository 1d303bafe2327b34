import Ferroq.Core.Config.RoundTrip
import Ferroq.Core.Validation

/-!
# Where validation points

Validation names a place of the configuration by its path.  A setting that was
left out has a default with which nothing is wrong, so that the path of an
issue leads to a value that the file does hold; the exceptions are warnings
about something missing.
-/

namespace Ferroq.Core

open Ferroq.Library
open Ferroq.Library.Document

variable {Scalar : Type}

def stepText : Step → String
  | .key name => "." ++ name
  | .index position => s!"[{position}]"

def pathText : List Step → String
  | .key name :: rest => rest.foldl (fun text step => text ++ stepText step) name
  | path => path.foldl (fun text step => text ++ stepText step) ""

theorem pathText_concat {path : List Step} (inside : path ≠ []) (step : Step) :
    pathText (path ++ [step]) = pathText path ++ stepText step := by
  rcases path with _ | ⟨name | position, rest⟩
  · exact absurd rfl inside
  · rw [List.cons_append, pathText, List.foldl_append]
    rfl
  · rw [List.cons_append, pathText, ← List.cons_append, List.foldl_append]
    · rfl
    · exact nofun

/-- What an issue is about is a value of the document, or something missing. -/
inductive Placed (document : Document Scalar) (config : AppConfig) : ValidationIssue → Prop
  | value {issue : ValidationIssue} (path : List Step) (held : Scalar)
      (text : pathText path = issue.path) (led : document.follow path = some (.scalar held)) :
      Placed document config issue
  | noAccounts (message : String) (none : config.accounts = []) :
      Placed document config ⟨.warning, "accounts", message⟩
  | noProtocols (message : String)
      (onebotV11 : config.protocols.onebotV11.any (·.enabled) = false)
      (onebotV12 : config.protocols.onebotV12.any (·.enabled) = false)
      (milky : config.protocols.milky.any (·.enabled) = false)
      (satori : config.protocols.satori.any (·.enabled) = false) :
      Placed document config ⟨.warning, "protocols", message⟩
  | noTransport (place : Document Scalar) (message : String)
      (led : document.follow [.key "protocols", .key "onebot_v11"] = some place) :
      Placed document config ⟨.warning, "protocols.onebot_v11", message⟩

theorem mem_issueIf {reported : Bool} {severity : Severity} {path message : String}
    {issue : ValidationIssue} :
    issue ∈ issueIf reported severity path message ↔
      reported = true ∧ issue = ⟨severity, path, message⟩ := by
  cases reported <;> simp [issueIf]

theorem written_of_bad {Value : Type} {default value : Value} {Written : Prop} (Bad : Value → Prop)
    (origin : some default = some value ∨ Written) (fine : ¬ Bad default) (bad : Bad value) :
    Written := by
  rcases origin with same | written
  · exact absurd (Option.some.inj same ▸ bad) fine
  · exact written

section Places

variable {format : ScalarFormat Scalar} {document : Document Scalar} {config : AppConfig}
  {path : List Step} {issue : ValidationIssue}

theorem Placed.of_readAt {Value : Type} {read : Scalar → Option Value} {value : Value}
    (found : ReadAt document path (scalarOf read) value) (text : pathText path = issue.path) :
    Placed document config issue := by
  obtain ⟨held, led, -⟩ := found.scalar
  exact .value path held text led

theorem server_placed {server : ServerConfig}
    (origin : some ServerConfig.default = some server ∨
      ReadAt document [.key "server"] (ServerConfig.deserialize format) server)
    (reported : issue ∈ validateServer server) : Placed document config issue := by
  simp only [validateServer, List.mem_append, mem_issueIf, decide_eq_true_eq] at reported
  rcases reported with ⟨zero, rfl⟩ | ⟨empty, rfl⟩
  · have written := written_of_bad (fun server => server.port = 0) origin (by decide) zero
    have port := written_of_bad (· = 0)
      (written.setting fun _ made => (ServerConfig.ofFields_some made).2) (by decide) zero
    exact .of_readAt port rfl
  · have written := written_of_bad (fun server => server.host.isEmpty = true) origin (by decide)
      empty
    have host := written_of_bad (fun host => host.isEmpty = true)
      (written.setting fun _ made => (ServerConfig.ofFields_some made).1) (by decide) empty
    exact .of_readAt host rfl

theorem backend_placed {backend : BackendConfig} (inside : path ≠ [])
    (found : ReadAt document path (BackendConfig.deserialize format) backend)
    (reported : issue ∈ validateBackend backend (pathText path)) :
    Placed document config issue := by
  have backendType := (found.setting fun _ made =>
    (BackendConfig.ofFields_some made).1).resolve_left nofun
  have url := (found.setting fun _ made =>
    (BackendConfig.ofFields_some made).2.1).resolve_left nofun
  have typeText := pathText_concat inside (.key "type")
  have urlText := pathText_concat inside (.key "url")
  have intervalText := pathText_concat inside (.key "reconnect_interval")
  simp only [validateBackend, List.mem_append, mem_issueIf] at reported
  rcases reported with (⟨-, rfl⟩ | reported) | ⟨zero, rfl⟩
  · exact .of_readAt backendType typeText
  · split at reported
    next =>
      obtain ⟨-, rfl⟩ := mem_issueIf.mp reported
      exact .of_readAt url urlText
    next =>
      obtain ⟨-, rfl⟩ := mem_issueIf.mp reported
      exact .of_readAt url urlText
  · have interval := written_of_bad (· = 0)
      (found.setting fun _ made => (BackendConfig.ofFields_some made).2.2) (by decide)
      (of_decide_eq_true zero)
    exact .of_readAt interval intervalText

theorem account_placed {account : AccountConfig} {index : Nat} {seenNames : List String}
    (found : ReadAt document [.key "accounts", .index index] (AccountConfig.deserialize format)
      account)
    (reported : issue ∈ validateAccountsFrom index seenNames [account]) :
    Placed document config issue := by
  have name := (found.setting fun _ made =>
    (AccountConfig.ofFields_some made).1).resolve_left nofun
  have backend := (found.setting fun _ made =>
    (AccountConfig.ofFields_some made).2.1).resolve_left nofun
  simp only [validateAccountsFrom, List.mem_append, mem_issueIf, List.append_nil] at reported
  rcases reported with ((⟨-, rfl⟩ | ⟨-, rfl⟩) | reported) | reported
  · exact .of_readAt name rfl
  · exact .of_readAt name rfl
  · exact backend_placed (by simp) backend reported
  · cases present : account.fallback with
    | none =>
        rw [present] at reported
        cases reported
    | some fallback =>
        have fallbackAt := (found.setting fun _ made =>
          (AccountConfig.ofFields_some made).2.2).resolve_left fun absent => by
            rw [present] at absent
            cases absent
        rw [present] at reported fallbackAt
        exact backend_placed (by simp) fallbackAt.present reported

theorem accounts_placed {accounts : List AccountConfig} {first : Nat} {seenNames : List String}
    (found : ∀ offset account, accounts[offset]? = some account →
      ReadAt document [.key "accounts", .index (first + offset)]
        (AccountConfig.deserialize format) account)
    (reported : issue ∈ validateAccountsFrom first seenNames accounts) :
    Placed document config issue := by
  induction accounts generalizing first seenNames with
  | nil => cases reported
  | cons account rest inductionHypothesis =>
      rw [validateAccountsFrom, List.mem_append] at reported
      rcases reported with reported | reported
      · have alone : issue ∈ validateAccountsFrom first seenNames [account] := by
          rw [validateAccountsFrom]
          exact List.mem_append_left _ reported
        exact account_placed (found 0 account rfl) alone
      · apply inductionHypothesis _ reported
        intro offset other listed
        rw [Nat.add_assoc, Nat.add_comm 1]
        exact found (offset + 1) other listed

theorem pathText_target (field : String) (index : Nat) :
    pathText [.key "protocols", .key "onebot_v11", .key field, .index index, .key "url"] =
      s!"protocols.onebot_v11.{field}[{index}].url" := by
  have front : "protocols.onebot_v11." = "protocols" ++ ("." ++ "onebot_v11") ++ "." := by decide
  have back : "].url" = "]" ++ ("." ++ "url") := by decide
  change "protocols" ++ ("." ++ "onebot_v11") ++ ("." ++ field) ++ ("[" ++ toString index ++ "]") ++
    ("." ++ "url") = "protocols.onebot_v11." ++ field ++ "[" ++ toString index ++ "].url"
  rw [front, back]
  simp only [String.append_assoc]

theorem target_placed {Target : Type} {field message : String}
    {ofFields : List (String × Document Scalar) → Option Target} {targets : List Target}
    {url : Target → String}
    (set : ∀ fields target, ofFields fields = some target →
      setting "url" format.readText none fields = some (url target))
    (found : ReadAt document [.key "protocols", .key "onebot_v11", .key field]
      (format.list (format.record ofFields)) targets)
    (reported : issue ∈ validateTargets field message (targets.map url)) :
    Placed document config issue := by
  simp only [validateTargets, List.mem_flatMap, mem_issueIf] at reported
  obtain ⟨⟨written, index⟩, listed, -, rfl⟩ := reported
  have held := List.mem_zipIdx_iff_getElem?.mp listed
  rw [List.getElem?_map, Option.map_eq_some_iff] at held
  obtain ⟨target, held, -⟩ := held
  have place := ((found.item held).setting fun fields made =>
    set fields target made).resolve_left nofun
  exact .of_readAt place (pathText_target field index)

theorem protocols_placed {protocols : ProtocolsConfig}
    (same : config.protocols = protocols)
    (origin : some ProtocolsConfig.default = some protocols ∨
      ReadAt document [.key "protocols"] (ProtocolsConfig.deserialize format) protocols)
    (reported : issue ∈ validateProtocols protocols) : Placed document config issue := by
  rw [validateProtocols, List.mem_append, mem_issueIf] at reported
  rcases reported with ⟨none, rfl⟩ | reported
  · simp only [Bool.not_eq_true', Bool.or_eq_false_iff, ← same] at none
    obtain ⟨⟨⟨onebotV11, onebotV12⟩, milky⟩, satori⟩ := none
    exact .noProtocols _ onebotV11 onebotV12 milky satori
  · cases present : protocols.onebotV11 with
    | none =>
        rw [present] at reported
        cases reported
    | some onebot =>
        rw [present] at reported
        have written := written_of_bad (fun protocols => protocols.onebotV11 ≠ none) origin
          (by simp [ProtocolsConfig.default]) (by simp [present])
        have found := (written.setting fun _ made =>
          ProtocolsConfig.ofFields_some made).resolve_left fun absent => by
            rw [present] at absent
            cases absent
        rw [present] at found
        have onebotAt := found.present
        simp only at reported
        split at reported
        next =>
          simp only [validateOnebotV11, List.mem_append] at reported
          rcases reported with (reported | reported) | reported
          · obtain ⟨-, rfl⟩ := mem_issueIf.mp reported
            obtain ⟨place, led, -⟩ := onebotAt
            exact .noTransport place _ led
          · have targets := written_of_bad (fun targets => targets ≠ [])
              (onebotAt.setting fun _ made => (OneBotV11Config.ofFields_some made).1)
              (by simp) (by rintro absent; rw [absent] at reported; cases reported)
            exact target_placed (fun _ _ made => WsReverseTarget.ofFields_some made) targets
              reported
          · have targets := written_of_bad (fun targets => targets ≠ [])
              (onebotAt.setting fun _ made => (OneBotV11Config.ofFields_some made).2)
              (by simp) (by rintro absent; rw [absent] at reported; cases reported)
            exact target_placed (fun _ _ made => HttpPostTarget.ofFields_some made) targets reported
        next => cases reported

/-- Whatever the format of the file, every issue of the configuration that it
holds points to a value in the file, but for warnings about something missing. -/
theorem validate_placed (read : AppConfig.deserialize format document = some config)
    (reported : issue ∈ validate config) : Placed document config issue := by
  have whole := readAt_nil read
  simp only [validate, List.mem_append] at reported
  rcases reported with (reported | reported) | reported
  · exact server_placed (whole.setting fun _ made => (AppConfig.ofFields_some made).server)
      reported
  · rw [validateAccounts] at reported
    split at reported
    next empty =>
      obtain ⟨-, rfl⟩ := mem_issueIf.mp reported
      exact .noAccounts _ (List.isEmpty_iff.mp empty)
    next inhabited =>
      have accounts := written_of_bad (fun accounts => accounts.isEmpty = false)
        (whole.setting fun _ made => (AppConfig.ofFields_some made).accounts) (by simp)
        (Bool.eq_false_iff.mpr inhabited)
      have places : ∀ offset account, config.accounts[offset]? = some account →
          ReadAt document [.key "accounts", .index (0 + offset)]
            (AccountConfig.deserialize format) account := by
        intro offset account listed
        rw [Nat.zero_add]
        exact accounts.item listed
      exact accounts_placed places reported
  · exact protocols_placed rfl
      (whole.setting fun _ made => (AppConfig.ofFields_some made).protocols) reported

end Places

/-- A file with a port that is refused, and nothing else. -/
def closedPort : Document JsonScalar :=
  .mapping [("server", .mapping [("port", .scalar (.number (.posInt 0)))])]

def closedPortConfig : AppConfig where
  server := { ServerConfig.default with port := 0 }
  accounts := []
  protocols := .default
  storage := .default
  dedup := .default
  plugins := []
  logging := .default

theorem closedPort_placed :
    AppConfig.deserialize jsonFormat closedPort = some closedPortConfig ∧
      (⟨.error, "server.port", "port must be > 0"⟩ : ValidationIssue) ∈
        validate closedPortConfig ∧
      Placed closedPort closedPortConfig ⟨.error, "server.port", "port must be > 0"⟩ := by
  have read : AppConfig.deserialize jsonFormat closedPort = some closedPortConfig := rfl
  have reported : (⟨.error, "server.port", "port must be > 0"⟩ : ValidationIssue) ∈
      validate closedPortConfig := List.mem_cons_self
  exact ⟨read, reported, validate_placed read reported⟩

end Ferroq.Core
