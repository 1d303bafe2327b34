import Ferroq.Core.Config.RoundTrip
import Ferroq.Core.Validation
import Ferroq.Gateway.Management

/-!
# Reading the configuration endpoint

The answer of the configuration endpoint holds the whole configuration: it can
be read back, and is then the redacted one.
-/

namespace Ferroq.Gateway.Management

open Ferroq.Core
open Ferroq.Library

variable {Scalar : Type}

/-- Reading the text of a configuration file.  The parser of the file format, and
what it says about a document that is refused, are given from outside. -/
def fromStr (format : ScalarFormat Scalar) (parse : String → Except String (Document Scalar))
    (explain : Document Scalar → String) (text : String) : Except String AppConfig :=
  match parse text with
  | .error error => .error error
  | .ok document =>
      match AppConfig.deserialize format document with
      | none => .error (explain document)
      | some config => .ok config

def readBack (answer : Json) : Option AppConfig :=
  (answer.get "data").bind fun data => AppConfig.deserialize jsonFormat data.toDocument

@[simp]
theorem readBack_failed (message : String) : readBack (failed message) = none := by
  simp [readBack, failed, Json.get_ofFields, List.lookup_cons]

theorem readBack_shown {format : ScalarFormat Scalar} {document : Document Scalar}
    {config : AppConfig} (read : AppConfig.deserialize format document = some config) :
    readBack (shown config) = some (redact config) := by
  have data : (shown config).get "data" = some (redact config).toJson := by
    simp [shown, Json.get_ofFields]
  have canonical : ∀ plugin ∈ config.plugins, plugin.config.Canonical :=
    AppConfig.canonical_of_deserialize read
  rw [readBack, data, Option.bind_some]
  exact AppConfig.deserialize_toJson (redact config) canonical

theorem validateBackend_redactBackend (backend : BackendConfig) (path : String) :
    validateBackend (redactBackend backend) path = validateBackend backend path := rfl

theorem validateAccountsFrom_redact (accounts : List AccountConfig) (index : Nat)
    (seenNames : List String) :
    validateAccountsFrom index seenNames (accounts.map redactAccount) =
      validateAccountsFrom index seenNames accounts := by
  induction accounts generalizing index seenNames with
  | nil => rfl
  | cons account rest inductionHypothesis =>
      have fallback : ∀ path, validateFallback (account.fallback.map redactBackend) path =
          validateFallback account.fallback path := by
        intro path
        cases account.fallback <;> rfl
      rw [List.map_cons, validateAccountsFrom, validateAccountsFrom]
      simp only [redactAccount, validateBackend_redactBackend, fallback, inductionHypothesis]

theorem validate_redact (config : AppConfig) : validate (redact config) = validate config := by
  have accounts : validateAccounts (config.accounts.map redactAccount) =
      validateAccounts config.accounts := by
    rw [validateAccounts, validateAccounts, List.isEmpty_map, validateAccountsFrom_redact]
  change validateServer config.server ++ validateAccounts (config.accounts.map redactAccount) ++
    validateProtocols config.protocols = _
  rw [accounts]
  rfl

/-- Whatever the file and its format, the answer of the configuration endpoint is
read back as the redacted configuration if there is one, and as none otherwise;
validation reports the same on it. -/
theorem readBack_handleConfig (format : ScalarFormat Scalar)
    (parse : String → Except String (Document Scalar)) (explain : Document Scalar → String)
    (configPath : Option String) (readToString : String → Except String String) :
    let loaded := (configPath.bind fun path => (readToString path).toOption).bind fun text =>
      (fromStr format parse explain text).toOption
    let seen := readBack (handleConfig configPath readToString (fromStr format parse explain))
    seen = loaded.map redact ∧ seen.map validate = loaded.map validate := by
  have seen : readBack (handleConfig configPath readToString (fromStr format parse explain)) =
      ((configPath.bind fun path => (readToString path).toOption).bind fun text =>
        (fromStr format parse explain text).toOption).map redact := by
    unfold handleConfig
    cases configPath with
    | none => simp
    | some path =>
        cases read : readToString path with
        | error error => simp [read, Except.toOption]
        | ok text =>
            simp only [Option.bind_some, read, Except.toOption]
            cases loaded : fromStr format parse explain text with
            | error error => simp
            | ok config =>
                unfold fromStr at loaded
                split at loaded
                next => cases loaded
                next document _ =>
                  split at loaded
                  next => cases loaded
                  next other deserialized =>
                    cases loaded
                    exact readBack_shown deserialized
  refine ⟨seen, ?_⟩
  simp only [seen, Option.map_map]
  congr 1
  funext config
  exact validate_redact config

end Ferroq.Gateway.Management
