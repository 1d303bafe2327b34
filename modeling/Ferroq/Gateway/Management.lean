import Ferroq.Core.Config

/-!
# The configuration endpoint

The management interface answers with the current configuration, in which the
access tokens of the server and of the backends are replaced by stars.  The
secrets of the protocol targets are not among them.
-/

namespace Ferroq.Gateway.Management

open Ferroq.Core

def failed (message : String) : Json :=
  .ofFields [("status", .string "failed"), ("message", .string message)]

def redactToken (token : String) : String := if token.isEmpty then token else "***"

def redactBackend (backend : BackendConfig) : BackendConfig :=
  { backend with accessToken := redactToken backend.accessToken }

def redactAccount (account : AccountConfig) : AccountConfig :=
  { account with
    backend := redactBackend account.backend
    fallback := account.fallback.map redactBackend }

def redactServer (server : ServerConfig) : ServerConfig :=
  { server with accessToken := redactToken server.accessToken }

def redact (config : AppConfig) : AppConfig :=
  { config with
    server := redactServer config.server
    accounts := config.accounts.map redactAccount }

/-- The answer of `GET /api/config`.  Reading a file and parsing its text are
given from outside. -/
def handleConfig (configPath : Option String) (readToString : String → Except String String)
    (fromStr : String → Except String AppConfig) : Json :=
  match configPath with
  | none => failed "config path not available"
  | some path =>
      match readToString path with
      | .error error => failed s!"cannot read config file: {error}"
      | .ok text =>
          match fromStr text with
          | .error error => failed s!"config parse error: {error}"
          | .ok config =>
              .ofFields [("status", .string "ok"), ("data", (redact config).toJson)]

section Secrets

variable (change : String → String)

/-! The places of a configuration that hold a secret. -/

def mapBackend (backend : BackendConfig) : BackendConfig :=
  { backend with accessToken := change backend.accessToken }

def mapAccount (account : AccountConfig) : AccountConfig :=
  { account with
    backend := mapBackend change account.backend
    fallback := account.fallback.map (mapBackend change) }

def mapServer (server : ServerConfig) : ServerConfig :=
  { server with accessToken := change server.accessToken }

def mapReverse (target : WsReverseTarget) : WsReverseTarget :=
  { target with accessToken := change target.accessToken }

def mapPost (target : HttpPostTarget) : HttpPostTarget :=
  { target with secret := change target.secret }

def mapOneBotV11 (config : OneBotV11Config) : OneBotV11Config :=
  { config with
    wsReverse := config.wsReverse.map (mapReverse change)
    httpPost := config.httpPost.map (mapPost change) }

def mapProtocols (protocols : ProtocolsConfig) : ProtocolsConfig :=
  { protocols with onebotV11 := protocols.onebotV11.map (mapOneBotV11 change) }

def mapSecrets (config : AppConfig) : AppConfig :=
  { config with
    server := mapServer change config.server
    accounts := config.accounts.map (mapAccount change)
    protocols := mapProtocols change config.protocols }

end Secrets

/-- What may be known of a secret: whether it is set. -/
def blank (secret : String) : String := if secret = "" then "" else "set"

/-- Two configurations differ only in the contents of secrets that are set. -/
def AgreeUpToSecrets (left right : AppConfig) : Prop :=
  mapSecrets blank left = mapSecrets blank right

def reverseTokens (protocols : ProtocolsConfig) : List String :=
  match protocols.onebotV11 with
  | none => []
  | some config => config.wsReverse.map WsReverseTarget.accessToken

def postSecrets (protocols : ProtocolsConfig) : List String :=
  match protocols.onebotV11 with
  | none => []
  | some config => config.httpPost.map HttpPostTarget.secret

@[simp]
theorem redactToken_blank (token : String) : redactToken (blank token) = redactToken token := by
  unfold redactToken blank
  by_cases unset : token = ""
  · simp [unset]
  · simp [unset]

theorem redactServer_mapServer (server : ServerConfig) :
    redactServer (mapServer blank server) = redactServer server := by
  simp [redactServer, mapServer]

theorem redactBackend_mapBackend (backend : BackendConfig) :
    redactBackend (mapBackend blank backend) = redactBackend backend := by
  simp [redactBackend, mapBackend]

theorem redactAccount_mapAccount (account : AccountConfig) :
    redactAccount (mapAccount blank account) = redactAccount account := by
  simp [redactAccount, mapAccount, redactBackend_mapBackend, Function.comp_def]

theorem redact_eq (config : AppConfig) :
    redact config = { redact (mapSecrets blank config) with protocols := config.protocols } := by
  simp [redact, mapSecrets, redactServer_mapServer, redactAccount_mapAccount, Function.comp_def]

theorem eq_of_map_eq {Item First Second : Type} {first : Item → First} {second : Item → Second}
    (determined : ∀ left right, first left = first right → second left = second right →
      left = right) {left right : List Item} (firsts : left.map first = right.map first)
    (seconds : left.map second = right.map second) : left = right := by
  induction left generalizing right with
  | nil => simpa [eq_comm] using firsts
  | cons item rest inductionHypothesis =>
      cases right with
      | nil => simp at firsts
      | cons other others =>
          simp only [List.map_cons, List.cons.injEq] at firsts seconds
          rw [determined item other firsts.1 seconds.1,
            inductionHypothesis firsts.2 seconds.2]

theorem reverse_determined (left right : WsReverseTarget)
    (blanked : mapReverse blank left = mapReverse blank right)
    (token : left.accessToken = right.accessToken) : left = right := by
  cases left
  cases right
  simp only [mapReverse, WsReverseTarget.mk.injEq] at blanked token ⊢
  exact ⟨blanked.1, token⟩

theorem post_determined (left right : HttpPostTarget)
    (blanked : mapPost blank left = mapPost blank right)
    (secret : left.secret = right.secret) : left = right := by
  cases left
  cases right
  simp only [mapPost, HttpPostTarget.mk.injEq] at blanked secret ⊢
  exact ⟨blanked.1, secret⟩

theorem protocols_eq {left right : ProtocolsConfig}
    (agree : mapProtocols blank left = mapProtocols blank right)
    (tokens : reverseTokens left = reverseTokens right)
    (secrets : postSecrets left = postSecrets right) : left = right := by
  rcases left with ⟨leftV11, _, _, _⟩
  rcases right with ⟨rightV11, _, _, _⟩
  simp only [mapProtocols, ProtocolsConfig.mk.injEq] at agree
  obtain ⟨v11, rfl, rfl, rfl⟩ := agree
  cases leftV11 with
  | none =>
      cases rightV11 with
      | none => rfl
      | some _ => cases v11
  | some leftConfig =>
      cases rightV11 with
      | none => cases v11
      | some rightConfig =>
          rcases leftConfig with ⟨_, _, _, leftReverse, leftPost⟩
          rcases rightConfig with ⟨_, _, _, rightReverse, rightPost⟩
          simp only [Option.map_some, mapOneBotV11, Option.some.injEq,
            OneBotV11Config.mk.injEq] at v11
          obtain ⟨rfl, rfl, rfl, reverse, post⟩ := v11
          have sameReverse : leftReverse = rightReverse :=
            eq_of_map_eq reverse_determined reverse tokens
          have samePost : leftPost = rightPost := eq_of_map_eq post_determined post secrets
          rw [sameReverse, samePost]

def shownTexts (list key : String) (body : Json) : List (Option String) :=
  let protocols := (body.get "data").bind (Json.get "protocols")
  let targets := (protocols.bind (Json.get "onebot_v11")).bind (Json.get list)
  ((targets.bind Json.asArray).getD []).map fun target => (target.get key).bind Json.asStr

def shown (config : AppConfig) : Json :=
  .ofFields [("status", .string "ok"), ("data", (redact config).toJson)]

theorem onebotV11_shown (config : AppConfig) :
    (((shown config).get "data").bind (Json.get "protocols")).bind (Json.get "onebot_v11") =
      some (Json.nullable (config.protocols.onebotV11.map OneBotV11Config.toJson)) := by
  simp [shown, redact, AppConfig.toJson, ProtocolsConfig.toJson, Json.get_ofFields,
    List.lookup_cons]

theorem shownTexts_reverse (config : AppConfig) :
    shownTexts "ws_reverse" "access_token" (shown config) =
      (reverseTokens config.protocols).map some := by
  simp only [shownTexts, onebotV11_shown, reverseTokens]
  cases config.protocols.onebotV11 with
  | none => rfl
  | some protocol =>
      simp [Json.nullable, OneBotV11Config.toJson, WsReverseTarget.toJson, Json.get_ofFields,
        List.lookup_cons, Function.comp_def]

theorem shownTexts_post (config : AppConfig) :
    shownTexts "http_post" "secret" (shown config) =
      (postSecrets config.protocols).map some := by
  simp only [shownTexts, onebotV11_shown, postSecrets]
  cases config.protocols.onebotV11 with
  | none => rfl
  | some protocol =>
      simp [Json.nullable, OneBotV11Config.toJson, HttpPostTarget.toJson, Json.get_ofFields,
        Function.comp_def]

theorem shown_eq_iff {left right : AppConfig} (agree : AgreeUpToSecrets left right) :
    shown left = shown right ↔
      reverseTokens left.protocols = reverseTokens right.protocols ∧
        postSecrets left.protocols = postSecrets right.protocols := by
  constructor
  · intro same
    have tokens := congrArg (shownTexts "ws_reverse" "access_token") same
    have secrets := congrArg (shownTexts "http_post" "secret") same
    rw [shownTexts_reverse, shownTexts_reverse] at tokens
    rw [shownTexts_post, shownTexts_post] at secrets
    exact ⟨(List.map_inj_right fun _ _ => Option.some.inj).mp tokens,
      (List.map_inj_right fun _ _ => Option.some.inj).mp secrets⟩
  · rintro ⟨tokens, secrets⟩
    have protocols : left.protocols = right.protocols :=
      protocols_eq (congrArg AppConfig.protocols agree) tokens secrets
    have redacted : redact left = redact right := by
      rw [redact_eq left, redact_eq right, show mapSecrets blank left = mapSecrets blank right from
        agree, protocols]
    rw [shown, shown, redacted]

theorem handleConfig_of_parsed {path text : String}
    {readToString : String → Except String String} {fromStr : String → Except String AppConfig}
    {config : AppConfig} (read : readToString path = .ok text)
    (parsed : fromStr text = .ok config) :
    handleConfig (some path) readToString fromStr = shown config := by
  simp only [handleConfig, read, parsed, shown]

/-- Two configurations that differ only in secrets get the same answer exactly
when the secrets of their protocol targets are the same. -/
theorem handleConfig_eq_iff {leftPath rightPath leftText rightText : String}
    {readToString : String → Except String String} {fromStr : String → Except String AppConfig}
    {left right : AppConfig} (leftRead : readToString leftPath = .ok leftText)
    (leftParsed : fromStr leftText = .ok left) (rightRead : readToString rightPath = .ok rightText)
    (rightParsed : fromStr rightText = .ok right) (agree : AgreeUpToSecrets left right) :
    handleConfig (some leftPath) readToString fromStr =
        handleConfig (some rightPath) readToString fromStr ↔
      reverseTokens left.protocols = reverseTokens right.protocols ∧
        postSecrets left.protocols = postSecrets right.protocols := by
  rw [handleConfig_of_parsed leftRead leftParsed, handleConfig_of_parsed rightRead rightParsed]
  exact shown_eq_iff agree

def settings (token : String) (onebotV11 : Option OneBotV11Config) : AppConfig :=
  { server :=
      { host := "0.0.0.0", port := 8080, accessToken := token, dashboard := true
        rateLimit := { enabled := false, requestsPerSecond := 100, burst := 200 } }
    accounts := []
    protocols := { onebotV11 := onebotV11, onebotV12 := none, milky := none, satori := none }
    storage := { enabled := false, path := "./data/messages.db", maxDays := 30 }
    dedup := { enabled := true, windowSecs := 60 }
    plugins := []
    logging := { level := "info", file := none, console := true } }

def reverseTo (token : String) : OneBotV11Config :=
  { enabled := true, http := true, ws := true
    wsReverse := [{ url := "ws://a", accessToken := token }], httpPost := [] }

def sampleFiles : List (String × String × AppConfig) :=
  [("a.yaml", "server:\n  access_token: one\n", settings "one" none),
    ("b.yaml", "server:\n  access_token: two\n", settings "two" none),
    ("c.yaml",
      "protocols:\n  onebot_v11:\n    ws_reverse: [\x7burl: ws://a, access_token: one\x7d]\n",
      settings "" (some (reverseTo "one"))),
    ("d.yaml",
      "protocols:\n  onebot_v11:\n    ws_reverse: [\x7burl: ws://a, access_token: two\x7d]\n",
      settings "" (some (reverseTo "two")))]

def readSample (path : String) : Except String String :=
  match sampleFiles.find? (·.1 == path) with
  | some (_, text, _) => .ok text
  | none => .error "No such file or directory (os error 2)"

def parseSample (text : String) : Except String AppConfig :=
  match sampleFiles.find? (·.2.1 == text) with
  | some (_, _, config) => .ok config
  | none => .error "invalid type"

theorem handleConfig_eq_iff_server :
    handleConfig (some "a.yaml") readSample parseSample =
      handleConfig (some "b.yaml") readSample parseSample := by
  have leftRead : readSample "a.yaml" = .ok "server:\n  access_token: one\n" := rfl
  have leftParsed : parseSample "server:\n  access_token: one\n" = .ok (settings "one" none) := rfl
  have rightRead : readSample "b.yaml" = .ok "server:\n  access_token: two\n" := rfl
  have rightParsed : parseSample "server:\n  access_token: two\n" = .ok (settings "two" none) := rfl
  exact (handleConfig_eq_iff leftRead leftParsed rightRead rightParsed rfl).mpr ⟨rfl, rfl⟩

/-- Two tokens of a reverse target are told apart. -/
theorem reverseToken_shown :
    AgreeUpToSecrets (settings "" (some (reverseTo "one"))) (settings "" (some (reverseTo "two"))) ∧
      handleConfig (some "c.yaml") readSample parseSample =
        shown (settings "" (some (reverseTo "one"))) ∧
      handleConfig (some "d.yaml") readSample parseSample =
        shown (settings "" (some (reverseTo "two"))) ∧
      handleConfig (some "c.yaml") readSample parseSample ≠
        handleConfig (some "d.yaml") readSample parseSample := by
  have first : handleConfig (some "c.yaml") readSample parseSample =
      shown (settings "" (some (reverseTo "one"))) := handleConfig_of_parsed rfl rfl
  have second : handleConfig (some "d.yaml") readSample parseSample =
      shown (settings "" (some (reverseTo "two"))) := handleConfig_of_parsed rfl rfl
  refine ⟨rfl, first, second, ?_⟩
  rw [first, second]
  intro same
  have tokens := congrArg (shownTexts "ws_reverse" "access_token") same
  rw [shownTexts_reverse, shownTexts_reverse] at tokens
  simp [settings, reverseTokens, reverseTo] at tokens

end Ferroq.Gateway.Management
