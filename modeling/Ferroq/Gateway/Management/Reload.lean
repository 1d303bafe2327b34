import Ferroq.Core.Validation
import Ferroq.Gateway.Management
import Ferroq.Gateway.RateLimiter
import Ferroq.Gateway.SharedConfig
import Ferroq.Library.Writers

/-!
# Reloading the configuration

A reload reads the file, and applies the settings of a valid one in steps of
their own: it reads the token in force, replaces it when the file has another
one, and stores the rate and then the size of the limiter.  Nothing keeps two
reloads apart, and each of them finds what the other has done so far.
-/

namespace Ferroq.Gateway.Management

open Ferroq.Core Ferroq.Library
open RateLimiter (Service)

/-- What a reload has to apply. -/
structure Checked where
  config : ValidConfig
  warnings : List String

/-- The first half of a reload, up to the configuration that is applied; an error
is the answer of the request. -/
def checkConfig (configPath : Option String) (readToString : String → Except String String)
    (fromStr : String → Except String AppConfig) : Except Json Checked :=
  match configPath with
  | none => .error (failed "config path not available")
  | some path =>
      match readToString path with
      | .error error => .error (failed s!"cannot read config file: {error}")
      | .ok text =>
          match fromStr text with
          | .error error => .error (failed s!"config parse error: {error}")
          | .ok config =>
              let errors := reported .error (validate config)
              let warnings := reported .warning (validate config)
              if valid : errors.isEmpty then
                .ok ⟨⟨config, by simpa [errors, reported_error_isEmpty] using valid⟩, warnings⟩
              else
                .error (.ofFields
                  [("status", .string "failed"),
                    ("message", .string "configuration has validation errors"),
                    ("errors", .array (errors.map .string)),
                    ("warnings", .array (warnings.map .string))])

structure Settings where
  accessToken : String
  requestsPerSecond : UInt32
  burst : UInt32
  deriving DecidableEq

def Checked.settings (checked : Checked) : Settings where
  accessToken := checked.config.1.server.accessToken
  requestsPerSecond := checked.config.1.server.rateLimit.requestsPerSecond
  burst := checked.config.1.server.rateLimit.burst

structure Comparison where
  checked : Checked
  currentToken : String

inductive Stage where
  | tokenSettled
  | rpsStored
  | finished
  deriving DecidableEq

/-- How many of its settings a reload has settled. -/
def Stage.stored : Stage → Nat
  | .tokenSettled => 1
  | .rpsStored => 2
  | .finished => 3

theorem Stage.stored_pos (stage : Stage) : 0 < stage.stored := by
  cases stage <;> decide

structure Reload where
  checked : Checked
  changes : List String
  stage : Stage

def Reload.writer (reload : Reload) : Writer Settings :=
  ⟨reload.checked.settings, reload.stage.stored⟩

def Reload.answer (reload : Reload) : Json :=
  .ofFields
    [("status", .string "ok"),
      ("message", .string "configuration reloaded"),
      ("changes", .array (reload.changes.map .string)),
      ("warnings", .array (reload.checked.warnings.map .string)),
      ("note", .string ("use the adapter management API (/api/accounts) to add, remove, " ++
        "or reconnect adapters at runtime"))]

/-- The settings in force, with the reloads under way in the order in which they
settled the token. -/
structure Reloading where
  sharedConfig : SharedConfig
  rateLimiter : Option Service
  comparing : List Comparison
  applying : List Reload
  answers : List Json

namespace Reloading

def start (sharedConfig : SharedConfig) (rateLimiter : Option Service) : Reloading where
  sharedConfig := sharedConfig
  rateLimiter := rateLimiter
  comparing := []
  applying := []
  answers := []

inductive Action where
  /-- A request reads the file and the token in force. -/
  | handleReload (file : Except String String)
  /-- A reload replaces the token that it has compared, or leaves it. -/
  | settleToken (index : Nat)
  /-- A reload stores its next setting of the limiter. -/
  | update (index : Nat)
  /-- A request or a tick of the refill task goes through the limiter. -/
  | serve (action : Service.Action)

/-- The two stores of `update_config`; without a limiter they are left out. -/
def update (state : Reloading) (index : Nat) (reload : Reload) : Option Reloading :=
  let settings := reload.checked.settings
  match reload.stage with
  | .tokenSettled =>
      some { state with
        rateLimiter := state.rateLimiter.map fun service =>
          { service with limiter := service.limiter.storeRps settings.requestsPerSecond }
        applying := state.applying.set index { reload with stage := .rpsStored } }
  | .rpsStored =>
      let changes :=
        if state.rateLimiter.isSome then
          [s!"rate_limit updated: rps={settings.requestsPerSecond}, burst={settings.burst}"]
        else []
      let done := { reload with stage := .finished, changes := reload.changes ++ changes }
      some { state with
        rateLimiter := state.rateLimiter.map fun service =>
          { service with limiter := service.limiter.storeBurst settings.burst }
        applying := state.applying.set index done
        answers := state.answers ++ [done.answer] }
  | .finished => none

section Machine

variable (configPath : Option String) (fromStr : String → Except String AppConfig)

def step (state : Reloading) : Action → Option Reloading
  | .handleReload file =>
      match checkConfig configPath (fun _ => file) fromStr with
      | .error answer => some { state with answers := state.answers ++ [answer] }
      | .ok checked =>
          some { state with
            comparing := state.comparing ++ [⟨checked, state.sharedConfig.accessToken⟩] }
  | .settleToken index =>
      match state.comparing[index]? with
      | none => none
      | some ⟨checked, currentToken⟩ =>
          let token := checked.settings.accessToken
          if token ≠ currentToken then
            some { state with
              sharedConfig := state.sharedConfig.setAccessToken token
              comparing := state.comparing.eraseIdx index
              applying := state.applying ++ [⟨checked, ["access_token updated"], .tokenSettled⟩] }
          else
            some { state with
              comparing := state.comparing.eraseIdx index
              applying := state.applying ++ [⟨checked, [], .tokenSettled⟩] }
  | .update index =>
      match state.applying[index]? with
      | none => none
      | some reload => state.update index reload
  | .serve (.startRefill _) | .serve (.storeRps _) | .serve (.storeBurst _) => none
  | .serve action =>
      match state.rateLimiter with
      | none => none
      | some service =>
          (Service.step service action).map fun service =>
            { state with rateLimiter := some service }

def machine : Machine Reloading Action := ⟨step configPath fromStr⟩

end Machine

def writers (state : Reloading) : List (Writer Settings) := state.applying.map Reload.writer

inductive Moves (state : Reloading) : Action → Reloading → Prop where
  | refuse (file : Except String String) (answer : Json) :
      Moves state (.handleReload file) { state with answers := state.answers ++ [answer] }
  | compare (file : Except String String) (checked : Checked) :
      Moves state (.handleReload file)
        { state with
          comparing := state.comparing ++ [⟨checked, state.sharedConfig.accessToken⟩] }
  | replaceToken {index : Nat} {comparison : Comparison}
      (found : state.comparing[index]? = some comparison)
      (different : comparison.checked.settings.accessToken ≠ comparison.currentToken) :
      Moves state (.settleToken index)
        { state with
          sharedConfig :=
            state.sharedConfig.setAccessToken comparison.checked.settings.accessToken
          comparing := state.comparing.eraseIdx index
          applying := state.applying ++
            [⟨comparison.checked, ["access_token updated"], .tokenSettled⟩] }
  | keepToken {index : Nat} {comparison : Comparison}
      (found : state.comparing[index]? = some comparison)
      (same : comparison.checked.settings.accessToken = comparison.currentToken) :
      Moves state (.settleToken index)
        { state with
          comparing := state.comparing.eraseIdx index
          applying := state.applying ++ [⟨comparison.checked, [], .tokenSettled⟩] }
  | storeRps {index : Nat} {reload : Reload}
      (found : state.applying[index]? = some reload) (settled : reload.stage = .tokenSettled) :
      Moves state (.update index)
        { state with
          rateLimiter := state.rateLimiter.map fun service =>
            { service with
              limiter := service.limiter.storeRps reload.checked.settings.requestsPerSecond }
          applying := state.applying.set index { reload with stage := .rpsStored } }
  | storeBurst {index : Nat} {reload : Reload} (changes : List String) (answer : Json)
      (found : state.applying[index]? = some reload) (stored : reload.stage = .rpsStored) :
      Moves state (.update index)
        { state with
          rateLimiter := state.rateLimiter.map fun service =>
            { service with limiter := service.limiter.storeBurst reload.checked.settings.burst }
          applying :=
            state.applying.set index { reload with changes := changes, stage := .finished }
          answers := state.answers ++ [answer] }
  | serve {action : Service.Action} {service later : Service}
      (limiter : state.rateLimiter = some service)
      (stepped : Service.machine.step service action = some later)
      (rps : later.limiter.rps = service.limiter.rps)
      (burst : later.limiter.burst = service.limiter.burst) :
      Moves state (.serve action) { state with rateLimiter := some later }

theorem settings_serve {service later : Service} {action : Service.Action}
    (request : action = .tryAcquire ∨ ∃ task, action = .refill task)
    (stepped : Service.machine.step service action = some later) :
    later.limiter.rps = service.limiter.rps ∧ later.limiter.burst = service.limiter.burst := by
  rcases request with rfl | ⟨task, rfl⟩
  · cases RateLimiter.Service.step_moves stepped with
    | granted => exact service.limiter.tryAcquire_settings
    | refused => exact ⟨rfl, rfl⟩
  · cases RateLimiter.Service.step_moves stepped with
    | readRps | readBurst | fill => exact ⟨rfl, rfl⟩

section Runs

variable {configPath : Option String} {fromStr : String → Except String AppConfig}
variable {state next : Reloading} {action : Action}

theorem step_moves (stepped : (machine configPath fromStr).step state action = some next) :
    Moves state action next := by
  change step configPath fromStr state action = some next at stepped
  cases action with
  | handleReload file =>
      simp only [step] at stepped
      split at stepped
      next answer _ => exact Option.some.inj stepped ▸ .refuse file answer
      next checked _ => exact Option.some.inj stepped ▸ .compare file checked
  | settleToken index =>
      simp only [step] at stepped
      split at stepped
      next => simp at stepped
      next checked currentToken found =>
        split at stepped
        next different => exact Option.some.inj stepped ▸ .replaceToken found different
        next same => exact Option.some.inj stepped ▸ .keepToken found (not_not.mp same)
  | update index =>
      simp only [step] at stepped
      split at stepped
      next => simp at stepped
      next reload found =>
        unfold update at stepped
        dsimp only at stepped
        split at stepped
        next settled => exact Option.some.inj stepped ▸ .storeRps found settled
        next stored => exact Option.some.inj stepped ▸ .storeBurst _ _ found stored
        next => simp at stepped
  | serve action =>
      have request (allowed : action = .tryAcquire ∨ ∃ task, action = .refill task)
          (served : (match state.rateLimiter with
            | none => none
            | some service => (Service.step service action).map fun service =>
                { state with rateLimiter := some service }) = some next) :
          Moves state (.serve action) next := by
        split at served
        next => simp at served
        next service limiter =>
          obtain ⟨later, moved, rfl⟩ := Option.map_eq_some_iff.mp served
          have kept := settings_serve allowed moved
          exact .serve limiter moved kept.1 kept.2
      cases action with
      | tryAcquire => exact request (.inl rfl) stepped
      | refill task => exact request (.inr ⟨task, rfl⟩) stepped
      | startRefill | storeRps | storeBurst => cases stepped

/-- However reloads come between each other, the limiter only takes steps of its own. -/
theorem service_step (stepped : (machine configPath fromStr).step state action = some next)
    {service : Service} (limiter : state.rateLimiter = some service) :
    ∃ later, next.rateLimiter = some later ∧
      (later = service ∨ ∃ taken, Service.machine.step service taken = some later) := by
  cases step_moves stepped with
  | refuse | compare | replaceToken | keepToken => exact ⟨service, limiter, .inl rfl⟩
  | @storeRps index reload found settled =>
      exact ⟨_, congrArg (Option.map _) limiter, .inr ⟨.storeRps _, rfl⟩⟩
  | @storeBurst index reload changes answer found stored =>
      exact ⟨_, congrArg (Option.map _) limiter, .inr ⟨.storeBurst _, rfl⟩⟩
  | @serve taken _ later same moved =>
      rw [limiter] at same
      cases same
      exact ⟨later, rfl, .inr ⟨taken, moved⟩⟩

def Finished (state : Reloading) : Prop :=
  state.comparing = [] ∧ ∀ reload ∈ state.applying, reload.stage = .finished

def InForce (state : Reloading) (settings : Settings) : Prop :=
  state.sharedConfig.accessToken = settings.accessToken ∧
    ∀ service ∈ state.rateLimiter,
      service.limiter.rps = settings.requestsPerSecond ∧ service.limiter.burst = settings.burst

/-- Once all reloads have finished, the settings in force are those of one file. -/
def Unmixed (state : Reloading) : Prop :=
  Finished state → state.applying ≠ [] →
    ∃ reload ∈ state.applying, InForce state reload.checked.settings

/-- A reload does not leave the token alone because of one that has been replaced
since it was read, and stores a setting only when every reload with other settings
that settled the token before it has stored that setting. -/
def NoOvertaking (state : Reloading) : Action → Prop
  | .settleToken index => ∀ comparison ∈ state.comparing[index]?,
      comparison.checked.settings.accessToken = comparison.currentToken →
        state.sharedConfig.accessToken = comparison.checked.settings.accessToken
  | .update index => ∀ reload ∈ state.applying[index]?,
      Writers.Behind state.writers index reload.writer
  | _ => True

instance decidableNoOvertaking (state : Reloading) :
    (action : Action) → Decidable (NoOvertaking state action)
  | .settleToken index =>
      inferInstanceAs (Decidable (∀ comparison ∈ state.comparing[index]?,
        comparison.checked.settings.accessToken = comparison.currentToken →
          state.sharedConfig.accessToken = comparison.checked.settings.accessToken))
  | .update index =>
      inferInstanceAs (Decidable (∀ reload ∈ state.applying[index]?,
        Writers.Behind state.writers index reload.writer))
  | .handleReload _ | .serve _ => inferInstanceAs (Decidable True)

/-- Each setting in force is that of the last reload that has stored it. -/
structure LastStored (state : Reloading) : Prop where
  ordered : Writers.InOrder state.writers
  token : Writers.Shows 0
    (fun settings => state.sharedConfig.accessToken = settings.accessToken) state.writers
  rps : Writers.Shows 1
    (fun settings => ∀ service ∈ state.rateLimiter,
      service.limiter.rps = settings.requestsPerSecond) state.writers
  burst : Writers.Shows 2
    (fun settings => ∀ service ∈ state.rateLimiter,
      service.limiter.burst = settings.burst) state.writers

theorem lastStored_start (sharedConfig : SharedConfig) (rateLimiter : Option Service) :
    LastStored (start sharedConfig rateLimiter) :=
  ⟨Writers.inOrder_nil, Writers.shows_nil 0 _, Writers.shows_nil 1 _, Writers.shows_nil 2 _⟩

theorem writers_begun (state : Reloading) : ∀ writer ∈ state.writers, 0 < writer.stored := by
  intro writer listed
  obtain ⟨reload, _, rfl⟩ := List.mem_map.mp listed
  exact reload.stage.stored_pos

theorem LastStored.settle {settings : Settings} (last : LastStored state)
    (token : next.sharedConfig.accessToken = settings.accessToken)
    (limiter : next.rateLimiter = state.rateLimiter)
    (added : next.writers = state.writers ++ [⟨settings, 1⟩]) : LastStored next where
  ordered := added ▸ Writers.inOrder_append last.ordered (writers_begun state) settings
  token := added ▸ Writers.shows_append token
  rps := by
    rw [added, limiter]
    exact Writers.shows_append_of_pos Nat.one_pos last.rps settings
  burst := by
    rw [added, limiter]
    exact Writers.shows_append_of_pos Nat.two_pos last.burst settings

/-- A step in which no reload overtakes another leaves each setting with the last
reload that has stored it. -/
theorem lastStored_step (last : LastStored state) (orderly : NoOvertaking state action)
    (stepped : (machine configPath fromStr).step state action = some next) :
    LastStored next := by
  cases step_moves stepped with
  | refuse | compare => exact ⟨last.ordered, last.token, last.rps, last.burst⟩
  | replaceToken found different =>
      exact last.settle rfl rfl (by simp [writers, Reload.writer, Stage.stored])
  | keepToken found same =>
      exact last.settle (orderly _ found same) rfl (by simp [writers, Reload.writer, Stage.stored])
  | @storeRps index reload found settled =>
      have place : state.writers[index]? = some ⟨reload.checked.settings, 1⟩ := by
        simp [writers, Reload.writer, found, settled, Stage.stored]
      have behind : Writers.Behind state.writers index ⟨reload.checked.settings, 1⟩ := by
        simpa [Reload.writer, settled, Stage.stored] using orderly reload found
      have moved : (state.applying.set index { reload with stage := .rpsStored }).map
          Reload.writer = state.writers.set index ⟨reload.checked.settings, 1 + 1⟩ := by
        simp [writers, List.map_set, Reload.writer, Stage.stored]
      refine ⟨?_, ?_, ?_, ?_⟩ <;> simp only [writers, moved]
      · exact Writers.inOrder_set last.ordered place behind
      · exact Writers.shows_set_of_ne last.token place (by simp)
      · refine Writers.shows_set last.ordered place ?_
        simp [RateLimiter.storeRps]
      · refine Writers.shows_set_of_ne ?_ place (by simp)
        simpa [RateLimiter.storeRps] using last.burst
  | @storeBurst index reload changes answer found stored =>
      have place : state.writers[index]? = some ⟨reload.checked.settings, 2⟩ := by
        simp [writers, Reload.writer, found, stored, Stage.stored]
      have behind : Writers.Behind state.writers index ⟨reload.checked.settings, 2⟩ := by
        simpa [Reload.writer, stored, Stage.stored] using orderly reload found
      have moved : (state.applying.set index
          { reload with changes := changes, stage := .finished }).map Reload.writer =
          state.writers.set index ⟨reload.checked.settings, 2 + 1⟩ := by
        simp [writers, List.map_set, Reload.writer, Stage.stored]
      refine ⟨?_, ?_, ?_, ?_⟩ <;> simp only [writers, moved]
      · exact Writers.inOrder_set last.ordered place behind
      · exact Writers.shows_set_of_ne last.token place (by simp)
      · refine Writers.shows_set_of_ne ?_ place (by simp)
        simpa [RateLimiter.storeBurst] using last.rps
      · refine Writers.shows_set last.ordered place ?_
        simp [RateLimiter.storeBurst]
  | serve limiter moved rps burst =>
      refine ⟨last.ordered, last.token, ?_, ?_⟩
      · simpa [limiter, rps, writers] using last.rps
      · simpa [limiter, burst, writers] using last.burst

theorem unmixed_of_lastStored (last : LastStored state) : Unmixed state := by
  rintro ⟨_, finished⟩ inhabited
  have listed : state.writers ≠ [] := by simpa [writers] using inhabited
  have stored (cell : Nat) (small : cell < 3) : ∀ writer ∈ state.writers, cell < writer.stored := by
    intro writer member
    obtain ⟨reload, found, rfl⟩ := List.mem_map.mp member
    simpa [Reload.writer, finished reload found, Stage.stored] using small
  refine ⟨state.applying.getLast inhabited, List.getLast_mem inhabited, ?_⟩
  have token := Writers.holds_getLast last.token (stored 0 (by decide)) listed
  have rps := Writers.holds_getLast last.rps (stored 1 (by decide)) listed
  have burst := Writers.holds_getLast last.burst (stored 2 (by decide)) listed
  simp only [writers, List.getLast_map] at token rps burst
  exact ⟨token, fun service limiter => ⟨rps service limiter, burst service limiter⟩⟩

end Runs

/-- As long as no reload overtakes another, the settings in force after any number of
reloads are those of one file. -/
theorem unmixed_throughout (configPath : Option String)
    (fromStr : String → Except String AppConfig) (sharedConfig : SharedConfig)
    (rateLimiter : Option Service) (actions : List Action)
    (admitted : (machine configPath fromStr).Admits NoOvertaking
      (start sharedConfig rateLimiter) actions) :
    (machine configPath fromStr).Throughout Unmixed (start sharedConfig rateLimiter) actions :=
  (machine configPath fromStr).throughout_of_admits
    (fun _ _ _ last orderly stepped => lastStored_step last orderly stepped)
    (fun _ last => unmixed_of_lastStored last)
    (lastStored_start sharedConfig rateLimiter) admitted

def limited (token : String) (requestsPerSecond burst : UInt32) : AppConfig :=
  let defaults := Management.settings token none
  { defaults with
    server := { defaults.server with
      rateLimit := { defaults.server.rateLimit with requestsPerSecond, burst } } }

def firstFile : String :=
  "server:\n  access_token: one\n  rate_limit:\n    requests_per_second: 1\n    burst: 10\n"

def secondFile : String :=
  "server:\n  access_token: two\n  rate_limit:\n    requests_per_second: 2\n    burst: 20\n"

def parseReload (text : String) : Except String AppConfig :=
  if text = firstFile then .ok (limited "one" 1 10)
  else if text = secondFile then .ok (limited "two" 2 20)
  else .error "invalid type"

/-- Two reloads of which the second one is always behind the first. -/
def orderlyReloads : List Action :=
  [.handleReload (.ok firstFile), .handleReload (.ok secondFile), .settleToken 0, .settleToken 0,
    .update 0, .update 1, .update 0, .update 1]

/-- Two reloads of which the second one overtakes the first after the token. -/
def overtakingReloads : List Action :=
  [.handleReload (.ok firstFile), .handleReload (.ok secondFile), .settleToken 0, .settleToken 0,
    .update 1, .update 1, .update 0, .update 0]

theorem unmixed_throughout_orderly :
    (machine (some "config.yaml") parseReload).Throughout Unmixed
      (start ⟨"none"⟩ (some (Service.start 5))) orderlyReloads :=
  unmixed_throughout (some "config.yaml") parseReload ⟨"none"⟩ (some (Service.start 5))
    orderlyReloads (by decide +kernel)

/-- Two reloads can leave the token of one file with the limits of the other. -/
theorem reloads_mixed :
    ∃ final,
      (machine (some "config.yaml") parseReload).run
        (start ⟨"none"⟩ (some (Service.start 5))) overtakingReloads = some final ∧
      Finished final ∧ ¬ Unmixed final := by
  obtain ⟨final, reached, finished, files, token, limits⟩ : ∃ final,
      (machine (some "config.yaml") parseReload).run
        (start ⟨"none"⟩ (some (Service.start 5))) overtakingReloads = some final ∧
      Finished final ∧
      final.applying.map (fun reload => reload.checked.settings) =
        [⟨"one", 1, 10⟩, ⟨"two", 2, 20⟩] ∧
      final.sharedConfig.accessToken = "two" ∧
      final.rateLimiter.map (fun service => (service.limiter.rps, service.limiter.burst)) =
        some (1, 10) :=
    ⟨_, rfl, ⟨rfl, by decide +kernel⟩, by decide +kernel, by decide +kernel, by decide +kernel⟩
  refine ⟨final, reached, finished, ?_⟩
  intro unmixed
  have inhabited : final.applying ≠ [] := by
    intro none
    simp [none] at files
  obtain ⟨reload, listed, sameToken, sameLimits⟩ := unmixed finished inhabited
  obtain ⟨service, limiter, values⟩ := Option.map_eq_some_iff.mp limits
  have among : reload.checked.settings ∈
      final.applying.map fun reload => reload.checked.settings :=
    List.mem_map.mpr ⟨reload, listed, rfl⟩
  rw [files] at among
  have sameRps := (sameLimits service limiter).1
  rw [token] at sameToken
  simp only [Prod.mk.injEq] at values
  rw [values.1] at sameRps
  rcases List.mem_cons.mp among with first | rest
  · rw [first] at sameToken
    exact absurd sameToken (by decide)
  · rw [List.mem_singleton.mp rest] at sameRps
    exact absurd sameRps (by decide)

end Reloading

end Ferroq.Gateway.Management
