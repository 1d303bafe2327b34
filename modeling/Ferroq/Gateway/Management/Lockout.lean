import Ferroq.Gateway.Management.Reload

/-!
# Locking everybody out

The limiter stands before every route, that of a reload included.  With a rate
and a size that are not zero, there is a token after each tick.  Validation does
not look at the two numbers, and with a zero the bucket stays empty once it is.
-/

namespace Ferroq.Gateway.RateLimiter

open Ferroq.Library

theorem pos_of_ne_zero {number : UInt32} (nonzero : number ≠ 0) : 0 < number.toNat := by
  apply Nat.pos_of_ne_zero
  intro zero
  exact nonzero (UInt32.toNat_inj.mp zero)

theorem saturatingAdd_pos (left : UInt32) {right : UInt32} (nonzero : right ≠ 0) :
    0 < (saturatingAdd left right).toNat := by
  have positive := pos_of_ne_zero nonzero
  unfold saturatingAdd
  split
  next small =>
    rw [UInt32.toNat_add, Nat.mod_eq_of_lt small]
    omega
  next large => decide

theorem tryAcquire_granted_iff (limiter : RateLimiter) :
    limiter.tryAcquire.1 = true ↔ limiter.tokens ≠ 0 := by
  rw [← Bool.not_eq_false, tryAcquire_refused_iff]

/-- A tick leaves a token, unless it read a zero or there was none. -/
theorem tryAcquire_fill {limiter : RateLimiter} {rps burst : UInt32} (rate : rps ≠ 0)
    (size : burst ≠ 0) : (limiter.fill rps burst).tryAcquire.1 = true := by
  rw [tryAcquire_granted_iff]
  intro empty
  have filled := fill_toNat limiter rps burst
  have added := saturatingAdd_pos limiter.tokens rate
  have room := pos_of_ne_zero size
  rw [empty] at filled
  change 0 = _ at filled
  omega

theorem fill_empty {limiter : RateLimiter} {rps burst : UInt32} (empty : limiter.tokens = 0)
    (zero : rps = 0 ∨ burst = 0) : (limiter.fill rps burst).tokens = 0 := by
  apply UInt32.toNat_inj.mp
  rw [fill_toNat, empty]
  rcases zero with rfl | rfl
  · have nothing : (saturatingAdd 0 0).toNat = 0 := by decide
    rw [nothing]
    exact Nat.zero_min _
  · exact Nat.min_zero _

/-- A tick under way has read these settings. -/
def Tick.Holds (rps burst : UInt32) : Tick → Prop
  | .waiting => True
  | .rpsRead seen => seen = rps
  | .bothRead seen size => seen = rps ∧ size = burst

namespace Service

/-- What goes on between two reloads. -/
def Serving (action : Action) : Prop := action = .tryAcquire ∨ ∃ task, action = .refill task

/-- The next tick after a state, with whatever requests come until it is over.
It begins with reading the rate in force. -/
def NextTick (service ticked : Service) : Prop :=
  ∃ before begun during filling task rps burst,
    (∀ action ∈ before ++ during, Serving action) ∧
    machine.run service before = some begun ∧ begun.refills[task]? = some .waiting ∧
    machine.run begun during = some filling ∧
    filling.refills[task]? = some (.bothRead rps burst) ∧
    machine.step filling (.refill task) = some ticked

structure Current (rps burst : UInt32) (task : Nat) (service : Service) : Prop where
  rate : service.limiter.rps = rps
  size : service.limiter.burst = burst
  tick : ∀ tick, service.refills[task]? = some tick → tick.Holds rps burst

theorem holds_set {rps burst : UInt32} {refills : List Tick} {task other : Nat} {next : Tick}
    (held : ∀ tick, refills[task]? = some tick → tick.Holds rps burst)
    (step : other = task → next.Holds rps burst) :
    ∀ tick, (refills.set other next)[task]? = some tick → tick.Holds rps burst := by
  intro tick found
  by_cases same : other = task
  · rw [List.getElem?_set, if_pos same] at found
    split at found
    next =>
      cases found
      exact step same
    next => cases found
  · rw [List.getElem?_set_ne same] at found
    exact held tick found

theorem current_step {rps burst : UInt32} {task : Nat} {service next : Service}
    {action : Action} (current : Current rps burst task service) (serving : Serving action)
    (stepped : machine.step service action = some next) : Current rps burst task next := by
  obtain ⟨rate, size, held⟩ := current
  rcases serving with rfl | ⟨other, rfl⟩
  · cases step_moves stepped with
    | granted allowed =>
        exact ⟨service.limiter.tryAcquire_settings.1.trans rate,
          service.limiter.tryAcquire_settings.2.trans size, held⟩
    | refused empty => exact ⟨rate, size, held⟩
  · cases step_moves stepped with
    | readRps found => exact ⟨rate, size, holds_set held fun _ => rate⟩
    | @readBurst _ seen found =>
        refine ⟨rate, size, holds_set held ?_⟩
        rintro rfl
        exact ⟨held _ found, size⟩
    | fill found => exact ⟨rate, size, holds_set held fun _ => True.intro⟩

theorem current_run {rps burst : UInt32} {task : Nat} {service final : Service}
    {actions : List Action} (current : Current rps burst task service)
    (serving : ∀ action ∈ actions, Serving action)
    (reached : machine.run service actions = some final) : Current rps burst task final :=
  machine.run_of_admits (fun _ _ _ held allowed stepped => current_step held allowed stepped)
    current (machine.admits_of_forall serving service) reached

theorem granted_of_nextTick {service ticked : Service} (rate : service.limiter.rps ≠ 0)
    (size : service.limiter.burst ≠ 0) (tick : NextTick service ticked) :
    ticked.limiter.tryAcquire.1 = true := by
  obtain ⟨before, begun, during, filling, task, rps, burst, serving, reached, waiting, later, read,
    filled⟩ := tick
  have initial : Current service.limiter.rps service.limiter.burst service.refills.length
      service := ⟨rfl, rfl, fun tick found => by simp at found⟩
  have settings := current_run initial
    (fun action member => serving action (List.mem_append_left _ member)) reached
  have current : Current service.limiter.rps service.limiter.burst task begun :=
    ⟨settings.rate, settings.size, fun tick found => by
      rw [waiting, Option.some.injEq] at found
      exact found ▸ True.intro⟩
  have held := (current_run current
    (fun action member => serving action (List.mem_append_right _ member)) later).tick _ read
  cases step_moves filled with
  | readRps found => simp [read] at found
  | readBurst found => simp [read] at found
  | fill found =>
      rw [read] at found
      cases found
      obtain ⟨rfl, rfl⟩ := held
      exact tryAcquire_fill rate size

theorem exists_drained (service : Service) :
    ∃ drained, machine.run service (List.replicate service.limiter.tokens.toNat .tryAcquire) =
        some drained ∧ drained.limiter.tokens = 0 ∧ drained.refills = service.refills ∧
      drained.limiter.rps = service.limiter.rps ∧
      drained.limiter.burst = service.limiter.burst := by
  generalize count : service.limiter.tokens.toNat = tokens
  induction tokens generalizing service with
  | zero => exact ⟨service, rfl, UInt32.toNat_inj.mp count, rfl, rfl, rfl⟩
  | succ tokens inductionHypothesis =>
      have granted : service.limiter.tryAcquire.1 = true := by
        rw [tryAcquire_granted_iff]
        intro empty
        rw [empty] at count
        cases count
      have taken := tryAcquire_granted granted
      obtain ⟨drained, reached, empty, refills, rate, size⟩ := inductionHypothesis
        { service with
          limiter := service.limiter.tryAcquire.2, granted := service.granted + 1 }
        (by dsimp only; omega)
      refine ⟨drained, ?_, empty, refills, ?_, ?_⟩
      · rw [List.replicate_succ, machine.run_cons_eq_some]
        refine ⟨_, ?_, reached⟩
        change step service .tryAcquire = _
        simp [step, granted]
      · exact rate.trans service.limiter.tryAcquire_settings.1
      · exact size.trans service.limiter.tryAcquire_settings.2

/-- With a zero among the settings, the requests can empty the bucket so that the
next tick leaves it empty. -/
theorem exists_refused_of_zero {service : Service} (task : service.refills[0]? = some .waiting)
    (zero : service.limiter.rps = 0 ∨ service.limiter.burst = 0) :
    ∃ ticked, NextTick service ticked ∧ ticked.limiter.tryAcquire.1 = false := by
  obtain ⟨drained, reached, empty, refills, rate, size⟩ := exists_drained service
  have waiting : drained.refills[0]? = some .waiting := refills ▸ task
  have inside : 0 < drained.refills.length := by
    obtain ⟨bound, -⟩ := List.getElem?_eq_some_iff.mp waiting
    exact bound
  let rateRead : Service :=
    { drained with
      refills := drained.refills.set 0 (.rpsRead drained.limiter.rps)
      rpsTotal := drained.rpsTotal + drained.limiter.rps.toNat }
  let bothRead : Service :=
    { rateRead with
      refills := rateRead.refills.set 0 (.bothRead drained.limiter.rps drained.limiter.burst) }
  have readsRate : rateRead.refills[0]? = some (.rpsRead drained.limiter.rps) :=
    List.getElem?_set_self inside
  have readsBoth : bothRead.refills[0]? =
      some (.bothRead drained.limiter.rps drained.limiter.burst) :=
    List.getElem?_set_self (by simpa [rateRead] using inside)
  have during : machine.run drained [.refill 0, .refill 0] = some bothRead := by
    rw [machine.run_cons_eq_some]
    refine ⟨rateRead, ?_, machine.run_cons_eq_some.mpr ⟨bothRead, ?_, rfl⟩⟩
    · change step drained (.refill 0) = _
      simp only [step, waiting]
      rfl
    · change step rateRead (.refill 0) = _
      simp only [step, readsRate]
      rfl
  refine ⟨{ bothRead with
      limiter := bothRead.limiter.fill drained.limiter.rps drained.limiter.burst
      refills := bothRead.refills.set 0 .waiting
      ticks := bothRead.ticks + 1 },
    ⟨_, drained, _, bothRead, 0, _, _, ?_, reached, waiting, during, readsBoth, ?_⟩, ?_⟩
  · intro action member
    rcases List.mem_append.mp member with request | refill
    · exact .inl (List.eq_of_mem_replicate request)
    · simp only [List.mem_cons, List.not_mem_nil, or_false, or_self] at refill
      exact .inr ⟨0, refill⟩
  · change step bothRead (.refill 0) = _
    simp only [step, readsBoth]
  · rw [tryAcquire_refused_iff]
    exact fill_empty empty (zero.imp rate.trans size.trans)

/-- An empty bucket that no tick fills, with what has been granted. -/
structure Shut (rps burst : UInt32) (granted : Nat) (service : Service) : Prop where
  empty : service.limiter.tokens = 0
  rate : service.limiter.rps = rps
  size : service.limiter.burst = burst
  ticks : ∀ tick ∈ service.refills, tick.Holds rps burst
  total : service.granted = granted

theorem shut_step {rps burst : UInt32} {granted : Nat} (zero : rps = 0 ∨ burst = 0)
    {service next : Service} {action : Action} (shut : Shut rps burst granted service)
    (serving : Serving action) (stepped : machine.step service action = some next) :
    Shut rps burst granted next := by
  obtain ⟨empty, rate, size, held, total⟩ := shut
  rcases serving with rfl | ⟨other, rfl⟩
  · cases step_moves stepped with
    | granted allowed => exact absurd empty ((tryAcquire_granted_iff _).mp allowed)
    | refused _ => exact ⟨empty, rate, size, held, total⟩
  · cases step_moves stepped with
    | readRps found =>
        refine ⟨empty, rate, size, ?_, total⟩
        apply forall_mem_set held
        exact rate
    | @readBurst _ seen found =>
        have same : Tick.Holds rps burst (.rpsRead seen) := held _ (List.mem_of_getElem? found)
        refine ⟨empty, rate, size, ?_, total⟩
        apply forall_mem_set held
        exact ⟨same, size⟩
    | fill found =>
        obtain ⟨rfl, rfl⟩ := held _ (List.mem_of_getElem? found)
        refine ⟨fill_empty empty zero, rate, size, ?_, total⟩
        apply forall_mem_set held
        exact True.intro

theorem shut_run {rps burst : UInt32} {granted : Nat} (zero : rps = 0 ∨ burst = 0)
    {service final : Service} {actions : List Action} (shut : Shut rps burst granted service)
    (serving : ∀ action ∈ actions, Serving action)
    (reached : machine.run service actions = some final) : final.granted = granted := by
  have kept : Shut rps burst granted final := by
    apply machine.run_of_admits _ shut (machine.admits_of_forall serving service) reached
    intro passed action next held allowed stepped
    exact shut_step zero held allowed stepped
  exact kept.total

end Service

end Ferroq.Gateway.RateLimiter

namespace Ferroq.Gateway.Management.Reloading

open Ferroq.Core Ferroq.Library
open RateLimiter (Service)
open RateLimiter.Service (Serving NextTick Shut)

def globalLimiter (config : AppConfig) : Option Service :=
  if config.server.rateLimit.enabled then
    Service.step (.start config.server.rateLimit.burst)
      (.startRefill config.server.rateLimit.requestsPerSecond)
  else none

def startup (config : AppConfig) : Reloading :=
  start ⟨config.server.accessToken⟩ (globalLimiter config)

/-- The states of the limiter with the settings of a configuration in force,
which the gateway was started with or has loaded since. -/
def Loaded (configPath : Option String) (fromStr : String → Except String AppConfig)
    (config : AppConfig) (service : Service) : Prop :=
  ∃ (first : ValidConfig) (actions : List Action) (state : Reloading),
    (machine configPath fromStr).run (startup first.1) actions = some state ∧
      state.rateLimiter = some service ∧
      service.limiter.rps = config.server.rateLimit.requestsPerSecond ∧
      service.limiter.burst = config.server.rateLimit.burst

theorem run_serve (configPath : Option String) (fromStr : String → Except String AppConfig)
    {state : Reloading} {service final : Service} {actions : List Service.Action}
    (limiter : state.rateLimiter = some service) (serving : ∀ action ∈ actions, Serving action)
    (reached : Service.machine.run service actions = some final) :
    ∃ next, (machine configPath fromStr).run state (actions.map .serve) = some next ∧
      next.rateLimiter = some final := by
  induction actions generalizing state service with
  | nil =>
      cases reached
      exact ⟨state, rfl, limiter⟩
  | cons action rest inductionHypothesis =>
      obtain ⟨later, stepped, remaining⟩ := Service.machine.run_cons_eq_some.mp reached
      have served : (machine configPath fromStr).step state (.serve action) =
          some { state with rateLimiter := some later } := by
        change Service.step service action = some later at stepped
        change step configPath fromStr state (.serve action) = _
        rcases serving action List.mem_cons_self with rfl | ⟨task, rfl⟩
        · simp only [step, limiter, stepped, Option.map_some]
        · simp only [step, limiter, stepped, Option.map_some]
      have held : ({ state with rateLimiter := some later } : Reloading).rateLimiter =
          some later := rfl
      obtain ⟨next, ran, last⟩ := inductionHypothesis held
        (fun other member => serving other (List.mem_cons_of_mem action member)) remaining
      exact ⟨next, (machine configPath fromStr).run_cons_eq_some.mpr ⟨_, served, ran⟩, last⟩

theorem globalLimiter_enabled {config : AppConfig}
    (enabled : config.server.rateLimit.enabled = true) :
    ∃ service, globalLimiter config = some service ∧
      service.limiter.tokens = config.server.rateLimit.burst ∧
      service.limiter.rps = config.server.rateLimit.requestsPerSecond ∧
      service.limiter.burst = config.server.rateLimit.burst ∧ service.refills = [.waiting] := by
  let limiter := (RateLimiter.new config.server.rateLimit.burst).storeRps
    config.server.rateLimit.requestsPerSecond
  refine ⟨{ Service.start config.server.rateLimit.burst with
    limiter := limiter, refills := [.waiting] }, ?_, rfl, rfl, rfl, rfl⟩
  rw [globalLimiter, if_pos enabled]
  rfl

/-- After a configuration with rate limiting is loaded, a request after the next
tick is always granted exactly if neither the rate nor the size is zero.  With a
zero there comes a state after which nothing is granted any more. -/
theorem grantedAfterTick_iff (configPath : Option String)
    (fromStr : String → Except String AppConfig) (config : ValidConfig)
    (enabled : config.1.server.rateLimit.enabled = true) :
    ((∀ service, Loaded configPath fromStr config.1 service → ∀ ticked,
        NextTick service ticked → ticked.limiter.tryAcquire.1 = true) ↔
      config.1.server.rateLimit.requestsPerSecond ≠ 0 ∧ config.1.server.rateLimit.burst ≠ 0) ∧
    (config.1.server.rateLimit.requestsPerSecond = 0 ∨ config.1.server.rateLimit.burst = 0 →
      ∃ service, Loaded configPath fromStr config.1 service ∧ ∀ actions final,
        (∀ action ∈ actions, Serving action) → Service.machine.run service actions = some final →
          final.granted = service.granted) := by
  obtain ⟨service, limiter, tokens, rate, size, refills⟩ := globalLimiter_enabled enabled
  have loaded : Loaded configPath fromStr config.1 service :=
    ⟨config, [], _, rfl, limiter, rate, size⟩
  have waiting : service.refills[0]? = some .waiting := by rw [refills]; rfl
  refine ⟨⟨?_, ?_⟩, ?_⟩
  · intro granted
    by_contra zero
    rw [not_and_or, not_not, not_not, ← rate, ← size] at zero
    obtain ⟨ticked, tick, refused⟩ := RateLimiter.Service.exists_refused_of_zero waiting zero
    rw [granted service loaded ticked tick] at refused
    cases refused
  · rintro ⟨someRate, someSize⟩ other ⟨first, actions, state, reached, held, sameRate, sameSize⟩
      ticked tick
    apply RateLimiter.Service.granted_of_nextTick _ _ tick
    · rwa [sameRate]
    · rwa [sameSize]
  · intro zero
    obtain ⟨drained, reached, empty, sameRefills, sameRate, sameSize⟩ :=
      RateLimiter.Service.exists_drained service
    have serving : ∀ action ∈ List.replicate service.limiter.tokens.toNat
        Service.Action.tryAcquire, Serving action := by
      intro action member
      exact .inl (List.eq_of_mem_replicate member)
    have begun : (startup config.1).rateLimiter = some service := limiter
    obtain ⟨state, ran, last⟩ := run_serve configPath fromStr begun serving reached
    refine ⟨drained, ⟨config, _, state, ran, last, sameRate.trans rate, sameSize.trans size⟩, ?_⟩
    intro actions final requests later
    have shut : Shut drained.limiter.rps drained.limiter.burst drained.granted drained := by
      refine ⟨empty, rfl, rfl, ?_, rfl⟩
      intro tick member
      rw [sameRefills, refills, List.mem_singleton] at member
      exact member ▸ True.intro
    apply RateLimiter.Service.shut_run _ shut requests later
    rwa [sameRate, sameSize, rate, size]

def limitedTo (requestsPerSecond burst : UInt32) : AppConfig :=
  let defaults := Management.settings "" none
  { defaults with
    server := { defaults.server with rateLimit := ⟨true, requestsPerSecond, burst⟩ } }

/-- A rate of zero is valid. -/
def withoutRefill : ValidConfig := ⟨limitedTo 0 1, by decide +kernel⟩

theorem grantedAfterTick_iff_withoutRefill :
    ((∀ service, Loaded none (fun _ => .error "") withoutRefill.1 service → ∀ ticked,
        NextTick service ticked → ticked.limiter.tryAcquire.1 = true) ↔
      (0 : UInt32) ≠ 0 ∧ (1 : UInt32) ≠ 0) ∧
    ((0 : UInt32) = 0 ∨ (1 : UInt32) = 0 →
      ∃ service, Loaded none (fun _ => .error "") withoutRefill.1 service ∧ ∀ actions final,
        (∀ action ∈ actions, Serving action) → Service.machine.run service actions = some final →
          final.granted = service.granted) :=
  grantedAfterTick_iff none (fun _ => .error "") withoutRefill rfl

/-- After one request the bucket is empty, and the tick does not fill it. -/
theorem withoutRefill_refused :
    ∃ service ticked, Loaded none (fun _ => .error "") withoutRefill.1 service ∧
      NextTick service ticked ∧ ticked.limiter.tryAcquire.1 = false := by
  obtain ⟨service, limiter, ticked, tick, refused⟩ : ∃ service,
      globalLimiter withoutRefill.1 = some service ∧
        ∃ ticked, NextTick service ticked ∧ ticked.limiter.tryAcquire.1 = false := by
    refine ⟨_, rfl, _, ⟨[.tryAcquire], _, [.refill 0, .refill 0], _, 0, 0, 1, ?_, rfl, rfl, rfl,
      rfl, rfl⟩, rfl⟩
    simp [Serving]
  have settings : service.limiter.rps = 0 ∧ service.limiter.burst = 1 := by
    cases limiter
    exact ⟨rfl, rfl⟩
  exact ⟨service, ticked, ⟨withoutRefill, [], _, rfl, limiter, settings⟩, tick, refused⟩

end Ferroq.Gateway.Management.Reloading
