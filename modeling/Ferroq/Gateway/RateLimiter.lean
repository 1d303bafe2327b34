import Ferroq.Library.Machine
import Ferroq.Library.Tally
import Ferroq.Library.Parts

/-!
# The rate limiter

A bucket of tokens that requests empty, a timer fills and a hot reload resizes.
Its three numbers are atomics of their own, so a tick reads the rate and the
size in two steps before it fills the bucket in a third, and `update_config`
stores the two in two steps as well.
-/

namespace Ferroq.Gateway

open Ferroq.Library

/-- Addition of `u32` that stops at the largest value. -/
def saturatingAdd (left right : UInt32) : UInt32 :=
  if left.toNat + right.toNat < UInt32.size then left + right
  else UInt32.ofNat (UInt32.size - 1)

theorem saturatingAdd_le (left right : UInt32) :
    (saturatingAdd left right).toNat ≤ left.toNat + right.toNat := by
  unfold saturatingAdd
  split
  next => exact Nat.mod_le _ _
  next large => exact Nat.le_trans (Nat.mod_le _ _) (by omega)

structure RateLimiter where
  tokens : UInt32
  burst : UInt32
  rps : UInt32
  deriving DecidableEq

namespace RateLimiter

def new (burst : UInt32) : RateLimiter where
  tokens := burst
  burst := burst
  rps := 0

def tryAcquire (limiter : RateLimiter) : Bool × RateLimiter :=
  if 0 < limiter.tokens then (true, { limiter with tokens := limiter.tokens - 1 })
  else (false, limiter)

def fill (limiter : RateLimiter) (rps burst : UInt32) : RateLimiter :=
  { limiter with tokens := min (saturatingAdd limiter.tokens rps) burst }

/-- The first store of `update_config`, and that of `start_refill`. -/
def storeRps (limiter : RateLimiter) (rps : UInt32) : RateLimiter := { limiter with rps }

/-- The second store of `update_config`. -/
def storeBurst (limiter : RateLimiter) (burst : UInt32) : RateLimiter := { limiter with burst }

theorem tryAcquire_refused_iff (limiter : RateLimiter) :
    limiter.tryAcquire.1 = false ↔ limiter.tokens = 0 := by
  unfold tryAcquire
  split
  next some =>
    have nonzero : limiter.tokens ≠ 0 := by
      intro empty
      simp [empty] at some
    simp [nonzero]
  next none =>
    have empty : limiter.tokens = 0 := by
      apply UInt32.toNat_inj.mp
      simpa [UInt32.lt_iff_toNat_lt] using none
    simp [empty]

theorem tryAcquire_granted {limiter : RateLimiter} (granted : limiter.tryAcquire.1 = true) :
    limiter.tryAcquire.2.tokens.toNat + 1 = limiter.tokens.toNat := by
  unfold tryAcquire at granted ⊢
  split at granted
  next some =>
    rw [if_pos some]
    have positive : 0 < limiter.tokens.toNat := by
      simpa [UInt32.lt_iff_toNat_lt] using some
    have taken : (limiter.tokens - 1).toNat = limiter.tokens.toNat - 1 :=
      UInt32.toNat_sub_of_le _ _ (UInt32.le_iff_toNat_le.mpr positive)
    simp only [taken]
    omega
  next => simp at granted

theorem tryAcquire_refused {limiter : RateLimiter} (refused : limiter.tryAcquire.1 = false) :
    limiter.tryAcquire.2 = limiter := by
  unfold tryAcquire at refused ⊢
  split at refused
  next => simp at refused
  next none => rw [if_neg none]

@[simp]
theorem tryAcquire_settings (limiter : RateLimiter) :
    limiter.tryAcquire.2.rps = limiter.rps ∧ limiter.tryAcquire.2.burst = limiter.burst := by
  unfold tryAcquire
  split <;> exact ⟨rfl, rfl⟩

theorem fill_toNat (limiter : RateLimiter) (rps burst : UInt32) :
    (limiter.fill rps burst).tokens.toNat =
      min (saturatingAdd limiter.tokens rps).toNat burst.toNat := by
  change (if saturatingAdd limiter.tokens rps ≤ burst then _ else burst).toNat = _
  split
  next fits => rw [Nat.min_eq_left (UInt32.le_iff_toNat_le.mp fits)]
  next large =>
    have reversed := UInt32.lt_iff_toNat_lt.mp (UInt32.not_le.mp large)
    rw [Nat.min_eq_right (Nat.le_of_lt reversed)]

theorem fill_le_burst (limiter : RateLimiter) (rps burst : UInt32) :
    (limiter.fill rps burst).tokens ≤ burst := by
  rw [UInt32.le_iff_toNat_le, fill_toNat]
  exact Nat.min_le_right _ _

theorem fill_le (limiter : RateLimiter) (rps burst : UInt32) :
    (limiter.fill rps burst).tokens.toNat ≤ limiter.tokens.toNat + rps.toNat := by
  rw [fill_toNat]
  exact Nat.le_trans (Nat.min_le_left _ _) (saturatingAdd_le _ _)

/-- Where the refill task is in its loop, with what it has read in this round. -/
inductive Tick where
  | waiting
  | rpsRead (rps : UInt32)
  | bothRead (rps burst : UInt32)
  deriving DecidableEq

def Tick.pending : Tick → Nat
  | .waiting => 0
  | .rpsRead rps => rps.toNat
  | .bothRead rps _ => rps.toNat

def Tick.Reads (rps : UInt32) : Tick → Prop
  | .waiting => True
  | .rpsRead seen => seen = rps
  | .bothRead seen _ => seen = rps

structure Service where
  limiter : RateLimiter
  refills : List Tick
  granted : Nat
  refused : Nat
  ticks : Nat
  rpsTotal : Nat
  deriving DecidableEq

namespace Service

def start (burst : UInt32) : Service where
  limiter := RateLimiter.new burst
  refills := []
  granted := 0
  refused := 0
  ticks := 0
  rpsTotal := 0

inductive Action where
  | tryAcquire
  | startRefill (rps : UInt32)
  | refill (task : Nat)
  | storeRps (rps : UInt32)
  | storeBurst (burst : UInt32)
  deriving DecidableEq

def step (service : Service) : Action → Option Service
  | .tryAcquire =>
      let (granted, limiter) := service.limiter.tryAcquire
      if granted then some { service with limiter, granted := service.granted + 1 }
      else some { service with limiter, refused := service.refused + 1 }
  | .startRefill rps =>
      some { service with
        limiter := service.limiter.storeRps rps, refills := service.refills ++ [.waiting] }
  | .refill task =>
      match service.refills[task]? with
      | none => none
      | some .waiting =>
          some { service with
            refills := service.refills.set task (.rpsRead service.limiter.rps)
            rpsTotal := service.rpsTotal + service.limiter.rps.toNat }
      | some (.rpsRead rps) =>
          some { service with
            refills := service.refills.set task (.bothRead rps service.limiter.burst) }
      | some (.bothRead rps burst) =>
          some { service with
            limiter := service.limiter.fill rps burst
            refills := service.refills.set task .waiting
            ticks := service.ticks + 1 }
  | .storeRps rps => some { service with limiter := service.limiter.storeRps rps }
  | .storeBurst burst => some { service with limiter := service.limiter.storeBurst burst }

def machine : Machine Service Action := ⟨step⟩

inductive Moves (service : Service) : Action → Service → Prop where
  | granted (allowed : service.limiter.tryAcquire.1 = true) :
      Moves service .tryAcquire
        { service with
          limiter := service.limiter.tryAcquire.2, granted := service.granted + 1 }
  | refused (empty : service.limiter.tryAcquire.1 = false) :
      Moves service .tryAcquire { service with refused := service.refused + 1 }
  | startRefill (rps : UInt32) :
      Moves service (.startRefill rps)
        { service with
          limiter := service.limiter.storeRps rps, refills := service.refills ++ [.waiting] }
  | readRps {task : Nat} (found : service.refills[task]? = some .waiting) :
      Moves service (.refill task)
        { service with
          refills := service.refills.set task (.rpsRead service.limiter.rps)
          rpsTotal := service.rpsTotal + service.limiter.rps.toNat }
  | readBurst {task : Nat} {rps : UInt32} (found : service.refills[task]? = some (.rpsRead rps)) :
      Moves service (.refill task)
        { service with
          refills := service.refills.set task (.bothRead rps service.limiter.burst) }
  | fill {task : Nat} {rps burst : UInt32}
      (found : service.refills[task]? = some (.bothRead rps burst)) :
      Moves service (.refill task)
        { service with
          limiter := service.limiter.fill rps burst
          refills := service.refills.set task .waiting
          ticks := service.ticks + 1 }
  | storeRps (rps : UInt32) :
      Moves service (.storeRps rps) { service with limiter := service.limiter.storeRps rps }
  | storeBurst (burst : UInt32) :
      Moves service (.storeBurst burst)
        { service with limiter := service.limiter.storeBurst burst }

theorem step_moves {service next : Service} {action : Action}
    (stepped : machine.step service action = some next) : Moves service action next := by
  change step service action = some next at stepped
  cases action with
  | tryAcquire =>
      unfold step at stepped
      cases granted : service.limiter.tryAcquire.1 with
      | true =>
          simp only [granted, if_true, Option.some.injEq] at stepped
          exact stepped ▸ .granted granted
      | false =>
          simp only [granted, Bool.false_eq_true, if_false, Option.some.injEq] at stepped
          rw [tryAcquire_refused granted] at stepped
          exact stepped ▸ .refused granted
  | startRefill rps => exact Option.some.inj stepped ▸ .startRefill rps
  | refill task =>
      simp only [step] at stepped
      split at stepped
      next => simp at stepped
      next found => exact Option.some.inj stepped ▸ .readRps found
      next rps found => exact Option.some.inj stepped ▸ .readBurst found
      next rps burst found => exact Option.some.inj stepped ▸ .fill found
  | storeRps rps => exact Option.some.inj stepped ▸ .storeRps rps
  | storeBurst burst => exact Option.some.inj stepped ▸ .storeBurst burst

/-- No token is handed out that was neither there at first nor added by a tick. -/
def Conserved (burst : UInt32) (service : Service) : Prop :=
  service.granted + service.limiter.tokens.toNat + tally Tick.pending service.refills ≤
    burst.toNat + service.rpsTotal

theorem conserved_start (burst : UInt32) : Conserved burst (start burst) := by
  simp [Conserved, start, new]

theorem conserved_step {burst : UInt32} {service next : Service} {action : Action}
    (conserved : Conserved burst service)
    (stepped : machine.step service action = some next) : Conserved burst next := by
  unfold Conserved at conserved ⊢
  cases step_moves stepped with
  | granted allowed =>
      have taken := tryAcquire_granted allowed
      dsimp only
      omega
  | refused empty => exact conserved
  | startRefill rps =>
      rw [tally_append]
      simpa [Tick.pending, storeRps] using conserved
  | readRps found =>
      have moved := tally_set Tick.pending (.rpsRead service.limiter.rps) found
      simp only [Tick.pending] at moved
      dsimp only
      omega
  | @readBurst task rps found =>
      have moved := tally_set Tick.pending (.bothRead rps service.limiter.burst) found
      simp only [Tick.pending] at moved
      dsimp only
      omega
  | @fill task rps burst found =>
      have moved := tally_set Tick.pending .waiting found
      have added := fill_le service.limiter rps burst
      simp only [Tick.pending] at moved
      dsimp only
      omega
  | storeRps rps => exact conserved
  | storeBurst burst => exact conserved

/-- As long as the rate is the same, a step grants no more than it takes from
the bucket and than whole ticks add to it. -/
theorem granted_step {rps : UInt32} {service next : Service} {action : Action}
    (rate : service.limiter.rps = rps) (reads : ∀ tick ∈ service.refills, tick.Reads rps)
    (stepped : machine.step service action = some next) :
    (∀ tick ∈ next.refills, tick.Reads rps) ∧
      service.ticks ≤ next.ticks ∧
      next.granted + next.limiter.tokens.toNat + service.ticks * rps.toNat ≤
        service.granted + service.limiter.tokens.toNat + next.ticks * rps.toNat := by
  cases step_moves stepped with
  | granted allowed =>
      have taken := tryAcquire_granted allowed
      refine ⟨reads, Nat.le_refl _, ?_⟩
      dsimp only
      omega
  | refused empty => exact ⟨reads, Nat.le_refl _, Nat.le_refl _⟩
  | startRefill other =>
      refine ⟨?_, Nat.le_refl _, Nat.le_refl _⟩
      apply forall_mem_concat reads
      exact True.intro
  | readRps found =>
      refine ⟨?_, Nat.le_refl _, Nat.le_refl _⟩
      apply forall_mem_set reads
      exact rate
  | @readBurst task seen found =>
      have same : Tick.Reads rps (.rpsRead seen) := reads _ (List.mem_of_getElem? found)
      refine ⟨?_, Nat.le_refl _, Nat.le_refl _⟩
      apply forall_mem_set reads
      exact same
  | @fill task seen burst found =>
      have same : seen = rps := reads _ (List.mem_of_getElem? found)
      have added := fill_le service.limiter seen burst
      refine ⟨?_, Nat.le_succ _, ?_⟩
      · apply forall_mem_set reads
        exact True.intro
      · subst same
        dsimp only
        rw [Nat.add_mul]
        omega
  | storeRps other => exact ⟨reads, Nat.le_refl _, Nat.le_refl _⟩
  | storeBurst burst => exact ⟨reads, Nat.le_refl _, Nat.le_refl _⟩

theorem granted_run {rps : UInt32} {service final : Service} {actions : List Action}
    (steady : machine.Throughout (fun passed => passed.limiter.rps = rps) service actions)
    (reads : ∀ tick ∈ service.refills, tick.Reads rps)
    (reached : machine.run service actions = some final) :
    service.ticks ≤ final.ticks ∧
      final.granted + final.limiter.tokens.toNat + service.ticks * rps.toNat ≤
        service.granted + service.limiter.tokens.toNat + final.ticks * rps.toNat := by
  induction actions generalizing service with
  | nil =>
      cases reached
      exact ⟨Nat.le_refl _, Nat.le_refl _⟩
  | cons action rest inductionHypothesis =>
      rcases machine.run_cons_eq_some.mp reached with ⟨next, stepped, remaining⟩
      have one := granted_step steady.1 reads stepped
      have later := inductionHypothesis (steady.2 next stepped) one.1 remaining
      exact ⟨Nat.le_trans one.2.1 later.1, by omega⟩

/-- What a limiter that began with `burst` tokens promises in a state. -/
structure Limited (burst : UInt32) (service : Service) : Prop where
  /-- No more is granted than the first tokens and the rates that ticks read. -/
  granted_le : service.granted ≤ burst.toNat + service.rpsTotal
  /-- A tick that fills the bucket leaves no more in it than the size that it read. -/
  filled_le : ∀ task next rps size, service.refills[task]? = some (.bothRead rps size) →
    machine.step service (.refill task) = some next → next.limiter.tokens ≤ size
  /-- A stretch at one rate that begins with no more than `size` tokens, and not
  in a tick at another rate, grants no more than these and what its ticks add. -/
  stretch_le : ∀ actions final rps size, service.limiter.tokens ≤ size →
    (∀ tick ∈ service.refills, tick.Reads rps) →
    machine.Throughout (fun passed => passed.limiter.rps = rps) service actions →
    machine.run service actions = some final →
    final.granted - service.granted ≤
      size.toNat + (final.ticks - service.ticks) * rps.toNat
  /-- A call that is refused found the bucket empty. -/
  refused_empty : ∀ next, machine.step service .tryAcquire = some next →
    next.refused ≠ service.refused → service.limiter.tokens = 0

theorem limited_of_conserved {burst : UInt32} {service : Service}
    (conserved : Conserved burst service) : Limited burst service where
  granted_le := by
    unfold Conserved at conserved
    omega
  filled_le := by
    intro task next rps size found stepped
    cases step_moves stepped with
    | readRps other => simp [found] at other
    | readBurst other => simp [found] at other
    | fill other =>
        rw [found] at other
        cases other
        exact fill_le_burst service.limiter rps size
  stretch_le := by
    intro actions final rps size fits reads steady reached
    have whole := granted_run steady reads reached
    have small := UInt32.le_iff_toNat_le.mp fits
    rw [Nat.mul_comm, Nat.mul_sub, Nat.mul_comm _ final.ticks, Nat.mul_comm _ service.ticks]
    omega
  refused_empty := by
    intro next stepped counted
    cases step_moves stepped with
    | granted allowed => exact absurd rfl counted
    | refused empty => exact (tryAcquire_refused_iff service.limiter).mp empty

/-- A limiter keeps to its limits in every state of every run, however requests,
ticks and reloads come between each other. -/
theorem limited_throughout (burst : UInt32) (actions : List Action) :
    machine.Throughout (Limited burst) (start burst) actions :=
  machine.throughout_of_invariant
    (fun _ _ _ conserved stepped => conserved_step conserved stepped)
    (fun _ conserved => limited_of_conserved conserved)
    actions (conserved_start burst)

example : (machine.run (start 5) (List.replicate 6 .tryAcquire)).map
    (fun service => (service.granted, service.refused)) = some (5, 1) := by
  decide

end Service

end RateLimiter

end Ferroq.Gateway
