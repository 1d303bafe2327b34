import Ferroq.Gateway.Dedup.Runs
import Mathlib.Data.List.Induction

/-!
# What the sweeps leave

A sweep removes what has left the window, but sweeps are an interval apart, and
a call that drops its event makes none.  After an accepted call an entry is
therefore younger than the window and the interval together.  The time of the
last sweep is kept in 64 bits of nanoseconds since the start of the filter.
-/

namespace Ferroq.Gateway.DedupFilter

open Ferroq.Library

variable {Event Fingerprint : Type} [DecidableEq Fingerprint]

def lastSweep (filter : DedupFilter Fingerprint) : Nat :=
  filter.start + filter.lastEvictionNs.toNat

/-- At the last sweep, no entry was older than the window. -/
structure Swept (filter : DedupFilter Fingerprint) (time : Nat) : Prop where
  sweep_le : filter.lastSweep ≤ time
  recent : ∀ {key inserted}, filter.seen.get key = some inserted →
    filter.lastSweep ≤ inserted ∨ filter.lastSweep < inserted + filter.window

/-- The clock samples that fit the 64 bits of the last sweep. -/
def Representable (filter : DedupFilter Fingerprint) (time : Nat) : Prop :=
  filter.start ≤ time ∧ time < filter.start + 18446744073709551616

variable {fingerprint : Event → Fingerprint} {filter : DedupFilter Fingerprint} {time now : Nat}

omit [DecidableEq Fingerprint] in
theorem maybeEvict_cases (representable : filter.Representable now) :
    (filter.maybeEvict now = filter ∧ now < filter.lastSweep + filter.evictionInterval) ∨
      filter.maybeEvict now =
        { filter with
          lastEvictionNs := UInt64.ofNat (now - filter.start)
          seen := filter.seen.retain fun insertTime =>
            decide (now - insertTime < filter.window) } := by
  obtain ⟨started, bounded⟩ := representable
  have span : (UInt64.ofNat (now - filter.start)).toNat = now - filter.start :=
    UInt64.toNat_ofNat_of_lt' (by change now - filter.start < 18446744073709551616; omega)
  have truncated : (UInt64.ofNat filter.evictionInterval).toNat ≤ filter.evictionInterval := by
    rw [UInt64.toNat_ofNat']
    exact Nat.mod_le _ _
  simp only [maybeEvict, span]
  split
  next early =>
    left
    refine ⟨rfl, ?_⟩
    unfold lastSweep
    omega
  next late => exact .inr rfl

omit [DecidableEq Fingerprint] in
theorem Swept.later (swept : Swept filter time) (passed : time ≤ now) : Swept filter now where
  sweep_le := Nat.le_trans swept.sweep_le passed
  recent := swept.recent

theorem Swept.accept (swept : Swept filter now) (checked : UInt64) (key : Fingerprint) :
    Swept { filter with checked := checked, seen := filter.seen.insert key now } now where
  sweep_le := swept.sweep_le
  recent found := by
    rcases (Table.get_insert_eq_some_iff _ _ _ _ _).mp found with ⟨rfl, rfl⟩ | ⟨different, held⟩
    · exact .inl swept.sweep_le
    · exact swept.recent held

omit [DecidableEq Fingerprint] in
theorem Swept.evict (swept : Swept filter now) (representable : filter.Representable now) :
    Swept (filter.maybeEvict now) now ∧
      ∀ {key inserted}, (filter.maybeEvict now).seen.get key = some inserted →
        now < inserted + (filter.window + filter.evictionInterval) := by
  rcases maybeEvict_cases representable with ⟨kept, early⟩ | sweeps
  · rw [kept]
    refine ⟨swept, ?_⟩
    intro key inserted found
    rcases swept.recent found with later | inside
    · omega
    · omega
  · have young {key : Fingerprint} {inserted : Nat}
        (found : (filter.maybeEvict now).seen.get key = some inserted) :
        now < inserted + filter.window := by
      rw [sweeps, Table.get_retain, Option.filter_eq_some_iff] at found
      have inside := of_decide_eq_true found.2
      omega
    have swept : (filter.maybeEvict now).lastSweep = now := by
      obtain ⟨started, bounded⟩ := representable
      rw [sweeps]
      change filter.start + (UInt64.ofNat (now - filter.start)).toNat = now
      rw [UInt64.toNat_ofNat_of_lt' (by change now - filter.start < 18446744073709551616; omega)]
      omega
    refine ⟨⟨Nat.le_of_eq swept, ?_⟩, ?_⟩
    · intro key inserted found
      rw [swept, maybeEvict_window]
      exact .inr (young found)
    · intro key inserted found
      have inside := young found
      omega

omit [DecidableEq Fingerprint] in
theorem maybeEvict_constants (now : Nat) :
    (filter.maybeEvict now).start = filter.start ∧
      (filter.maybeEvict now).evictionInterval = filter.evictionInterval := by
  simp only [maybeEvict]
  split <;> exact ⟨rfl, rfl⟩

theorem isDuplicate_constants (fingerprint : Event → Fingerprint)
    (filter : DedupFilter Fingerprint) (event : Event) (now : Nat) :
    (filter.isDuplicate fingerprint event now).2.start = filter.start ∧
      (filter.isDuplicate fingerprint event now).2.evictionInterval =
        filter.evictionInterval := by
  rcases isDuplicate_cases fingerprint filter event now with ⟨inserted, held, inside⟩ | outside
  · rw [isDuplicate_repeated held inside]
    exact ⟨rfl, rfl⟩
  · rw [isDuplicate_accepted outside]
    exact maybeEvict_constants now

/-- One check keeps the invariant.  If it accepts the event, all entries are
younger than the window and the interval together. -/
theorem Swept.isDuplicate (fingerprint : Event → Fingerprint) (swept : Swept filter time)
    (event : Event) (passed : time ≤ now) (representable : filter.Representable now) :
    Swept (filter.isDuplicate fingerprint event now).2 now ∧
      ((filter.isDuplicate fingerprint event now).1 = false →
        ∀ {key inserted},
          (filter.isDuplicate fingerprint event now).2.seen.get key = some inserted →
            now < inserted + (filter.window + filter.evictionInterval)) := by
  have current := swept.later passed
  rcases isDuplicate_cases fingerprint filter event now with ⟨inserted, held, inside⟩ | outside
  · rw [isDuplicate_repeated held inside]
    refine ⟨⟨current.sweep_le, current.recent⟩, ?_⟩
    intro accepted
    cases accepted
  · rw [isDuplicate_accepted outside]
    obtain ⟨after, young⟩ :=
      (current.accept (filter.checked + 1) (fingerprint event)).evict representable
    exact ⟨after, fun _ => young⟩

/-- The bound on the age of the entries after a run that ends in an accepted
call. -/
theorem Swept.run (calls : List (DedupCall Event)) (call : DedupCall Event)
    (swept : Swept filter time) (ordered : Ordered (calls ++ [call]))
    (after : ∀ later ∈ calls ++ [call], time ≤ later.now ∧ filter.Representable later.now)
    (accepted : verdict fingerprint filter calls call = false) {key : Fingerprint}
    {inserted : Nat}
    (found : (filter.checkAll fingerprint (calls ++ [call])).2.seen.get key = some inserted) :
    call.now < inserted + (filter.window + filter.evictionInterval) := by
  induction calls generalizing filter time with
  | nil =>
      obtain ⟨passed, representable⟩ := after call (by simp)
      exact (swept.isDuplicate fingerprint call.event passed representable).2 accepted found
  | cons first rest inductionHypothesis =>
      obtain ⟨next, orderedRest⟩ := List.pairwise_cons.mp ordered
      obtain ⟨passed, representable⟩ := after first (by simp)
      obtain ⟨start, interval⟩ :=
        isDuplicate_constants fingerprint filter first.event first.now
      have kept := (swept.isDuplicate fingerprint first.event passed representable).1
      have remaining := inductionHypothesis kept orderedRest (fun later member => by
        obtain ⟨-, later_representable⟩ := after later (List.mem_cons_of_mem first member)
        refine ⟨next later member, ?_⟩
        unfold Representable at later_representable ⊢
        rwa [start]) accepted found
      rwa [isDuplicate_window, interval] at remaining

theorem get_isDuplicate {event : Event} {key : Fingerprint} {inserted : Nat}
    (found : (filter.isDuplicate fingerprint event now).2.seen.get key = some inserted) :
    filter.seen.get key = some inserted ∨
      (filter.isDuplicate fingerprint event now).1 = false ∧ fingerprint event = key ∧
        now = inserted := by
  rcases isDuplicate_cases fingerprint filter event now with ⟨other, held, inside⟩ | outside
  · rw [isDuplicate_repeated held inside] at found
    exact .inl found
  · rw [isDuplicate_accepted outside] at found ⊢
    have inserted_found :
        (filter.seen.insert (fingerprint event) now).get key = some inserted := by
      simp only [maybeEvict] at found
      split at found
      next => exact found
      next =>
        rw [Table.get_retain, Option.filter_eq_some_iff] at found
        exact found.1
    rcases (Table.get_insert_eq_some_iff _ _ _ _ _).mp inserted_found with
      ⟨rfl, rfl⟩ | ⟨different, held⟩
    · exact .inr ⟨rfl, rfl, rfl⟩
    · exact .inl held

theorem checkAll_concat (calls : List (DedupCall Event)) (call : DedupCall Event) :
    (filter.checkAll fingerprint (calls ++ [call])).2 =
      ((filter.checkAll fingerprint calls).2.isDuplicate fingerprint call.event call.now).2 := by
  induction calls generalizing filter with
  | nil => rfl
  | cons first rest inductionHypothesis => exact inductionHypothesis

def AcceptedIn (fingerprint : Event → Fingerprint) (filter : DedupFilter Fingerprint)
    (calls : List (DedupCall Event)) (key : Fingerprint) (inserted : Nat) : Prop :=
  ∃ before call later, calls = before ++ call :: later ∧
    verdict fingerprint filter before call = false ∧ fingerprint call.event = key ∧
      call.now = inserted

theorem acceptedIn_of_get {calls : List (DedupCall Event)} {windowSecs : UInt64} {start : Nat}
    {key : Fingerprint} {inserted : Nat}
    (found : ((new windowSecs start).checkAll fingerprint calls).2.seen.get key = some inserted) :
    AcceptedIn fingerprint (new windowSecs start) calls key inserted := by
  induction calls using List.reverseRecOn with
  | nil => cases found
  | append_singleton calls call inductionHypothesis =>
      rw [checkAll_concat] at found
      rcases get_isDuplicate found with held | ⟨accepted, keys, times⟩
      · obtain ⟨before, other, later, rfl, rest⟩ := inductionHypothesis held
        exact ⟨before, other, later ++ [call], by simp, rest⟩
      · exact ⟨calls, call, [], rfl, accepted, keys, times⟩

/-- After an accepted call every entry is younger than the window and the
interval of the sweeps together, and is that of an accepted event. -/
theorem entries_recent (fingerprint : Event → Fingerprint) (windowSecs : UInt64) (start : Nat)
    (calls : List (DedupCall Event)) (call : DedupCall Event)
    (ordered : Ordered (calls ++ [call]))
    (representable : ∀ sample ∈ calls ++ [call],
      start ≤ sample.now ∧ sample.now < start + 18446744073709551616)
    (accepted : verdict fingerprint (new windowSecs start) calls call = false)
    (key : Fingerprint) (inserted : Nat)
    (found : ((new windowSecs start).checkAll fingerprint (calls ++ [call])).2.seen.get key =
      some inserted) :
    call.now < inserted + (windowSecs.toNat * nanosPerSec +
        max (windowSecs.toNat * nanosPerSec) (10 * nanosPerSec)) ∧
      AcceptedIn fingerprint (new windowSecs start) (calls ++ [call]) key inserted := by
  have initial : Swept (new windowSecs start : DedupFilter Fingerprint) start :=
    { sweep_le := Nat.le_refl start
      recent := fun held => by cases held }
  have young := initial.run calls call ordered
    (fun sample member => ⟨(representable sample member).1, representable sample member⟩)
    accepted found
  refine ⟨?_, acceptedIn_of_get found⟩
  have spans : (new windowSecs start : DedupFilter Fingerprint).evictionInterval =
      max (windowSecs.toNat * nanosPerSec) (10 * nanosPerSec) :=
    Nat.mul_max_mul_right _ _ _ |>.symm
  rwa [spans] at young

/-- The sweep at ten seconds keeps an entry that the next accepted call finds
eighteen seconds old. -/
theorem entries_recent_betweenSweeps :
    (19000000000 < 1000000000 + ((10 : UInt64).toNat * nanosPerSec +
        max ((10 : UInt64).toNat * nanosPerSec) (10 * nanosPerSec))) ∧
      AcceptedIn id (new 10 0)
        ([⟨7, 1000000000⟩, ⟨8, 10000000000⟩] ++ [(⟨9, 19000000000⟩ : DedupCall Nat)]) 7
        1000000000 :=
  entries_recent id 10 0 [⟨7, 1000000000⟩, ⟨8, 10000000000⟩] ⟨9, 19000000000⟩
    (by simp [Ordered]) (by decide) (by decide) 7 1000000000 (by decide)

/-- When 64 bits of nanoseconds have passed, the filter takes the time for that
of its start, and a call sweeps nothing. -/
theorem wrappedClock_sweepsNothing :
    let calls : List (DedupCall Nat) := [⟨7, 0⟩]
    let call : DedupCall Nat := ⟨8, 18446744073709551616⟩
    Ordered (calls ++ [call]) ∧ verdict id (new 10 0) calls call = false ∧
      ((new 10 0).checkAll id (calls ++ [call])).2.seen.get 7 = some 0 ∧
      ¬ call.now < 0 + ((10 : UInt64).toNat * nanosPerSec +
        max ((10 : UInt64).toNat * nanosPerSec) (10 * nanosPerSec)) := by
  refine ⟨by simp [Ordered], ?_, ?_, ?_⟩ <;> decide

end Ferroq.Gateway.DedupFilter
