import Ferroq.Library.Table
import Mathlib.Data.List.Basic

/-!
# The deduplication filter

The filter remembers when it last accepted each fingerprint and sweeps expired
entries lazily, on a schedule of its own.  The reference below never forgets:
it answers from the whole history.  The invariant relating the two says that a
remembered time is the latest acceptance, and that a forgotten one has already
left the window.

Instants and durations are counted in nanoseconds.
-/

namespace Ferroq.Gateway

open Ferroq.Library

variable {Event Fingerprint : Type} [DecidableEq Fingerprint]

structure DedupFilter (Fingerprint : Type) where
  window : Nat
  start : Nat
  seen : Table Fingerprint Nat
  duplicates : UInt64
  checked : UInt64
  lastEvictionNs : UInt64
  evictionInterval : Nat

/-- A call of the filter with the clock sample it takes. -/
structure DedupCall (Event : Type) where
  event : Event
  now : Nat

namespace DedupFilter

def nanosPerSec : Nat := 1000000000

def new (windowSecs : UInt64) (start : Nat) : DedupFilter Fingerprint :=
  { window := windowSecs.toNat * nanosPerSec
    start := start
    seen := .empty
    duplicates := 0
    checked := 0
    lastEvictionNs := 0
    evictionInterval := max windowSecs.toNat 10 * nanosPerSec }

/-- Sweep the expired entries if the last sweep is an interval ago.  Both
spans are truncated to 64 bits.  The sweep runs under the lock of the map, so
that the exchange of the eviction time always succeeds. -/
def maybeEvict (filter : DedupFilter Fingerprint) (now : Nat) : DedupFilter Fingerprint :=
  let nowNs := UInt64.ofNat (now - filter.start)
  let intervalNs := UInt64.ofNat filter.evictionInterval
  if nowNs.toNat - filter.lastEvictionNs.toNat < intervalNs.toNat then filter
  else
    { filter with
      lastEvictionNs := nowNs
      seen := filter.seen.retain fun insertTime => decide (now - insertTime < filter.window) }

/-- Whether an event is to be dropped, and the filter after the check. -/
def isDuplicate (fingerprint : Event → Fingerprint) (filter : DedupFilter Fingerprint)
    (event : Event) (now : Nat) : Bool × DedupFilter Fingerprint :=
  let filter := { filter with checked := filter.checked + 1 }
  let key := fingerprint event
  match filter.seen.get key with
  | some insertTime =>
      if now - insertTime < filter.window then
        (true, { filter with duplicates := filter.duplicates + 1 })
      else
        (false, maybeEvict { filter with seen := filter.seen.insert key now } now)
  | none =>
      (false, maybeEvict { filter with seen := filter.seen.insert key now } now)

def checkAll (fingerprint : Event → Fingerprint) :
    DedupFilter Fingerprint → List (DedupCall Event) → List Bool × DedupFilter Fingerprint
  | filter, [] => ([], filter)
  | filter, call :: rest =>
      let (answer, filter) := filter.isDuplicate fingerprint call.event call.now
      let (answers, filter) := checkAll fingerprint filter rest
      (answer :: answers, filter)

/-- The time of the latest call in a history, newest first, that had the given
fingerprint and was answered `false`. -/
def latestAccepted (fingerprint : Event → Fingerprint) (key : Fingerprint) :
    List (DedupCall Event × Bool) → Option Nat
  | [] => none
  | (call, answer) :: earlier =>
      if fingerprint call.event = key ∧ answer = false then some call.now
      else latestAccepted fingerprint key earlier

/-- The filter that never evicts: a call is a duplicate when the latest
accepted call with its fingerprint lies within the window. -/
def reference (fingerprint : Event → Fingerprint) (window : Nat)
    (history : List (DedupCall Event × Bool)) (call : DedupCall Event) : Bool :=
  match latestAccepted fingerprint (fingerprint call.event) history with
  | some accepted => decide (call.now - accepted < window)
  | none => false

def referenceAnswers (fingerprint : Event → Fingerprint) (window : Nat) :
    List (DedupCall Event × Bool) → List (DedupCall Event) → List Bool
  | _, [] => []
  | history, call :: rest =>
      let answer := reference fingerprint window history call
      answer :: referenceAnswers fingerprint window ((call, answer) :: history) rest

/-- What the filter remembers at some time, against the whole history. -/
structure Tracks (fingerprint : Event → Fingerprint) (filter : DedupFilter Fingerprint)
    (history : List (DedupCall Event × Bool)) (time : Nat) : Prop where
  remembered : ∀ {key inserted}, filter.seen.get key = some inserted →
    latestAccepted fingerprint key history = some inserted
  forgotten : ∀ {key accepted}, filter.seen.get key = none →
    latestAccepted fingerprint key history = some accepted →
    filter.window ≤ time - accepted

variable {fingerprint : Event → Fingerprint} {filter : DedupFilter Fingerprint}
  {history : List (DedupCall Event × Bool)} {time : Nat}

omit [DecidableEq Fingerprint] in
@[simp]
theorem maybeEvict_window (now : Nat) : (filter.maybeEvict now).window = filter.window := by
  simp only [maybeEvict]
  split <;> rfl

omit [DecidableEq Fingerprint] in
@[simp]
theorem maybeEvict_counters (now : Nat) :
    (filter.maybeEvict now).checked = filter.checked ∧
      (filter.maybeEvict now).duplicates = filter.duplicates := by
  simp only [maybeEvict]
  split <;> exact ⟨rfl, rfl⟩

theorem isDuplicate_repeated {event : Event} {now inserted : Nat}
    (held : filter.seen.get (fingerprint event) = some inserted)
    (inside : now - inserted < filter.window) :
    filter.isDuplicate fingerprint event now =
      (true, { filter with
        checked := filter.checked + 1
        duplicates := filter.duplicates + 1 }) := by
  simp [isDuplicate, held, inside]

theorem isDuplicate_accepted {event : Event} {now : Nat}
    (outside : ∀ inserted, filter.seen.get (fingerprint event) = some inserted →
      ¬ now - inserted < filter.window) :
    filter.isDuplicate fingerprint event now =
      (false, maybeEvict
        { filter with
          checked := filter.checked + 1
          seen := filter.seen.insert (fingerprint event) now } now) := by
  cases held : filter.seen.get (fingerprint event) with
  | none => simp [isDuplicate, held]
  | some inserted => simp [isDuplicate, held, outside inserted held]

omit [DecidableEq Fingerprint] in
theorem isDuplicate_cases (fingerprint : Event → Fingerprint)
    (filter : DedupFilter Fingerprint) (event : Event) (now : Nat) :
    (∃ inserted, filter.seen.get (fingerprint event) = some inserted ∧
      now - inserted < filter.window) ∨
    ∀ inserted, filter.seen.get (fingerprint event) = some inserted →
      ¬ now - inserted < filter.window := by
  cases held : filter.seen.get (fingerprint event) with
  | none => simp
  | some inserted =>
      by_cases inside : now - inserted < filter.window
      · exact .inl ⟨inserted, rfl, inside⟩
      · right
        intro other same
        cases same
        exact inside

theorem new_tracks (windowSecs : UInt64) (start : Nat) :
    Tracks fingerprint (new windowSecs start) [] 0 where
  remembered found := by simp [new] at found
  forgotten _ found := by simp [latestAccepted] at found

theorem Tracks.later (tracks : Tracks fingerprint filter history time) {now : Nat}
    (passed : time ≤ now) : Tracks fingerprint filter history now where
  remembered := tracks.remembered
  forgotten absent found := by
    have outside := tracks.forgotten absent found
    omega

/-- A sweep forgets only what has left the window. -/
theorem Tracks.evict (tracks : Tracks fingerprint filter history time) :
    Tracks fingerprint (filter.maybeEvict time) history time := by
  simp only [maybeEvict]
  split
  next => exact tracks
  next =>
    constructor
    · intro key inserted found
      simp only [Table.get_retain, Option.filter_eq_some_iff] at found
      exact tracks.remembered found.1
    · intro key accepted absent found
      change filter.window ≤ time - accepted
      cases held : filter.seen.get key with
      | none => exact tracks.forgotten held found
      | some inserted =>
          have same := tracks.remembered held
          rw [found, Option.some.injEq] at same
          subst same
          simp [Table.get_retain, held] at absent
          exact absent

theorem Tracks.accept (tracks : Tracks fingerprint filter history time)
    {call : DedupCall Event} (checked : UInt64) (passed : time ≤ call.now) :
    Tracks fingerprint
      { filter with
        checked := checked
        seen := filter.seen.insert (fingerprint call.event) call.now }
      ((call, false) :: history) call.now := by
  constructor
  · intro key inserted found
    rcases (Table.get_insert_eq_some_iff _ _ _ _ _).mp found with
      ⟨rfl, rfl⟩ | ⟨different, held⟩
    · simp [latestAccepted]
    · simpa [latestAccepted, Ne.symm different] using tracks.remembered held
  · intro key accepted absent found
    by_cases same : key = fingerprint call.event
    · simp [same] at absent
    · rw [Table.get_insert_of_ne _ _ same] at absent
      simp only [latestAccepted, Ne.symm same, false_and, if_false] at found
      exact (tracks.later passed).forgotten absent found

theorem Tracks.drop (tracks : Tracks fingerprint filter history time)
    {call : DedupCall Event} (checked duplicates : UInt64) (passed : time ≤ call.now) :
    Tracks fingerprint { filter with checked := checked, duplicates := duplicates }
      ((call, true) :: history) call.now where
  remembered found := by simpa [latestAccepted] using tracks.remembered found
  forgotten absent found :=
    (tracks.later passed).forgotten absent (by simpa [latestAccepted] using found)

/-- One check answers as the reference does and keeps the invariant. -/
theorem Tracks.isDuplicate (tracks : Tracks fingerprint filter history time)
    (call : DedupCall Event) (passed : time ≤ call.now) :
    (filter.isDuplicate fingerprint call.event call.now).1 =
        reference fingerprint filter.window history call ∧
      Tracks fingerprint (filter.isDuplicate fingerprint call.event call.now).2
        ((call, reference fingerprint filter.window history call) :: history) call.now := by
  rcases isDuplicate_cases fingerprint filter call.event call.now with
    ⟨inserted, held, inside⟩ | outside
  · have duplicate : reference fingerprint filter.window history call = true := by
      simp [reference, tracks.remembered held, inside]
    rw [isDuplicate_repeated held inside, duplicate]
    exact ⟨rfl, tracks.drop _ _ passed⟩
  · have fresh : reference fingerprint filter.window history call = false := by
      unfold reference
      split
      next accepted found =>
        apply decide_eq_false
        cases held : filter.seen.get (fingerprint call.event) with
        | none =>
            have left := (tracks.later passed).forgotten held found
            omega
        | some inserted =>
            have same := tracks.remembered held
            rw [found, Option.some.injEq] at same
            exact same ▸ outside inserted held
      next => rfl
    rw [isDuplicate_accepted outside, fresh]
    exact ⟨rfl, (tracks.accept _ passed).evict⟩

@[simp]
theorem isDuplicate_window (event : Event) (now : Nat) :
    (filter.isDuplicate fingerprint event now).2.window = filter.window := by
  rcases isDuplicate_cases fingerprint filter event now with ⟨inserted, held, inside⟩ | outside
  · rw [isDuplicate_repeated held inside]
  · rw [isDuplicate_accepted outside, maybeEvict_window]

theorem checkAll_eq_reference (calls : List (DedupCall Event))
    (tracks : Tracks fingerprint filter history time)
    (ordered : calls.Pairwise fun earlier later => earlier.now ≤ later.now)
    (after : ∀ call ∈ calls, time ≤ call.now) :
    (filter.checkAll fingerprint calls).1 =
      referenceAnswers fingerprint filter.window history calls := by
  induction calls generalizing filter history time with
  | nil => rfl
  | cons call rest inductionHypothesis =>
      rcases List.pairwise_cons.mp ordered with ⟨next, orderedRest⟩
      rcases tracks.isDuplicate call (after call (by simp)) with ⟨answer, tracked⟩
      have remaining := inductionHypothesis tracked orderedRest next
      simp only [checkAll, referenceAnswers, answer]
      rw [remaining, isDuplicate_window]

theorem isDuplicate_counters (fingerprint : Event → Fingerprint)
    (filter : DedupFilter Fingerprint) (event : Event) (now : Nat) :
    (filter.isDuplicate fingerprint event now).2.checked = filter.checked + 1 ∧
      (filter.isDuplicate fingerprint event now).2.duplicates =
        filter.duplicates +
          UInt64.ofNat (if (filter.isDuplicate fingerprint event now).1 then 1 else 0) := by
  rcases isDuplicate_cases fingerprint filter event now with ⟨inserted, held, inside⟩ | outside
  · rw [isDuplicate_repeated held inside]
    exact ⟨rfl, rfl⟩
  · rw [isDuplicate_accepted outside]
    simp

theorem checkAll_counters (fingerprint : Event → Fingerprint)
    (filter : DedupFilter Fingerprint) (calls : List (DedupCall Event)) :
    (filter.checkAll fingerprint calls).2.checked =
        filter.checked + UInt64.ofNat calls.length ∧
      (filter.checkAll fingerprint calls).2.duplicates =
        filter.duplicates +
          UInt64.ofNat ((filter.checkAll fingerprint calls).1.count true) := by
  induction calls generalizing filter with
  | nil => simp [checkAll]
  | cons call rest inductionHypothesis =>
      have one := isDuplicate_counters fingerprint filter call.event call.now
      rcases inductionHypothesis (filter.isDuplicate fingerprint call.event call.now).2 with
        ⟨checked, duplicates⟩
      simp only [checkAll]
      rw [checked, duplicates, one.1, one.2]
      constructor
      · rw [List.length_cons, Nat.add_comm, UInt64.ofNat_add, UInt64.add_assoc]
        rfl
      · rw [List.count_cons, Nat.add_comm, UInt64.ofNat_add, UInt64.add_assoc]
        simp

/-- On calls whose clock samples do not decrease, the filter answers as the
filter that never evicts, and its counters count the calls and the
duplicates. -/
theorem checkAll_refines_reference (fingerprint : Event → Fingerprint)
    (windowSecs : UInt64) (start : Nat) (calls : List (DedupCall Event))
    (ordered : calls.Pairwise fun earlier later => earlier.now ≤ later.now) :
    let checked := (new windowSecs start).checkAll fingerprint calls
    checked.1 =
        referenceAnswers fingerprint (windowSecs.toNat * nanosPerSec) [] calls ∧
      checked.2.checked = UInt64.ofNat calls.length ∧
      checked.2.duplicates = UInt64.ofNat (checked.1.count true) := by
  refine ⟨?_, ?_⟩
  · exact checkAll_eq_reference calls (new_tracks windowSecs start) ordered
      fun call _ => Nat.zero_le call.now
  · simpa [new] using checkAll_counters fingerprint
      (new windowSecs start) calls

/-- A burst around the end of a ten-second window: the entry of the first call
expires exactly at the boundary. -/
theorem checkAll_refines_reference_boundary :
    let calls : List (DedupCall Nat) :=
      [⟨7, 0⟩, ⟨7, 9999999999⟩, ⟨8, 10000000000⟩, ⟨7, 10000000000⟩]
    let checked := (new 10 0).checkAll id calls
    checked.1 = [false, true, false, false] ∧
      checked.1 = referenceAnswers id (10 * nanosPerSec) [] calls ∧
      checked.2.checked = 4 ∧ checked.2.duplicates = 1 := by
  have refined := checkAll_refines_reference id 10 0
    [⟨7, 0⟩, ⟨7, 9999999999⟩, ⟨8, 10000000000⟩, (⟨7, 10000000000⟩ : DedupCall Nat)]
    (by decide)
  exact ⟨by decide, refined.1, refined.2.1, refined.2.2⟩

end DedupFilter

end Ferroq.Gateway
