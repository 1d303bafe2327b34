import Ferroq.Gateway.Dedup.Sweeps

/-!
# The time between two acceptances

The clock is read before the lock is taken, so that the samples need not come in
order.  Whatever they are, an accepted fingerprint is remembered until some check
has seen a time at which its window is over.
-/

namespace Ferroq.Gateway.DedupFilter

open Ferroq.Library

variable {Event Fingerprint : Type} [DecidableEq Fingerprint]
  {fingerprint : Event → Fingerprint} {filter : DedupFilter Fingerprint}
  {key : Fingerprint} {inserted : Nat}

omit [DecidableEq Fingerprint] in
theorem maybeEvict_remembers (now : Nat)
    (held : filter.seen.get key = some inserted) :
    (filter.maybeEvict now).seen.get key = some inserted ∨ filter.window ≤ now - inserted := by
  unfold maybeEvict
  dsimp only
  split
  next => exact .inl held
  next =>
    rcases Nat.lt_or_ge (now - inserted) filter.window with inside | past
    · left
      simp [Table.get_retain, held, inside]
    · exact .inr past

theorem isDuplicate_remembers (event : Event) (now : Nat)
    (held : filter.seen.get key = some inserted) :
    (filter.isDuplicate fingerprint event now).2.seen.get key = some inserted ∨
      filter.window ≤ now - inserted := by
  rcases isDuplicate_cases fingerprint filter event now with ⟨_, repeated, inside⟩ | outside
  · rw [isDuplicate_repeated repeated inside]
    exact .inl held
  · rw [isDuplicate_accepted outside]
    by_cases same : key = fingerprint event
    · subst same
      exact .inr (Nat.le_of_not_lt (outside inserted held))
    · have kept : ({ filter with
            checked := filter.checked + 1
            seen := filter.seen.insert (fingerprint event) now } :
          DedupFilter Fingerprint).seen.get key = some inserted := by
        rw [Table.get_insert_of_ne _ _ same, held]
      exact maybeEvict_remembers now kept

theorem checkAll_window (calls : List (DedupCall Event)) :
    (filter.checkAll fingerprint calls).2.window = filter.window := by
  induction calls generalizing filter with
  | nil => rfl
  | cons call rest inductionHypothesis =>
      rw [checkAll, inductionHypothesis, isDuplicate_window]

theorem checkAll_remembers (calls : List (DedupCall Event))
    (held : filter.seen.get key = some inserted) :
    (filter.checkAll fingerprint calls).2.seen.get key = some inserted ∨
      ∃ call ∈ calls, filter.window ≤ call.now - inserted := by
  induction calls generalizing filter with
  | nil => exact .inl held
  | cons call rest inductionHypothesis =>
      rcases isDuplicate_remembers call.event call.now held with kept | past
      · rcases inductionHypothesis kept with still | ⟨later, listed, past⟩
        · exact .inl still
        · rw [isDuplicate_window] at past
          exact .inr ⟨later, List.mem_cons_of_mem call listed, past⟩
      · exact .inr ⟨call, List.mem_cons_self, past⟩

theorem accepted_remembers {event : Event} {now : Nat}
    (accepted : (filter.isDuplicate fingerprint event now).1 = false) :
    (filter.isDuplicate fingerprint event now).2.seen.get (fingerprint event) = some now ∨
      filter.window ≤ now - now := by
  rcases isDuplicate_cases fingerprint filter event now with ⟨_, repeated, inside⟩ | outside
  · rw [isDuplicate_repeated repeated inside] at accepted
    cases accepted
  · rw [isDuplicate_accepted outside]
    have kept : ({ filter with
          checked := filter.checked + 1
          seen := filter.seen.insert (fingerprint event) now } :
        DedupFilter Fingerprint).seen.get (fingerprint event) = some now :=
      Table.get_insert_self _ _ _
    exact maybeEvict_remembers now kept

theorem checkAll_append (calls further : List (DedupCall Event)) :
    (filter.checkAll fingerprint (calls ++ further)).2 =
      ((filter.checkAll fingerprint calls).2.checkAll fingerprint further).2 := by
  induction calls generalizing filter with
  | nil => rfl
  | cons first rest inductionHypothesis => exact inductionHypothesis

/-- When two events with one fingerprint are accepted, some check after the first
one and up to the second one has seen a time a window later. -/
theorem window_over_of_accepted {before between : List (DedupCall Event)}
    {first second : DedupCall Event} (same : fingerprint first.event = fingerprint second.event)
    (firstAccepted : verdict fingerprint filter before first = false)
    (secondAccepted : verdict fingerprint filter (before ++ first :: between) second = false) :
    ∃ call ∈ between ++ [second], filter.window ≤ call.now - first.now := by
  have windowBefore : (filter.checkAll fingerprint before).2.window = filter.window :=
    checkAll_window before
  unfold verdict at firstAccepted secondAccepted
  rw [checkAll_append, checkAll] at secondAccepted
  rcases accepted_remembers firstAccepted with remembered | none
  · rcases checkAll_remembers between remembered with still | ⟨call, listed, past⟩
    · rw [same] at still
      refine ⟨second, by simp, ?_⟩
      by_contra early
      rw [isDuplicate_repeated still] at secondAccepted
      · cases secondAccepted
      · rw [checkAll_window, isDuplicate_window, windowBefore]
        omega
    · rw [isDuplicate_window, windowBefore] at past
      exact ⟨call, List.mem_append_left _ listed, past⟩
  · exact ⟨second, by simp, by omega⟩

end Ferroq.Gateway.DedupFilter
