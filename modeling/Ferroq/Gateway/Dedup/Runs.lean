import Ferroq.Gateway.Dedup

/-!
# The answer to one event in a run

An event is dropped because of another one if it is dropped, and would not be
had the other one not arrived.  Whether that can happen, and whether a
repetition is always dropped, depends on the fingerprints of the two alone.
-/

namespace Ferroq.Gateway.DedupFilter

variable {Event Fingerprint : Type} [DecidableEq Fingerprint]

def verdict (fingerprint : Event → Fingerprint) (filter : DedupFilter Fingerprint)
    (calls : List (DedupCall Event)) (call : DedupCall Event) : Bool :=
  ((filter.checkAll fingerprint calls).2.isDuplicate fingerprint call.event call.now).1

/-- The history of the filter that never evicts. -/
def referenceHistory (fingerprint : Event → Fingerprint) (window : Nat) :
    List (DedupCall Event × Bool) → List (DedupCall Event) → List (DedupCall Event × Bool)
  | history, [] => history
  | history, call :: rest =>
      referenceHistory fingerprint window
        ((call, reference fingerprint window history call) :: history) rest

def Ordered (calls : List (DedupCall Event)) : Prop :=
  calls.Pairwise fun earlier later => earlier.now ≤ later.now

variable {fingerprint : Event → Fingerprint} {filter : DedupFilter Fingerprint}
  {history : List (DedupCall Event × Bool)} {time window : Nat}

theorem referenceHistory_append (calls further : List (DedupCall Event)) :
    referenceHistory fingerprint window history (calls ++ further) =
      referenceHistory fingerprint window
        (referenceHistory fingerprint window history calls) further := by
  induction calls generalizing history with
  | nil => rfl
  | cons call rest inductionHypothesis => exact inductionHypothesis

/-- The filter keeps track of the history throughout a run. -/
theorem Tracks.verdict_eq (calls : List (DedupCall Event)) (call : DedupCall Event)
    (tracks : Tracks fingerprint filter history time) (ordered : Ordered (calls ++ [call]))
    (after : ∀ later ∈ calls ++ [call], time ≤ later.now) :
    verdict fingerprint filter calls call =
      reference fingerprint filter.window
        (referenceHistory fingerprint filter.window history calls) call := by
  induction calls generalizing filter history time with
  | nil => exact (tracks.isDuplicate call (after call (by simp))).1
  | cons first rest inductionHypothesis =>
      obtain ⟨next, orderedRest⟩ := List.pairwise_cons.mp ordered
      obtain ⟨-, tracked⟩ := tracks.isDuplicate first (after first (by simp))
      have remaining := inductionHypothesis tracked orderedRest next
      rw [isDuplicate_window] at remaining
      exact remaining

theorem verdict_new (windowSecs : UInt64) (start : Nat) {calls : List (DedupCall Event)}
    {call : DedupCall Event} (ordered : Ordered (calls ++ [call])) :
    verdict fingerprint (new windowSecs start) calls call =
      reference fingerprint (windowSecs.toNat * nanosPerSec)
        (referenceHistory fingerprint (windowSecs.toNat * nanosPerSec) [] calls) call :=
  (new_tracks windowSecs start).verdict_eq calls call ordered fun later _ => Nat.zero_le later.now

theorem latestAccepted_filter (key : Fingerprint) (history : List (DedupCall Event × Bool)) :
    latestAccepted fingerprint key
        (history.filter fun entry => fingerprint entry.1.event = key) =
      latestAccepted fingerprint key history := by
  induction history with
  | nil => rfl
  | cons entry earlier inductionHypothesis =>
      by_cases same : fingerprint entry.1.event = key
      · simp [same, latestAccepted, inductionHypothesis]
      · simp [same, latestAccepted, inductionHypothesis]

theorem referenceHistory_filter (key : Fingerprint) (calls : List (DedupCall Event)) :
    (referenceHistory fingerprint window history calls).filter
        (fun entry => fingerprint entry.1.event = key) =
      referenceHistory fingerprint window
        (history.filter fun entry => fingerprint entry.1.event = key)
        (calls.filter fun call => fingerprint call.event = key) := by
  induction calls generalizing history with
  | nil => rfl
  | cons call rest inductionHypothesis =>
      by_cases same : fingerprint call.event = key
      · have answer : reference fingerprint window
            (history.filter fun entry => fingerprint entry.1.event = key) call =
              reference fingerprint window history call := by
          simp only [reference, same, latestAccepted_filter]
        simp only [referenceHistory, inductionHypothesis, List.filter_cons, same, decide_true,
          if_true, answer]
      · simp only [referenceHistory, inductionHypothesis, List.filter_cons, same, decide_false,
          Bool.false_eq_true, if_false]

theorem latestAccepted_referenceHistory (key : Fingerprint) (calls : List (DedupCall Event)) :
    latestAccepted fingerprint key (referenceHistory fingerprint window [] calls) =
      latestAccepted fingerprint key (referenceHistory fingerprint window []
        (calls.filter fun call => fingerprint call.event = key)) := by
  rw [← latestAccepted_filter, referenceHistory_filter, List.filter_nil]

theorem reference_without {first second : DedupCall Event} (before between : List (DedupCall Event))
    (differ : fingerprint first.event ≠ fingerprint second.event) :
    reference fingerprint window
        (referenceHistory fingerprint window [] (before ++ first :: between)) second =
      reference fingerprint window
        (referenceHistory fingerprint window [] (before ++ between)) second := by
  unfold reference
  rw [latestAccepted_referenceHistory, latestAccepted_referenceHistory _ (before ++ between)]
  simp [List.filter_append, differ]

theorem reference_eq_true_iff (call : DedupCall Event) :
    reference fingerprint window history call = true ↔
      ∃ accepted, latestAccepted fingerprint (fingerprint call.event) history = some accepted ∧
        call.now - accepted < window := by
  unfold reference
  cases latestAccepted fingerprint (fingerprint call.event) history <;> simp

theorem latestAccepted_ge {key : Fingerprint} {accepted : Nat} {calls : List (DedupCall Event)}
    (found : latestAccepted fingerprint key history = some accepted) (ordered : Ordered calls)
    (after : ∀ call ∈ calls, accepted ≤ call.now) :
    ∃ latest, latestAccepted fingerprint key
      (referenceHistory fingerprint window history calls) = some latest ∧ accepted ≤ latest := by
  induction calls generalizing history accepted with
  | nil => exact ⟨accepted, found, Nat.le_refl accepted⟩
  | cons call rest inductionHypothesis =>
      obtain ⟨next, orderedRest⟩ := List.pairwise_cons.mp ordered
      rw [referenceHistory]
      by_cases replaced : fingerprint call.event = key ∧
          reference fingerprint window history call = false
      · have renewed : latestAccepted fingerprint key
            ((call, reference fingerprint window history call) :: history) = some call.now := by
          simp [latestAccepted, replaced]
        obtain ⟨latest, kept, later⟩ := inductionHypothesis renewed orderedRest next
        exact ⟨latest, kept, Nat.le_trans (after call List.mem_cons_self) later⟩
      · have same : latestAccepted fingerprint key
            ((call, reference fingerprint window history call) :: history) = some accepted := by
          simp [latestAccepted, replaced, found]
        exact inductionHypothesis same orderedRest fun later member =>
          after later (List.mem_cons_of_mem call member)

/-- In no run is an event dropped because of another one before it. -/
def Independent (fingerprint : Event → Fingerprint) (filter : DedupFilter Fingerprint)
    (first second : Event) : Prop :=
  ∀ (before between : List (DedupCall Event)) (earlier later : Nat),
    Ordered (before ++ ⟨first, earlier⟩ :: between ++ [⟨second, later⟩]) →
    verdict fingerprint filter (before ++ ⟨first, earlier⟩ :: between) ⟨second, later⟩ = true →
    verdict fingerprint filter (before ++ between) ⟨second, later⟩ = true

/-- In every run an event is dropped within the window of another one that has
been accepted. -/
def DropsAfter (fingerprint : Event → Fingerprint) (filter : DedupFilter Fingerprint)
    (first second : Event) : Prop :=
  ∀ (before between : List (DedupCall Event)) (earlier later : Nat),
    Ordered (before ++ ⟨first, earlier⟩ :: between ++ [⟨second, later⟩]) →
    verdict fingerprint filter before ⟨first, earlier⟩ = false →
    later - earlier < filter.window →
    verdict fingerprint filter (before ++ ⟨first, earlier⟩ :: between) ⟨second, later⟩ = true

section Pair

variable {first second : Event} {windowSecs : UInt64} {start : Nat}

omit [DecidableEq Fingerprint] in
theorem new_window :
    (new windowSecs start : DedupFilter Fingerprint).window = windowSecs.toNat * nanosPerSec := rfl

theorem window_pos (nonzero : windowSecs ≠ 0) : 0 < windowSecs.toNat * nanosPerSec := by
  have positive : windowSecs.toNat ≠ 0 := fun zero => nonzero (UInt64.toNat_inj.mp zero)
  have nanos : 0 < nanosPerSec := by decide
  exact Nat.mul_pos (Nat.pos_of_ne_zero positive) nanos

theorem verdict_pair (fingerprint : Event → Fingerprint) (first second : Event) (start : Nat)
    (nonzero : windowSecs ≠ 0) :
    verdict fingerprint (new windowSecs start) [] ⟨first, 0⟩ = false ∧
      verdict fingerprint (new windowSecs start) [] ⟨second, 0⟩ = false ∧
      (verdict fingerprint (new windowSecs start) [⟨first, 0⟩] ⟨second, 0⟩ = true ↔
        fingerprint first = fingerprint second) := by
  have alone (event : Event) :
      verdict fingerprint (new windowSecs start) [] ⟨event, 0⟩ = false := by
    rw [verdict_new windowSecs start (by simp [Ordered])]
    rfl
  refine ⟨alone first, alone second, ?_⟩
  rw [verdict_new windowSecs start (by simp [Ordered])]
  have positive := window_pos nonzero
  by_cases same : fingerprint first = fingerprint second
  · simp [referenceHistory, reference, latestAccepted, same, positive]
  · simp [referenceHistory, reference, latestAccepted, same]

theorem independent_iff :
    Independent fingerprint (new windowSecs start) first second ↔
      windowSecs = 0 ∨ fingerprint first ≠ fingerprint second := by
  constructor
  · intro independent
    by_cases closed : windowSecs = 0
    · exact .inl closed
    · right
      intro same
      obtain ⟨-, alone, together⟩ := verdict_pair fingerprint first second start closed
      have dropped := independent [] [] 0 0 (by simp [Ordered]) (together.mpr same)
      exact absurd dropped (by simp [alone])
  · intro apart before between earlier later ordered dropped
    have orderedWithout : Ordered ((before ++ between) ++ [⟨second, later⟩]) := by
      refine List.Pairwise.sublist ?_ ordered
      simp
    rw [verdict_new windowSecs start ordered] at dropped
    rw [verdict_new windowSecs start orderedWithout]
    rcases apart with rfl | differ
    · obtain ⟨accepted, -, inside⟩ := (reference_eq_true_iff _).mp dropped
      simp at inside
    · have other : fingerprint (DedupCall.mk first earlier).event ≠
          fingerprint (DedupCall.mk second later).event := differ
      rw [← reference_without before between other]
      exact dropped

theorem dropsAfter_iff :
    DropsAfter fingerprint (new windowSecs start) first second ↔
      windowSecs = 0 ∨ fingerprint first = fingerprint second := by
  constructor
  · intro drops
    by_cases closed : windowSecs = 0
    · exact .inl closed
    · right
      obtain ⟨accepted, -, together⟩ := verdict_pair fingerprint first second start closed
      exact together.mp (drops [] [] 0 0 (by simp [Ordered]) accepted (window_pos closed))
  · rintro same before between earlier later ordered accepted inside
    rcases same with rfl | same
    · simp [new_window] at inside
    · have firstOrdered : Ordered (before ++ [⟨first, earlier⟩]) := by
        refine List.Pairwise.sublist ?_ ordered
        simp
      have tailOrdered : Ordered (⟨first, earlier⟩ :: between) := by
        refine List.Pairwise.sublist ?_ ordered
        simp
      obtain ⟨after, betweenOrdered⟩ := List.pairwise_cons.mp tailOrdered
      rw [verdict_new windowSecs start firstOrdered] at accepted
      rw [verdict_new windowSecs start ordered, referenceHistory_append, referenceHistory, accepted]
      have recorded (history : List (DedupCall Event × Bool)) :
          latestAccepted fingerprint (fingerprint second)
            ((⟨first, earlier⟩, false) :: history) = some earlier := by
        simp [latestAccepted, same]
      obtain ⟨latest, found, noEarlier⟩ :=
        latestAccepted_ge (recorded _) betweenOrdered after
      refine (reference_eq_true_iff _).mpr ⟨latest, found, ?_⟩
      rw [new_window] at inside
      change later - latest < _
      omega

end Pair

end Ferroq.Gateway.DedupFilter
