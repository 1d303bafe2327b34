import Mathlib.Data.List.ReduceOption
import Mathlib.Data.List.Basic

/-!
# Broadcast channels

A sender keeps the latest values in a ring of slots, and every receiver reads
them at its own pace.  A receiver that was overtaken is told how many values it
has missed and goes on with the oldest one that is still there.

What a receiver has taken is kept by place: a value that it got, or nothing for
one that it missed.
-/

namespace Ferroq.Library

universe u

variable {Value : Type u}

theorem getElem?_append_cases {Item : Type u} {items more : List Item} {place : Nat} {item : Item}
    (found : (items ++ more)[place]? = some item) :
    items[place]? = some item ∨
      items.length ≤ place ∧ more[place - items.length]? = some item := by
  rw [List.getElem?_append] at found
  split at found
  next => exact .inl found
  next outside => exact .inr ⟨Nat.le_of_not_lt outside, found⟩

theorem reduceOption_sublist {taken : List (Option Value)} {values : List Value}
    (faithful : ∀ (place : Nat) (value : Value), taken[place]? = some (some value) →
      values[place]? = some value) : taken.reduceOption.Sublist values := by
  induction taken generalizing values with
  | nil => exact List.nil_sublist values
  | cons item rest inductionHypothesis =>
      have later : rest.reduceOption.Sublist values.tail := by
        apply inductionHypothesis
        intro place value taken
        rw [List.getElem?_tail]
        exact faithful (place + 1) value taken
      cases item with
      | none => exact later.trans (List.tail_sublist values)
      | some value =>
          have first : values[0]? = some value := faithful 0 value rfl
          cases values with
          | nil => simp at first
          | cons head tail =>
              obtain rfl : head = value := by simpa using first
              rw [List.reduceOption_cons_of_some]
              exact later.cons_cons head

/-- The sending side, with everything that was ever sent. -/
structure Broadcast (Value : Type u) where
  slots : Nat
  sent : List Value

/-- The receiving side, with what became of every value since it subscribed. -/
structure Subscription (Value : Type u) where
  since : Nat
  taken : List (Option Value)

inductive Received (Value : Type u) where
  | value (value : Value)
  | lagged (missed : Nat)

def Subscription.next (subscription : Subscription Value) : Nat :=
  subscription.since + subscription.taken.length

def Subscription.take (subscription : Subscription Value) : Received Value → Subscription Value
  | .value value => { subscription with taken := subscription.taken ++ [some value] }
  | .lagged missed =>
      { subscription with taken := subscription.taken ++ List.replicate missed none }

namespace Broadcast

def send (channel : Broadcast Value) (value : Value) : Broadcast Value :=
  { channel with sent := channel.sent ++ [value] }

/-- A new receiver gets what is sent from now on. -/
def subscribe (channel : Broadcast Value) : Subscription Value := ⟨channel.sent.length, []⟩

def oldest (channel : Broadcast Value) : Nat := channel.sent.length - channel.slots

def recv (channel : Broadcast Value) (subscription : Subscription Value) :
    Option (Received Value) :=
  if subscription.next < channel.oldest then
    some (.lagged (channel.oldest - subscription.next))
  else channel.sent[subscription.next]?.map .value

/-- A receiver has got values from their places, and missed only what was
overwritten. -/
structure Sound (channel : Broadcast Value) (subscription : Subscription Value) : Prop where
  inside : subscription.next ≤ channel.sent.length
  faithful : ∀ (place : Nat) (value : Value), subscription.taken[place]? = some (some value) →
    channel.sent[subscription.since + place]? = some value
  overwritten : ∀ place, subscription.taken[place]? = some none →
    subscription.since + place + channel.slots < channel.sent.length

variable {channel : Broadcast Value} {subscription : Subscription Value}

theorem sound_subscribe (channel : Broadcast Value) : channel.Sound channel.subscribe where
  inside := by simp [subscribe, Subscription.next]
  faithful := by simp [subscribe]
  overwritten := by simp [subscribe]

theorem Sound.send (sound : channel.Sound subscription) (value : Value) :
    (channel.send value).Sound subscription where
  inside := by
    have inside := sound.inside
    simp only [Broadcast.send, List.length_append]
    omega
  faithful := by
    intro place old taken
    have here := sound.faithful place old taken
    have bound := (List.getElem?_eq_some_iff.mp here).1
    rw [Broadcast.send, List.getElem?_append_left bound, here]
  overwritten := by
    intro place missed
    have passed := sound.overwritten place missed
    simp only [Broadcast.send, List.length_append]
    omega

/-- What is given is the next value, or the number of values up to the oldest one
of the ring. -/
theorem recv_cases {received : Received Value}
    (given : channel.recv subscription = some received) :
    (∃ value, received = .value value ∧ channel.sent[subscription.next]? = some value ∧
      channel.oldest ≤ subscription.next) ∨
    ∃ missed, received = .lagged missed ∧ 0 < missed ∧
      subscription.next + missed + channel.slots = channel.sent.length := by
  unfold recv at given
  split at given
  next behind =>
    right
    refine ⟨_, (Option.some.inj given).symm, by omega, ?_⟩
    unfold oldest at behind ⊢
    omega
  next level =>
    left
    obtain ⟨value, found, rfl⟩ := Option.map_eq_some_iff.mp given
    exact ⟨value, rfl, found, by omega⟩

theorem recv_eq_none_iff (sound : channel.Sound subscription) :
    channel.recv subscription = none ↔ subscription.next = channel.sent.length := by
  have inside := sound.inside
  unfold recv oldest
  split
  next behind =>
    simp only [reduceCtorEq, false_iff]
    omega
  next =>
    rw [Option.map_eq_none_iff, List.getElem?_eq_none_iff]
    omega

theorem Sound.extend (sound : channel.Sound subscription) {more : List (Option Value)}
    (inside : subscription.next + more.length ≤ channel.sent.length)
    (faithful : ∀ (place : Nat) (value : Value), more[place]? = some (some value) →
      channel.sent[subscription.next + place]? = some value)
    (overwritten : ∀ place, more[place]? = some none →
      subscription.next + place + channel.slots < channel.sent.length) :
    channel.Sound { subscription with taken := subscription.taken ++ more } where
  inside := by
    change subscription.since + (subscription.taken ++ more).length ≤ channel.sent.length
    unfold Subscription.next at inside
    rw [List.length_append]
    omega
  faithful := by
    intro place value taken
    rcases getElem?_append_cases taken with early | ⟨late, new⟩
    · exact sound.faithful place value early
    · have here := faithful _ value new
      rwa [Subscription.next, Nat.add_assoc, Nat.add_sub_cancel' late] at here
  overwritten := by
    intro place missed
    rcases getElem?_append_cases missed with early | ⟨late, new⟩
    · exact sound.overwritten place early
    · have passed := overwritten _ new
      change subscription.since + place + channel.slots < channel.sent.length
      unfold Subscription.next at passed
      omega

theorem Sound.recv (sound : channel.Sound subscription) {received : Received Value}
    (given : channel.recv subscription = some received) :
    channel.Sound (subscription.take received) := by
  rcases recv_cases given with ⟨value, rfl, found, -⟩ | ⟨missed, rfl, -, behind⟩
  · have bound := (List.getElem?_eq_some_iff.mp found).1
    refine sound.extend ?_ ?_ ?_
    · rw [List.length_singleton]
      omega
    · intro place other new
      obtain ⟨rfl, same⟩ : place = 0 ∧ value = other := by
        simpa [List.getElem?_singleton] using new
      rw [Nat.add_zero, found, same]
    · simp [List.getElem?_singleton]
  · refine sound.extend ?_ ?_ ?_
    · rw [List.length_replicate]
      omega
    · simp [List.getElem?_replicate]
    · intro place new
      have bound := (List.getElem?_eq_some_iff.mp new).1
      rw [List.length_replicate] at bound
      omega

/-- The values that a receiver has got are some of those sent since it subscribed,
in their order and each at most once. -/
theorem Sound.sublist (sound : channel.Sound subscription) :
    subscription.taken.reduceOption.Sublist (channel.sent.drop subscription.since) := by
  apply reduceOption_sublist
  intro place value taken
  rw [List.getElem?_drop]
  exact sound.faithful place value taken

theorem Sound.complete (sound : channel.Sound subscription) (gapless : none ∉ subscription.taken) :
    subscription.taken =
      ((channel.sent.drop subscription.since).take subscription.taken.length).map some := by
  have inside := sound.inside
  unfold Subscription.next at inside
  apply List.ext_getElem?
  intro place
  rw [List.getElem?_map, List.getElem?_take, List.getElem?_drop]
  split
  next early =>
    obtain ⟨item, here⟩ : ∃ item, subscription.taken[place]? = some item :=
      ⟨_, List.getElem?_eq_getElem early⟩
    cases item with
    | none => exact absurd (List.mem_of_getElem? here) gapless
    | some value => rw [here, sound.faithful place value here, Option.map_some]
  next late => rw [List.getElem?_eq_none (Nat.le_of_not_lt late), Option.map_none]

end Broadcast

end Ferroq.Library
