import Ferroq.Gateway.Pipeline
import Ferroq.Gateway.Dedup.Fingerprint

/-!
# Repetitions in the message table

Two rows may be of one message when it comes again after its window.  The table
shows a message twice only if the filter was asked at such a time, whichever
adapters the message came through.
-/

namespace Ferroq.Gateway.Pipeline

open Ferroq.Core Ferroq.Library

theorem exists_split_of_mem {Item : Type} {items : List Item} {first second : Item}
    (firstListed : first ∈ items) (secondListed : second ∈ items) (different : first ≠ second) :
    ∃ before between after,
      items = before ++ first :: between ++ second :: after ∨
        items = before ++ second :: between ++ first :: after := by
  obtain ⟨before, after, rfl⟩ := List.append_of_mem firstListed
  rcases List.mem_append.mp secondListed with early | late
  · obtain ⟨start, between, rfl⟩ := List.append_of_mem early
    exact ⟨start, between, after, .inr (by simp)⟩
  · rcases List.mem_cons.mp late with same | later
    · exact absurd same.symm different
    · obtain ⟨between, rest, rfl⟩ := List.append_of_mem later
      exact ⟨before, between, rest, .inl (by simp)⟩

variable {Event Fingerprint : Type} [DecidableEq Fingerprint]

def Check.Admits (check : Check Event) (delivery : Delivery Event) : Prop :=
  check.task = delivery.task ∧ check.position = delivery.position ∧
    check.call.event = delivery.event ∧ check.duplicate = false

/-- The filter let both events pass, and in between it was asked at a time when the
window of the first one was over. -/
def WindowApart (checks : List (Check Event)) (window : Nat) (first second : Delivery Event) :
    Prop :=
  ∃ before earlier between later after,
    checks = before ++ earlier :: between ++ later :: after ∧
      (Check.Admits earlier first ∧ Check.Admits later second ∨
        Check.Admits earlier second ∧ Check.Admits later first) ∧
      ∃ check ∈ between ++ [later], window ≤ check.call.now - earlier.call.now

variable {fingerprint : Event → Fingerprint} {filter : DedupFilter Fingerprint}
  {checks : List (Check Event)} {forwarding : Forwarding Event Fingerprint}

theorem Logged.window_over (logged : Logged fingerprint (some filter) checks forwarding)
    {before between after : List (Check Event)} {earlier later : Check Event}
    (parts : checks = before ++ earlier :: between ++ later :: after)
    (same : fingerprint earlier.call.event = fingerprint later.call.event)
    (earlierPassed : earlier.duplicate = false) (laterPassed : later.duplicate = false) :
    ∃ check ∈ between ++ [later], filter.window ≤ check.call.now - earlier.call.now := by
  have earlierAnswer := logged.answers filter rfl before earlier (between ++ later :: after)
    (by rw [parts]; simp)
  have laterAnswer := logged.answers filter rfl (before ++ earlier :: between) later after parts
  rw [earlierPassed] at earlierAnswer
  rw [laterPassed, List.map_append, List.map_cons] at laterAnswer
  obtain ⟨call, listed, past⟩ :=
    DedupFilter.window_over_of_accepted same earlierAnswer.symm laterAnswer.symm
  have named : call ∈ (between ++ [later]).map Check.call := by simpa using listed
  obtain ⟨check, here, rfl⟩ := List.mem_map.mp named
  exact ⟨check, here, past⟩

theorem Logged.windowApart (logged : Logged fingerprint (some filter) checks forwarding)
    {first second : Delivery Event} (firstPublished : first ∈ forwarding.published)
    (secondPublished : second ∈ forwarding.published)
    (different : first.task = second.task → first.position < second.position)
    (same : fingerprint first.event = fingerprint second.event) :
    WindowApart checks filter.window first second := by
  obtain ⟨one, oneListed, oneAdmits⟩ := logged.published first firstPublished
  obtain ⟨other, otherListed, otherAdmits⟩ := logged.published second secondPublished
  have apart : one ≠ other := by
    rintro rfl
    have below := different (oneAdmits.1.symm.trans otherAdmits.1)
    have equal := oneAdmits.2.1.symm.trans otherAdmits.2.1
    omega
  have sameCalls : fingerprint one.call.event = fingerprint other.call.event := by
    rw [oneAdmits.2.2.1, otherAdmits.2.2.1, same]
  obtain ⟨before, between, after, parts | parts⟩ :=
    exists_split_of_mem oneListed otherListed apart
  · have past := logged.window_over parts sameCalls oneAdmits.2.2.2 otherAdmits.2.2.2
    exact ⟨before, one, between, other, after, parts, .inl ⟨oneAdmits, otherAdmits⟩, past⟩
  · have past := logged.window_over parts sameCalls.symm otherAdmits.2.2.2 oneAdmits.2.2.2
    exact ⟨before, other, between, one, after, parts, .inr ⟨otherAdmits, oneAdmits⟩, past⟩

def messageOf : Core.Event → Option MessageEvent
  | .message event => some event
  | _ => none

theorem eq_of_messageOf {event : Core.Event} {message : MessageEvent}
    (carries : messageOf event = some message) : event = .message message := by
  cases event with
  | message event => exact congrArg Core.Event.message (Option.some.inj carries)
  | notice | request | metaEvent => cases carries

/-- Two rows of one account and message number are of messages that the filter let
pass a window apart, in any run of the gateway. -/
theorem repeated_rows_apart (hash : List DedupFilter.Write → UInt64)
    (serialize : MessageEvent → Option String) (slotsFor : Nat → Nat) (windowSecs : UInt64)
    (begun : Nat) (initial : Storage.MessageStore) (actions : List (Action Core.Event)) :
    (machine (DedupFilter.fingerprint hash) messageOf serialize).Throughout
      (fun state => ∀ task, state.recording = .running task →
        (origins task.fates task.receiver.taken).Pairwise fun earlier later =>
          earlier.2.event.selfId = later.2.event.selfId →
          earlier.2.event.messageId = later.2.event.messageId →
            WindowApart state.checks (windowSecs.toNat * DedupFilter.nanosPerSec)
              earlier.1 later.1)
      (start slotsFor (some (.new windowSecs begun)) initial) actions := by
  refine (machine (DedupFilter.fingerprint hash) messageOf serialize).throughout_of_invariant
    (fun _ _ _ piped stepped => piped_step piped stepped) ?_ actions
    (piped_start _ _ serialize slotsFor _ initial)
  intro state piped task running
  have heard := piped.heard
  rw [running] at heard
  obtain ⟨-, deliveries, carries⟩ := origins_of_heard heard
  have ordered : (origins task.fates task.receiver.taken).Pairwise fun earlier later =>
      earlier.1.task = later.1.task → earlier.1.position < later.1.position :=
    List.pairwise_map.mp (piped.accounted.tagged.ordered.sublist deliveries)
  have published (origin : Delivery Core.Event × Storage.Entry)
      (listed : origin ∈ origins task.fates task.receiver.taken) :
      origin.1 ∈ state.forwarding.published :=
    deliveries.subset (List.mem_map_of_mem listed)
  refine ordered.imp_of_mem ?_
  intro earlier later earlierListed laterListed different sameAccount sameNumber
  apply piped.logged.windowApart (published earlier earlierListed) (published later laterListed)
    different
  rw [eq_of_messageOf (carries earlier earlierListed),
    eq_of_messageOf (carries later laterListed), DedupFilter.fingerprint,
    DedupFilter.fingerprint, sameAccount, sameNumber]

end Ferroq.Gateway.Pipeline
