import Ferroq.Library.Broadcast

/-!
# The event bus

Events go from the adapters to everyone who has subscribed.  How many slots a
channel has for a requested capacity is a parameter; there are at least as many
as were requested.
-/

namespace Ferroq.Gateway

open Ferroq.Library

structure EventBus (Event : Type) where
  channel : Broadcast Event
  receivers : Nat

namespace EventBus

variable {Event : Type}

def defaultCapacity : Nat := 4096

def withCapacity (slotsFor : Nat → Nat) (capacity : Nat) : EventBus Event :=
  ⟨⟨slotsFor capacity, []⟩, 0⟩

def new (slotsFor : Nat → Nat) : EventBus Event := withCapacity slotsFor defaultCapacity

/-- An event that nobody would receive is not sent. -/
def publish (bus : EventBus Event) (event : Event) : EventBus Event :=
  if bus.receivers = 0 then bus else { bus with channel := bus.channel.send event }

def subscribe (bus : EventBus Event) : Subscription Event × EventBus Event :=
  (bus.channel.subscribe, { bus with receivers := bus.receivers + 1 })

def unsubscribe (bus : EventBus Event) : EventBus Event :=
  { bus with receivers := bus.receivers - 1 }

variable {bus : EventBus Event}

theorem publish_channel (event : Event) (subscribed : bus.receivers ≠ 0) :
    (bus.publish event).channel = bus.channel.send event := by
  rw [publish, if_neg subscribed]

@[simp]
theorem publish_receivers (event : Event) : (bus.publish event).receivers = bus.receivers := by
  unfold publish
  split <;> rfl

@[simp]
theorem publish_slots (event : Event) :
    (bus.publish event).channel.slots = bus.channel.slots := by
  unfold publish
  split <;> rfl

theorem sound_publish {subscription : Subscription Event}
    (sound : bus.channel.Sound subscription) (event : Event) :
    (bus.publish event).channel.Sound subscription := by
  unfold publish
  split
  next => exact sound
  next => exact sound.send event

end EventBus

end Ferroq.Gateway
