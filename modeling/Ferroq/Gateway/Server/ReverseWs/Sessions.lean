import Ferroq.Gateway.Server.ForwardWs.Delivery
import Ferroq.Gateway.Server.ReverseWs

/-!
# The connections of a reverse WebSocket

Each connection of a target answers its requests as one that a client has opened,
and pushes what it takes from the bus.  The connections of a target take up one
after the other, so that none repeats what another one has pushed.
-/

namespace Ferroq.Gateway.Server.ReverseWs

open Ferroq.Core Ferroq.Library
open Ferroq.Gateway.OneBotV11
open Ferroq.Gateway.Server.ForwardWs (Connection Frame Outcome Routing overloaded)

variable {Adapter : Type} {connection : Connection Adapter} {session after : Session Adapter}
  {number : Nat} {text : String}

/-! ## One connection -/

theorem subscription_of_moves {action : CallSession.Action Frame (Routing Adapter) Event}
    (other : ∀ event, action ≠ .publish event)
    (moves : (service connection).Moves session action after) :
    after.channel = session.channel ∧ after.receiver.since = session.receiver.since := by
  cases moves with
  | published event => exact absurd rfl (other event)
  | _ => exact ⟨rfl, rfl⟩

theorem sound_withChannel (sound : (service connection).Sound session) {channel : Broadcast Event}
    (taken : channel.Sound session.receiver) :
    (service connection).Sound { session with channel := channel } where
  balanced := ⟨sound.balanced.permits, sound.balanced.replies, sound.balanced.refusals,
    sound.balanced.calls, sound.balanced.completed⟩
  own := ⟨sound.own.calls, sound.own.stages, sound.own.completed, sound.own.listening,
    sound.own.outbound⟩
  pushed := ⟨taken, sound.pushed.events, sound.pushed.counted⟩
  bounded := sound.bounded

/-! ## All connections of a target -/

def Loop.connections (state : Loop Adapter) : List (Session Adapter) :=
  state.past ++ state.phase.held.toList

structure Kept (target : Target Adapter) (channel : Broadcast Event)
    (connections : List (Session Adapter)) : Prop where
  good : ∀ (index : Nat) (session : Session Adapter), connections[index]? = some session →
    (service (target.connection index)).Sound session
  sound : ∀ session ∈ connections, channel.Sound session.receiver
  disjoint : connections.Pairwise fun earlier later =>
    earlier.receiver.next ≤ later.receiver.since

section Kept

variable {target : Target Adapter} {channel : Broadcast Event}
  {connections past : List (Session Adapter)}

theorem Kept.init (kept : Kept target channel (past ++ connections)) :
    Kept target channel past where
  good := by
    intro index session found
    apply kept.good index session
    rw [List.getElem?_append_left (List.getElem?_eq_some_iff.mp found).1, found]
  sound := fun session listed => kept.sound session (List.mem_append_left _ listed)
  disjoint := (List.pairwise_append.mp kept.disjoint).1

/-- One more connection, which begins after everything that the others have taken. -/
theorem Kept.concat (kept : Kept target channel past)
    (good : (service (target.connection past.length)).Sound session)
    (sound : channel.Sound session.receiver)
    (later : ∀ earlier ∈ past, earlier.receiver.next ≤ session.receiver.since) :
    Kept target channel (past ++ [session]) where
  good := by
    intro index other found
    rcases getElem?_append_cases found with old | ⟨late, new⟩
    · exact kept.good index other old
    · have last : index = past.length := by
        have bound := (List.getElem?_eq_some_iff.mp new).1
        rw [List.length_singleton] at bound
        omega
      subst last
      rw [Nat.sub_self] at new
      cases new
      exact good
  sound := forall_mem_concat kept.sound sound
  disjoint := by
    rw [List.pairwise_append]
    refine ⟨kept.disjoint, List.pairwise_singleton _ _, ?_⟩
    intro earlier listed new isNew
    rw [List.mem_singleton.mp isNew]
    exact later earlier listed

theorem Kept.replace (kept : Kept target channel (past ++ [session]))
    (good : (service (target.connection past.length)).Sound after)
    (sound : channel.Sound after.receiver)
    (since : after.receiver.since = session.receiver.since) :
    Kept target channel (past ++ [after]) := by
  refine kept.init.concat good sound ?_
  intro earlier listed
  rw [since]
  exact (List.pairwise_append.mp kept.disjoint).2.2 earlier listed session (by simp)

theorem Kept.last (kept : Kept target channel (past ++ [session])) :
    (service (target.connection past.length)).Sound session ∧ channel.Sound session.receiver :=
  ⟨kept.good past.length session (by simp), kept.sound session (by simp)⟩

end Kept

/-- The connections are kept, and the one at hand sees what is on the bus. -/
structure Tended (target : Target Adapter) (state : Loop Adapter) : Prop where
  kept : Kept target state.bus.channel state.connections
  sees : ∀ session, state.phase.held = some session → session.channel = state.bus.channel

section Tended

variable {target : Target Adapter} {state next : Loop Adapter}

theorem connections_of_held (held : state.phase.held = some session) :
    state.connections = state.past ++ [session] := by
  rw [Loop.connections, held, Option.toList_some]

theorem connections_of_idle (idle : state.phase.held = none) : state.connections = state.past := by
  rw [Loop.connections, idle, Option.toList_none, List.append_nil]

theorem Tended.publish (tended : Tended target state) (event : Event) :
    Tended target (Target.publish state event) := by
  obtain ⟨kept, sees⟩ := tended
  have published : Kept target (state.bus.publish event).channel state.connections :=
    ⟨kept.good, fun session listed => EventBus.sound_publish (kept.sound session listed) event,
      kept.disjoint⟩
  constructor
  · cases held : state.phase.held with
    | none =>
        rw [connections_of_idle held] at published
        rw [connections_of_idle (by simp [Target.publish, held])]
        exact published
    | some session =>
        rw [connections_of_held held] at published
        rw [connections_of_held (by simp [Target.publish, held]; rfl)]
        obtain ⟨good, sound⟩ := published.last
        exact published.replace (sound_withChannel good sound) sound rfl
  · intro session held
    simp only [Target.publish, Phase.held_map] at held
    obtain ⟨before, _, rfl⟩ := Option.map_eq_some_iff.mp held
    rfl

theorem Tended.serve (tended : Tended target state)
    {action : CallSession.Action Frame (Routing Adapter) Event}
    (held : state.phase.held = some session) (other : ∀ event, action ≠ .publish event)
    (stepped : (service (target.connection state.past.length)).step session action =
      some after) :
    Kept target state.bus.channel (state.past ++ [after]) ∧
      after.channel = state.bus.channel := by
  obtain ⟨kept, sees⟩ := tended
  rw [connections_of_held held] at kept
  have moves := CallService.moves_of_step stepped
  obtain ⟨channel, since⟩ := subscription_of_moves other moves
  have good := kept.last.1.of_moves moves
  have same : after.channel = state.bus.channel := channel.trans (sees session held)
  have sound := good.pushed.sound
  rw [same] at sound
  exact ⟨kept.replace good sound since, same⟩

end Tended

end Ferroq.Gateway.Server.ReverseWs
