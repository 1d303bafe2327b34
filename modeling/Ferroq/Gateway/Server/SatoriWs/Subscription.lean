import Ferroq.Gateway.Server.SatoriWs
import Ferroq.Library.Parts
import Ferroq.Library.Tally

/-!
# From READY to the subscription

What is published after READY is settled for the client, or the push task will
still come to it, unless it was published before the handler had subscribed.
-/

namespace Ferroq.Gateway.Server.SatoriWs

open Ferroq.Core
open Ferroq.Library

namespace Connection

/-- The event has been given to the client, dropped or skipped. -/
def Settled (connection : Connection) (position : Nat) : Prop :=
  position ∈ connection.signals.map Prod.fst ∨ position ∈ connection.dropped ∨
    position ∈ connection.skipped

/-- The push task has the event at hand, or will come to it. -/
def Pending (connection : Connection) (position : Nat) : Prop :=
  connection.push.position = some position ∨
    connection.phase = .serving ∧ connection.push ≠ .ended ∧ connection.cursor ≤ position

/-- How many events had been published when the connection ended, or until now. -/
def horizon (connection : Connection) (published : Nat) : Nat :=
  connection.endedAt.getD published

/-- No event between READY and the end of the connection is missing. -/
def Followed (published : Nat) (connection : Connection) : Prop :=
  ∀ ready ∈ connection.readyAt, ∀ position, ready ≤ position →
    position < connection.horizon published → connection.Settled position ∨
      connection.Pending position

/-- The tasks of the connection have not been started. -/
structure Unstarted (connection : Connection) : Prop where
  endedAt : connection.endedAt = none
  writerEnded : connection.writerEnded = false
  push : connection.push = .idle
  writing : connection.writing = none
  queue : connection.queue = []
  ponging : connection.ponging = false

/-- What goes with each phase: READY has been written from `greeted` on, and after
that nothing ends without the end being noted. -/
def Staged (connection : Connection) : Prop :=
  match connection.phase with
  | .identifying => connection.readyAt = none ∧ connection.Unstarted
  | .greeted => connection.readyAt ≠ none ∧ connection.Unstarted
  | .serving =>
      connection.readyAt ≠ none ∧
        (connection.endedAt = none → connection.writerEnded = false ∧ connection.push ≠ .ended)
  | .closing | .closed => connection.readyAt ≠ none → connection.endedAt ≠ none

/-- The push task goes through the events in order, from one that is no earlier
than READY. -/
structure Placed (published : Nat) (connection : Connection) : Prop where
  busy : connection.push ≠ .idle → connection.readyAt ≠ none
  ready : ∀ ready ∈ connection.readyAt, ready ≤ published
  begun : connection.phase = .serving → ∀ ready ∈ connection.readyAt, ready ≤ connection.cursor
  bounded : connection.cursor ≤ published
  settled : ∀ position, connection.Settled position → position < connection.cursor
  atHand : ∀ position ∈ connection.push.position, position < connection.cursor ∧
    ¬ connection.Settled position ∧ ∀ ready ∈ connection.readyAt, ready ≤ position

structure Tracked (published : Nat) (connection : Connection) : Prop where
  staged : connection.Staged
  placed : connection.Placed published

theorem settled_congr {connection after : Connection}
    (signals : after.signals = connection.signals) (dropped : after.dropped = connection.dropped)
    (skipped : after.skipped = connection.skipped) (position : Nat) :
    after.Settled position ↔ connection.Settled position := by
  rw [Settled, Settled, signals, dropped, skipped]

theorem settled_enqueued (connection : Connection) (place position : Nat) (event : Event)
    (sn : UInt64) :
    Settled { connection with
        push := .idle, queue := connection.queue ++ [.event place event sn] } position ↔
      connection.Settled position ∨ position = place := by
  have signaled : signals { connection with
      push := .idle, queue := connection.queue ++ [.event place event sn] } =
      connection.signals ++ [(place, sn)] := by
    simp [signals, outbound, Signal.entry]
  rw [Settled, Settled, signaled, List.map_append, List.mem_append, List.map_singleton,
    List.mem_singleton]
  tauto

theorem settled_dropped (connection : Connection) (place position : Nat) :
    Settled { connection with push := .idle, dropped := connection.dropped ++ [place] } position ↔
      connection.Settled position ∨ position = place := by
  have signaled : signals { connection with
      push := .idle, dropped := connection.dropped ++ [place] } = connection.signals :=
    signals_congr rfl rfl rfl
  rw [Settled, Settled, signaled, List.mem_append, List.mem_singleton]
  tauto

theorem settled_lagged (connection : Connection) (oldest position : Nat)
    (behind : connection.cursor < oldest) :
    Settled { connection with
        cursor := oldest
        skipped := connection.skipped ++
          List.range' connection.cursor (oldest - connection.cursor) } position ↔
      connection.Settled position ∨ connection.cursor ≤ position ∧ position < oldest := by
  have signaled : signals { connection with
      cursor := oldest
      skipped := connection.skipped ++
        List.range' connection.cursor (oldest - connection.cursor) } = connection.signals :=
    signals_congr rfl rfl rfl
  have skipped : position ∈ List.range' connection.cursor (oldest - connection.cursor) ↔
      connection.cursor ≤ position ∧ position < oldest := by
    rw [List.mem_range'_1]
    omega
  rw [Settled, Settled, signaled, List.mem_append, skipped]
  tauto

theorem not_settled_new (position : Nat) : ¬ new.Settled position := by
  simp [Settled, signals, outbound, new]

theorem new_tracked (published : Nat) : new.Tracked published where
  staged := ⟨rfl, rfl, rfl, rfl, rfl, rfl, rfl⟩
  placed :=
    { busy := by simp [new]
      ready := by simp [new]
      begun := by simp [new]
      bounded := Nat.zero_le published
      settled := fun position settled => absurd settled (not_settled_new position)
      atHand := by simp [new, Push.position] }

theorem Tracked.publish {connection : Connection} {published : Nat}
    (tracked : connection.Tracked published) : connection.Tracked (published + 1) where
  staged := tracked.staged
  placed :=
    { tracked.placed with
      ready := fun ready held => Nat.le_succ_of_le (tracked.placed.ready ready held)
      bounded := Nat.le_succ_of_le tracked.placed.bounded }

section Stages

variable {connection after : Connection} (staged : connection.Staged)
include staged

theorem Staged.of_identifying (phase : connection.phase = .identifying) :
    connection.readyAt = none ∧ connection.Unstarted := by
  unfold Staged at staged
  rwa [phase] at staged

theorem Staged.of_greeted (phase : connection.phase = .greeted) :
    connection.readyAt ≠ none ∧ connection.Unstarted := by
  unfold Staged at staged
  rwa [phase] at staged

theorem Staged.of_serving (phase : connection.phase = .serving) :
    connection.readyAt ≠ none ∧
      (connection.endedAt = none → connection.writerEnded = false ∧ connection.push ≠ .ended) := by
  unfold Staged at staged
  rwa [phase] at staged

theorem Staged.of_ending (phase : connection.phase = .closing ∨ connection.phase = .closed) :
    connection.readyAt ≠ none → connection.endedAt ≠ none := by
  unfold Staged at staged
  rcases phase with phase | phase
  · rwa [phase] at staged
  · rwa [phase] at staged

theorem Staged.started (busy : ¬ connection.Unstarted) :
    connection.phase ≠ .identifying ∧ connection.phase ≠ .greeted :=
  ⟨fun phase => busy (staged.of_identifying phase).2, fun phase => busy (staged.of_greeted phase).2⟩

/-- The tasks go on, and if one of them ends, the end is noted. -/
theorem Staged.goOn
    (started : connection.phase ≠ .identifying ∧ connection.phase ≠ .greeted)
    (phase : after.phase = connection.phase) (readyAt : after.readyAt = connection.readyAt)
    (ending : after.endedAt = none → connection.endedAt = none ∧
      (connection.writerEnded = false ∧ connection.push ≠ .ended →
        after.writerEnded = false ∧ after.push ≠ .ended)) : after.Staged := by
  unfold Staged
  rw [phase, readyAt]
  cases stage : connection.phase with
  | identifying => exact absurd stage started.1
  | greeted => exact absurd stage started.2
  | serving =>
      obtain ⟨ready, running⟩ := staged.of_serving stage
      exact ⟨ready, fun goesOn => (ending goesOn).2 (running (ending goesOn).1)⟩
  | closing => exact fun ready goesOn => staged.of_ending (.inl stage) ready (ending goesOn).1
  | closed => exact fun ready goesOn => staged.of_ending (.inr stage) ready (ending goesOn).1

end Stages

theorem Placed.congr {connection after : Connection} {published : Nat}
    (placed : connection.Placed published)
    (phase : after.phase = .serving → connection.phase = .serving)
    (readyAt : after.readyAt = connection.readyAt) (cursor : after.cursor = connection.cursor)
    (busy : after.push ≠ .idle → connection.push ≠ .idle)
    (push : after.push.position = connection.push.position)
    (settled : ∀ position, after.Settled position ↔ connection.Settled position) :
    after.Placed published := by
  constructor
  · rw [readyAt]
    exact fun working => placed.busy (busy working)
  · rw [readyAt]
    exact placed.ready
  · rw [readyAt, cursor]
    exact fun serving => placed.begun (phase serving)
  · rw [cursor]
    exact placed.bounded
  · rw [cursor]
    exact fun position done => placed.settled position ((settled position).mp done)
  · rw [push, readyAt, cursor]
    intro position held
    obtain ⟨before, unsettled, later⟩ := placed.atHand position held
    exact ⟨before, fun done => unsettled ((settled position).mp done), later⟩

theorem Placed.skip {connection after : Connection} {published : Nat}
    (placed : connection.Placed published) (idle : after.push = .idle)
    (readyAt : after.readyAt = connection.readyAt) (cursor : connection.cursor ≤ after.cursor)
    (bounded : after.cursor ≤ published)
    (begun : ∀ ready ∈ connection.readyAt, ready ≤ after.cursor)
    (settled : ∀ position, after.Settled position →
      connection.Settled position ∨ position < after.cursor) : after.Placed published := by
  constructor
  · exact fun busy => absurd idle busy
  · rw [readyAt]
    exact placed.ready
  · rw [readyAt]
    exact fun _ => begun
  · exact bounded
  · intro position done
    rcases settled position done with former | passed
    · exact Nat.lt_of_lt_of_le (placed.settled position former) cursor
    · exact passed
  · rw [idle]
    intro position none
    cases none

theorem Placed.settle {connection after : Connection} {published place : Nat}
    (placed : connection.Placed published) (held : connection.push.position = some place)
    (phase : after.phase = connection.phase) (readyAt : after.readyAt = connection.readyAt)
    (cursor : after.cursor = connection.cursor) (push : after.push.position = none)
    (settled : ∀ position, after.Settled position →
      connection.Settled position ∨ position = place) : after.Placed published := by
  constructor
  · rw [readyAt]
    exact fun _ => placed.busy fun idle => by simp [idle, Push.position] at held
  · rw [readyAt]
    exact placed.ready
  · rw [phase, readyAt, cursor]
    exact placed.begun
  · rw [cursor]
    exact placed.bounded
  · rw [cursor]
    intro position done
    rcases settled position done with former | rfl
    · exact placed.settled position former
    · exact (placed.atHand position held).1
  · rw [push]
    intro position none
    cases none

theorem Followed.mono {connection after : Connection} {published : Nat}
    (followed : connection.Followed published) (readyAt : after.readyAt = connection.readyAt)
    (horizon : after.horizon published = connection.horizon published)
    (settled : ∀ position, connection.Settled position → after.Settled position)
    (pending : ∀ position, connection.Pending position →
      after.Settled position ∨ after.Pending position) : after.Followed published := by
  intro ready held position later before
  rw [readyAt] at held
  rw [horizon] at before
  rcases followed ready held position later before with done | waiting
  · exact .inl (settled position done)
  · exact pending position waiting

theorem Followed.settle {connection after : Connection} {published place : Nat}
    (followed : connection.Followed published) (held : connection.push.position = some place)
    (readyAt : after.readyAt = connection.readyAt)
    (horizon : after.horizon published = connection.horizon published)
    (phase : after.phase = connection.phase) (cursor : after.cursor = connection.cursor)
    (push : after.push ≠ .ended)
    (settled : ∀ position, connection.Settled position ∨ position = place →
      after.Settled position) : after.Followed published := by
  refine followed.mono readyAt horizon (fun position done => settled position (.inl done)) ?_
  rintro position (here | ⟨serving, running, ahead⟩)
  · exact .inl (settled position (.inr (Option.some.inj (here.symm.trans held))))
  · exact .inr (.inr ⟨phase.trans serving, push, cursor ▸ ahead⟩)

end Connection

namespace SatoriServer

open Connection

variable {server : SatoriServer} {state next : ServerState} {connection after : Connection}
variable {doing : Doing}

theorem published_performs (performs : server.Performs state connection doing next after) :
    next.published = state.published := by
  cases performs with
  | passedOver | refused | greeted | unreached | ignored | pinged | closedBy | gaveUp | left
  | disconnected | subscribed | pongLost | ponged | lagged | received | numbered | lost | enqueued
  | dropped | took | wrote | failed | stopped => rfl

theorem staged_performs (staged : connection.Staged)
    (performs : server.Performs state connection doing next after) : after.Staged := by
  cases performs with
  | passedOver | ignored => exact staged
  | refused sent phase | unreached phase | gaveUp phase =>
      exact fun ready => absurd (staged.of_identifying phase).1 ready
  | greeted phase =>
      have unstarted := (staged.of_identifying phase).2
      exact ⟨by simp, { unstarted with }⟩
  | closedBy sent phase | left phase => exact fun _ => by simp [leave]
  | disconnected phase => exact staged.of_ending (.inl phase)
  | subscribed phase =>
      obtain ⟨ready, unstarted⟩ := staged.of_greeted phase
      exact ⟨ready, fun _ => ⟨unstarted.writerEnded, by simp [unstarted.push]⟩⟩
  | pinged sent phase | lagged phase =>
      exact staged.goOn (by simp [phase]) rfl rfl fun goesOn => ⟨goesOn, id⟩
  | received phase =>
      exact staged.goOn (by simp [phase]) rfl rfl fun goesOn => ⟨goesOn, fun running =>
        ⟨running.1, by simp⟩⟩
  | pongLost pending | ponged pending =>
      have started := staged.started fun unstarted => by simp [unstarted.ponging] at pending
      exact staged.goOn started rfl rfl fun goesOn => ⟨goesOn, id⟩
  | took free queued =>
      have started := staged.started fun unstarted => by simp [unstarted.queue] at queued
      exact staged.goOn started rfl rfl fun goesOn => ⟨goesOn, id⟩
  | wrote held =>
      have started := staged.started fun unstarted => by simp [unstarted.writing] at held
      exact staged.goOn started rfl rfl fun goesOn => ⟨goesOn, id⟩
  | failed held running =>
      have started := staged.started fun unstarted => by simp [unstarted.writing] at held
      exact staged.goOn started rfl rfl fun goesOn => by simp [failWriter] at goesOn
  | numbered held | enqueued held | dropped held =>
      have started := staged.started fun unstarted => by simp [unstarted.push] at held
      exact staged.goOn started rfl rfl fun goesOn => ⟨goesOn, fun running =>
        ⟨running.1, by simp⟩⟩
  | lost held ended =>
      have started := staged.started fun unstarted => by simp [unstarted.push] at held
      refine staged.goOn started rfl rfl fun goesOn => ⟨goesOn, fun running => ?_⟩
      rw [ended] at running
      exact absurd running.1 (by simp)
  | stopped phase =>
      unfold Staged
      dsimp only
      rcases phase with phase | phase
      · rw [phase]
        exact staged.of_ending (.inl phase)
      · rw [phase]
        exact staged.of_ending (.inr phase)

theorem placed_performs (tracked : connection.Tracked state.published.length)
    (performs : server.Performs state connection doing next after) :
    after.Placed state.published.length := by
  have placed := tracked.placed
  have staged := tracked.staged
  have same := signals_eq_of_ne performs
  cases performs with
  | passedOver | ignored => exact placed
  | pinged | pongLost | ponged | took | wrote | failed | stopped =>
      exact placed.congr id rfl rfl id rfl (settled_congr (same (by simp)) rfl rfl)
  | refused | unreached | closedBy | gaveUp | left | disconnected =>
      refine placed.congr ?_ rfl rfl id rfl (settled_congr (same (by simp)) rfl rfl)
      intro serving
      cases serving
  | greeted phase =>
      have idle := (staged.of_identifying phase).2.push
      have settled := settled_congr (same (by simp)) rfl rfl
      constructor
      · exact fun busy => absurd idle busy
      · intro ready held
        cases held
        exact Nat.le_refl _
      · intro serving
        cases serving
      · exact placed.bounded
      · exact fun position done => placed.settled position ((settled position).mp done)
      · rw [idle]
        intro position none
        cases none
  | subscribed phase =>
      have settled := settled_congr (same (by simp)) rfl rfl
      exact placed.skip (staged.of_greeted phase).2.push rfl placed.bounded (Nat.le_refl _)
        placed.ready fun position done => .inl ((settled position).mp done)
  | lagged phase idle behind =>
      have settled := fun position => settled_lagged connection _ position behind
      have further := Nat.le_of_lt behind
      exact placed.skip idle rfl further (Nat.sub_le _ _)
        (fun ready held => Nat.le_trans (placed.begun phase ready held) further)
        fun position done => ((settled position).mp done).imp_right And.right
  | received phase idle found =>
      have settled := settled_congr (same (by simp)) rfl rfl
      constructor
      · exact fun _ => (staged.of_serving phase).1
      · exact placed.ready
      · exact fun _ ready held => Nat.le_succ_of_le (placed.begun phase ready held)
      · exact (List.getElem?_eq_some_iff.mp found).1
      · exact fun position done =>
          Nat.lt_succ_of_lt (placed.settled position ((settled position).mp done))
      · intro position held
        cases held
        refine ⟨Nat.lt_succ_self _, fun done => ?_, placed.begun phase⟩
        exact Nat.lt_irrefl _ (placed.settled _ ((settled _).mp done))
  | numbered held =>
      have settled := settled_congr (same (by simp)) rfl rfl
      exact placed.congr id rfl rfl (fun _ => by simp [held])
        (congrArg Push.position held).symm settled
  | lost held =>
      have settled (place : Nat) : Settled { connection with push := .ended } place ↔
          connection.Settled place := settled_congr (signals_congr rfl rfl rfl) rfl rfl place
      exact placed.settle (congrArg Push.position held) rfl rfl rfl rfl fun place done =>
        .inl ((settled place).mp done)
  | @enqueued position event sn held =>
      exact placed.settle (congrArg Push.position held) rfl rfl rfl rfl fun place =>
        (settled_enqueued connection position place event sn).mp
  | @dropped position event sn held =>
      exact placed.settle (congrArg Push.position held) rfl rfl rfl rfl fun place =>
        (settled_dropped connection position place).mp

end SatoriServer

namespace Hub

variable {server : SatoriServer} {hub next : Hub} {action : Action}

def Tracked (hub : Hub) : Prop :=
  ∀ connection ∈ hub.connections, connection.Tracked hub.state.published.length

theorem tracked_step (tracked : hub.Tracked)
    (stepped : (machine server).step hub action = some next) : next.Tracked := by
  cases step_moves stepped with
  | published event =>
      intro connection listed
      rw [List.length_append, List.length_singleton]
      exact (tracked connection listed).publish
  | reloaded => exact tracked
  | connected => exact forall_mem_concat tracked (Connection.new_tracked _)
  | @performed index doing connection after state found performs =>
      have before := tracked connection (List.mem_of_getElem? found)
      unfold Tracked
      rw [SatoriServer.published_performs performs]
      exact forall_mem_set tracked
        ⟨SatoriServer.staged_performs before.staged performs,
          SatoriServer.placed_performs before performs⟩ index

end Hub

end Ferroq.Gateway.Server.SatoriWs
