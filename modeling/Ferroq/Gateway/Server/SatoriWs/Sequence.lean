import Ferroq.Gateway.Server.SatoriWs
import Ferroq.Library.Parts

/-!
# Sequence numbers

Every push task draws the numbers of its events from one counter, so that a number
is never used twice, and an event has one number only as long as one connection
gets it.
-/

namespace Ferroq.Gateway.Server.SatoriWs

open Ferroq.Library
open Ferroq.Gateway.Satori

theorem determined_of_increasing {entries : List (Nat × UInt64)}
    (increasing : entries.Pairwise fun earlier later =>
      earlier.1 < later.1 ∧ earlier.2 < later.2)
    {left right : Nat × UInt64} (leftListed : left ∈ entries) (rightListed : right ∈ entries) :
    left.2 = right.2 ↔ left.1 = right.1 := by
  obtain ⟨first, firstBound, rfl⟩ := List.getElem_of_mem leftListed
  obtain ⟨second, secondBound, rfl⟩ := List.getElem_of_mem rightListed
  rw [List.pairwise_iff_getElem] at increasing
  rcases Nat.lt_trichotomy first second with less | same | greater
  · have order := increasing first second firstBound secondBound less
    exact iff_of_false (UInt64.ne_of_lt order.2) (Nat.ne_of_lt order.1)
  · subst same
    exact iff_of_true rfl rfl
  · have order := increasing second first secondBound firstBound greater
    exact iff_of_false (UInt64.ne_of_lt order.2).symm (Nat.ne_of_gt order.1)

namespace Connection

/-- The events that have a number: those given to the connection and the one at
hand. -/
def numbers (connection : Connection) : List (Nat × UInt64) :=
  connection.signals ++ connection.push.entry.toList

/-- A connection goes through its events in order and numbers them in order. -/
structure Numbered (counter : UInt64) (connection : Connection) : Prop where
  increasing : connection.numbers.Pairwise fun earlier later =>
    earlier.1 < later.1 ∧ earlier.2 < later.2
  behind : ∀ entry ∈ connection.numbers, entry.1 < connection.cursor
  received : ∀ position event, connection.push = .received position event →
    position < connection.cursor ∧ ∀ entry ∈ connection.numbers, entry.1 < position
  counted : ∀ entry ∈ connection.numbers, entry.2 ≤ counter
  unstarted : connection.phase = .identifying ∨ connection.phase = .greeted →
    connection.numbers = [] ∧ connection.push = .idle

theorem numbered_of_idle {connection : Connection} (counter : UInt64)
    (nothing : connection.numbers = []) (idle : connection.push = .idle) :
    connection.Numbered counter where
  increasing := by
    rw [nothing]
    exact List.Pairwise.nil
  behind := by simp [nothing]
  received := by simp [idle]
  counted := by simp [nothing]
  unstarted := fun _ => ⟨nothing, idle⟩

theorem new_numbered (counter : UInt64) : new.Numbered counter :=
  numbered_of_idle counter rfl rfl

theorem Numbered.mono {connection : Connection} {counter later : UInt64}
    (numbered : connection.Numbered counter) (grown : counter ≤ later) :
    connection.Numbered later :=
  { numbered with counted := fun entry listed =>
      UInt64.le_trans (numbered.counted entry listed) grown }

theorem Numbered.congr {connection after : Connection} {counter : UInt64}
    (numbered : connection.Numbered counter) (signals : after.signals = connection.signals)
    (push : after.push = connection.push) (cursor : after.cursor = connection.cursor)
    (started : after.phase = .identifying ∨ after.phase = .greeted →
      connection.phase = .identifying ∨ connection.phase = .greeted) :
    after.Numbered counter := by
  have same : after.numbers = connection.numbers := by rw [numbers, numbers, signals, push]
  constructor
  · rw [same]
    exact numbered.increasing
  · rw [same, cursor]
    exact numbered.behind
  · rw [same, cursor, push]
    exact numbered.received
  · rw [same]
    exact numbered.counted
  · rw [same, push]
    exact fun phase => numbered.unstarted (started phase)

theorem numbers_sublist {connection after : Connection}
    (signals : after.signals = connection.signals) (push : after.push.entry = none) :
    after.numbers.Sublist connection.numbers := by
  rw [numbers, numbers, signals, push]
  exact List.Sublist.append_left (List.nil_sublist _) _

/-- A connection that gives up numbers, or skips events, stays numbered. -/
theorem Numbered.of_sublist {connection after : Connection} {counter : UInt64}
    (numbered : connection.Numbered counter) (kept : after.numbers.Sublist connection.numbers)
    (cursor : connection.cursor ≤ after.cursor)
    (push : ∀ position event, after.push ≠ .received position event)
    (started : after.phase ≠ .identifying ∧ after.phase ≠ .greeted) :
    after.Numbered counter where
  increasing := numbered.increasing.sublist kept
  behind := fun entry listed =>
    Nat.lt_of_lt_of_le (numbered.behind entry (kept.subset listed)) cursor
  received := fun position event held => absurd held (push position event)
  counted := fun entry listed => numbered.counted entry (kept.subset listed)
  unstarted := by
    rintro (phase | phase)
    · exact absurd phase started.1
    · exact absurd phase started.2

end Connection

namespace SatoriServer

open Connection

variable {server : SatoriServer} {state next : ServerState} {connection after : Connection}
variable {doing : Doing}

/-- A task of the connection is at work, so that the handler has subscribed. -/
theorem started_of_push (numbered : connection.Numbered state.snCounter)
    (busy : connection.push ≠ .idle) :
    connection.phase ≠ .identifying ∧ connection.phase ≠ .greeted :=
  ⟨fun phase => busy (numbered.unstarted (.inl phase)).2,
    fun phase => busy (numbered.unstarted (.inr phase)).2⟩

/-- A connection stays numbered as long as the counter does not begin again. -/
theorem numbered_performs (numbered : connection.Numbered state.snCounter)
    (counts : doing = .nextSn → state.snCounter < state.snCounter + 1)
    (performs : server.Performs state connection doing next after) :
    after.Numbered next.snCounter := by
  have same := signals_eq_of_ne performs
  cases performs with
  | passedOver | ignored => exact numbered
  | pinged | pongLost | ponged | took | wrote | failed | stopped =>
      exact numbered.congr (same (by simp)) rfl rfl id
  | greeted phase => exact numbered.congr (same (by simp)) rfl rfl fun _ => .inl phase
  | refused | unreached | closedBy | gaveUp | left | disconnected =>
      refine numbered.congr (same (by simp)) rfl rfl ?_
      rintro (phase | phase) <;> cases phase
  | subscribed phase =>
      have unstarted := numbered.unstarted (.inr phase)
      exact numbered_of_idle _ unstarted.1 unstarted.2
  | lagged phase idle behind =>
      exact numbered.of_sublist (List.Sublist.refl _) (Nat.le_of_lt behind) (by simp [idle])
        (by simp [phase])
  | @received event phase idle found =>
      have kept : numbers { connection with
          cursor := connection.cursor + 1, push := .received connection.cursor event } =
          connection.numbers := by
        rw [numbers, numbers, idle]
        exact congrArg (· ++ []) (same (by simp))
      constructor
      · rw [kept]
        exact numbered.increasing
      · rw [kept]
        exact fun entry listed => Nat.lt_succ_of_lt (numbered.behind entry listed)
      · rw [kept]
        intro position other held
        cases held
        exact ⟨Nat.lt_succ_self _, numbered.behind⟩
      · rw [kept]
        exact numbered.counted
      · simp [phase]
  | @numbered position event held =>
      have started := started_of_push numbered (by simp [held])
      have place := numbered.received position event held
      have grown := counts rfl
      have added : numbers { connection with
          push := .numbered position event (state.snCounter + 1) } =
          connection.numbers ++ [(position, state.snCounter + 1)] := by
        have unnumbered : connection.push.entry = none := by
          rw [held]
          rfl
        rw [numbers, numbers, unnumbered, Option.toList_none, List.append_nil]
        exact congrArg (· ++ [(position, state.snCounter + 1)]) (same (by simp))
      have fresh : ∀ entry ∈ connection.numbers, entry.2 < state.snCounter + 1 :=
        fun entry listed => UInt64.lt_of_le_of_lt (numbered.counted entry listed) grown
      constructor
      · rw [added, List.pairwise_append]
        refine ⟨numbered.increasing, List.pairwise_singleton _ _, ?_⟩
        intro entry listed new member
        rw [List.mem_singleton.mp member]
        exact ⟨place.2 entry listed, fresh entry listed⟩
      · rw [added]
        exact forall_mem_concat numbered.behind place.1
      · simp
      · rw [added]
        exact forall_mem_concat (fun entry listed => UInt64.le_of_lt (fresh entry listed))
          (UInt64.le_refl _)
      · rintro (phase | phase)
        · exact absurd phase started.1
        · exact absurd phase started.2
  | lost held =>
      have started := started_of_push numbered (by simp [held])
      have kept : (numbers { connection with push := .ended }).Sublist connection.numbers :=
        numbers_sublist (signals_congr rfl rfl rfl) rfl
      exact numbered.of_sublist kept (Nat.le_refl _) (by simp) started
  | @dropped position event sn held =>
      have started := started_of_push numbered (by simp [held])
      have kept : (numbers { connection with
          push := .idle, dropped := connection.dropped ++ [position] }).Sublist
          connection.numbers :=
        numbers_sublist (signals_congr rfl rfl rfl) rfl
      exact numbered.of_sublist kept (Nat.le_refl _) (by simp) started
  | @enqueued position event sn held =>
      have started := started_of_push numbered (by simp [held])
      have kept : numbers { connection with
          push := .idle, queue := connection.queue ++ [.event position event sn] } =
          connection.numbers := by
        simp [numbers, signals, outbound, Signal.entry, Push.entry, held]
      exact numbered.of_sublist (kept ▸ List.Sublist.refl _) (Nat.le_refl _) (by simp) started

theorem entry_performs (performs : server.Performs state connection doing next after) :
    after.push.entry = connection.push.entry ∨ after.push.entry = none ∨
      doing = .nextSn ∧ ∃ position, after.push.entry = some (position, state.snCounter + 1) := by
  cases performs with
  | received | lost | enqueued | dropped => exact .inr (.inl rfl)
  | numbered => exact .inr (.inr ⟨rfl, _, rfl⟩)
  | passedOver | refused | greeted | unreached | ignored | pinged | closedBy | gaveUp | left
  | disconnected | subscribed | pongLost | ponged | lagged | took | wrote | failed | stopped =>
      exact .inl rfl

theorem numbers_performs (counts : doing = .nextSn → state.snCounter < state.snCounter + 1)
    (performs : server.Performs state connection doing next after) :
    ∀ entry ∈ after.numbers, entry ∈ connection.numbers ∨ state.snCounter < entry.2 := by
  intro entry listed
  rcases List.mem_append.mp listed with signaled | atHand
  · left
    rw [signals_performs performs] at signaled
    rcases List.mem_append.mp signaled with former | new
    · exact List.mem_append_left _ former
    · have handed := entry_of_given (Option.mem_toList.mp new)
      exact List.mem_append_right _ (Option.mem_toList.mpr handed)
  · have handed := Option.mem_toList.mp atHand
    rcases entry_performs performs with same | nothing | ⟨next, position, drawn⟩
    · left
      rw [same] at handed
      exact List.mem_append_right _ (Option.mem_toList.mpr handed)
    · rw [nothing] at handed
      cases handed
    · right
      rw [drawn] at handed
      cases handed
      exact counts next

theorem snCounter_performs (performs : server.Performs state connection doing next after) :
    next.snCounter = state.snCounter ∨
      doing = .nextSn ∧ next.snCounter = state.snCounter + 1 := by
  cases performs with
  | numbered => exact .inr ⟨rfl, rfl⟩
  | passedOver | refused | greeted | unreached | ignored | pinged | closedBy | gaveUp | left
  | disconnected | subscribed | pongLost | ponged | lagged | received | lost | enqueued | dropped
  | took | wrote | failed | stopped => exact .inl rfl

theorem le_snCounter_performs (counts : doing = .nextSn → state.snCounter < state.snCounter + 1)
    (performs : server.Performs state connection doing next after) :
    state.snCounter ≤ next.snCounter := by
  rcases snCounter_performs performs with same | ⟨drawn, more⟩
  · exact UInt64.le_of_eq same.symm
  · rw [more]
    exact UInt64.le_of_lt (counts drawn)

end SatoriServer

namespace Hub

variable {server : SatoriServer} {hub next : Hub} {action : Action}

def NumbersDiffer (left right : Connection) : Prop :=
  ∀ entry ∈ left.numbers, ∀ other ∈ right.numbers, entry.2 ≠ other.2

theorem NumbersDiffer.symm (left right : Connection) (differ : NumbersDiffer left right) :
    NumbersDiffer right left :=
  fun entry listed other otherListed => (differ other otherListed entry listed).symm

structure Numbered (hub : Hub) : Prop where
  each : ∀ connection ∈ hub.connections, connection.Numbered hub.state.snCounter
  apart : Apart NumbersDiffer hub.connections

theorem start_numbered (sharedConfig : SharedConfig) : (start sharedConfig).Numbered where
  each := by simp [start]
  apart := apart_nil NumbersDiffer

/-- The counter has not come to the end of its range. -/
def Counts (hub : Hub) : Action → Prop
  | .perform _ .nextSn => hub.state.snCounter < hub.state.snCounter + 1
  | _ => True

instance (hub : Hub) : (action : Action) → Decidable (hub.Counts action)
  | .perform _ .nextSn =>
      inferInstanceAs (Decidable (hub.state.snCounter < hub.state.snCounter + 1))
  | .perform _ (.receive _ _) | .perform _ .leave | .perform _ .disconnect
  | .perform _ .subscribe | .perform _ .sendPong | .perform _ .recv | .perform _ .trySend
  | .perform _ .take | .perform _ (.write _) | .perform _ .stopWriter
  | .publish _ | .setAccessToken _ | .connect => inferInstanceAs (Decidable True)

theorem numbered_step (numbered : hub.Numbered) (counts : hub.Counts action)
    (stepped : (machine server).step hub action = some next) : next.Numbered := by
  cases step_moves stepped with
  | published | reloaded => exact ⟨numbered.each, numbered.apart⟩
  | connected =>
      refine ⟨forall_mem_concat numbered.each (Connection.new_numbered _), ?_⟩
      apply apart_concat NumbersDiffer.symm numbered.apart
      intro part listed entry entryListed
      simp [Connection.numbers, Connection.signals, Connection.outbound, Connection.new,
        Push.entry] at entryListed
  | @performed index doing connection after state found performs =>
      have goesOn : doing = .nextSn → hub.state.snCounter < hub.state.snCounter + 1 := by
        rintro rfl
        exact counts
      have grown := SatoriServer.le_snCounter_performs goesOn performs
      constructor
      · refine forall_mem_set (fun part listed => (numbered.each part listed).mono grown) ?_ index
        exact SatoriServer.numbered_performs
          (numbered.each connection (List.mem_of_getElem? found)) goesOn performs
      · apply apart_set NumbersDiffer.symm numbered.apart
        intro place part elsewhere partFound entry entryListed other otherListed
        rcases SatoriServer.numbers_performs goesOn performs entry entryListed with former | fresh
        · exact numbered.apart index place connection part elsewhere.symm found partFound
            entry former other otherListed
        · have counted := (numbered.each part (List.mem_of_getElem? partFound)).counted
            other otherListed
          exact (UInt64.ne_of_lt (UInt64.lt_of_le_of_lt counted fresh)).symm

/-- Two signals of events carry one number exactly when they are for one of the
published events, and the numbers of a connection grow. -/
def SnIdentifies (hub : Hub) : Prop :=
  (∀ first ∈ hub.connections, ∀ second ∈ hub.connections,
    ∀ left ∈ first.outbound, ∀ right ∈ second.outbound,
      ∀ entry ∈ left.entry, ∀ other ∈ right.entry,
        (signalSn left.toJson = signalSn right.toJson ↔ entry.1 = other.1)) ∧
    ∀ connection ∈ hub.connections, (connection.signals.map Prod.snd).Pairwise (· < ·)

theorem SnIdentifies.sn_eq (identifies : hub.SnIdentifies) {first second : List (Nat × UInt64)}
    (firstListed : first ∈ hub.connections.map Connection.signals)
    (secondListed : second ∈ hub.connections.map Connection.signals)
    {entry other : Nat × UInt64} (listed : entry ∈ first) (otherListed : other ∈ second)
    (same : entry.1 = other.1) : entry.2 = other.2 := by
  obtain ⟨left, leftListed, rfl⟩ := List.mem_map.mp firstListed
  obtain ⟨right, rightListed, rfl⟩ := List.mem_map.mp secondListed
  obtain ⟨signal, given, entryOf⟩ := List.mem_filterMap.mp listed
  obtain ⟨otherSignal, otherGiven, otherOf⟩ := List.mem_filterMap.mp otherListed
  have carried := (identifies.1 left leftListed right rightListed signal given
    otherSignal otherGiven entry entryOf other otherOf).mpr same
  rw [Signal.signalSn_toJson entryOf, Signal.signalSn_toJson otherOf] at carried
  exact Option.some.inj carried

/-- No event has been given to both of two connections. -/
def EventsDiffer (left right : Connection) : Prop :=
  ∀ entry ∈ left.signals, ∀ other ∈ right.signals, entry.1 ≠ other.1

theorem EventsDiffer.symm (left right : Connection) (differ : EventsDiffer left right) :
    EventsDiffer right left :=
  fun entry listed other otherListed => (differ other otherListed entry listed).symm

/-- A number identifies an event as long as no event goes to two connections. -/
theorem snIdentifies_iff (numbered : hub.Numbered) :
    hub.SnIdentifies ↔ Apart EventsDiffer hub.connections := by
  have numbers {connection : Connection} {entry : Nat × UInt64}
      (listed : entry ∈ connection.signals) : entry ∈ connection.numbers :=
    List.mem_append_left _ listed
  constructor
  · intro identifies first second left right different leftFound rightFound
      entry listed other otherListed same
    have carried := identifies.sn_eq (List.mem_map_of_mem (List.mem_of_getElem? leftFound))
      (List.mem_map_of_mem (List.mem_of_getElem? rightFound)) listed otherListed same
    exact numbered.apart first second left right different leftFound rightFound
      entry (numbers listed) other (numbers otherListed) carried
  · intro apart
    constructor
    · intro left leftListed right rightListed signal given otherSignal otherGiven
        entry entryOf other otherOf
      rw [Signal.signalSn_toJson entryOf, Signal.signalSn_toJson otherOf, Option.some.injEq]
      have listed : entry ∈ left.signals := List.mem_filterMap.mpr ⟨signal, given, entryOf⟩
      have otherListed : other ∈ right.signals :=
        List.mem_filterMap.mpr ⟨otherSignal, otherGiven, otherOf⟩
      obtain ⟨first, leftFound⟩ := List.mem_iff_getElem?.mp leftListed
      obtain ⟨second, rightFound⟩ := List.mem_iff_getElem?.mp rightListed
      by_cases place : first = second
      · subst place
        rw [leftFound] at rightFound
        cases rightFound
        exact determined_of_increasing (numbered.each left leftListed).increasing
          (numbers listed) (numbers otherListed)
      · exact iff_of_false
          (numbered.apart first second left right place leftFound rightFound
            entry (numbers listed) other (numbers otherListed))
          (apart first second left right place leftFound rightFound
            entry listed other otherListed)
    · intro connection listed
      rw [List.pairwise_map]
      have increasing := (numbered.each connection listed).increasing
      exact (List.pairwise_append.mp increasing).1.imp fun both => both.2

/-- A push task gives its connection an event that no other connection has been
given. -/
def GivesAlone (server : SatoriServer) (hub : Hub) : Action → Prop
  | .perform index doing => ∀ connection ∈ hub.connections[index]?,
      ∀ entry ∈ server.given connection doing, ∀ part ∈ hub.connections.eraseIdx index,
        ∀ other ∈ part.signals, entry.1 ≠ other.1
  | _ => True

instance (hub : Hub) : (action : Action) → Decidable (hub.GivesAlone server action)
  | .perform index doing =>
      inferInstanceAs (Decidable (∀ connection ∈ hub.connections[index]?,
        ∀ entry ∈ server.given connection doing, ∀ part ∈ hub.connections.eraseIdx index,
          ∀ other ∈ part.signals, entry.1 ≠ other.1))
  | .publish _ | .setAccessToken _ | .connect => inferInstanceAs (Decidable True)

theorem eventsDiffer_step (apart : Apart EventsDiffer hub.connections)
    (stepped : (machine server).step hub action = some next) :
    Apart EventsDiffer next.connections ↔ hub.GivesAlone server action := by
  cases step_moves stepped with
  | published | reloaded => exact iff_of_true apart True.intro
  | connected =>
      refine iff_of_true (apart_concat EventsDiffer.symm apart ?_) True.intro
      intro part listed entry entryListed
      simp [Connection.signals, Connection.outbound, Connection.new] at entryListed
  | @performed index doing connection after state found performs =>
      have signals := SatoriServer.signals_performs performs
      have bound := (List.getElem?_eq_some_iff.mp found).1
      constructor
      · intro kept same held entry given part listed other otherListed
        rw [found] at held
        cases held
        obtain ⟨place, elsewhere, partFound⟩ := List.mem_eraseIdx_iff_getElem?.mp listed
        refine kept index place after part elsewhere.symm (List.getElem?_set_self bound) ?_
          entry ?_ other otherListed
        · rw [List.getElem?_set_ne elsewhere.symm]
          exact partFound
        · rw [signals]
          exact List.mem_append_right _ (Option.mem_toList.mpr given)
      · intro alone
        apply apart_set EventsDiffer.symm apart
        intro place part elsewhere partFound entry listed other otherListed
        rw [signals] at listed
        rcases List.mem_append.mp listed with former | new
        · exact apart index place connection part elsewhere.symm found partFound
            entry former other otherListed
        · have another := List.mem_eraseIdx_iff_getElem?.mpr ⟨place, elsewhere, partFound⟩
          exact alone connection found entry (Option.mem_toList.mp new) part another
            other otherListed

/-- As long as the counter does not come to the end of its range, a number
identifies an event throughout a run exactly when no event goes to two
connections. -/
theorem snIdentifies_throughout_iff (server : SatoriServer) (sharedConfig : SharedConfig)
    (actions : List Action) (counts : (machine server).Admits Counts (start sharedConfig) actions) :
    (machine server).Throughout SnIdentifies (start sharedConfig) actions ↔
      (machine server).Admits (GivesAlone server) (start sharedConfig) actions := by
  have numbered := start_numbered sharedConfig
  refine (machine server).throughout_iff_admits_of_admits ?_ ?_ numbered
    ((snIdentifies_iff numbered).mpr (apart_nil EventsDiffer)) counts
  · exact fun _ _ _ held counting _ stepped => numbered_step held counting stepped
  · intro hub action next held counting identifies stepped
    rw [snIdentifies_iff (numbered_step held counting stepped)]
    exact eventsDiffer_step ((snIdentifies_iff held).mp identifies) stepped

def secondOpening : List Action :=
  [.connect, .perform 1 (.receive (.text identifyText) true), .perform 1 .subscribe]

/-- A client gets an event and leaves, and another one gets two. -/
def oneAfterAnother : List Action :=
  opening ++ [.publish samplePublished] ++ pushing 0 ++ [.perform 0 (.receive .close true)] ++
    secondOpening ++ [.publish samplePublished, .publish samplePublished] ++
      pushing 1 ++ pushing 1

theorem snIdentifies_throughout_inTurn :
    ((machine sampleServer).run (start ⟨""⟩) oneAfterAnother).map
        (fun hub => hub.connections.map Connection.signals) = some [[(0, 1)], [(1, 2), (2, 3)]] ∧
      (machine sampleServer).Throughout SnIdentifies (start ⟨""⟩) oneAfterAnother :=
  ⟨by decide +kernel,
    (snIdentifies_throughout_iff sampleServer ⟨""⟩ oneAfterAnother (by decide +kernel)).mpr
      (by decide +kernel)⟩

/-- Two clients get one event under two numbers. -/
theorem twoClients_differ :
    ∃ final,
      (machine sampleServer).run (start ⟨""⟩)
          (opening ++ secondOpening ++ [.publish samplePublished] ++ pushing 0 ++ pushing 1) =
        some final ∧
      ¬ final.SnIdentifies := by
  have observed :
      ((machine sampleServer).run (start ⟨""⟩)
          (opening ++ secondOpening ++ [.publish samplePublished] ++ pushing 0 ++ pushing 1)).map
        (fun hub => hub.connections.map Connection.signals) = some [[(0, 1)], [(0, 2)]] := by
    decide +kernel
  obtain ⟨final, reached, signals⟩ := Option.map_eq_some_iff.mp observed
  refine ⟨final, reached, ?_⟩
  intro identifies
  have first : [(0, 1)] ∈ final.connections.map Connection.signals := by simp [signals]
  have second : [(0, 2)] ∈ final.connections.map Connection.signals := by simp [signals]
  have same := identifies.sn_eq first second (List.mem_singleton_self _)
    (List.mem_singleton_self _) rfl
  exact absurd same (by decide)

end Hub

end Ferroq.Gateway.Server.SatoriWs
