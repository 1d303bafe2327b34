import Ferroq.Gateway.Stats
import Ferroq.Gateway.Forward
import Ferroq.Library.Scan

/-!
# Health responses and scrapes while the gateway counts

The statistics are counted in atomic steps, and a response is put together from
loads between which others go on counting.  An event is added to the total before
it is added to the count of its adapter, and a health response loads the counts
before the totals, so that it never shows more events of the adapters than in
total.  A scrape loads the counts once more at its end.  Counters only go up, also
from one scrape to the next, as far as they do not overflow.
-/

namespace Ferroq.Gateway.Stats

open Ferroq.Core
open Ferroq.Library

/-! ## Counting -/

/-- The counters that are only counted up. -/
inductive Counter where
  | eventsTotal
  | apiCallsTotal
  | wsConnectionsTotal
  | messagesStored
  | eventsDeduplicated
  | wsEventsDropped
  | wsApiRejected
  deriving DecidableEq

inductive Kind where
  | events
  | apiCalls
  deriving DecidableEq

def Kind.total : Kind → Counter
  | events => .eventsTotal
  | apiCalls => .apiCallsTotal

def Counts.count (counts : Counts) (name : String) : Counts :=
  let counted := Counters.count ⟨counts.entries, counts.distinct⟩ name
  ⟨counted.entries, counted.nodup⟩

def Counts.empty : Counts := ⟨[], List.nodup_nil⟩

namespace RuntimeStats

def withStorage (storageEnabled : Bool) : RuntimeStats where
  eventsTotal := 0
  apiCallsTotal := 0
  wsConnections := 0
  wsConnectionsTotal := 0
  messagesStored := 0
  eventsDeduplicated := 0
  wsEventsDropped := 0
  wsApiRejected := 0
  storageEnabled := storageEnabled
  adapters := []
  perAdapterEvents := .empty
  perAdapterApiCalls := .empty

def get (stats : RuntimeStats) : Counter → UInt64
  | .eventsTotal => stats.eventsTotal
  | .apiCallsTotal => stats.apiCallsTotal
  | .wsConnectionsTotal => stats.wsConnectionsTotal
  | .messagesStored => stats.messagesStored
  | .eventsDeduplicated => stats.eventsDeduplicated
  | .wsEventsDropped => stats.wsEventsDropped
  | .wsApiRejected => stats.wsApiRejected

def fetchAdd (stats : RuntimeStats) : Counter → RuntimeStats
  | .eventsTotal => { stats with eventsTotal := stats.eventsTotal + 1 }
  | .apiCallsTotal => { stats with apiCallsTotal := stats.apiCallsTotal + 1 }
  | .wsConnectionsTotal => { stats with wsConnectionsTotal := stats.wsConnectionsTotal + 1 }
  | .messagesStored => { stats with messagesStored := stats.messagesStored + 1 }
  | .eventsDeduplicated => { stats with eventsDeduplicated := stats.eventsDeduplicated + 1 }
  | .wsEventsDropped => { stats with wsEventsDropped := stats.wsEventsDropped + 1 }
  | .wsApiRejected => { stats with wsApiRejected := stats.wsApiRejected + 1 }

def counts (stats : RuntimeStats) : Kind → Counts
  | .events => stats.perAdapterEvents
  | .apiCalls => stats.perAdapterApiCalls

def countFor (stats : RuntimeStats) (name : String) : Kind → RuntimeStats
  | .events => { stats with perAdapterEvents := stats.perAdapterEvents.count name }
  | .apiCalls => { stats with perAdapterApiCalls := stats.perAdapterApiCalls.count name }

end RuntimeStats

/-- One atomic step of those that count, or of the refresher. -/
inductive Operation where
  | fetchAdd (counter : Counter)
  | addConnection
  | subConnection
  | countFor (kind : Kind) (name : String)
  | storeAdapters (snapshots : List AdapterSnapshot)

def Operation.apply (stats : RuntimeStats) : Operation → RuntimeStats
  | fetchAdd counter => stats.fetchAdd counter
  | addConnection => { stats with wsConnections := stats.wsConnections + 1 }
  | subConnection => { stats with wsConnections := stats.wsConnections - 1 }
  | countFor kind name => stats.countFor name kind
  | storeAdapters snapshots => { stats with adapters := snapshots }

inductive Recording where
  | recordEvent
  | recordEventFor (adapterName : String)
  | recordApiCall
  | recordApiCallFor (adapterName : String)
  | wsConnect
  | wsDisconnect
  | recordMessageStored
  | recordEventDeduplicated
  | recordWsEventDropped
  | recordWsApiRejected
  | updateAdapters (snapshots : List AdapterSnapshot)

def Recording.operations : Recording → List Operation
  | recordEvent => [.fetchAdd .eventsTotal]
  | recordEventFor adapterName => [.fetchAdd .eventsTotal, .countFor .events adapterName]
  | recordApiCall => [.fetchAdd .apiCallsTotal]
  | recordApiCallFor adapterName => [.fetchAdd .apiCallsTotal, .countFor .apiCalls adapterName]
  | wsConnect => [.addConnection, .fetchAdd .wsConnectionsTotal]
  | wsDisconnect => [.subConnection]
  | recordMessageStored => [.fetchAdd .messagesStored]
  | recordEventDeduplicated => [.fetchAdd .eventsDeduplicated]
  | recordWsEventDropped => [.fetchAdd .wsEventsDropped]
  | recordWsApiRejected => [.fetchAdd .wsApiRejected]
  | updateAdapters snapshots => [.storeAdapters snapshots]

/-! ## Responses -/

/-- The health response of what was seen, one load after the other. -/
def healthOf (uptimeSecs : UInt64) : List RuntimeStats → Option HealthResponse
  | eventsMap :: apiMap :: listed :: events :: deduplicated :: dropped :: rejected :: apiCalls ::
      connections :: connectionsTotal :: stored :: _ =>
      let adapters := listed.adapters.map fun adapter =>
        { adapter with
          eventsTotal := (eventsMap.perAdapterEvents.get adapter.name).getD 0
          apiCallsTotal := (apiMap.perAdapterApiCalls.get adapter.name).getD 0 }
      some
        { status := "ok"
          version := "1.0.0-rc"
          uptimeSecs := uptimeSecs
          eventsTotal := events.eventsTotal
          eventsDeduplicated := deduplicated.eventsDeduplicated
          wsEventsDropped := dropped.wsEventsDropped
          wsApiRejected := rejected.wsApiRejected
          apiCallsTotal := apiCalls.apiCallsTotal
          wsConnections := connections.wsConnections
          wsConnectionsTotal := connectionsTotal.wsConnectionsTotal
          messagesStored := stored.messagesStored
          storageEnabled := listed.storageEnabled
          healthyAdapters := adapters.countP (·.healthy)
          totalAdapters := adapters.length
          adapters := adapters }
  | _ => none

/-- The metrics of what was seen; the counts of the adapters are loaded again. -/
def metricsOf (uptimeSecs : UInt64) (seen : List RuntimeStats) : Option (List Metric) :=
  match healthOf uptimeSecs seen, seen.drop 11 with
  | some health, [eventsMap, apiMap] =>
      some (RuntimeStats.gatewayMetrics health ++ RuntimeStats.adapterMetrics health.adapters ++
        Metric.perAdapter "ferroq_adapter_events_total" "Events forwarded per adapter."
          eventsMap.perAdapterEvents ++
        Metric.perAdapter "ferroq_adapter_api_calls_total" "API calls routed per adapter."
          apiMap.perAdapterApiCalls)
  | _, _ => none

/-- Undisturbed, the loads give what the statistics do at once. -/
theorem responses_undisturbed (stats : RuntimeStats) (uptimeSecs : UInt64) :
    healthOf uptimeSecs (List.replicate 13 stats) = some (stats.health uptimeSecs) ∧
      metricsOf uptimeSecs (List.replicate 13 stats) = some (stats.metrics uptimeSecs) :=
  ⟨rfl, rfl⟩

structure Monitored where
  stats : RuntimeStats
  writers : List (List Operation)
  readers : List (List RuntimeStats)

namespace Monitored

inductive Action where
  | record (recording : Recording)
  | advance (writer : Nat)
  | respond
  | load (reader : Nat)

def start (storageEnabled : Bool) : Monitored := ⟨.withStorage storageEnabled, [], []⟩

/-- A reader loads at most as often as a scrape does. -/
def step (state : Monitored) : Action → Option Monitored
  | .record recording => some { state with writers := state.writers ++ [recording.operations] }
  | .advance writer =>
      match state.writers[writer]? with
      | some (operation :: rest) =>
          some { state with
            stats := operation.apply state.stats
            writers := state.writers.set writer rest }
      | _ => none
  | .respond => some { state with readers := state.readers ++ [[]] }
  | .load reader =>
      match state.readers[reader]? with
      | some seen =>
          if seen.length < 13 then
            some { state with readers := state.readers.set reader (seen ++ [state.stats]) }
          else none
      | none => none

def machine : Machine Monitored Action := ⟨step⟩

end Monitored

/-! ## The counts of the adapters -/

def Counts.sum (counts : Counts) : Nat := tally (fun entry => entry.2.toNat) counts.entries

/-- The entries of counts that have been counted on. -/
def Counts.Grown (before after : Counts) : Prop :=
  ∀ entry ∈ before.entries, ∃ later ∈ after.entries, later.1 = entry.1 ∧ entry.2 ≤ later.2

theorem Counts.grown_refl (counts : Counts) : counts.Grown counts :=
  fun entry listed => ⟨entry, listed, rfl, UInt64.le_refl _⟩

theorem Counts.Grown.trans {first second third : Counts} (once : first.Grown second)
    (again : second.Grown third) : first.Grown third := by
  intro entry listed
  obtain ⟨middle, there, sameName, notLess⟩ := once entry listed
  obtain ⟨last, thereToo, sameNameToo, notLessToo⟩ := again middle there
  exact ⟨last, thereToo, sameNameToo.trans sameName, UInt64.le_trans notLess notLessToo⟩

theorem toNat_add_one {count : UInt64} (room : count.toNat + 1 < 2 ^ 64) :
    (count + 1).toNat = count.toNat + 1 := by
  rw [UInt64.toNat_add]
  exact Nat.mod_eq_of_lt room

theorem le_add_one {count : UInt64} (room : count.toNat + 1 < 2 ^ 64) : count ≤ count + 1 := by
  rw [UInt64.le_iff_toNat_le, toNat_add_one room]
  exact Nat.le_succ _

section CountEntry

variable {name : String} {entries : List (String × UInt64)} {most : Nat}
  (bounded : ∀ entry ∈ entries, entry.2.toNat ≤ most) (room : most + 1 < 2 ^ 64)
include bounded room

theorem tally_countEntry : tally (fun entry => entry.2.toNat) (countEntry name entries) =
    tally (fun entry => entry.2.toNat) entries + 1 := by
  induction entries with
  | nil => rfl
  | cons entry rest inductionHypothesis =>
      obtain ⟨other, count⟩ := entry
      have small : count.toNat ≤ most := bounded _ List.mem_cons_self
      rw [countEntry]
      split
      · rw [tally_cons, tally_cons, toNat_add_one (by omega)]
        dsimp only
        omega
      · rw [tally_cons, tally_cons, inductionHypothesis fun later listed =>
          bounded later (List.mem_cons_of_mem _ listed)]
        omega

theorem countEntry_bounded : ∀ entry ∈ countEntry name entries, entry.2.toNat ≤ most + 1 := by
  induction entries with
  | nil => simp [countEntry]
  | cons entry rest inductionHypothesis =>
      obtain ⟨other, count⟩ := entry
      have small : count.toNat ≤ most := bounded _ List.mem_cons_self
      have smallRest : ∀ later ∈ rest, later.2.toNat ≤ most :=
        fun later listed => bounded later (List.mem_cons_of_mem _ listed)
      rw [countEntry]
      split
      · intro later listed
        rcases List.mem_cons.mp listed with rfl | behind
        · rw [toNat_add_one (by omega)]
          omega
        · exact Nat.le_succ_of_le (smallRest later behind)
      · intro later listed
        rcases List.mem_cons.mp listed with rfl | behind
        · exact Nat.le_succ_of_le small
        · exact inductionHypothesis smallRest later behind

theorem countEntry_grown : ∀ entry ∈ entries, ∃ later ∈ countEntry name entries,
    later.1 = entry.1 ∧ entry.2 ≤ later.2 := by
  induction entries with
  | nil => simp
  | cons entry rest inductionHypothesis =>
      obtain ⟨other, count⟩ := entry
      have small : count.toNat ≤ most := bounded _ List.mem_cons_self
      have smallRest : ∀ later ∈ rest, later.2.toNat ≤ most :=
        fun later listed => bounded later (List.mem_cons_of_mem _ listed)
      rw [countEntry]
      intro before listed
      split
      · rcases List.mem_cons.mp listed with rfl | behind
        · exact ⟨_, List.mem_cons_self, rfl, le_add_one (by dsimp only; omega)⟩
        · exact ⟨before, List.mem_cons_of_mem _ behind, rfl, UInt64.le_refl _⟩
      · rcases List.mem_cons.mp listed with rfl | behind
        · exact ⟨_, List.mem_cons_self, rfl, UInt64.le_refl _⟩
        · obtain ⟨later, there, same, notLess⟩ := inductionHypothesis smallRest before behind
          exact ⟨later, List.mem_cons_of_mem _ there, same, notLess⟩

end CountEntry

theorem Counts.sum_count {counts : Counts} {most : Nat}
    (bounded : ∀ entry ∈ counts.entries, entry.2.toNat ≤ most) (room : most + 1 < 2 ^ 64)
    (name : String) : (counts.count name).sum = counts.sum + 1 :=
  tally_countEntry bounded room

theorem tally_lookup_le (entries : List (String × UInt64)) {names : List String}
    (distinct : names.Nodup) :
    tally (fun name => ((entries.lookup name).getD 0).toNat) names ≤
      tally (fun entry => entry.2.toNat) entries := by
  induction entries generalizing names with
  | nil => simp [tally]
  | cons entry rest inductionHypothesis =>
      obtain ⟨other, count⟩ := entry
      have without (others : List String) (absent : other ∉ others) :
          tally (fun name => ((((other, count) :: rest).lookup name).getD 0).toNat) others =
            tally (fun name => ((rest.lookup name).getD 0).toNat) others := by
        unfold tally
        congr 1
        apply List.map_congr_left
        intro name listed
        have different : (name == other) = false := by
          rw [beq_eq_false_iff_ne]
          rintro rfl
          exact absent listed
        rw [List.lookup_cons, different]
      rw [tally_cons]
      by_cases listed : other ∈ names
      -- The name is listed once, so that the other names take nothing of its count.
      · have order := List.perm_cons_erase listed
        have moved : tally (fun name => ((((other, count) :: rest).lookup name).getD 0).toNat)
            names = tally (fun name => ((((other, count) :: rest).lookup name).getD 0).toNat)
              (other :: names.erase other) := (order.map _).sum_eq
        rw [moved, tally_cons, without _ distinct.not_mem_erase, List.lookup_cons,
          beq_self_eq_true]
        exact Nat.add_le_add_left (inductionHypothesis (distinct.erase other)) _
      · rw [without names listed]
        exact Nat.le_trans (inductionHypothesis distinct) (Nat.le_add_left _ _)

/-! ## What a step counts -/

namespace RuntimeStats

variable (stats : RuntimeStats)

theorem get_fetchAdd (counter other : Counter) :
    (stats.fetchAdd counter).get other =
      if other = counter then stats.get other + 1 else stats.get other := by
  cases counter <;> cases other <;> rfl

@[simp]
theorem counts_fetchAdd (counter : Counter) (kind : Kind) :
    (stats.fetchAdd counter).counts kind = stats.counts kind := by
  cases counter <;> cases kind <;> rfl

@[simp]
theorem get_countFor (name : String) (kind : Kind) (counter : Counter) :
    (stats.countFor name kind).get counter = stats.get counter := by
  cases kind <;> cases counter <;> rfl

theorem counts_countFor (name : String) (kind other : Kind) :
    (stats.countFor name kind).counts other =
      if other = kind then (stats.counts other).count name else stats.counts other := by
  cases kind <;> cases other <;> rfl

end RuntimeStats

/-- Statistics on which more has been counted. -/
structure Grown (before after : RuntimeStats) : Prop where
  counter : ∀ counter, before.get counter ≤ after.get counter
  counts : ∀ kind, (before.counts kind).Grown (after.counts kind)

theorem grown_refl (stats : RuntimeStats) : Grown stats stats :=
  ⟨fun _ => UInt64.le_refl _, fun kind => (stats.counts kind).grown_refl⟩

theorem grown_trans (first second third : RuntimeStats) (once : Grown first second)
    (again : Grown second third) : Grown first third :=
  ⟨fun counter => UInt64.le_trans (once.counter counter) (again.counter counter),
    fun kind => (once.counts kind).trans (again.counts kind)⟩

structure Bounded (most : Nat) (stats : RuntimeStats) : Prop where
  counter : ∀ counter, (stats.get counter).toNat ≤ most
  counts : ∀ kind, ∀ entry ∈ (stats.counts kind).entries, entry.2.toNat ≤ most

theorem Bounded.later {most : Nat} {stats : RuntimeStats} (bounded : Bounded most stats) :
    Bounded (most + 1) stats :=
  ⟨fun counter => Nat.le_succ_of_le (bounded.counter counter),
    fun kind entry listed => Nat.le_succ_of_le (bounded.counts kind entry listed)⟩

section Apply

variable {stats : RuntimeStats} {most : Nat}

theorem apply_grown (bounded : Bounded most stats) (room : most + 1 < 2 ^ 64)
    (operation : Operation) : Grown stats (operation.apply stats) := by
  cases operation with
  | fetchAdd counter =>
      refine ⟨fun other => ?_, fun kind => ?_⟩
      · rw [Operation.apply, RuntimeStats.get_fetchAdd]
        split
        · have small := bounded.counter other
          exact le_add_one (by omega)
        · exact UInt64.le_refl _
      · rw [Operation.apply, RuntimeStats.counts_fetchAdd]
        exact Counts.grown_refl _
  | countFor kind name =>
      refine ⟨fun other => ?_, fun other => ?_⟩
      · rw [Operation.apply, RuntimeStats.get_countFor]
        exact UInt64.le_refl _
      · rw [Operation.apply, RuntimeStats.counts_countFor]
        split
        · exact countEntry_grown (bounded.counts other) room
        · exact Counts.grown_refl _
  | addConnection | subConnection | storeAdapters _ =>
      refine ⟨fun other => ?_, fun kind => ?_⟩
      · cases other <;> exact UInt64.le_refl _
      · cases kind <;> exact Counts.grown_refl _

theorem apply_bounded (bounded : Bounded most stats) (room : most + 1 < 2 ^ 64)
    (operation : Operation) : Bounded (most + 1) (operation.apply stats) := by
  cases operation with
  | fetchAdd counter =>
      refine ⟨fun other => ?_, fun kind => ?_⟩
      · have small := bounded.counter other
        rw [Operation.apply, RuntimeStats.get_fetchAdd]
        split
        · rw [toNat_add_one (by omega)]
          omega
        · omega
      · rw [Operation.apply, RuntimeStats.counts_fetchAdd]
        exact bounded.later.counts kind
  | countFor kind name =>
      refine ⟨fun other => ?_, fun other => ?_⟩
      · rw [Operation.apply, RuntimeStats.get_countFor]
        exact bounded.later.counter other
      · rw [Operation.apply, RuntimeStats.counts_countFor]
        split
        · exact countEntry_bounded (bounded.counts other) room
        · exact bounded.later.counts other
  | addConnection | subConnection | storeAdapters _ =>
      refine ⟨fun other => ?_, fun kind => ?_⟩
      · have small := bounded.later.counter other
        cases other <;> exact small
      · have small := bounded.later.counts kind
        cases kind <;> exact small

end Apply

/-- Whether a writer has added to the total and adds to the count of an adapter next. -/
def pending (kind : Kind) : List Operation → Nat
  | .countFor other _ :: _ => if other = kind then 1 else 0
  | _ => 0

/-- A count of an adapter is added to right after the total. -/
def Orderly : List Operation → Prop
  | [] => True
  | operation :: rest =>
      (∀ kind, pending kind rest ≠ 0 → operation = .fetchAdd kind.total) ∧ Orderly rest

theorem operations_orderly (recording : Recording) :
    Orderly recording.operations ∧ ∀ kind, pending kind recording.operations = 0 := by
  cases recording <;> simp [Recording.operations, Orderly, pending, Kind.total]

theorem pending_le_one (kind : Kind) (operations : List Operation) :
    pending kind operations ≤ 1 := by
  unfold pending
  split
  · split <;> simp
  · simp

/-- A step of a writer adds as much to the total as to what is counted and pending. -/
theorem apply_covers {stats : RuntimeStats} {most : Nat} (bounded : Bounded most stats)
    (room : most + 1 < 2 ^ 64) {operation : Operation} {rest : List Operation}
    (orderly : Orderly (operation :: rest)) (kind : Kind) :
    ((operation.apply stats).counts kind).sum + pending kind rest +
        (stats.get kind.total).toNat ≤
      (stats.counts kind).sum + pending kind (operation :: rest) +
        ((operation.apply stats).get kind.total).toNat := by
  have next := pending_le_one kind rest
  -- Only a total can be followed by a count that is pending.
  cases operation with
  | fetchAdd counter =>
      have small := bounded.counter kind.total
      rw [Operation.apply, RuntimeStats.counts_fetchAdd, RuntimeStats.get_fetchAdd]
      split
      next => rw [toNat_add_one (by omega)]; omega
      next different =>
        have none : pending kind rest = 0 := by
          by_contra some
          cases orderly.1 kind some
          exact different rfl
        omega
  | countFor other name =>
      have none : pending kind rest = 0 := by
        by_contra some
        cases orderly.1 kind some
      rw [Operation.apply, RuntimeStats.get_countFor, RuntimeStats.counts_countFor, none, pending]
      by_cases same : other = kind
      · have counted := Counts.sum_count (bounded.counts kind) room name
        exact Nat.le_of_eq (by rw [if_pos same, if_pos same.symm, counted, Nat.add_zero])
      · exact Nat.le_of_eq (by rw [if_neg same, if_neg (Ne.symm same)])
  | addConnection | subConnection | storeAdapters _ =>
      have none : pending kind rest = 0 := by
        by_contra some
        cases orderly.1 kind some
      cases kind <;> simp [none, Operation.apply, RuntimeStats.counts, RuntimeStats.get, Kind.total]

/-! ## Runs -/

namespace Monitored

/-- What is counted for adapters, and what is about to be, is in the totals, and
what a reader has seen is part of what was counted. -/
structure Accounted (steps : Nat) (state : Monitored) : Prop where
  bounded : Bounded steps state.stats
  orderly : ∀ writer ∈ state.writers, Orderly writer
  covered : ∀ kind, (state.stats.counts kind).sum + tally (pending kind) state.writers ≤
    (state.stats.get kind.total).toNat
  scanned : ∀ seen ∈ state.readers, Scanned Grown seen state.stats
  seenCovered : ∀ seen ∈ state.readers, ∀ moment ∈ seen, ∀ kind,
    (moment.counts kind).sum ≤ (moment.get kind.total).toNat

theorem accounted_start (storageEnabled : Bool) : Accounted 0 (start storageEnabled) where
  bounded := ⟨fun counter => by cases counter <;> exact Nat.le_refl _,
    fun kind entry listed => by cases kind <;> cases listed⟩
  orderly := by simp [start]
  covered kind := by cases kind <;> exact Nat.le_refl _
  scanned := by simp [start]
  seenCovered := by simp [start]

variable {steps : Nat} {state next : Monitored} {action : Action}

theorem Accounted.record (accounted : Accounted steps state) (recording : Recording) :
    Accounted (steps + 1)
      { state with writers := state.writers ++ [recording.operations] } where
  bounded := accounted.bounded.later
  orderly := forall_mem_concat accounted.orderly (operations_orderly recording).1
  covered kind := by
    rw [tally_append, tally_cons, tally_nil, (operations_orderly recording).2 kind]
    exact accounted.covered kind
  scanned := accounted.scanned
  seenCovered := accounted.seenCovered

theorem Accounted.advance (accounted : Accounted steps state) (room : steps + 1 < 2 ^ 64)
    {writer : Nat} {operation : Operation} {rest : List Operation}
    (found : state.writers[writer]? = some (operation :: rest)) :
    Accounted (steps + 1)
      { state with
        stats := operation.apply state.stats
        writers := state.writers.set writer rest } where
  bounded := apply_bounded accounted.bounded room operation
  orderly := forall_mem_set accounted.orderly
    (accounted.orderly _ (List.mem_of_getElem? found)).2 writer
  covered kind := by
    have before := accounted.covered kind
    have moved := tally_set (pending kind) rest found
    have counted := apply_covers accounted.bounded room
      (accounted.orderly _ (List.mem_of_getElem? found)) kind
    dsimp only
    omega
  scanned seen listed :=
    (accounted.scanned seen listed).grow grown_trans
      (apply_grown accounted.bounded room operation)
  seenCovered := accounted.seenCovered

theorem Accounted.respond (accounted : Accounted steps state) :
    Accounted (steps + 1) { state with readers := state.readers ++ [[]] } where
  bounded := accounted.bounded.later
  orderly := accounted.orderly
  covered := accounted.covered
  scanned := forall_mem_concat accounted.scanned (scanned_nil _)
  seenCovered := forall_mem_concat accounted.seenCovered (by simp)

theorem Accounted.load (accounted : Accounted steps state) {reader : Nat}
    {seen : List RuntimeStats} (found : state.readers[reader]? = some seen) :
    Accounted (steps + 1)
      { state with readers := state.readers.set reader (seen ++ [state.stats]) } where
  bounded := accounted.bounded.later
  orderly := accounted.orderly
  covered := accounted.covered
  scanned := forall_mem_set accounted.scanned
    ((accounted.scanned _ (List.mem_of_getElem? found)).look grown_refl) reader
  seenCovered := by
    apply forall_mem_set accounted.seenCovered
    apply forall_mem_concat (accounted.seenCovered _ (List.mem_of_getElem? found))
    intro kind
    exact Nat.le_trans (Nat.le_add_right _ _) (accounted.covered kind)

inductive Moves (state : Monitored) : Action → Monitored → Prop where
  | record (recording : Recording) :
      Moves state (.record recording)
        { state with writers := state.writers ++ [recording.operations] }
  | advance {writer : Nat} {operation : Operation} {rest : List Operation}
      (found : state.writers[writer]? = some (operation :: rest)) :
      Moves state (.advance writer)
        { state with
          stats := operation.apply state.stats
          writers := state.writers.set writer rest }
  | respond : Moves state .respond { state with readers := state.readers ++ [[]] }
  | load {reader : Nat} {seen : List RuntimeStats} (found : state.readers[reader]? = some seen)
      (more : seen.length < 13) :
      Moves state (.load reader)
        { state with readers := state.readers.set reader (seen ++ [state.stats]) }

theorem step_moves (stepped : machine.step state action = some next) :
    Moves state action next := by
  change step state action = some next at stepped
  cases action with
  | record recording => exact Option.some.inj stepped ▸ .record recording
  | advance writer =>
      simp only [step] at stepped
      split at stepped
      next found => exact Option.some.inj stepped ▸ .advance found
      next => cases stepped
  | respond => exact Option.some.inj stepped ▸ .respond
  | load reader =>
      simp only [step] at stepped
      split at stepped
      next found =>
        split at stepped
        next more => exact Option.some.inj stepped ▸ .load found more
        next => cases stepped
      next => cases stepped

theorem accounted_step (accounted : Accounted steps state) (room : steps + 1 < 2 ^ 64)
    (stepped : machine.step state action = some next) : Accounted (steps + 1) next := by
  cases step_moves stepped with
  | record recording => exact accounted.record recording
  | advance found => exact accounted.advance room found
  | respond => exact accounted.respond
  | load found => exact accounted.load found

/-- What readers see that begin when there are this many. -/
structure Since (origin : RuntimeStats) (begun : Nat) (state : Monitored) : Prop where
  grown : Grown origin state.stats
  seen : ∀ reader seen, begun ≤ reader → state.readers[reader]? = some seen →
    ∀ moment ∈ seen, Grown origin moment

theorem since_now (state : Monitored) : Since state.stats state.readers.length state where
  grown := grown_refl state.stats
  seen reader seen later found := by
    rw [List.getElem?_eq_none later] at found
    cases found

theorem since_step {origin : RuntimeStats} {begun : Nat} (accounted : Accounted steps state)
    (room : steps + 1 < 2 ^ 64) (since : Since origin begun state)
    (stepped : machine.step state action = some next) : Since origin begun next := by
  cases step_moves stepped with
  | record => exact ⟨since.grown, since.seen⟩
  | @advance _ operation _ found =>
      exact ⟨grown_trans _ _ _ since.grown (apply_grown accounted.bounded room operation),
        since.seen⟩
  | respond =>
      refine ⟨since.grown, fun reader seen later found => ?_⟩
      rw [List.getElem?_append] at found
      split at found
      · exact since.seen reader seen later found
      · rw [List.getElem?_singleton] at found
        split at found
        · cases found
          simp
        · cases found
  -- A load sees the present statistics, which have grown out of the first ones.
  | @load reader seen found =>
      refine ⟨since.grown, fun other otherSeen later otherFound => ?_⟩
      rw [List.getElem?_set] at otherFound
      split at otherFound
      next same =>
        split at otherFound
        · cases otherFound
          apply forall_mem_concat _ since.grown
          exact since.seen reader seen (same ▸ later) found
        · cases otherFound
      next => exact since.seen other otherSeen later otherFound

theorem since_run {origin : RuntimeStats} {begun : Nat} {final : Monitored}
    {actions : List Action} (accounted : Accounted steps state) (since : Since origin begun state)
    (few : steps + actions.length < 2 ^ 64) (reached : machine.run state actions = some final) :
    Accounted (steps + actions.length) final ∧ Since origin begun final := by
  have preserved (steps : Nat) (state : Monitored) (action : Action) (next : Monitored)
      (room : steps < 2 ^ 64 - 1) (holds : Accounted steps state ∧ Since origin begun state)
      (stepped : machine.step state action = some next) :
      Accounted (steps + 1) next ∧ Since origin begun next :=
    ⟨accounted_step holds.1 (by omega) stepped,
      since_step holds.1 (by omega) holds.2 stepped⟩
  exact machine.run_counted preserved ⟨accounted, since⟩ (by omega) reached

theorem accounted_run {storageEnabled : Bool} {actions : List Action}
    (few : actions.length < 2 ^ 64)
    (reached : machine.run (start storageEnabled) actions = some state) :
    Accounted actions.length state := by
  have accounted :=
    (since_run (accounted_start storageEnabled) (since_now _) (by omega) reached).1
  rwa [Nat.zero_add] at accounted

end Monitored

/-! ## What responses show -/

theorem Counts.shown_le (counts : Counts) {adapters : List AdapterSnapshot}
    (distinct : (adapters.map (·.name)).Nodup) :
    tally (fun adapter => ((counts.get adapter.name).getD 0).toNat) adapters ≤ counts.sum := by
  have most := tally_lookup_le counts.entries distinct
  rw [tally, List.map_map] at most
  exact most

/-- A response shows no more of the adapters than in total, when what was loaded
later had grown and the counts were in the totals at each load. -/
theorem healthOf_covered {seen : List RuntimeStats} {uptimeSecs : UInt64} {health : HealthResponse}
    (inOrder : seen.Pairwise Grown)
    (covered : ∀ moment ∈ seen, ∀ kind,
      (moment.counts kind).sum ≤ (moment.get kind.total).toNat)
    (responded : healthOf uptimeSecs seen = some health)
    (distinct : (health.adapters.map (·.name)).Nodup) :
    tally (·.eventsTotal.toNat) health.adapters ≤ health.eventsTotal.toNat ∧
      tally (·.apiCallsTotal.toNat) health.adapters ≤ health.apiCallsTotal.toNat := by
  unfold healthOf at responded
  split at responded
  next eventsMap apiMap listed events deduplicated dropped rejected apiCalls connections
      connectionsTotal stored rest =>
    cases responded
    rw [List.map_map] at distinct
    simp only [List.pairwise_cons, List.mem_cons] at inOrder
    have eventsGrown : Grown eventsMap events := inOrder.1 events (by simp)
    have apiGrown : Grown apiMap apiCalls := inOrder.2.1 apiCalls (by simp)
    have eventsShown := eventsMap.perAdapterEvents.shown_le distinct
    have apiShown := apiMap.perAdapterApiCalls.shown_le distinct
    have eventsCovered := covered eventsMap (by simp) .events
    have apiCovered := covered apiMap (by simp) .apiCalls
    constructor
    · rw [tally, List.map_map]
      exact Nat.le_trans eventsShown (Nat.le_trans eventsCovered
        (UInt64.le_iff_toNat_le.mp (eventsGrown.counter .eventsTotal)))
    · rw [tally, List.map_map]
      exact Nat.le_trans apiShown (Nat.le_trans apiCovered
        (UInt64.le_iff_toNat_le.mp (apiGrown.counter .apiCallsTotal)))
  next => cases responded

def HealthResponse.get (health : HealthResponse) : Counter → UInt64
  | .eventsTotal => health.eventsTotal
  | .apiCallsTotal => health.apiCallsTotal
  | .wsConnectionsTotal => health.wsConnectionsTotal
  | .messagesStored => health.messagesStored
  | .eventsDeduplicated => health.eventsDeduplicated
  | .wsEventsDropped => health.wsEventsDropped
  | .wsApiRejected => health.wsApiRejected

namespace RuntimeStats

end RuntimeStats

section Later

variable {first second : List RuntimeStats} {before after : UInt64}
  (grown : ∀ old ∈ first, ∀ new ∈ second, Grown old new)
include grown

end Later

namespace Monitored

/-- A health response shows no more of its adapters than in total. -/
theorem health_covers_adapters {storageEnabled : Bool} {actions : List Action} {state : Monitored}
    (few : actions.length < 2 ^ 64)
    (reached : machine.run (start storageEnabled) actions = some state)
    {seen : List RuntimeStats} (listed : seen ∈ state.readers) {uptimeSecs : UInt64}
    {health : HealthResponse} (responded : healthOf uptimeSecs seen = some health)
    (distinct : (health.adapters.map (·.name)).Nodup) :
    tally (·.eventsTotal.toNat) health.adapters ≤ health.eventsTotal.toNat ∧
      tally (·.apiCallsTotal.toNat) health.adapters ≤ health.apiCallsTotal.toNat := by
  have accounted := accounted_run few reached
  exact healthOf_covered (accounted.scanned seen listed).inOrder
    (accounted.seenCovered seen listed) responded distinct

def mainSnapshot : AdapterSnapshot where
  name := "main"
  backendType := .lagrange
  url := "ws://127.0.0.1:8081"
  state := .connected
  selfId := none
  healthy := true
  healthCheckMs := none
  lastHealthCheck := none
  eventsTotal := 0
  apiCallsTotal := 0

/-- An event is in the total, and is counted for its adapter between two loads. -/
def countedBetween : List Action :=
  [.record (.updateAdapters [mainSnapshot]), .advance 0, .record (.recordEventFor "main"),
    .advance 1, .respond, .load 0, .load 0, .advance 1] ++ List.replicate 11 (.load 0)

theorem health_covers_adapters_countedBetween :
    ∃ state seen health, machine.run (start true) countedBetween = some state ∧
      state.readers = [seen] ∧ healthOf 0 seen = some health ∧ health.eventsTotal = 1 ∧
      tally (·.eventsTotal.toNat) health.adapters ≤ health.eventsTotal.toNat := by
  refine ⟨_, _, _, rfl, rfl, rfl, rfl, ?_⟩
  exact (@health_covers_adapters true countedBetween _ (by decide) rfl _
    (List.mem_singleton_self _) 0 _ rfl (by decide)).1

end Monitored

end Ferroq.Gateway.Stats
