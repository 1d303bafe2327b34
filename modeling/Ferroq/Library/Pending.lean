import Ferroq.Library.Table
import Mathlib.Data.List.Nodup

/-!
# Pending tables

The pattern of a table in which requests wait under a key until a responder
that names the key takes them out and resolves them.  A request is in one place
at a time: it waits, or one responder holds it, or it has been resolved.  Hence
no request is resolved twice and no responder resolves two requests, whatever
the order of the operations and however often keys are used again.
-/

namespace Ferroq.Library

universe u v w

/-- The requests issued so far with their keys, the responders that have looked
for one with the keys they named, and where the requests are. -/
structure Pending (Key : Type u) (Request : Type v) (Responder : Type w) where
  issued : Table Request Key
  asked : Table Responder Key
  waiting : Table Key Request
  held : Table Responder Request
  resolved : List (Responder × Request)

namespace Pending

variable {Key : Type u} {Request : Type v} {Responder : Type w}

def empty : Pending Key Request Responder :=
  { issued := .empty, asked := .empty, waiting := .empty, held := .empty, resolved := [] }

/-- Every request is in one place, and got there through its own key. -/
structure Linear (pending : Pending Key Request Responder) : Prop where
  waitingKey : ∀ {key request}, pending.waiting.get key = some request →
    pending.issued.get request = some key
  heldKey : ∀ {responder request}, pending.held.get responder = some request →
    ∃ key, pending.issued.get request = some key ∧ pending.asked.get responder = some key
  resolvedKey : ∀ {responder request}, (responder, request) ∈ pending.resolved →
    ∃ key, pending.issued.get request = some key ∧ pending.asked.get responder = some key
  waitingNotHeld : ∀ {key request}, pending.waiting.get key = some request →
    ∀ responder, pending.held.get responder ≠ some request
  waitingNotResolved : ∀ {key request}, pending.waiting.get key = some request →
    ∀ responder, (responder, request) ∉ pending.resolved
  heldOnce : ∀ {responder other request}, pending.held.get responder = some request →
    pending.held.get other = some request → responder = other
  heldNotResolved : ∀ {responder request}, pending.held.get responder = some request →
    ∀ other, (other, request) ∉ pending.resolved
  holderNotResolver : ∀ {responder request}, pending.held.get responder = some request →
    ∀ other, (responder, other) ∉ pending.resolved
  resolversOnce : (pending.resolved.map Prod.fst).Nodup
  resolvedOnce : (pending.resolved.map Prod.snd).Nodup

theorem empty_linear : (empty : Pending Key Request Responder).Linear := by
  constructor <;> simp [empty]

variable {pending : Pending Key Request Responder}

theorem Linear.discard (linear : pending.Linear) {waiting : Table Key Request}
    (fewer : ∀ {key request}, waiting.get key = some request →
      pending.waiting.get key = some request) :
    Linear { pending with waiting := waiting } :=
  { linear with
    waitingKey := fun found => linear.waitingKey (fewer found)
    waitingNotHeld := fun found => linear.waitingNotHeld (fewer found)
    waitingNotResolved := fun found => linear.waitingNotResolved (fewer found) }

section Operations

variable [DecidableEq Key] [DecidableEq Request] [DecidableEq Responder]

def issue (pending : Pending Key Request Responder) (key : Key) (request : Request) :
    Pending Key Request Responder :=
  { pending with issued := pending.issued.insert request key }

def register (pending : Pending Key Request Responder) (key : Key) (request : Request) :
    Pending Key Request Responder :=
  { pending.issue key request with waiting := pending.waiting.insert key request }

def take (pending : Pending Key Request Responder) (key : Key) (responder : Responder) :
    Pending Key Request Responder :=
  { pending with
    asked := pending.asked.insert responder key
    waiting := pending.waiting.remove key
    held :=
      match pending.waiting.get key with
      | some request => pending.held.insert responder request
      | none => pending.held }

def resolve (pending : Pending Key Request Responder) (responder : Responder)
    (request : Request) : Pending Key Request Responder :=
  { pending with
    held := pending.held.remove responder
    resolved := pending.resolved ++ [(responder, request)] }

omit [DecidableEq Key] [DecidableEq Responder] in
theorem Linear.issue (linear : pending.Linear) (key : Key) {request : Request}
    (fresh : pending.issued.get request = none) : (pending.issue key request).Linear := by
  have kept : ∀ {other held}, pending.issued.get other = some held →
      (pending.issued.insert request key).get other = some held := by
    intro other held found
    have different : other ≠ request := by
      rintro rfl
      rw [fresh] at found
      cases found
    rw [Table.get_insert_of_ne _ _ different, found]
  exact
    { linear with
      waitingKey := fun found => kept (linear.waitingKey found)
      heldKey := by
        intro responder other found
        rcases linear.heldKey found with ⟨held, named, asked⟩
        exact ⟨held, kept named, asked⟩
      resolvedKey := by
        intro responder other found
        rcases linear.resolvedKey found with ⟨held, named, asked⟩
        exact ⟨held, kept named, asked⟩ }

omit [DecidableEq Responder] in
theorem Linear.register (linear : pending.Linear) (key : Key) {request : Request}
    (fresh : pending.issued.get request = none) : (pending.register key request).Linear := by
  have unheld : ∀ responder, pending.held.get responder ≠ some request := by
    intro responder found
    rcases linear.heldKey found with ⟨_, named, _⟩
    rw [fresh] at named
    cases named
  have unresolved : ∀ responder, (responder, request) ∉ pending.resolved := by
    intro responder found
    rcases linear.resolvedKey found with ⟨_, named, _⟩
    rw [fresh] at named
    cases named
  have issued := linear.issue key fresh
  constructor
  · intro other waiting found
    rcases (Table.get_insert_eq_some_iff _ _ _ _ _).mp found with
      ⟨rfl, rfl⟩ | ⟨_, earlier⟩
    · exact Table.get_insert_self _ _ _
    · exact issued.waitingKey earlier
  · exact issued.heldKey
  · exact issued.resolvedKey
  · intro other waiting found
    rcases (Table.get_insert_eq_some_iff _ _ _ _ _).mp found with
      ⟨rfl, rfl⟩ | ⟨_, earlier⟩
    · exact unheld
    · exact linear.waitingNotHeld earlier
  · intro other waiting found
    rcases (Table.get_insert_eq_some_iff _ _ _ _ _).mp found with
      ⟨rfl, rfl⟩ | ⟨_, earlier⟩
    · exact unresolved
    · exact linear.waitingNotResolved earlier
  · exact linear.heldOnce
  · exact linear.heldNotResolved
  · exact linear.holderNotResolver
  · exact linear.resolversOnce
  · exact linear.resolvedOnce

omit [DecidableEq Request] in
theorem Linear.take (linear : pending.Linear) (key : Key) {responder : Responder}
    (fresh : pending.asked.get responder = none) : (pending.take key responder).Linear := by
  have notResolver : ∀ request, (responder, request) ∉ pending.resolved := by
    intro request found
    rcases linear.resolvedKey found with ⟨_, _, asked⟩
    rw [fresh] at asked
    cases asked
  have kept : ∀ {other held}, pending.asked.get other = some held →
      (pending.asked.insert responder key).get other = some held := by
    intro other held found
    have different : other ≠ responder := by
      rintro rfl
      rw [fresh] at found
      cases found
    rw [Table.get_insert_of_ne _ _ different, found]
  -- What a responder holds afterwards, it held before or has just taken.
  have holds : ∀ {other request}, (pending.take key responder).held.get other = some request →
      (other = responder ∧ pending.waiting.get key = some request) ∨
        pending.held.get other = some request := by
    intro other request found
    simp only [Pending.take] at found
    cases waits : pending.waiting.get key with
    | none =>
        rw [waits] at found
        exact .inr found
    | some waiting =>
        rw [waits] at found
        rcases (Table.get_insert_eq_some_iff _ _ _ _ _).mp found with
          ⟨rfl, rfl⟩ | ⟨_, earlier⟩
        · exact .inl ⟨rfl, rfl⟩
        · exact .inr earlier
  constructor
  · intro other request found
    exact linear.waitingKey ((Table.get_remove_eq_some_iff _ _ _ _).mp found).2
  · intro other request found
    rcases holds found with ⟨rfl, waits⟩ | earlier
    · exact ⟨key, linear.waitingKey waits, Table.get_insert_self _ _ _⟩
    · rcases linear.heldKey earlier with ⟨held, named, asked⟩
      exact ⟨held, named, kept asked⟩
  · intro other request found
    rcases linear.resolvedKey found with ⟨held, named, asked⟩
    exact ⟨held, named, kept asked⟩
  · intro other request found holder taken
    rcases (Table.get_remove_eq_some_iff _ _ _ _).mp found with ⟨different, waits⟩
    rcases holds taken with ⟨_, waited⟩ | earlier
    · have same := linear.waitingKey waits
      rw [linear.waitingKey waited, Option.some.injEq] at same
      exact different same.symm
    · exact linear.waitingNotHeld waits holder earlier
  · intro other request found
    exact linear.waitingNotResolved ((Table.get_remove_eq_some_iff _ _ _ _).mp found).2
  · intro first second request foundFirst foundSecond
    rcases holds foundFirst with ⟨rfl, waits⟩ | earlier <;>
      rcases holds foundSecond with ⟨rfl, waits'⟩ | earlier'
    · rfl
    · exact absurd earlier' (linear.waitingNotHeld waits second)
    · exact absurd earlier (linear.waitingNotHeld waits' first)
    · exact linear.heldOnce earlier earlier'
  · intro holder request found
    rcases holds found with ⟨_, waits⟩ | earlier
    · exact linear.waitingNotResolved waits
    · exact linear.heldNotResolved earlier
  · intro holder request found
    rcases holds found with ⟨rfl, _⟩ | earlier
    · exact notResolver
    · exact linear.holderNotResolver earlier
  · exact linear.resolversOnce
  · exact linear.resolvedOnce

omit [DecidableEq Key] [DecidableEq Request] in
theorem Linear.resolve (linear : pending.Linear) {responder : Responder} {request : Request}
    (holds : pending.held.get responder = some request) :
    (pending.resolve responder request).Linear := by
  constructor
  · exact linear.waitingKey
  · intro other held found
    exact linear.heldKey ((Table.get_remove_eq_some_iff _ _ _ _).mp found).2
  · intro other resolved found
    rcases List.mem_append.mp found with earlier | now
    · exact linear.resolvedKey earlier
    · cases List.mem_singleton.mp now
      exact linear.heldKey holds
  · intro key waiting found other held
    exact linear.waitingNotHeld found other ((Table.get_remove_eq_some_iff _ _ _ _).mp held).2
  · intro key waiting found other resolved
    rcases List.mem_append.mp resolved with earlier | now
    · exact linear.waitingNotResolved found other earlier
    · cases List.mem_singleton.mp now
      exact linear.waitingNotHeld found responder holds
  · intro first second held foundFirst foundSecond
    exact linear.heldOnce ((Table.get_remove_eq_some_iff _ _ _ _).mp foundFirst).2
      ((Table.get_remove_eq_some_iff _ _ _ _).mp foundSecond).2
  · intro holder held found other resolved
    rcases (Table.get_remove_eq_some_iff _ _ _ _).mp found with ⟨different, earlierHeld⟩
    rcases List.mem_append.mp resolved with earlier | now
    · exact linear.heldNotResolved earlierHeld other earlier
    · cases List.mem_singleton.mp now
      exact different (linear.heldOnce earlierHeld holds)
  · intro holder held found other resolved
    rcases (Table.get_remove_eq_some_iff _ _ _ _).mp found with ⟨different, earlierHeld⟩
    rcases List.mem_append.mp resolved with earlier | now
    · exact linear.holderNotResolver earlierHeld other earlier
    · cases List.mem_singleton.mp now
      exact different rfl
  · have fresh : responder ∉ pending.resolved.map Prod.fst := by
      intro membership
      rcases List.mem_map.mp membership with ⟨entry, found, rfl⟩
      exact linear.holderNotResolver holds entry.2 found
    simpa [Pending.resolve, List.nodup_append, fresh] using
      ⟨linear.resolversOnce, fun first second found same =>
        fresh (List.mem_map.mpr ⟨(first, second), found, same⟩)⟩
  · have fresh : request ∉ pending.resolved.map Prod.snd := by
      intro membership
      obtain ⟨entry, found, rfl⟩ := List.mem_map.mp membership
      exact linear.heldNotResolved holds entry.1 found
    simpa [Pending.resolve, List.nodup_append, fresh] using
      ⟨linear.resolvedOnce, fun first second found same =>
        fresh (List.mem_map.mpr ⟨(second, first), found, same⟩)⟩

end Operations

end Pending

end Ferroq.Library
