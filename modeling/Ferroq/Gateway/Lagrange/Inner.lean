import Ferroq.Core.Adapter
import Ferroq.Library.Table

/-!
# The shared state of a Lagrange adapter

The state behind the adapter's lock, with one function for every section that
runs under it.  Tasks, writer channels and one-shot channels are named by
numbers; a writer channel has the number of the task that drains it.
-/

namespace Ferroq.Gateway.Lagrange

open Ferroq.Core
open Ferroq.Library

structure Inner where
  state : AdapterState
  selfId : Option Int64
  wsWriterTx : Option Nat
  pendingCalls : Table String Nat
  eventTx : Option Nat
  readerHandle : Option Nat
  writerHandle : Option Nat
  reconnectHandle : Option Nat

namespace Inner

def new : Inner :=
  { state := .disconnected
    selfId := none
    wsWriterTx := none
    pendingCalls := .empty
    eventTx := none
    readerHandle := none
    writerHandle := none
    reconnectHandle := none }

def beginConnect (inner : Inner) (eventTx : Nat) : Inner :=
  { inner with state := .connecting, eventTx := some eventTx }

/-- Install the tasks of a new connection, in `spawn_ws_tasks` and after a
successful reconnect. -/
def install (inner : Inner) (reader writer : Nat) : Inner :=
  { inner with
    wsWriterTx := some writer
    readerHandle := some reader
    writerHandle := some writer
    state := .connected }

def storeMonitor (inner : Inner) (monitor : Nat) : Inner :=
  { inner with reconnectHandle := some monitor }

def beginReconnect (inner : Inner) : Inner :=
  { inner with state := .reconnecting, wsWriterTx := none }

def readerExit (inner : Inner) : Inner :=
  if inner.state = .connected then { inner with state := .reconnecting } else inner

def disconnect (inner : Inner) : Inner :=
  { inner with
    wsWriterTx := none
    readerHandle := none
    writerHandle := none
    reconnectHandle := none
    state := .disconnected
    pendingCalls := .empty }

def notConnected (name : String) (state : AdapterState) : GatewayError :=
  .connection s!"adapter '{name}' is not connected (state: {state.toText})"

def writerClosed : GatewayError := .connection "ws writer channel closed"

def noWriter : GatewayError := .connection "no ws writer available"

/-- The section of `call_api` that registers the call and hands its frame to
the writer.  When the writer is gone, the registration stays behind. -/
def register (name : String) (writerOpen : Nat → Bool) (inner : Inner) (echo : String)
    (call : Nat) : Except GatewayError Nat × Inner :=
  if inner.state ≠ .connected then (.error (notConnected name inner.state), inner)
  else
    match inner.wsWriterTx with
    | some writer =>
        (if writerOpen writer then .ok writer else .error writerClosed,
          { inner with pendingCalls := inner.pendingCalls.insert echo call })
    | none =>
        (.error noWriter,
          { inner with
            pendingCalls := (inner.pendingCalls.insert echo call).remove echo })

theorem register_pendingCalls (name : String) (writerOpen : Nat → Bool) (inner : Inner)
    (echo : String) (call : Nat) :
    (register name writerOpen inner echo call).2.pendingCalls =
        inner.pendingCalls.insert echo call ∨
      ∀ {key found},
        (register name writerOpen inner echo call).2.pendingCalls.get key = some found →
          inner.pendingCalls.get key = some found := by
  unfold register
  split
  next => exact .inr fun found => found
  next =>
    split
    next => exact .inl rfl
    next =>
      right
      intro key call' found
      rcases (Table.get_remove_eq_some_iff _ _ _ _).mp found with ⟨different, inserted⟩
      rwa [Table.get_insert_of_ne _ _ different] at inserted

/-- The section of `handle_api_response` that looks for the pending call. -/
def takePending (inner : Inner) (echo : String) : Option Nat × Inner :=
  (inner.pendingCalls.get echo,
    { inner with pendingCalls := inner.pendingCalls.remove echo })

def forgetPending (inner : Inner) (echo : String) : Inner :=
  { inner with pendingCalls := inner.pendingCalls.remove echo }

/-- The section of `handle_event`: the account is learned from the first
event. -/
def learnSelfId (inner : Inner) (selfId : Int64) : Inner :=
  { inner with selfId := some (inner.selfId.getD selfId) }

end Inner

/-- Whether a text from the backend is taken for an API response. -/
def isApiResponse (json : Json) : Bool :=
  (json.get "status").isSome && (json.get "echo").isSome

/-- The call a response names: its echo as a string, or as an unsigned number
in decimal. -/
def echoOf (json : Json) : Option String :=
  match (json.get "echo").bind Json.asStr with
  | some echo => some echo
  | none => ((json.get "echo").bind Json.asU64).map fun number => toString number.toNat

def responseOf (json : Json) : ApiResponse :=
  { status := ((json.get "status").bind Json.asStr).getD "unknown"
    retcode := (((json.get "retcode").bind Json.asI64).getD (-1)).toInt32
    data := (json.get "data").getD .null
    message := ((json.get "message").bind Json.asStr).getD ""
    echo := json.get "echo" }

@[simp]
theorem responseOf_echo (json : Json) : (responseOf json).echo = json.get "echo" := rfl

theorem get_echo_of_echoOf {json : Json} {echo : String} (named : echoOf json = some echo) :
    ∃ value, json.get "echo" = some value := by
  cases found : json.get "echo" with
  | none => simp [echoOf, found] at named
  | some value => exact ⟨value, rfl⟩

end Ferroq.Gateway.Lagrange
