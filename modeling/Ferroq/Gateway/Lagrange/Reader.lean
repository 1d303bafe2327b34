import Ferroq.Core.Text
import Ferroq.Gateway.Lagrange.Inner
import Ferroq.Gateway.OneBotV11

/-!
# The reader of a Lagrange adapter

The reader handles one message of the backend after the other, and marks the
connection as lost when the stream ends.  A text that is neither a response nor
an event is logged up to its byte 200; the slice panics when no character ends
there, and a reader that has panicked does not come to its exit.

The parser of texts is a parameter.
-/

namespace Ferroq.Gateway.Lagrange

open Ferroq.Core
open Ferroq.Library
open Ferroq.Gateway.OneBotV11

inductive Sent where
  | response (call : Nat) (response : ApiResponse)
  | event (eventTx : Nat) (event : Event)
  | pong (writer : Nat) (data : List UInt8)

/-- A message of the backend, with the time and the fresh identifier of the
event that a text may be. -/
inductive Incoming where
  | text (text : String) (now : DateTime) (fresh : Uuid)
  | close
  | ping (data : List UInt8)
  | ignored
  | failed (error : String)

namespace Inner

def handleApiResponse (inner : Inner) (json : Json) : Inner × List Sent :=
  match echoOf json with
  | none => (inner, [])
  | some echo =>
      let (sender, inner) := inner.takePending echo
      (inner, (sender.map fun call => Sent.response call (responseOf json)).toList)

def handleEvent (inner : Inner) (now : DateTime) (fresh : Uuid) (json : Json) :
    Inner × List Sent :=
  match parseEvent now fresh json with
  | .ok event =>
      (inner.learnSelfId event.selfId,
        (inner.eventTx.map fun eventTx => Sent.event eventTx event).toList)
  | .error _ => (inner, [])

/-- The handling of a text; `none` when it panics. -/
def handleTextMessage (debug : Bool) (fromStr : String → Except String Json) (inner : Inner)
    (text : String) (now : DateTime) (fresh : Uuid) : Option (Inner × List Sent) :=
  match fromStr text with
  | .error _ => some (inner, [])
  | .ok json =>
      if isApiResponse json then some (inner.handleApiResponse json)
      else if (json.get "post_type").isSome then some (inner.handleEvent now fresh json)
      else if debug then
        (sliceTo (min (byteLength text.toList) 200) text.toList).map fun _ => (inner, [])
      else some (inner, [])

/-- The pong for a ping, when there is a writer. -/
def handlePing (inner : Inner) (data : List UInt8) : List Sent :=
  (inner.wsWriterTx.map fun writer => Sent.pong writer data).toList

/-- The loop of the reader over a stream, with what other tasks do to the shared
state before each message; `none` when it panics before its exit. -/
def readerLoop (debug : Bool) (fromStr : String → Except String Json) :
    Inner → List ((Inner → Inner) × Incoming) → Option (Inner × List Sent)
  | inner, [] => some (inner.readerExit, [])
  | inner, (others, .text text now fresh) :: rest =>
      (handleTextMessage debug fromStr (others inner) text now fresh).bind fun (next, sent) =>
        (readerLoop debug fromStr next rest).map fun (final, later) => (final, sent ++ later)
  | inner, (others, .close) :: _ => some ((others inner).readerExit, [])
  | inner, (others, .failed _) :: _ => some ((others inner).readerExit, [])
  | inner, (others, .ping data) :: rest =>
      (readerLoop debug fromStr (others inner) rest).map fun (final, later) =>
        (final, (others inner).handlePing data ++ later)
  | inner, (others, .ignored) :: rest => readerLoop debug fromStr (others inner) rest

end Inner

/-- A text that the reader knows no other use for than to log it. -/
def Unknown (fromStr : String → Except String Json) (text : String) : Prop :=
  ∃ json, fromStr text = .ok json ∧ isApiResponse json = false ∧ json.get "post_type" = none

def CutsAt200 (text : String) : Prop :=
  ∃ begun, begun <+: text.toList ∧ byteLength begun = 200

/-- A text that can be logged: it is no longer than 200 bytes, or a character
ends there. -/
def Loggable (text : String) : Prop := byteLength text.toList ≤ 200 ∨ CutsAt200 text

theorem sliceTo_isSome_iff (text : String) :
    (sliceTo (min (byteLength text.toList) 200) text.toList).isSome = true ↔ Loggable text := by
  rw [Option.isSome_iff_exists]
  simp only [sliceTo_eq_some_iff]
  by_cases short : byteLength text.toList ≤ 200
  · refine iff_of_true ⟨text.toList, List.prefix_rfl, ?_⟩ (Or.inl short)
    omega
  · have long : min (byteLength text.toList) 200 = 200 := by omega
    rw [long]
    exact ⟨Or.inr, fun loggable => loggable.resolve_left short⟩

theorem handleTextMessage_isSome_iff (fromStr : String → Except String Json) (inner : Inner)
    (text : String) (now : DateTime) (fresh : Uuid) :
    (inner.handleTextMessage true fromStr text now fresh).isSome = true ↔
      (Unknown fromStr text → Loggable text) := by
  unfold Inner.handleTextMessage Unknown
  cases fromStr text with
  | error error => simp
  | ok json =>
      cases response : isApiResponse json with
      | true => simp [response]
      | false =>
          cases kind : json.get "post_type" with
          | some postType => simp [response, kind]
          | none => simpa [response, kind] using sliceTo_isSome_iff text

def Incoming.ends : Incoming → Bool
  | close => true
  | failed _ => true
  | _ => false

def Incoming.Harmless (fromStr : String → Except String Json) : Incoming → Prop
  | .text held _ _ => Unknown fromStr held → Loggable held
  | _ => True

namespace Inner

theorem readerExit_state (inner : Inner) : inner.readerExit.state ≠ .connected := by
  unfold readerExit
  split
  next => simp
  next different => exact different

theorem readerLoop_state {debug : Bool} {fromStr : String → Except String Json}
    {inner final : Inner} {arrivals : List ((Inner → Inner) × Incoming)} {sent : List Sent}
    (exits : readerLoop debug fromStr inner arrivals = some (final, sent)) :
    final.state ≠ .connected := by
  induction arrivals generalizing inner sent with
  | nil =>
      cases exits
      exact inner.readerExit_state
  | cons arrival rest inductionHypothesis =>
      rcases arrival with ⟨others, message⟩
      cases message with
      | close | failed error =>
          cases exits
          exact (others inner).readerExit_state
      | ignored => exact inductionHypothesis exits
      | ping data =>
          obtain ⟨⟨reached, later⟩, exitsLater, same⟩ := Option.map_eq_some_iff.mp exits
          cases same
          exact inductionHypothesis exitsLater
      | text text now fresh =>
          obtain ⟨⟨next, first⟩, _, continues⟩ := Option.bind_eq_some_iff.mp exits
          obtain ⟨⟨reached, later⟩, exitsLater, same⟩ := Option.map_eq_some_iff.mp continues
          cases same
          exact inductionHypothesis exitsLater

theorem readerLoop_isSome_iff (fromStr : String → Except String Json) (inner : Inner)
    (arrivals : List ((Inner → Inner) × Incoming)) :
    (readerLoop true fromStr inner arrivals).isSome = true ↔
      ∀ arrival ∈ arrivals.takeWhile fun arrival => !arrival.2.ends,
        arrival.2.Harmless fromStr := by
  induction arrivals generalizing inner with
  | nil => simp [readerLoop]
  | cons arrival rest inductionHypothesis =>
      rcases arrival with ⟨others, message⟩
      cases message with
      | close | failed error => simp [readerLoop, Incoming.ends]
      | ignored | ping data =>
          rw [List.takeWhile_cons_of_pos rfl, List.forall_mem_cons, readerLoop]
          simpa [Incoming.Harmless] using inductionHypothesis (others inner)
      | text text now fresh =>
          have handled := handleTextMessage_isSome_iff fromStr (others inner) text now fresh
          have harmless : (Incoming.text text now fresh).Harmless fromStr ↔
              (Unknown fromStr text → Loggable text) := Iff.rfl
          rw [List.takeWhile_cons_of_pos rfl, List.forall_mem_cons, readerLoop, harmless, ← handled]
          cases (others inner).handleTextMessage true fromStr text now fresh with
          | none => simp
          | some handling => simpa using inductionHypothesis handling.1

/-- With debug logging, a text is handled without a panic exactly if it need not
be logged or a character ends at its byte 200.  The reader comes to its exit and
marks the connection as lost exactly if it handles the messages up to the end of
the stream without a panic. -/
theorem reader_exits_iff (fromStr : String → Except String Json) :
    (∀ inner text now fresh,
      (handleTextMessage true fromStr inner text now fresh).isSome = true ↔
        (Unknown fromStr text → Loggable text)) ∧
    ∀ inner arrivals,
      (∃ final sent, readerLoop true fromStr inner arrivals = some (final, sent) ∧
          final.state ≠ .connected) ↔
        ∀ arrival ∈ arrivals.takeWhile fun arrival => !arrival.2.ends,
          arrival.2.Harmless fromStr := by
  refine ⟨handleTextMessage_isSome_iff fromStr, ?_⟩
  intro inner arrivals
  rw [← readerLoop_isSome_iff fromStr inner arrivals]
  constructor
  · rintro ⟨final, sent, exits, _⟩
    rw [exits]
    rfl
  · intro some
    obtain ⟨⟨final, sent⟩, exits⟩ := Option.isSome_iff_exists.mp some
    exact ⟨final, sent, exits, readerLoop_state exits⟩

end Inner

/-- A text of characters of three bytes each, as a backend writes it. -/
def longText : List Char :=
  ['\x7b', '"', 'm', '"', ':', '"'] ++ List.replicate 100 '你' ++ ['"', '\x7d']

def readLongText (_ : String) : Except String Json :=
  .ok (.object [("m", .string (String.ofList (List.replicate 100 '你')))])

/-- One character of the text stands across byte 200, and the reader panics on
it before it comes to its exit. -/
theorem longText_panics :
    Inner.handleTextMessage true readLongText (Inner.new.install 0 0) (String.ofList longText)
        ((DateTime.timestampOpt 0).get rfl) ⟨0⟩ = none ∧
      Inner.readerLoop true readLongText (Inner.new.install 0 0)
        [(id, .text (String.ofList longText) ((DateTime.timestampOpt 0).get rfl) ⟨0⟩),
          (id, .close)] = none := by
  have cut : sliceTo (min (byteLength longText) 200) longText = none := by decide +kernel
  have panics : Inner.handleTextMessage true readLongText (Inner.new.install 0 0)
      (String.ofList longText) ((DateTime.timestampOpt 0).get rfl) ⟨0⟩ = none := by
    simp [Inner.handleTextMessage, readLongText, isApiResponse, Json.get, cut]
  exact ⟨panics, by rw [Inner.readerLoop, id, panics, Option.bind_none]⟩

end Ferroq.Gateway.Lagrange
