import Ferroq.Gateway.Lagrange.Reader

/-!
# The account that an adapter learns

The account of an adapter is that of the first event that it parses, and stays.
An event without an account of its own is parsed with account zero.
-/

namespace Ferroq.Gateway.Lagrange

open Ferroq.Core
open Ferroq.Library
open Ferroq.Gateway.OneBotV11

structure EventFrame where
  json : Json
  now : DateTime
  fresh : Uuid

namespace EventFrame

def carried (frame : EventFrame) : Option Int64 := (frame.json.get "self_id").bind Json.asI64

def kinds : List String := ["message", "message_sent", "notice", "request", "meta_event"]

def known (frame : EventFrame) : Bool :=
  match (frame.json.get "post_type").bind Json.asStr with
  | some kind => kind ∈ kinds
  | none => false

end EventFrame

/-- A known frame is parsed as an event of the account it carries, or of account
zero; other frames are not parsed. -/
theorem parseEvent_selfId (frame : EventFrame) :
    if frame.known then
      ∃ event, parseEvent frame.now frame.fresh frame.json = .ok event ∧
        event.selfId = frame.carried.getD 0
    else ∃ error, parseEvent frame.now frame.fresh frame.json = .error error := by
  unfold EventFrame.known parseEvent
  cases (frame.json.get "post_type").bind Json.asStr with
  | none => exact ⟨missingPostType, rfl⟩
  | some kind =>
      by_cases listed : kind ∈ EventFrame.kinds
      · dsimp only
        rw [if_pos (decide_eq_true listed)]
        simp only [EventFrame.kinds, List.mem_cons, List.not_mem_nil, or_false] at listed
        split
        next => exact ⟨_, rfl, rfl⟩
        next notMessage =>
          split
          next => exact ⟨_, rfl, rfl⟩
          next notNotice =>
            split
            next => exact ⟨_, rfl, rfl⟩
            next notRequest =>
              split
              next => exact ⟨_, rfl, rfl⟩
              next notMeta => tauto
      · dsimp only
        rw [if_neg (by simpa using listed)]
        simp only [EventFrame.kinds, List.mem_cons, List.not_mem_nil, or_false, not_or] at listed
        obtain ⟨notMessage, notSent, notNotice, notRequest, notMeta⟩ := listed
        rw [if_neg (not_or.mpr ⟨notMessage, notSent⟩), if_neg notNotice, if_neg notRequest,
          if_neg notMeta]
        exact ⟨unknownPostType kind, rfl⟩

namespace Inner

def handleEvents (inner : Inner) (frames : List EventFrame) : Inner :=
  frames.foldl (fun inner frame => (inner.handleEvent frame.now frame.fresh frame.json).1) inner

theorem handleEvent_selfId (inner : Inner) (frame : EventFrame) :
    (inner.handleEvent frame.now frame.fresh frame.json).1.selfId =
      if frame.known then some (inner.selfId.getD (frame.carried.getD 0)) else inner.selfId := by
  have parsed := parseEvent_selfId frame
  unfold handleEvent
  cases known : frame.known with
  | true =>
      rw [known, if_pos rfl] at parsed
      obtain ⟨event, accepted, account⟩ := parsed
      rw [accepted, if_pos rfl, ← account]
      rfl
  | false =>
      rw [known, if_neg (by simp)] at parsed
      obtain ⟨error, rejected⟩ := parsed
      rw [rejected, if_neg (by simp)]

theorem handleEvents_selfId_of_some {inner : Inner} {account : Int64}
    (learned : inner.selfId = some account) (frames : List EventFrame) :
    (inner.handleEvents frames).selfId = some account := by
  induction frames generalizing inner with
  | nil => exact learned
  | cons frame rest inductionHypothesis =>
      apply inductionHypothesis
      rw [handleEvent_selfId, learned]
      simp

/-- A frame that teaches the adapter an account or carries one. -/
def Telling (frame : EventFrame) : Bool := frame.known || frame.carried.isSome

/-- The adapter knows its account from the first frame that carries it on, and
none before. -/
def Learns (inner : Inner) (account : Int64) (frames : List EventFrame) : Prop :=
  ∀ before, before <+: frames → (inner.handleEvents before).selfId =
    if before.any fun frame => frame.carried.isSome then some account else none

theorem learns_cons_iff {inner : Inner} (unlearned : inner.selfId = none) (account : Int64)
    (frame : EventFrame) (rest : List EventFrame) :
    Learns inner account (frame :: rest) ↔
      ∀ before, before <+: rest →
        ((inner.handleEvent frame.now frame.fresh frame.json).1.handleEvents before).selfId =
          if (frame :: before).any fun frame => frame.carried.isSome then some account
          else none := by
  constructor
  · intro learns before begins
    exact learns (frame :: before) (List.cons_prefix_cons.mpr ⟨rfl, begins⟩)
  · intro later before begins
    rcases List.prefix_cons_iff.mp begins with rfl | ⟨remaining, rfl, beginsRest⟩
    · exact unlearned
    · exact later remaining beginsRest

/-- When the frames that carry an account carry the same one, an adapter learns
it in time exactly if the first frame that is parsed or carries an account is
both parsed and carries one. -/
theorem learns_iff (inner : Inner) (unlearned : inner.selfId = none) (account : Int64)
    (frames : List EventFrame)
    (same : ∀ frame ∈ frames, ∀ held, frame.carried = some held → held = account) :
    Learns inner account frames ↔
      ∀ frame, frames.find? Telling = some frame →
        frame.known = true ∧ frame.carried.isSome = true := by
  induction frames generalizing inner with
  | nil => simp [Learns, handleEvents, unlearned]
  | cons frame rest inductionHypothesis =>
      have first := handleEvent_selfId inner frame
      rw [unlearned, Option.getD_none] at first
      have sameRest : ∀ other ∈ rest, ∀ held, other.carried = some held → held = account :=
        fun other listed => same other (List.mem_cons_of_mem _ listed)
      rw [learns_cons_iff unlearned]
      cases carried : frame.carried with
      | none =>
          cases known : frame.known with
          | false =>
              -- The frame does nothing.
              rw [known, if_neg (by simp)] at first
              rw [List.find?_cons_of_neg (by simp [Telling, known, carried]),
                ← inductionHypothesis _ first sameRest]
              simp [Learns, carried]
          | true =>
              rw [known, carried, if_pos rfl] at first
              rw [List.find?_cons_of_pos (by simp [Telling, known])]
              apply iff_of_false
              · intro learned
                have atOnce := learned [] List.nil_prefix
                simp [handleEvents, first, carried] at atOnce
              · simp [carried]
      | some held =>
          obtain rfl : held = account := same frame List.mem_cons_self held carried
          rw [List.find?_cons_of_pos (by simp [Telling, carried])]
          cases known : frame.known with
          | false =>
              rw [known, if_neg (by simp)] at first
              apply iff_of_false
              · intro learned
                have atOnce := learned [] List.nil_prefix
                simp [handleEvents, first, carried] at atOnce
              · simp [known]
          | true =>
              rw [known, carried, if_pos rfl] at first
              apply iff_of_true
              · intro before _
                rw [handleEvents_selfId_of_some first before]
                simp [carried]
              · simp [known, carried]

def heartbeat (account : Option Int64) : EventFrame :=
  { json := .object (("post_type", .string "meta_event") ::
      (account.map fun account => ("self_id", .integer account)).toList)
    now := (DateTime.timestampOpt 1700000000).get rfl
    fresh := ⟨0⟩ }

theorem carried_heartbeat (account : Option Int64) : (heartbeat account).carried = account := by
  cases account with
  | none => rfl
  | some account => exact Json.asI64_integer account

theorem learns_heartbeat : Learns Inner.new 10001 [heartbeat (some 10001), heartbeat none] := by
  have same : ∀ frame ∈ [heartbeat (some 10001), heartbeat none],
      ∀ held, frame.carried = some held → held = 10001 := by
    simp [carried_heartbeat, eq_comm]
  apply (learns_iff Inner.new rfl 10001 _ same).mpr
  intro frame first
  rw [List.find?_cons_of_pos (by simp [Telling, carried_heartbeat])] at first
  cases first
  exact ⟨rfl, by simp [carried_heartbeat]⟩

/-- A heartbeat without an account fixes account zero. -/
theorem anonymousFirst_mislearned :
    (∀ frame ∈ [heartbeat none, heartbeat (some 10001)],
        ∀ held, frame.carried = some held → held = 10001) ∧
      (handleEvents Inner.new [heartbeat none, heartbeat (some 10001)]).selfId = some 0 ∧
      ¬ Learns Inner.new 10001 [heartbeat none, heartbeat (some 10001)] := by
  have zero : (handleEvents Inner.new [heartbeat none, heartbeat (some 10001)]).selfId =
      some 0 := by
    have first := handleEvent_selfId Inner.new (heartbeat none)
    rw [carried_heartbeat] at first
    exact handleEvents_selfId_of_some first [heartbeat (some 10001)]
  refine ⟨by simp [carried_heartbeat, eq_comm], zero, ?_⟩
  intro learns
  have last := learns _ List.prefix_rfl
  simp [zero, carried_heartbeat] at last

end Inner

end Ferroq.Gateway.Lagrange
