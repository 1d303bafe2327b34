import Ferroq.Gateway.OneBotV12.Events
import Ferroq.Gateway.Satori.Api

/-!
# The identifiers of v12 actions

Clients of v12 and of Satori give identifiers as texts, and the backends expect
integers.  The translation of Satori calls reads all of them; the translation of
v12 actions reads those of two actions and passes the others on.
-/

namespace Ferroq.Gateway.OneBotV12

open Ferroq.Core
open Ferroq.Gateway.Satori (translateSatoriApi)

def listedActions : List String :=
  ["send_message", "get_self_info", "get_message", "get_user_info", "get_group_info",
    "get_group_member_info", "get_group_member_list", "set_group_name", "leave_group",
    "kick_group_member", "ban_group_member", "get_friend_list", "get_group_list"]

def idKeys : List String := ["group_id", "user_id", "message_id"]

/-- The identifiers of an action that are turned into integers. -/
def converted (action : String) : List String :=
  if action = "send_message" then ["group_id", "user_id"]
  else if action = "get_message" then ["message_id"]
  else []

/-- Under every key, an identifier that is given in decimal form is an integer
in the v11 parameters. -/
def IntegersUnder (keys : List String) (action : String) (params : Json) : Prop :=
  ∀ key ∈ keys, ∀ id, params.get key = some (decimal id) →
    (translateV12Action action params).2.get key = some (.integer id)

/-- No identifier that the action leaves as it is is given in decimal form. -/
def NoneLeft (keys : List String) (action : String) (params : Json) : Prop :=
  ∀ key ∈ keys, key ∉ converted action → ∀ id, params.get key ≠ some (decimal id)

theorem get_translateV12Action {action key : String} (listed : action ∈ listedActions)
    (isId : key ∈ idKeys) (left : key ∉ converted action) (params : Json) :
    (translateV12Action action params).2.get key = none ∨
      (translateV12Action action params).2.get key = params.get key := by
  simp only [listedActions, List.mem_cons, List.not_mem_nil, or_false] at listed
  rcases listed with rfl | rfl | rfl | rest
  · obtain ⟨-, -, message⟩ := get_sendMessage params
    simp only [idKeys, converted, if_true, List.mem_cons, List.not_mem_nil, or_false] at isId left
    rcases isId with rfl | rfl | rfl
    · simp at left
    · simp at left
    · exact .inl message
  · exact .inr (by simp [translateV12Action])
  · right
    have other : key ≠ "message_id" := by simpa [converted] using left
    cases found : integerField "message_id" params with
    | none => simp [translateV12Action, found]
    | some id =>
        obtain ⟨held, given, -⟩ := Option.bind_eq_some_iff.mp found
        obtain ⟨written, present, -⟩ := Option.bind_eq_some_iff.mp given
        simp [translateV12Action, found, Json.get_setField present, other]
  · right
    rcases rest with rfl | rfl | rfl | rfl | rfl | rfl | rfl | rfl | rfl | rfl <;>
      simp [translateV12Action]

theorem get_of_converted {action key : String} {params : Json} {id : Int64}
    (isConverted : key ∈ converted action) (given : params.get key = some (decimal id)) :
    (translateV12Action action params).2.get key = some (.integer id) := by
  unfold converted at isConverted
  split at isConverted
  next send =>
    subst send
    obtain ⟨group, user, -⟩ := get_sendMessage params
    simp only [List.mem_cons, List.not_mem_nil, or_false] at isConverted
    rcases isConverted with rfl | rfl
    · rw [group, integerField_of_decimal given, Option.map_some]
    · rw [user, integerField_of_decimal given, Option.map_some]
  next =>
    split at isConverted
    next fetch =>
      subst fetch
      cases List.mem_singleton.mp isConverted
      exact (get_getMessage given).2
    next => simp at isConverted

theorem integersUnder_iff {keys : List String} {action : String} (ids : keys ⊆ idKeys)
    (listed : action ∈ listedActions) (params : Json) :
    IntegersUnder keys action params ↔ NoneLeft keys action params := by
  constructor
  · intro integers key member left id given
    have read := integers key member id given
    rcases get_translateV12Action listed (ids member) left params with dropped | passed
    · rw [dropped] at read
      cases read
    · rw [passed, given] at read
      cases read
  · intro noneLeft key member id given
    by_cases isConverted : key ∈ converted action
    · exact get_of_converted isConverted given
    · exact absurd given (noneLeft key member isConverted id)

/-- A v12 action and the Satori call for the same operation, with the names that
they have for its identifiers. -/
structure SharedOperation where
  action : String
  resourceMethod : String
  ids : List (String × String)

def sharedOperations : List SharedOperation :=
  [⟨"get_self_info", "login.get", []⟩,
    ⟨"get_message", "message.get", [("message_id", "message_id")]⟩,
    ⟨"get_user_info", "user.get", [("user_id", "user_id")]⟩,
    ⟨"get_group_info", "guild.get", [("group_id", "guild_id")]⟩,
    ⟨"get_group_info", "channel.get", [("group_id", "channel_id")]⟩,
    ⟨"get_group_member_info", "guild.member.get",
      [("group_id", "guild_id"), ("user_id", "user_id")]⟩,
    ⟨"get_group_member_list", "guild.member.list", [("group_id", "guild_id")]⟩,
    ⟨"kick_group_member", "guild.member.kick",
      [("group_id", "guild_id"), ("user_id", "user_id")]⟩,
    ⟨"ban_group_member", "guild.member.mute",
      [("group_id", "guild_id"), ("user_id", "user_id")]⟩,
    ⟨"get_friend_list", "friend.list", []⟩,
    ⟨"get_group_list", "guild.list", []⟩,
    ⟨"get_group_list", "channel.list", []⟩]

theorem sharedOperation_listed {operation : SharedOperation}
    (shared : operation ∈ sharedOperations) :
    operation.action ∈ listedActions ∧ operation.ids.map Prod.fst ⊆ idKeys := by
  have all : ∀ operation ∈ sharedOperations,
      operation.action ∈ listedActions ∧ ∀ key ∈ operation.ids.map Prod.fst, key ∈ idKeys := by
    decide
  exact all operation shared

theorem idParam_eq (field key : String) (body : Json) :
    Satori.idParam field key body =
      optionalField key ((integerField field body).map Json.integer) := by
  cases read : integerField field body <;> simp [Satori.idParam, optionalField, read]

theorem durationParam_eq (body : Json) :
    Satori.durationParam body =
      optionalField "duration" (((body.get "duration").bind Json.asU64).map fun duration =>
        Json.number (.posInt (duration / 1000))) := by
  cases read : (body.get "duration").bind Json.asU64 <;>
    simp [Satori.durationParam, optionalField, read]

theorem translateSatoriApi_shared {operation : SharedOperation}
    (shared : operation ∈ sharedOperations) (params body : Json) :
    ∃ satoriParams,
      translateSatoriApi operation.resourceMethod body =
        .ok ((translateV12Action operation.action params).1, satoriParams) ∧
      ∀ pair ∈ operation.ids,
        satoriParams.get pair.1 = (integerField pair.2 body).map Json.integer := by
  have message : (translateV12Action "get_message" params).1 = "get_msg" := by
    cases read : integerField "message_id" params <;> simp [translateV12Action, read]
  simp only [sharedOperations, List.mem_cons, List.not_mem_nil, or_false] at shared
  rcases shared with rfl | rfl | rfl | rfl | rfl | rfl | rfl | rfl | rfl | rfl | rfl | rfl
  case inr.inl =>
    refine ⟨_, by simp [translateSatoriApi, message]; rfl, ?_⟩
    simp [idParam_eq, Json.get_ofFields]
  all_goals
    refine ⟨_, by simp [translateSatoriApi, translateV12Action]; rfl, ?_⟩
    simp [idParam_eq, durationParam_eq, Json.get_ofFields]

theorem agrees_iff {operation : SharedOperation} (shared : operation ∈ sharedOperations)
    {params body : Json}
    (repeats : ∀ pair ∈ operation.ids, body.get pair.2 = params.get pair.1) :
    ∃ satoriParams,
      translateSatoriApi operation.resourceMethod body =
        .ok ((translateV12Action operation.action params).1, satoriParams) ∧
      ((∀ pair ∈ operation.ids, ∀ id, params.get pair.1 = some (decimal id) →
          (translateV12Action operation.action params).2.get pair.1 = satoriParams.get pair.1) ↔
        NoneLeft (operation.ids.map Prod.fst) operation.action params) := by
  obtain ⟨listed, ids⟩ := sharedOperation_listed shared
  obtain ⟨satoriParams, translated, integers⟩ := translateSatoriApi_shared shared params body
  refine ⟨satoriParams, translated, ?_⟩
  have satoriReads {pair : String × String} (member : pair ∈ operation.ids) {id : Int64}
      (given : params.get pair.1 = some (decimal id)) :
      satoriParams.get pair.1 = some (.integer id) := by
    rw [← repeats pair member] at given
    rw [integers pair member, integerField_of_decimal given, Option.map_some]
  rw [← integersUnder_iff ids listed]
  constructor
  · intro agree key member id given
    obtain ⟨pair, isPair, rfl⟩ := List.mem_map.mp member
    rw [agree pair isPair id given, satoriReads isPair given]
  · intro integers pair isPair id given
    rw [integers pair.1 (List.mem_map_of_mem isPair) id given, satoriReads isPair given]

/-- The identifiers of a listed action become integers, and agree with those of
the Satori call for the same operation, exactly if none of those that the action
leaves is given in decimal form.  The v11 action is the same in any case. -/
theorem identifiersConverted_iff {action : String} (listed : action ∈ listedActions)
    (params : Json) :
    (IntegersUnder idKeys action params ↔ NoneLeft idKeys action params) ∧
      ∀ operation ∈ sharedOperations, operation.action = action → ∀ body : Json,
        (∀ pair ∈ operation.ids, body.get pair.2 = params.get pair.1) →
        ∃ satoriParams,
          translateSatoriApi operation.resourceMethod body =
            .ok ((translateV12Action action params).1, satoriParams) ∧
          ((∀ pair ∈ operation.ids, ∀ id, params.get pair.1 = some (decimal id) →
              (translateV12Action action params).2.get pair.1 = satoriParams.get pair.1) ↔
            NoneLeft (operation.ids.map Prod.fst) action params) := by
  refine ⟨integersUnder_iff (List.Subset.refl _) listed params, ?_⟩
  rintro operation shared rfl body repeats
  exact agrees_iff shared repeats

theorem identifiersConverted_iff_message :
    IntegersUnder idKeys "get_message" (.object [("message_id", .string "5")]) := by
  refine (identifiersConverted_iff (by decide) _).1.mpr fun key member left id given => ?_
  simp only [idKeys, List.mem_cons, List.not_mem_nil, or_false] at member
  rcases member with rfl | rfl | rfl
  · cases given
  · cases given
  · exact left (by decide)

def kickParams : Json := .object [("group_id", .string "123"), ("user_id", .string "456")]

def kickBody : Json := .object [("guild_id", .string "123"), ("user_id", .string "456")]

/-- The group of a member to be removed stays a text; a Satori client names the
same group by an integer. -/
theorem kickedGroup_staysText :
    (translateV12Action "kick_group_member" kickParams).2.get "group_id" = some (.string "123") ∧
      (∃ satoriParams,
        translateSatoriApi "guild.member.kick" kickBody = .ok ("set_group_kick", satoriParams) ∧
          satoriParams.get "group_id" = some (.integer 123)) ∧
      ¬ IntegersUnder idKeys "kick_group_member" kickParams := by
  have group : integerField "guild_id" kickBody = some 123 := integerField_of_decimal rfl
  refine ⟨rfl, ⟨_, by simp [translateSatoriApi]; rfl, ?_⟩, fun integers => ?_⟩
  · simp [idParam_eq, Json.get_ofFields, group]
  · have read := integers "group_id" (by decide) 123 rfl
    cases read

end Ferroq.Gateway.OneBotV12
