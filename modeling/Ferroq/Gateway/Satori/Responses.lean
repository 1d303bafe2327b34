import Ferroq.Core.Api
import Ferroq.Gateway.OneBotV11
import Mathlib.Data.Set.List

/-!
# Answers to Satori calls

The data of a successful v11 response is rewritten for the called method; the
data of a failed one is handed on as it is.  What a method can write on success
is described below without reference to the data it is written from.
-/

namespace Ferroq.Gateway.Satori

open Ferroq.Core
open Ferroq.Gateway.OneBotV11 (textField)

def identifier (key : String) (data : Json) : String := ((data.get key).map Json.idText).getD ""

/-- A name of one's own choice, unless it is empty. -/
def preferred (chosen name : String) : String := if chosen.isEmpty then name else chosen

def messagesJson (id : String) : Json :=
  .array [.ofFields [("id", .string id), ("content", .string "")]]

def userJson (id name : String) : Json := .ofFields [("id", .string id), ("name", .string name)]

def loginJson (id name : String) : Json :=
  .ofFields [("sn", .integer 0), ("platform", .string "qq"), ("user", userJson id name),
    ("status", .integer 1)]

def channelJson (id name : String) : Json :=
  .ofFields [("id", .string id), ("type", .integer 0), ("name", .string name)]

def memberJson (id name nick : String) : Json :=
  .ofFields [("user", userJson id name), ("nick", .string nick)]

def friendJson (id name nick : String) : Json :=
  .ofFields [("id", .string id), ("name", .string name), ("nick", .string nick)]

def listJson (items : List Json) : Json := .ofFields [("data", .array items)]

def translateMessages (data : Json) : Json := messagesJson (identifier "message_id" data)

def translateUser (data : Json) : Json :=
  userJson (identifier "user_id" data) (textField "nickname" data)

def translateLogin (data : Json) : Json :=
  loginJson (identifier "user_id" data) (textField "nickname" data)

def translateChannel (data : Json) : Json :=
  channelJson (identifier "group_id" data) (textField "group_name" data)

/-- A guild has the form of a user. -/
def translateGuild (data : Json) : Json :=
  userJson (identifier "group_id" data) (textField "group_name" data)

def translateMember (data : Json) : Json :=
  let nickname := textField "nickname" data
  memberJson (identifier "user_id" data) nickname (preferred (textField "card" data) nickname)

def translateFriend (data : Json) : Json :=
  let nickname := textField "nickname" data
  friendJson (identifier "user_id" data) nickname (preferred (textField "remark" data) nickname)

/-- A list is empty if the data is no list. -/
def translateList (translate : Json → Json) (data : Json) : Json :=
  listJson ((data.asArray.getD []).map translate)

/-- The data of a successful response, in the form of the called method. -/
def translateData (resourceMethod : String) (data : Json) : Json :=
  if resourceMethod = "message.create" then translateMessages data
  else if resourceMethod = "login.get" then translateLogin data
  else if resourceMethod = "user.get" then translateUser data
  else if resourceMethod = "channel.get" then translateChannel data
  else if resourceMethod = "guild.get" then translateGuild data
  else if resourceMethod = "channel.list" then translateList translateChannel data
  else if resourceMethod = "guild.list" then translateList translateGuild data
  else if resourceMethod = "guild.member.get" then translateMember data
  else if resourceMethod = "guild.member.list" then translateList translateMember data
  else if resourceMethod = "friend.list" then translateList translateFriend data
  else data

def translateResponse (resourceMethod : String) (response : ApiResponse) : Json :=
  if response.retcode ≠ 0 then response.data else translateData resourceMethod response.data

section Shapes

def IsMessages (answer : Json) : Prop := ∃ id, answer = messagesJson id

def IsUser (answer : Json) : Prop := ∃ id name, answer = userJson id name

def IsLogin (answer : Json) : Prop := ∃ id name, answer = loginJson id name

def IsChannel (answer : Json) : Prop := ∃ id name, answer = channelJson id name

/-- A nick is empty only where the name is. -/
def IsMember (answer : Json) : Prop :=
  ∃ id name nick, answer = memberJson id name nick ∧ (nick = "" → name = "")

def IsFriend (answer : Json) : Prop :=
  ∃ id name nick, answer = friendJson id name nick ∧ (nick = "" → name = "")

def IsList (shape : Json → Prop) (answer : Json) : Prop :=
  ∃ items, answer = listJson items ∧ ∀ item ∈ items, shape item

/-- The form of the answers to successful calls of a method.  The methods that
are not listed hand any data on. -/
def SuccessShape (resourceMethod : String) (answer : Json) : Prop :=
  if resourceMethod = "message.create" then IsMessages answer
  else if resourceMethod = "login.get" then IsLogin answer
  else if resourceMethod = "user.get" then IsUser answer
  else if resourceMethod = "channel.get" then IsChannel answer
  else if resourceMethod = "guild.get" then IsUser answer
  else if resourceMethod = "channel.list" then IsList IsChannel answer
  else if resourceMethod = "guild.list" then IsList IsUser answer
  else if resourceMethod = "guild.member.get" then IsMember answer
  else if resourceMethod = "guild.member.list" then IsList IsMember answer
  else if resourceMethod = "friend.list" then IsList IsFriend answer
  else True

def dataWith (idKey nameKey chosenKey id name chosen : String) : Json :=
  .ofFields [(idKey, .string id), (nameKey, .string name), (chosenKey, .string chosen)]

variable {idKey nameKey chosenKey id name chosen : String} {answer : Json}

theorem identifier_dataWith (named : idKey ≠ nameKey) (chosen' : idKey ≠ chosenKey) :
    identifier idKey (dataWith idKey nameKey chosenKey id name chosen) = id := by
  simp [identifier, dataWith, Json.get_ofFields, List.lookup_cons, Json.idText,
    beq_eq_false_iff_ne.mpr named, beq_eq_false_iff_ne.mpr chosen']

theorem textField_dataWith (differ : nameKey ≠ chosenKey) :
    textField nameKey (dataWith idKey nameKey chosenKey id name chosen) = name := by
  simp [textField, dataWith, Json.get_ofFields, List.lookup_cons, beq_eq_false_iff_ne.mpr differ]

theorem textField_dataWith_chosen :
    textField chosenKey (dataWith idKey nameKey chosenKey id name chosen) = chosen := by
  simp [textField, dataWith, Json.get_ofFields]

theorem preferred_eq_empty (chosen : String) (empty : preferred chosen name = "") : name = "" := by
  unfold preferred at empty
  split at empty
  next => exact empty
  next chosen' =>
    rw [empty] at chosen'
    exact absurd rfl chosen'

theorem preferred_self {nick : String} (filled : nick = "" → name = "") :
    preferred nick name = nick := by
  unfold preferred
  split
  next empty =>
    rw [String.isEmpty_iff] at empty
    rw [filled empty, empty]
  next => rfl

theorem exists_translateMessages :
    (∃ data, translateMessages data = answer) ↔ IsMessages answer := by
  constructor
  · rintro ⟨data, rfl⟩
    exact ⟨_, rfl⟩
  · rintro ⟨id, rfl⟩
    refine ⟨dataWith "message_id" "nickname" "card" id "" "", ?_⟩
    rw [translateMessages, identifier_dataWith (by decide) (by decide)]

theorem exists_named (json : String → String → Json) (differ : idKey ≠ nameKey) :
    (∃ data, json (identifier idKey data) (textField nameKey data) = answer) ↔
      ∃ id name, answer = json id name := by
  constructor
  · rintro ⟨data, rfl⟩
    exact ⟨_, _, rfl⟩
  · rintro ⟨id, name, rfl⟩
    refine ⟨dataWith idKey nameKey nameKey id name name, ?_⟩
    rw [identifier_dataWith differ differ, textField_dataWith_chosen]

theorem exists_nicked (json : String → String → String → Json) (named : idKey ≠ nameKey)
    (chosen' : idKey ≠ chosenKey) (differ : nameKey ≠ chosenKey) :
    (∃ data, json (identifier idKey data) (textField nameKey data)
        (preferred (textField chosenKey data) (textField nameKey data)) = answer) ↔
      ∃ id name nick, answer = json id name nick ∧ (nick = "" → name = "") := by
  constructor
  · rintro ⟨data, rfl⟩
    exact ⟨_, _, _, rfl, preferred_eq_empty _⟩
  · rintro ⟨id, name, nick, rfl, filled⟩
    refine ⟨dataWith idKey nameKey chosenKey id name nick, ?_⟩
    rw [identifier_dataWith named chosen', textField_dataWith differ, textField_dataWith_chosen,
      preferred_self filled]

theorem exists_translateUser : (∃ data, translateUser data = answer) ↔ IsUser answer :=
  exists_named userJson (by decide)

theorem exists_translateLogin : (∃ data, translateLogin data = answer) ↔ IsLogin answer :=
  exists_named loginJson (by decide)

theorem exists_translateChannel : (∃ data, translateChannel data = answer) ↔ IsChannel answer :=
  exists_named channelJson (by decide)

theorem exists_translateGuild : (∃ data, translateGuild data = answer) ↔ IsUser answer :=
  exists_named userJson (by decide)

theorem exists_translateMember : (∃ data, translateMember data = answer) ↔ IsMember answer :=
  exists_nicked memberJson (by decide) (by decide) (by decide)

theorem exists_translateFriend : (∃ data, translateFriend data = answer) ↔ IsFriend answer :=
  exists_nicked friendJson (by decide) (by decide) (by decide)

theorem exists_translateList {translate : Json → Json} {shape : Json → Prop}
    (shapes : ∀ {answer}, (∃ data, translate data = answer) ↔ shape answer) :
    (∃ data, translateList translate data = answer) ↔ IsList shape answer := by
  constructor
  · rintro ⟨data, rfl⟩
    refine ⟨_, rfl, fun item member => ?_⟩
    obtain ⟨given, -, same⟩ := List.mem_map.mp member
    exact shapes.mp ⟨given, same⟩
  · rintro ⟨items, rfl, shaped⟩
    have images : items ∈ Set.range (List.map translate) := by
      rw [Set.range_list_map]
      exact fun item member => shapes.mpr (shaped item member)
    obtain ⟨given, same⟩ := images
    refine ⟨.array given, ?_⟩
    rw [translateList, Json.asArray_array, Option.getD_some, same]

theorem exists_ite {condition : Prop} [Decidable condition] {first second : Json → Json}
    {shape other : Prop} (shapes : (∃ data, first data = answer) ↔ shape)
    (others : (∃ data, second data = answer) ↔ other) :
    (∃ data, (if condition then first data else second data) = answer) ↔
      if condition then shape else other := by
  by_cases holds : condition
  · simpa only [if_pos holds] using shapes
  · simpa only [if_neg holds] using others

theorem exists_translateData (resourceMethod : String) (answer : Json) :
    (∃ data, translateData resourceMethod data = answer) ↔
      SuccessShape resourceMethod answer := by
  unfold translateData SuccessShape
  refine exists_ite exists_translateMessages ?_
  refine exists_ite exists_translateLogin ?_
  refine exists_ite exists_translateUser ?_
  refine exists_ite exists_translateChannel ?_
  refine exists_ite exists_translateGuild ?_
  refine exists_ite (exists_translateList exists_translateChannel) ?_
  refine exists_ite (exists_translateList exists_translateGuild) ?_
  refine exists_ite exists_translateMember ?_
  refine exists_ite (exists_translateList exists_translateMember) ?_
  refine exists_ite (exists_translateList exists_translateFriend) ?_
  exact iff_of_true ⟨answer, rfl⟩ trivial

/-- An answer to a failed call cannot be one to a successful call of the method
exactly if its data does not have the form of those. -/
theorem translateResponse_ne_iff (resourceMethod : String) {failed : ApiResponse}
    (failure : failed.retcode ≠ 0) :
    (∀ response : ApiResponse, response.retcode = 0 →
        translateResponse resourceMethod failed ≠ translateResponse resourceMethod response) ↔
      ¬ SuccessShape resourceMethod failed.data := by
  have handedOn : translateResponse resourceMethod failed = failed.data := by
    rw [translateResponse, if_pos failure]
  rw [handedOn, ← exists_translateData, not_exists]
  constructor
  · intro differ data same
    refine differ (.ok data) rfl ?_
    rw [← same]
    rfl
  · intro differ response success same
    refine differ response.data ?_
    rw [same, translateResponse, if_neg (not_not_intro success)]

end Shapes

end Ferroq.Gateway.Satori
