import Ferroq.Library.FormUrlencoded
import Ferroq.Gateway.Server.OneBot

/-!
# The middleware's token check

The management API compares the value of `access_token` with the token as it is
written in the query.  The OneBot servers get the query through an extractor
that decodes it.  The two agree on plain values.
-/

namespace Ferroq.Gateway.Middleware

open Ferroq.Library.FormUrlencoded
open Ferroq.Gateway.Server

structure Request where
  authorization : Option String
  query : Option String

def accessToken : List Char := "access_token".toList

/-- The middleware's `check_token`: whether the request is passed on. -/
def checkToken (token : String) (request : Request) : Bool :=
  token.isEmpty ||
    (request.authorization.any fun value =>
      stripStart "Bearer " value == some token || value == token) ||
    (request.query.any fun query =>
      (query.toList.splitOn '&').any fun pair =>
        splitOnce '=' pair == some (accessToken, token.toList))

/-- The extractor of `AuthQuery`; a repeated field is refused. -/
def AuthQuery.fromQuery (query : Option String) : Option (Option String) :=
  match (parse ((query.getD "").toList)).filter fun pair => pair.1 = accessToken with
  | [] => some none
  | [(_, value)] => some (some (String.ofList value))
  | _ => none

/-- A OneBot server's reading of a request, with the schemes of its header. -/
def oneBotAccepts (schemes : List String) (token : String) (request : Request) : Bool :=
  match AuthQuery.fromQuery request.query with
  | none => false
  | some queryToken =>
      checkAccessToken schemes token
        { authorization := request.authorization, queryToken := queryToken, body := "" }

def oneBotV11Accepts : String → Request → Bool := oneBotAccepts ["Bearer ", "Token "]

def oneBotV12Accepts : String → Request → Bool := oneBotAccepts ["Bearer "]

/-- The query has exactly one parameter called `access_token`, written as this
name and value. -/
def SingleToken (query : String) (name value : List Char) : Prop :=
  (parameters query.toList).filter (fun pair => formDecode pair.1 = accessToken) = [(name, value)]

theorem formDecode_accessToken : formDecode accessToken = accessToken := by
  rw [formDecode_eq_self_iff]
  unfold accessToken
  exact plain_of_not_mem (by simp) (by simp)

theorem mem_parameters_iff {query name value : List Char} (held : value ≠ []) :
    (name, value) ∈ parameters query ↔
      ∃ pair ∈ query.splitOn '&', splitOnce '=' pair = some (name, value) := by
  simp only [parameters, List.mem_map, List.mem_filter, decide_eq_true_eq]
  constructor
  · rintro ⟨sequence, ⟨isPart, -⟩, split⟩
    cases halves : splitOnce '=' sequence with
    | none =>
        simp only [halves, Option.getD_none, Prod.mk.injEq] at split
        exact absurd split.2.symm held
    | some parts =>
        simp only [halves, Option.getD_some] at split
        exact ⟨sequence, isPart, by rw [halves, split]⟩
  · rintro ⟨sequence, isPart, halves⟩
    refine ⟨sequence, ⟨isPart, ?_⟩, by rw [halves]; rfl⟩
    rintro rfl
    have undivided : splitOnce '=' [] = none := rfl
    rw [undivided] at halves
    cases halves

section Single

variable {token query : String} {name value : List Char}

theorem SingleToken.name_decodes (single : SingleToken query name value) :
    formDecode name = accessToken := by
  have member : (name, value) ∈ (parameters query.toList).filter
      fun pair => formDecode pair.1 = accessToken := by
    rw [single]
    exact List.mem_singleton_self _
  simpa using (List.mem_filter.mp member).2

theorem SingleToken.fromQuery (single : SingleToken query name value) :
    AuthQuery.fromQuery (some query) = some (some (String.ofList (formDecode value))) := by
  have found : (parse query.toList).filter (fun pair => pair.1 = accessToken) =
      [(formDecode name, formDecode value)] := by
    rw [parse, List.filter_map]
    exact congrArg _ single
  simp [AuthQuery.fromQuery, found]

/-- The OneBot servers compare the decoded value. -/
theorem SingleToken.oneBotAccepts_iff (schemes : List String) (configured : token ≠ "")
    (single : SingleToken query name value) :
    oneBotAccepts schemes token ⟨none, some query⟩ = true ↔ formDecode value = token.toList := by
  have notEmpty : token.isEmpty = false := by simpa using configured
  simp only [oneBotAccepts, single.fromQuery, checkAccessToken, notEmpty, Option.bind_none,
    Bool.false_or, Bool.or_eq_true, beq_iff_eq, Option.some.injEq, reduceCtorEq, false_or]
  exact ⟨fun same => by rw [← same, String.toList_ofList],
    fun same => by rw [same, String.ofList_toList]⟩

/-- The middleware compares the name and the value as they are written. -/
theorem SingleToken.checkToken_iff (configured : token ≠ "")
    (single : SingleToken query name value) :
    checkToken token ⟨none, some query⟩ = true ↔ name = accessToken ∧ value = token.toList := by
  have notEmpty : token.isEmpty = false := by simpa using configured
  have held : token.toList ≠ [] := by simpa using configured
  simp only [checkToken, notEmpty, Option.any_none, Option.any_some, Bool.false_or,
    List.any_eq_true, beq_iff_eq]
  rw [← mem_parameters_iff held]
  constructor
  · intro member
    have found : (accessToken, token.toList) ∈ (parameters query.toList).filter
        fun pair => formDecode pair.1 = accessToken :=
      List.mem_filter.mpr ⟨member, by simpa using formDecode_accessToken⟩
    rw [single, List.mem_singleton, Prod.mk.injEq] at found
    exact ⟨found.1.symm, found.2.symm⟩
  · rintro ⟨rfl, rfl⟩
    have found : (accessToken, token.toList) ∈ (parameters query.toList).filter
        fun pair => formDecode pair.1 = accessToken := by
      rw [single]
      exact List.mem_singleton_self _
    exact (List.mem_filter.mp found).1

/-- The middleware and the OneBot servers agree on a request with a single
`access_token` exactly if its name and value are plain, or the value is the
token neither as it is written nor decoded. -/
theorem checkToken_agrees_iff (configured : token ≠ "") (single : SingleToken query name value) :
    ((checkToken token ⟨none, some query⟩ = oneBotV11Accepts token ⟨none, some query⟩) ∧
      checkToken token ⟨none, some query⟩ = oneBotV12Accepts token ⟨none, some query⟩) ↔
      (Plain name ∧ Plain value) ∨
        (¬ (name = accessToken ∧ value = token.toList) ∧ formDecode value ≠ token.toList) := by
  have plainName : Plain name ↔ name = accessToken := by
    rw [← formDecode_eq_self_iff, single.name_decodes, eq_comm]
  have compares (schemes : List String) :
      checkToken token ⟨none, some query⟩ = oneBotAccepts schemes token ⟨none, some query⟩ ↔
        (name = accessToken ∧ value = token.toList ↔ formDecode value = token.toList) := by
    rw [← single.oneBotAccepts_iff schemes configured, ← single.checkToken_iff configured]
    exact Bool.eq_iff_iff
  rw [oneBotV11Accepts, oneBotV12Accepts, compares, compares, and_self, plainName]
  by_cases plainValue : Plain value
  · have same := (formDecode_eq_self_iff value).mpr plainValue
    rw [same]
    tauto
  · have differs : formDecode value ≠ value := fun same =>
      plainValue ((formDecode_eq_self_iff value).mp same)
    constructor
    · intro agree
      refine .inr ⟨fun written => ?_, fun decoded => ?_⟩
      · exact differs ((agree.mp written).trans written.2.symm)
      · exact differs (decoded.trans (agree.mpr decoded).2.symm)
    · rintro (⟨-, plain⟩ | ⟨notWritten, notDecoded⟩)
      · exact absurd plain plainValue
      · exact iff_of_false notWritten notDecoded

end Single

theorem singleToken_secret :
    SingleToken "access_token=secret" "access_token".toList "secret".toList := by
  unfold SingleToken accessToken
  simp only [String.reduceToList]
  decide

theorem checkToken_agrees_iff_secret :
    (checkToken "secret" ⟨none, some "access_token=secret"⟩ =
        oneBotV11Accepts "secret" ⟨none, some "access_token=secret"⟩ ∧
      checkToken "secret" ⟨none, some "access_token=secret"⟩ =
        oneBotV12Accepts "secret" ⟨none, some "access_token=secret"⟩) ∧
      checkToken "secret" ⟨none, some "access_token=secret"⟩ = true := by
  have plainName : Plain "access_token".toList := plain_of_not_mem (by simp) (by simp)
  have plainValue : Plain "secret".toList := plain_of_not_mem (by simp) (by simp)
  exact ⟨(checkToken_agrees_iff (by decide) singleToken_secret).mpr (.inl ⟨plainName, plainValue⟩),
    (singleToken_secret.checkToken_iff (by decide)).mpr ⟨rfl, rfl⟩⟩

theorem singleToken_escapedPlus :
    SingleToken "access_token=a%2Bb" "access_token".toList "a%2Bb".toList := by
  unfold SingleToken accessToken
  simp only [String.reduceToList]
  decide

/-- The servers decode an escaped plus sign, the middleware does not. -/
theorem escapedPlus_refused :
    SingleToken "access_token=a%2Bb" "access_token".toList "a%2Bb".toList ∧
      formDecode "a%2Bb".toList = "a+b".toList ∧
      oneBotV11Accepts "a+b" ⟨none, some "access_token=a%2Bb"⟩ = true ∧
      oneBotV12Accepts "a+b" ⟨none, some "access_token=a%2Bb"⟩ = true ∧
      checkToken "a+b" ⟨none, some "access_token=a%2Bb"⟩ = false := by
  have decodes : formDecode "a%2Bb".toList = "a+b".toList := by
    simp only [String.reduceToList]
    decide
  have accepted (schemes : List String) :=
    (singleToken_escapedPlus.oneBotAccepts_iff schemes (show "a+b" ≠ "" by decide)).mpr decodes
  refine ⟨singleToken_escapedPlus, decodes, accepted _, accepted _, ?_⟩
  rw [Bool.eq_false_iff, ne_eq, singleToken_escapedPlus.checkToken_iff (by decide)]
  simp

end Ferroq.Gateway.Middleware
