import Ferroq.Core.Validation
import Mathlib.Data.List.Nodup
import Mathlib.Data.List.TakeWhile

/-!
# What validation reports

The conditions on a configuration, said apart from the way they are checked.
The errors that validation reports are one for each condition that is violated
at some place, and none for anything else.
-/

namespace Ferroq.Core

def Blank (name : String) : Prop := ∀ char ∈ name.toList, isWhitespace char = true

/-- A URL with one of some schemes, which may be written in upper case too. -/
def HasScheme (schemes : List String) (url : String) : Prop :=
  ∃ scheme ∈ schemes, ∃ written rest,
    url.toList = written ++ "://".toList ++ rest ∧ written.map Char.toLower = scheme.toList

def UrlUsable (url : String) : Prop := url ≠ "" ∧ HasScheme ["ws", "wss", "http", "https"] url

/-- A place of a configuration with something wrong there. -/
inductive Violation where
  | port
  | host
  | blankName (index : Nat)
  | repeatedName (index : Nat) (name : String)
  | backendUrl (index : Nat) (url : String)
  | fallbackUrl (index : Nat) (url : String)
  | wsReverseUrl (index : Nat)
  | httpPostUrl (index : Nat)

def urlIssue (path url : String) : ValidationIssue :=
  if url.isEmpty then ⟨.error, s!"{path}.url", "backend URL must not be empty"⟩
  else ⟨.error, s!"{path}.url",
    "invalid URL scheme in \"" ++ url ++ "\". Expected ws://, wss://, http://, or https://"⟩

def accountPath (index : Nat) : String := s!"accounts[{index}]"

def Violation.issue : Violation → ValidationIssue
  | .port => ⟨.error, "server.port", "port must be > 0"⟩
  | .host => ⟨.error, "server.host", "host must not be empty"⟩
  | .blankName index => ⟨.error, s!"{accountPath index}.name", "account name must not be empty"⟩
  | .repeatedName index name =>
      ⟨.error, s!"{accountPath index}.name", "duplicate account name: \"" ++ name ++ "\""⟩
  | .backendUrl index url => urlIssue s!"{accountPath index}.backend" url
  | .fallbackUrl index url => urlIssue s!"{accountPath index}.fallback" url
  | .wsReverseUrl index =>
      ⟨.error, s!"protocols.onebot_v11.ws_reverse[{index}].url",
        "reverse WS target URL must not be empty"⟩
  | .httpPostUrl index =>
      ⟨.error, s!"protocols.onebot_v11.http_post[{index}].url",
        "HTTP POST target URL must not be empty"⟩

def EnabledV11 (config : AppConfig) (onebot : OneBotV11Config) : Prop :=
  config.protocols.onebotV11 = some onebot ∧ onebot.enabled = true

def Violated (config : AppConfig) : Violation → Prop
  | .port => config.server.port = 0
  | .host => config.server.host = ""
  | .blankName index =>
      ∃ account, config.accounts[index]? = some account ∧ Blank account.name
  | .repeatedName index name =>
      ∃ account, config.accounts[index]? = some account ∧
        account.name ∈ (config.accounts.take index).map AccountConfig.name ∧ name = account.name
  | .backendUrl index url =>
      ∃ account, config.accounts[index]? = some account ∧ ¬ UrlUsable account.backend.url ∧
        url = account.backend.url
  | .fallbackUrl index url =>
      ∃ account fallback, config.accounts[index]? = some account ∧
        account.fallback = some fallback ∧ ¬ UrlUsable fallback.url ∧ url = fallback.url
  | .wsReverseUrl index =>
      ∃ onebot target, EnabledV11 config onebot ∧ onebot.wsReverse[index]? = some target ∧
        target.url = ""
  | .httpPostUrl index =>
      ∃ onebot target, EnabledV11 config onebot ∧ onebot.httpPost[index]? = some target ∧
        target.url = ""

/-- A configuration as it is asked for. -/
structure Acceptable (config : AppConfig) : Prop where
  port : config.server.port ≠ 0
  host : config.server.host ≠ ""
  names : ∀ account ∈ config.accounts, ¬ Blank account.name
  distinct : (config.accounts.map AccountConfig.name).Nodup
  urls : ∀ account ∈ config.accounts, UrlUsable account.backend.url ∧
    ∀ fallback ∈ account.fallback, UrlUsable fallback.url
  targets : ∀ onebot, EnabledV11 config onebot →
    (∀ target ∈ onebot.wsReverse, target.url ≠ "") ∧
      ∀ target ∈ onebot.httpPost, target.url ≠ ""

theorem toLower_eq_iff {char other : Char} (caseless : other ∈ "://".toList) :
    char.toLower = other ↔ char = other := by
  have points : other.val = 58 ∨ other.val = 47 := by
    simp only [String.reduceToList, List.mem_cons, List.not_mem_nil, or_false] at caseless
    rcases caseless with rfl | rfl | rfl <;> decide
  unfold Char.toLower
  split
  next upper =>
    obtain ⟨least, most⟩ := upper
    simp only [Char.ext_iff, ← UInt32.toNat_inj, UInt32.toNat_add]
    have low : 65 ≤ char.val.toNat := least
    have high : char.val.toNat ≤ 90 := most
    have shift : ('a'.val - 'A'.val).toNat = 32 := rfl
    have numbers : other.val.toNat = 58 ∨ other.val.toNat = 47 := by
      rcases points with point | point
      · exact .inl (congrArg UInt32.toNat point)
      · exact .inr (congrArg UInt32.toNat point)
    rw [shift]
    omega
  next => exact Iff.rfl

/-- The separator has no letters, so that it is written in one way only. -/
theorem map_toLower_eq_separator_iff (text : List Char) :
    text.map Char.toLower = "://".toList ↔ text = "://".toList := by
  constructor
  · intro lowered
    rw [← List.map_id text, ← lowered]
    apply List.map_congr_left
    intro char member
    have caseless : char.toLower ∈ "://".toList := lowered ▸ List.mem_map_of_mem member
    exact (toLower_eq_iff caseless).mp rfl
  · rintro rfl
    decide

theorem prefix_lowered_iff (scheme url : String) :
    (scheme ++ "://").toList <+: url.toList.map Char.toLower ↔
      ∃ written rest, url.toList = written ++ "://".toList ++ rest ∧
        written.map Char.toLower = scheme.toList := by
  rw [String.toList_append]
  constructor
  · rintro ⟨lowered, same⟩
    obtain ⟨front, rest, text, fronts, -⟩ := List.map_eq_append_iff.mp same.symm
    obtain ⟨written, separator, parts, schemes, separators⟩ := List.map_eq_append_iff.mp fronts
    rw [map_toLower_eq_separator_iff] at separators
    exact ⟨written, rest, by rw [text, parts, separators], schemes⟩
  · rintro ⟨written, rest, text, schemes⟩
    refine ⟨rest.map Char.toLower, ?_⟩
    rw [text, List.map_append, List.map_append, schemes,
      (map_toLower_eq_separator_iff _).mpr rfl]

theorem hasValidScheme_iff (url : String) :
    hasValidScheme url = true ↔ HasScheme ["ws", "wss", "http", "https"] url := by
  have schemes : validSchemes = ["ws", "wss", "http", "https"].map (· ++ "://") := by decide
  unfold hasValidScheme HasScheme
  rw [schemes, List.any_map, List.any_eq_true]
  simp only [Function.comp_apply, List.isPrefixOf_iff_prefix, prefix_lowered_iff]

theorem urlAccepted_iff (url : String) : urlAccepted url = true ↔ UrlUsable url := by
  rw [urlAccepted, Bool.and_eq_true, hasValidScheme_iff, UrlUsable]
  simp

theorem nameAccepted_iff (name : String) : nameAccepted name = true ↔ ¬ Blank name := by
  have visible : (∃ char ∈ name.toList.dropWhile isWhitespace, isWhitespace char = false) ↔
      ∃ char ∈ name.toList, isWhitespace char = false := by
    constructor
    · rintro ⟨char, member, shown⟩
      exact ⟨char, (List.dropWhile_sublist _).mem member, shown⟩
    · rintro ⟨char, member, shown⟩
      rw [← List.takeWhile_append_dropWhile (p := isWhitespace) (l := name.toList),
        List.mem_append] at member
      rcases member with cut | kept
      · rw [List.mem_takeWhile_imp cut] at shown
        cases shown
      · exact ⟨char, kept, shown⟩
  simpa [nameAccepted, trim, trimEndMatches, Blank] using visible

def errors (issues : List ValidationIssue) : List ValidationIssue :=
  issues.filter fun issue => issue.severity = .error

def violationIf (violated : Bool) (violation : Violation) : List Violation :=
  if violated then [violation] else []

/-- The violations of one account, given the names before it. -/
def accountViolations (earlier : List String) (account : AccountConfig) (index : Nat) :
    List Violation :=
  violationIf (!nameAccepted account.name) (.blankName index) ++
    violationIf (earlier.contains account.name) (.repeatedName index account.name) ++
    violationIf (!urlAccepted account.backend.url) (.backendUrl index account.backend.url) ++
    match account.fallback with
    | some fallback => violationIf (!urlAccepted fallback.url) (.fallbackUrl index fallback.url)
    | none => []

def targetViolations (violation : Nat → Violation) (urls : List String) : List Violation :=
  urls.zipIdx.flatMap fun (url, index) => violationIf url.isEmpty (violation index)

def onebotViolations (onebot : OneBotV11Config) : List Violation :=
  targetViolations .wsReverseUrl (onebot.wsReverse.map WsReverseTarget.url) ++
    targetViolations .httpPostUrl (onebot.httpPost.map HttpPostTarget.url)

def violations (config : AppConfig) : List Violation :=
  violationIf (config.server.port = 0) .port ++
    violationIf config.server.host.isEmpty .host ++
    (config.accounts.zipIdx.flatMap fun (account, index) =>
      accountViolations ((config.accounts.take index).map AccountConfig.name) account index) ++
    match config.protocols.onebotV11 with
    | some onebot => if onebot.enabled then onebotViolations onebot else []
    | none => []

section

@[simp]
theorem errors_nil : errors [] = [] := rfl

@[simp]
theorem errors_append (issues others : List ValidationIssue) :
    errors (issues ++ others) = errors issues ++ errors others :=
  List.filter_append ..

@[simp]
theorem errors_issueIf_warning (reported : Bool) (path message : String) :
    errors (issueIf reported .warning path message) = [] := by
  cases reported <;> rfl

theorem errors_issueIf (violated : Bool) (violation : Violation) {path message : String}
    (same : violation.issue = ⟨.error, path, message⟩) :
    errors (issueIf violated .error path message) =
      (violationIf violated violation).map Violation.issue := by
  cases violated
  · rfl
  · rw [violationIf, if_pos rfl, List.map_singleton, same]
    rfl

theorem errors_validateBackend (backend : BackendConfig) (violation : Violation) {path : String}
    (same : violation.issue = urlIssue path backend.url) :
    errors (validateBackend backend path) =
      (violationIf (!urlAccepted backend.url) violation).map Violation.issue := by
  unfold urlIssue at same
  simp only [validateBackend, errors_append, errors_issueIf_warning, List.nil_append,
    List.append_nil, urlAccepted]
  cases empty : backend.url.isEmpty with
  | true =>
      rw [empty, if_pos rfl] at same
      rw [if_pos rfl, errors_issueIf true violation same]
      rfl
  | false =>
      rw [empty, if_neg Bool.false_ne_true] at same
      rw [if_neg Bool.false_ne_true, errors_issueIf _ violation same]
      rfl

theorem errors_account (earlier : List String) (account : AccountConfig) (index : Nat) :
    errors
        (issueIf (!nameAccepted account.name) .error s!"{accountPath index}.name"
            "account name must not be empty" ++
          issueIf (earlier.contains account.name) .error s!"{accountPath index}.name"
            ("duplicate account name: \"" ++ account.name ++ "\"") ++
          validateBackend account.backend s!"{accountPath index}.backend" ++
          validateFallback account.fallback s!"{accountPath index}.fallback") =
      (accountViolations earlier account index).map Violation.issue := by
  unfold accountViolations validateFallback
  simp only [errors_append, List.map_append]
  rw [errors_issueIf _ (.blankName index) rfl,
    errors_issueIf _ (.repeatedName index account.name) rfl,
    errors_validateBackend account.backend (.backendUrl index account.backend.url) rfl]
  cases account.fallback with
  | none => rfl
  | some fallback =>
      rw [errors_validateBackend fallback (.fallbackUrl index fallback.url) rfl]

theorem errors_flatMap {Item : Type} (items : List Item) (check : Item → List ValidationIssue) :
    errors (items.flatMap check) = items.flatMap fun item => errors (check item) :=
  List.filter_flatMap ..

theorem errors_validateAccountsFrom (before accounts : List AccountConfig)
    (seenNames : List String)
    (seen : ∀ name, seenNames.contains name = (before.map AccountConfig.name).contains name) :
    errors (validateAccountsFrom before.length seenNames accounts) =
      ((accounts.zipIdx before.length).flatMap fun (account, index) =>
        accountViolations (((before ++ accounts).take index).map AccountConfig.name) account
          index).map Violation.issue := by
  induction accounts generalizing before seenNames with
  | nil => rfl
  | cons account rest inductionHypothesis =>
      have later := inductionHypothesis (before ++ [account]) (account.name :: seenNames) (by
        intro name
        rw [List.contains_cons, seen, List.map_append, List.contains_append, Bool.or_comm,
          List.map_singleton, List.contains_cons, List.contains_nil, Bool.or_false])
      rw [List.length_append, List.length_singleton, List.append_assoc,
        List.singleton_append] at later
      simp only [validateAccountsFrom, errors_append, List.zipIdx_cons, List.flatMap_cons,
        List.map_append, later, List.take_left, seen]
      rw [← errors_account]
      simp only [errors_append]
      rfl

theorem errors_validateAccounts (accounts : List AccountConfig) :
    errors (validateAccounts accounts) =
      (accounts.zipIdx.flatMap fun (account, index) =>
        accountViolations ((accounts.take index).map AccountConfig.name) account
          index).map Violation.issue := by
  cases accounts with
  | nil => rfl
  | cons account rest =>
      exact errors_validateAccountsFrom [] (account :: rest) [] fun name => rfl

theorem errors_validateTargets (field message : String) (violation : Nat → Violation)
    (urls : List String)
    (same : ∀ index, (violation index).issue =
      ⟨.error, s!"protocols.onebot_v11.{field}[{index}].url", message⟩) :
    errors (validateTargets field message urls) =
      (targetViolations violation urls).map Violation.issue := by
  unfold validateTargets targetViolations
  rw [errors_flatMap, List.map_flatMap]
  congr 1
  funext entry
  exact errors_issueIf _ _ (same entry.2)

theorem errors_validateOnebotV11 (onebot : OneBotV11Config) :
    errors (validateOnebotV11 onebot) = (onebotViolations onebot).map Violation.issue := by
  unfold validateOnebotV11 onebotViolations
  simp only [errors_append, errors_issueIf_warning, List.nil_append, List.map_append]
  rw [errors_validateTargets "ws_reverse" _ .wsReverseUrl _ fun index => ?_,
    errors_validateTargets "http_post" _ .httpPostUrl _ fun index => ?_]
  · rfl
  · rfl

theorem errors_validate (config : AppConfig) :
    errors (validate config) = (violations config).map Violation.issue := by
  unfold validate validateServer validateProtocols violations
  simp only [errors_append, errors_issueIf_warning, List.nil_append, errors_validateAccounts,
    List.map_append]
  rw [errors_issueIf _ .port rfl, errors_issueIf _ .host rfl]
  cases config.protocols.onebotV11 with
  | none => rfl
  | some onebot =>
      cases enabled : onebot.enabled with
      | false => simp [enabled]
      | true => simp [enabled, errors_validateOnebotV11]

end

@[simp]
theorem mem_violationIf {violated : Bool} {violation other : Violation} :
    other ∈ violationIf violated violation ↔ violated = true ∧ other = violation := by
  cases violated <;> simp [violationIf]

theorem mem_targetViolations {violation : Nat → Violation} {urls : List String}
    {other : Violation} :
    other ∈ targetViolations violation urls ↔
      ∃ index, urls[index]? = some "" ∧ other = violation index := by
  simp only [targetViolations, List.mem_flatMap, mem_violationIf, Prod.exists,
    List.mk_mem_zipIdx_iff_getElem?]
  constructor
  · rintro ⟨url, index, found, empty, same⟩
    rw [String.isEmpty_iff] at empty
    exact ⟨index, empty ▸ found, same⟩
  · rintro ⟨index, found, same⟩
    exact ⟨"", index, found, rfl, same⟩

theorem mem_accountViolations {earlier : List String} {account : AccountConfig} {index : Nat}
    {other : Violation} :
    other ∈ accountViolations earlier account index ↔
      Blank account.name ∧ other = .blankName index ∨
      account.name ∈ earlier ∧ other = .repeatedName index account.name ∨
      ¬ UrlUsable account.backend.url ∧ other = .backendUrl index account.backend.url ∨
      ∃ fallback, account.fallback = some fallback ∧ ¬ UrlUsable fallback.url ∧
        other = .fallbackUrl index fallback.url := by
  unfold accountViolations
  have blank : (!nameAccepted account.name) = true ↔ Blank account.name := by
    rw [Bool.not_eq_true', ← Bool.not_eq_true, nameAccepted_iff, not_not]
  have unusable (url : String) : (!urlAccepted url) = true ↔ ¬ UrlUsable url := by
    rw [Bool.not_eq_true', ← Bool.not_eq_true, urlAccepted_iff]
  simp only [List.mem_append, mem_violationIf, blank, unusable, List.contains_iff_mem, or_assoc]
  cases account.fallback with
  | none => simp
  | some fallback => simp [unusable]

theorem mem_onebotViolations {onebot : OneBotV11Config} {other : Violation} :
    other ∈ onebotViolations onebot ↔
      (∃ index target, onebot.wsReverse[index]? = some target ∧ target.url = "" ∧
        other = .wsReverseUrl index) ∨
      ∃ index target, onebot.httpPost[index]? = some target ∧ target.url = "" ∧
        other = .httpPostUrl index := by
  simp only [onebotViolations, List.mem_append, mem_targetViolations, List.getElem?_map,
    Option.map_eq_some_iff, ← exists_and_right, and_assoc]

/-- A violation is listed exactly if it is one. -/
theorem mem_violations_iff (config : AppConfig) (violation : Violation) :
    violation ∈ violations config ↔ Violated config violation := by
  have accounts : (violation ∈ config.accounts.zipIdx.flatMap fun (account, index) =>
        accountViolations ((config.accounts.take index).map AccountConfig.name) account index) ↔
      ∃ index account, config.accounts[index]? = some account ∧
        violation ∈ accountViolations ((config.accounts.take index).map AccountConfig.name)
          account index := by
    simp only [List.mem_flatMap, Prod.exists, List.mk_mem_zipIdx_iff_getElem?]
    exact exists_comm
  have onebot : (violation ∈ match config.protocols.onebotV11 with
        | some onebot => if onebot.enabled then onebotViolations onebot else []
        | none => []) ↔
      ∃ onebot, EnabledV11 config onebot ∧ violation ∈ onebotViolations onebot := by
    unfold EnabledV11
    cases config.protocols.onebotV11 with
    | none => simp
    | some onebot => cases enabled : onebot.enabled <;> simp [enabled]
  unfold violations
  rw [List.mem_append, List.mem_append, List.mem_append, accounts, onebot]
  simp only [mem_violationIf, mem_accountViolations, mem_onebotViolations, decide_eq_true_eq,
    String.isEmpty_iff]
  cases violation <;> simp [Violated]

def Violation.position : Violation → Nat
  | .port | .host => 0
  | .blankName index | .repeatedName index _ | .backendUrl index _ | .fallbackUrl index _
  | .wsReverseUrl index | .httpPostUrl index => index

/-- A list built from the places of another one repeats nothing if what it has of
each place does not, and tells the place. -/
theorem nodup_flatMap_zipIdx {Item : Type} (items : List Item)
    (check : Item × Nat → List Violation) (each : ∀ entry, (check entry).Nodup)
    (placed : ∀ entry, ∀ violation ∈ check entry, violation.position = entry.2) :
    (items.zipIdx.flatMap check).Nodup := by
  have places : items.zipIdx.Pairwise fun first second => first.2 ≠ second.2 := by
    have indices : (items.zipIdx.map Prod.snd).Nodup := by
      rw [List.zipIdx_map_snd]
      exact List.nodup_range'
    exact List.pairwise_map.mp indices
  refine List.nodup_flatMap.mpr ⟨fun entry _ => each entry, places.imp ?_⟩
  intro first second apart violation inFirst inSecond
  exact apart ((placed first violation inFirst).symm.trans (placed second violation inSecond))

theorem nodup_violationIf (violated : Bool) (violation : Violation) :
    (violationIf violated violation).Nodup := by
  cases violated <;> simp [violationIf]

theorem nodup_targetViolations (violation : Nat → Violation) (urls : List String)
    (placed : ∀ index, (violation index).position = index) :
    (targetViolations violation urls).Nodup := by
  apply nodup_flatMap_zipIdx
  · intro entry
    exact nodup_violationIf _ _
  · intro entry other member
    rw [(mem_violationIf.mp member).2, placed]

/-- The rank of the check that finds a violation. -/
def Violation.rank : Violation → Nat
  | .port => 0
  | .host => 1
  | .blankName _ => 2
  | .repeatedName _ _ => 3
  | .backendUrl _ _ => 4
  | .fallbackUrl _ _ => 5
  | .wsReverseUrl _ => 6
  | .httpPostUrl _ => 7

theorem nodup_append_of_rank {first second : List Violation} (bound : Nat)
    (below : ∀ violation ∈ first, violation.rank < bound)
    (above : ∀ violation ∈ second, bound ≤ violation.rank) (nodup : first.Nodup)
    (nodup' : second.Nodup) : (first ++ second).Nodup := by
  refine List.nodup_append.mpr ⟨nodup, nodup', ?_⟩
  rintro violation inFirst other inSecond rfl
  exact absurd (below violation inFirst) (Nat.not_lt.mpr (above violation inSecond))

theorem nodup_append_violationIf {first : List Violation} (violated : Bool)
    (violation : Violation) (below : ∀ other ∈ first, other.rank < violation.rank)
    (nodup : first.Nodup) : (first ++ violationIf violated violation).Nodup := by
  apply nodup_append_of_rank violation.rank below _ nodup (nodup_violationIf _ _)
  intro other member
  rw [(mem_violationIf.mp member).2]

theorem rank_of_mem_accountViolations {earlier : List String} {account : AccountConfig}
    {index : Nat} {violation : Violation}
    (member : violation ∈ accountViolations earlier account index) :
    2 ≤ violation.rank ∧ violation.rank < 6 ∧ violation.position = index := by
  rcases mem_accountViolations.mp member with
    ⟨-, rfl⟩ | ⟨-, rfl⟩ | ⟨-, rfl⟩ | ⟨fallback, -, -, rfl⟩
  all_goals simp [Violation.rank, Violation.position]

theorem nodup_accountViolations (earlier : List String) (account : AccountConfig) (index : Nat) :
    (accountViolations earlier account index).Nodup := by
  have own : (violationIf (!nameAccepted account.name) (.blankName index) ++
      violationIf (earlier.contains account.name) (.repeatedName index account.name) ++
      violationIf (!urlAccepted account.backend.url)
        (.backendUrl index account.backend.url)).Nodup := by
    apply nodup_append_violationIf
    · intro other member
      rcases List.mem_append.mp member with blank | repeated
      · rw [(mem_violationIf.mp blank).2]
        simp [Violation.rank]
      · rw [(mem_violationIf.mp repeated).2]
        simp [Violation.rank]
    · apply nodup_append_violationIf
      · intro other member
        rw [(mem_violationIf.mp member).2]
        simp [Violation.rank]
      · exact nodup_violationIf _ _
  unfold accountViolations
  cases account.fallback with
  | none => rwa [List.append_nil]
  | some fallback =>
      apply nodup_append_violationIf _ _ _ own
      intro other member
      simp only [List.mem_append, mem_violationIf] at member
      rcases member with (⟨-, rfl⟩ | ⟨-, rfl⟩) | ⟨-, rfl⟩ <;> simp [Violation.rank]

theorem nodup_onebotViolations (onebot : OneBotV11Config) :
    (onebotViolations onebot).Nodup := by
  unfold onebotViolations
  apply nodup_append_of_rank 7
  · intro violation member
    obtain ⟨index, -, rfl⟩ := mem_targetViolations.mp member
    simp [Violation.rank]
  · intro violation member
    obtain ⟨index, -, rfl⟩ := mem_targetViolations.mp member
    simp [Violation.rank]
  · exact nodup_targetViolations _ _ fun index => rfl
  · exact nodup_targetViolations _ _ fun index => rfl

theorem six_le_rank_of_mem_onebotViolations {onebot : OneBotV11Config} {violation : Violation}
    (member : violation ∈ onebotViolations onebot) : 6 ≤ violation.rank := by
  rcases mem_onebotViolations.mp member with
    ⟨index, target, -, -, rfl⟩ | ⟨index, target, -, -, rfl⟩
  all_goals simp [Violation.rank]

theorem nodup_violations (config : AppConfig) : (violations config).Nodup := by
  have server : (violationIf (config.server.port = 0) .port ++
      violationIf config.server.host.isEmpty .host).Nodup := by
    apply nodup_append_violationIf
    · intro other member
      rw [(mem_violationIf.mp member).2]
      simp [Violation.rank]
    · exact nodup_violationIf _ _
  have accounts : (config.accounts.zipIdx.flatMap fun (account, index) =>
      accountViolations ((config.accounts.take index).map AccountConfig.name) account
        index).Nodup := by
    apply nodup_flatMap_zipIdx
    · intro entry
      exact nodup_accountViolations _ _ _
    · intro entry violation member
      exact (rank_of_mem_accountViolations member).2.2
  have ofAccounts : ∀ violation ∈ config.accounts.zipIdx.flatMap fun (account, index) =>
      accountViolations ((config.accounts.take index).map AccountConfig.name) account index,
      2 ≤ violation.rank ∧ violation.rank < 6 := by
    intro violation member
    obtain ⟨entry, -, listed⟩ := List.mem_flatMap.mp member
    obtain ⟨least, most, -⟩ := rank_of_mem_accountViolations listed
    exact ⟨least, most⟩
  have ofServer : ∀ violation ∈ violationIf (config.server.port = 0) .port ++
      violationIf config.server.host.isEmpty .host, violation.rank < 2 := by
    intro violation member
    simp only [List.mem_append, mem_violationIf] at member
    rcases member with ⟨-, rfl⟩ | ⟨-, rfl⟩ <;> simp [Violation.rank]
  unfold violations
  apply nodup_append_of_rank 6
  · intro violation member
    rcases List.mem_append.mp member with inServer | inAccounts
    · exact Nat.lt_trans (ofServer violation inServer) (by decide)
    · exact (ofAccounts violation inAccounts).2
  · intro violation member
    cases found : config.protocols.onebotV11 with
    | none => simp [found] at member
    | some onebot =>
        cases enabled : onebot.enabled with
        | false => simp [found, enabled] at member
        | true =>
            simp only [found, enabled, if_true] at member
            exact six_le_rank_of_mem_onebotViolations member
  · exact nodup_append_of_rank 2 ofServer (fun violation member =>
      (ofAccounts violation member).1) server accounts
  · cases config.protocols.onebotV11 with
    | none => exact List.nodup_nil
    | some onebot =>
        cases enabled : onebot.enabled with
        | false => simp [enabled]
        | true => simpa [enabled] using nodup_onebotViolations onebot

theorem nodup_names_iff (accounts : List AccountConfig) :
    (accounts.map AccountConfig.name).Nodup ↔
      ∀ index account, accounts[index]? = some account →
        account.name ∉ (accounts.take index).map AccountConfig.name := by
  constructor
  · intro distinct index account found earlier
    obtain ⟨inside, same⟩ := List.getElem?_eq_some_iff.mp found
    rw [← List.take_append_drop index accounts, List.map_append, List.nodup_append] at distinct
    have later : account.name ∈ (accounts.drop index).map AccountConfig.name := by
      rw [← same, List.drop_eq_getElem_cons inside]
      exact List.mem_cons_self
    exact distinct.2.2 _ earlier _ later rfl
  · intro fresh
    rw [List.Nodup, List.pairwise_map, List.pairwise_iff_getElem]
    intro first second inside inside' less same
    apply fresh second accounts[second] (List.getElem?_eq_getElem inside')
    rw [← same]
    exact List.mem_map_of_mem (List.mem_take_iff_getElem.mpr ⟨first, by omega, rfl⟩)

/-- A configuration is accepted exactly if it is as it is asked for. -/
theorem acceptable_iff (config : AppConfig) :
    Acceptable config ↔ ∀ violation, ¬ Violated config violation := by
  constructor
  · intro acceptable violation violated
    cases violation with
    | port => exact acceptable.port violated
    | host => exact acceptable.host violated
    | blankName index =>
        obtain ⟨account, found, blank⟩ := violated
        exact acceptable.names account (List.mem_of_getElem? found) blank
    | repeatedName index name =>
        obtain ⟨account, found, earlier, -⟩ := violated
        exact (nodup_names_iff _).mp acceptable.distinct index account found earlier
    | backendUrl index url =>
        obtain ⟨account, found, unusable, -⟩ := violated
        exact unusable (acceptable.urls account (List.mem_of_getElem? found)).1
    | fallbackUrl index url =>
        obtain ⟨account, fallback, found, present, unusable, -⟩ := violated
        exact unusable ((acceptable.urls account (List.mem_of_getElem? found)).2 fallback present)
    | wsReverseUrl index =>
        obtain ⟨onebot, target, enabled, found, empty⟩ := violated
        exact (acceptable.targets onebot enabled).1 target (List.mem_of_getElem? found) empty
    | httpPostUrl index =>
        obtain ⟨onebot, target, enabled, found, empty⟩ := violated
        exact (acceptable.targets onebot enabled).2 target (List.mem_of_getElem? found) empty
  · intro clean
    constructor
    · exact clean .port
    · exact clean .host
    · intro account member blank
      obtain ⟨index, found⟩ := List.mem_iff_getElem?.mp member
      exact clean (.blankName index) ⟨account, found, blank⟩
    · rw [nodup_names_iff]
      intro index account found earlier
      exact clean (.repeatedName index account.name) ⟨account, found, earlier, rfl⟩
    · intro account member
      obtain ⟨index, found⟩ := List.mem_iff_getElem?.mp member
      constructor
      · by_contra unusable
        exact clean (.backendUrl index account.backend.url) ⟨account, found, unusable, rfl⟩
      · intro fallback present
        by_contra unusable
        exact clean (.fallbackUrl index fallback.url)
          ⟨account, fallback, found, present, unusable, rfl⟩
    · intro onebot enabled
      constructor
      · intro target member empty
        obtain ⟨index, found⟩ := List.mem_iff_getElem?.mp member
        exact clean (.wsReverseUrl index) ⟨onebot, target, enabled, found, empty⟩
      · intro target member empty
        obtain ⟨index, found⟩ := List.mem_iff_getElem?.mp member
        exact clean (.httpPostUrl index) ⟨onebot, target, enabled, found, empty⟩

/-- Validation reports an error exactly if the configuration is not as it is
asked for, and its errors are one for each violation. -/
theorem validate_complete (config : AppConfig) :
    (hasErrors (validate config) = false ↔ Acceptable config) ∧
      ∃ listed : List Violation, listed.Nodup ∧
        (∀ violation, violation ∈ listed ↔ Violated config violation) ∧
        errors (validate config) = listed.map Violation.issue := by
  refine ⟨?_, violations config, nodup_violations config, mem_violations_iff config,
    errors_validate config⟩
  have noErrors : hasErrors (validate config) = false ↔ errors (validate config) = [] := by
    simp [hasErrors, errors]
  rw [noErrors, errors_validate, List.map_eq_nil_iff, List.eq_nil_iff_forall_not_mem,
    acceptable_iff]
  exact forall_congr' fun violation => not_congr (mem_violations_iff config violation)

end Ferroq.Core
