import Ferroq.Library.Utf8
import Ferroq.Gateway.PluginEngine

/-!
# The host functions

A plugin hands results and log messages to the host as a pointer and a length
into its own memory.  Both are `i32`; the host widens them to `usize`, where a
negative number becomes a huge one, and adds them.  A sum that overflows panics
in debug builds and wraps in release builds.
-/

namespace Ferroq.Gateway.PluginEngine

open Ferroq.Library.Utf8

/-- A plugin's memory as the host sees it; a slice has at most `isize::MAX`
bytes. -/
structure LinearMemory where
  data : List UInt8
  fits : data.length < 2 ^ 63

inductive Build where
  | debug
  | release
  deriving DecidableEq

inductive LogLevel where
  | trace
  | debug
  | info
  | warn
  | error
  deriving DecidableEq

structure HostState where
  memory : Option LinearMemory
  resultBuffer : List UInt8
  logged : List (LogLevel × List Char) := []

inductive HostCall where
  | returned (outcome : Except String Unit) (state : HostState)
  | panicked

/-- `value as usize` on a 64-bit host. -/
def asUsize (value : Int32) : UInt64 := value.toInt64.toUInt64

/-- `first + second` on `usize`, unless it panics. -/
def Build.add (build : Build) (first second : UInt64) : Option UInt64 :=
  match build with
  | .debug => if first.toNat + second.toNat < 2 ^ 64 then some (first + second) else none
  | .release => some (first + second)

/-- `data[start..stop]`, unless it panics. -/
def slice (data : List UInt8) (start stop : UInt64) : Option (List UInt8) :=
  if start.toNat ≤ stop.toNat ∧ stop.toNat ≤ data.length then
    some ((data.take stop.toNat).drop start.toNat)
  else none

/-- The part that the host functions share: what is done with the bytes that
the guest points to. -/
def withGuestBytes (build : Build) (perform : List UInt8 → HostState → HostState)
    (ptr len : Int32) (state : HostState) : HostCall :=
  match state.memory with
  | none => .returned (.error "memory not initialized") state
  | some memory =>
      let start := asUsize ptr
      match build.add start (asUsize len) with
      | none => .panicked
      | some stop =>
          if stop.toNat > memory.data.length then
            .returned (.error "out of bounds memory access") state
          else
            match slice memory.data start stop with
            | none => .panicked
            | some bytes => .returned (.ok ()) (perform bytes state)

def setResult (bytes : List UInt8) (state : HostState) : HostState :=
  { state with resultBuffer := bytes }

def LogLevel.ofI32 (level : Int32) : LogLevel :=
  if level = 0 then .trace
  else if level = 1 then .debug
  else if level = 2 then .info
  else if level = 3 then .warn
  else .error

def log (level : Int32) (bytes : List UInt8) (state : HostState) : HostState :=
  { state with logged := state.logged ++ [(.ofI32 level, fromUtf8Lossy bytes)] }

def ferroqSetResult (build : Build) : Int32 → Int32 → HostState → HostCall :=
  withGuestBytes build setResult

def ferroqLog (build : Build) (level : Int32) : Int32 → Int32 → HostState → HostCall :=
  withGuestBytes build (log level)

def BytesAt (memory : LinearMemory) (offset length : Nat) (bytes : List UInt8) : Prop :=
  bytes.length = length ∧ offset + length ≤ memory.data.length ∧
    ∀ index < length, bytes[index]? = memory.data[offset + index]?

/-- A call returns an error and changes nothing, or it has done its work with
exactly the bytes that its arguments name. -/
def Contained (perform : List UInt8 → HostState → HostState) (ptr len : Int32)
    (before : HostState) : HostCall → Prop
  | .panicked => False
  | .returned (.error _) after => after = before
  | .returned (.ok ()) after =>
      ∃ (memory : LinearMemory) (offset length : Nat) (bytes : List UInt8),
        before.memory = some memory ∧ ptr.toInt = offset ∧ len.toInt = length ∧
          BytesAt memory offset length bytes ∧ after = perform bytes before

/-- Arguments for which the sum neither overflows nor wraps into the memory. -/
def SafeArguments (build : Build) (memory : LinearMemory) (ptr len : Int32) : Prop :=
  (0 ≤ ptr.toInt ∧ 0 ≤ len.toInt) ∨
    match build with
    | .debug => (0 ≤ ptr.toInt ∨ 0 ≤ len.toInt) ∧ ptr.toInt + len.toInt < 0
    | .release => ptr.toInt + len.toInt < 0 ∨ memory.data.length < ptr.toInt + len.toInt

/-- Widening keeps the numbers from 0 and adds 2^64 to the negative ones. -/
theorem toNat_asUsize (value : Int32) :
    ((asUsize value).toNat : Int) =
      if 0 ≤ value.toInt then value.toInt else value.toInt + 18446744073709551616 := by
  have widened : value.toInt64.toInt = value.toInt := value.toInt_toInt64
  have bits : (asUsize value).toNat = value.toInt64.toBitVec.toNat := rfl
  have signed : value.toInt64.toInt = value.toInt64.toBitVec.toInt := rfl
  rw [BitVec.toInt_eq_toNat_cond] at signed
  have small := value.toInt64.toBitVec.isLt
  rw [← widened, bits]
  split at signed <;> split <;> omega

theorem bytesAt_slice {memory : LinearMemory} {offset length : Nat}
    (within : offset + length ≤ memory.data.length) :
    BytesAt memory offset length ((memory.data.take (offset + length)).drop offset) := by
  refine ⟨by simp; omega, within, fun index small => ?_⟩
  rw [List.getElem?_drop, List.getElem?_take_of_lt (by omega)]

section Arguments

variable {build : Build} {perform : List UInt8 → HostState → HostState} {ptr len : Int32}
  {state : HostState} {memory : LinearMemory}

theorem withGuestBytes_of_nonnegative (held : state.memory = some memory)
    (ptrNonneg : 0 ≤ ptr.toInt) (lenNonneg : 0 ≤ len.toInt) :
    ∃ offset length : Nat, ptr.toInt = offset ∧ len.toInt = length ∧
      withGuestBytes build perform ptr len state =
        if offset + length > memory.data.length then
          .returned (.error "out of bounds memory access") state
        else
          .returned (.ok ())
            (perform ((memory.data.take (offset + length)).drop offset) state) := by
  have start := toNat_asUsize ptr
  have size := toNat_asUsize len
  have ptrSmall := ptr.toInt_lt
  have lenSmall := len.toInt_lt
  rw [if_pos ptrNonneg] at start
  rw [if_pos lenNonneg] at size
  refine ⟨(asUsize ptr).toNat, (asUsize len).toNat, start.symm, size.symm, ?_⟩
  have fits : (asUsize ptr).toNat + (asUsize len).toNat < 2 ^ 64 := by omega
  have added : build.add (asUsize ptr) (asUsize len) = some (asUsize ptr + asUsize len) := by
    cases build with
    | debug => rw [Build.add, if_pos fits]
    | release => rfl
  have stop : (asUsize ptr + asUsize len).toNat = (asUsize ptr).toNat + (asUsize len).toNat := by
    rw [UInt64.toNat_add, Nat.mod_eq_of_lt fits]
  simp only [withGuestBytes, held, added, stop]
  split
  next outside => rfl
  next inside =>
    rw [slice, stop, if_pos ⟨by omega, by omega⟩]

theorem withGuestBytes_of_negative (held : state.memory = some memory)
    (negative : ¬ (0 ≤ ptr.toInt ∧ 0 ≤ len.toInt)) :
    (SafeArguments build memory ptr len →
      withGuestBytes build perform ptr len state =
        .returned (.error "out of bounds memory access") state) ∧
    (¬ SafeArguments build memory ptr len →
      withGuestBytes build perform ptr len state = .panicked) := by
  have start := toNat_asUsize ptr
  have size := toNat_asUsize len
  have ptrBounds := And.intro ptr.le_toInt ptr.toInt_lt
  have lenBounds := And.intro len.le_toInt len.toInt_lt
  have fits := memory.fits
  have total := UInt64.toNat_add (asUsize ptr) (asUsize len)
  simp only [SafeArguments, negative, false_or]
  cases build with
  | debug =>
      simp only [withGuestBytes, held, Build.add]
      constructor
      · rintro ⟨oneNonneg, below⟩
        have noOverflow : (asUsize ptr).toNat + (asUsize len).toNat < 2 ^ 64 := by
          split at start <;> split at size <;> omega
        rw [Nat.mod_eq_of_lt noOverflow] at total
        have outside : (asUsize ptr + asUsize len).toNat > memory.data.length := by
          split at start <;> split at size <;> omega
        simp only [if_pos noOverflow, if_pos outside]
      · intro unsafeArguments
        have overflow : ¬ (asUsize ptr).toNat + (asUsize len).toNat < 2 ^ 64 := by
          split at start <;> split at size <;> omega
        simp only [if_neg overflow]
  | release =>
      simp only [withGuestBytes, held, Build.add]
      constructor
      · intro outsideMemory
        have outside : (asUsize ptr + asUsize len).toNat > memory.data.length := by
          split at start <;> split at size <;> omega
        rw [if_pos outside]
      · intro insideMemory
        have inside : ¬ (asUsize ptr + asUsize len).toNat > memory.data.length := by
          split at start <;> split at size <;> omega
        have reversed : ¬ (asUsize ptr).toNat ≤ (asUsize ptr + asUsize len).toNat := by
          split at start <;> split at size <;> omega
        simp only [if_neg inside, slice, reversed, false_and, if_false]

theorem contained_withGuestBytes_iff :
    Contained perform ptr len state (withGuestBytes build perform ptr len state) ↔
      ∀ memory, state.memory = some memory → SafeArguments build memory ptr len := by
  cases held : state.memory with
  | none => simp [withGuestBytes, held, Contained]
  | some memory =>
      simp only [Option.some.injEq, forall_eq']
      by_cases nonnegative : 0 ≤ ptr.toInt ∧ 0 ≤ len.toInt
      · refine iff_of_true ?_ (.inl nonnegative)
        obtain ⟨offset, length, atPtr, ofLen, called⟩ :=
          withGuestBytes_of_nonnegative held nonnegative.1 nonnegative.2
        rw [called]
        split
        next outside => rfl
        next inside =>
          exact ⟨memory, offset, length, _, held, atPtr, ofLen, bytesAt_slice (by omega), rfl⟩
      · obtain ⟨whenSafe, whenUnsafe⟩ :=
          withGuestBytes_of_negative held nonnegative
        by_cases safe : SafeArguments build memory ptr len
        · rw [whenSafe safe]
          exact iff_of_true rfl safe
        · rw [whenUnsafe safe]
          exact iff_of_false id safe

theorem withGuestBytes_ne_panicked
    (safe : ∀ memory, state.memory = some memory → SafeArguments build memory ptr len) :
    withGuestBytes build perform ptr len state ≠ .panicked := by
  intro panics
  have contained : Contained perform ptr len state (withGuestBytes build perform ptr len state) :=
    contained_withGuestBytes_iff.mpr safe
  rw [panics] at contained
  exact contained

theorem withGuestBytes_cases :
    withGuestBytes build perform ptr len state = .panicked ∨
      (∃ error, withGuestBytes build perform ptr len state = .returned (.error error) state) ∨
      ∃ bytes, withGuestBytes build perform ptr len state =
        .returned (.ok ()) (perform bytes state) := by
  unfold withGuestBytes
  cases state.memory with
  | none => exact .inr (.inl ⟨_, rfl⟩)
  | some memory =>
      simp only []
      cases build.add (asUsize ptr) (asUsize len) with
      | none => exact .inl rfl
      | some stop =>
          simp only []
          split
          next outside => exact .inr (.inl ⟨_, rfl⟩)
          next inside =>
            cases slice memory.data (asUsize ptr) stop with
            | none => exact .inl rfl
            | some bytes => exact .inr (.inr ⟨bytes, rfl⟩)

end Arguments

/-- `ferroq_set_result` and `ferroq_log` return an error without an effect, or
work with exactly the bytes that are named, if and only if their arguments are
safe. -/
theorem hostFunctions_contained_iff (build : Build) (level ptr len : Int32) (state : HostState) :
    (Contained setResult ptr len state (ferroqSetResult build ptr len state) ↔
      ∀ memory, state.memory = some memory → SafeArguments build memory ptr len) ∧
    (Contained (log level) ptr len state (ferroqLog build level ptr len state) ↔
      ∀ memory, state.memory = some memory → SafeArguments build memory ptr len) :=
  ⟨contained_withGuestBytes_iff, contained_withGuestBytes_iff⟩

def onePage : LinearMemory :=
  { data := List.replicate 65536 0
    fits := by rw [List.length_replicate]; decide }

/-- A length of -1 at address 1 panics in both builds. -/
theorem negativeLength_panics :
    ferroqSetResult .debug 1 (-1) ⟨some onePage, [], []⟩ = .panicked ∧
      ferroqSetResult .release 1 (-1) ⟨some onePage, [], []⟩ = .panicked ∧
      ¬ Contained setResult 1 (-1) ⟨some onePage, [], []⟩
        (ferroqSetResult .release 1 (-1) ⟨some onePage, [], []⟩) := by
  have one : (1 : Int32).toInt = 1 := rfl
  have minusOne : (-1 : Int32).toInt = -1 := rfl
  have dangerous (build : Build) : ¬ SafeArguments build onePage 1 (-1) := by
    cases build <;> simp [SafeArguments, one, minusOne]
  have panics (build : Build) : ferroqSetResult build 1 (-1) ⟨some onePage, [], []⟩ = .panicked :=
    (withGuestBytes_of_negative rfl (by simp [minusOne])).2 (dangerous build)
  rw [panics, panics]
  exact ⟨rfl, rfl, id⟩

inductive GuestAction where
  | store (memory : LinearMemory)
  | setResult (ptr len : Int32)
  | log (level ptr len : Int32)

namespace GuestAction

def perform (build : Build) (state : HostState) : GuestAction → HostCall
  | store memory => .returned (.ok ()) { state with memory := state.memory.map fun _ => memory }
  | setResult ptr len => ferroqSetResult build ptr len state
  | log level ptr len => ferroqLog build level ptr len state

def passed (after : HostState) : GuestAction → List (List UInt8)
  | setResult _ _ => [after.resultBuffer]
  | _ => []

def Nonnegative : GuestAction → Prop
  | store _ => True
  | setResult ptr len | log _ ptr len => 0 ≤ ptr.toInt ∧ 0 ≤ len.toInt

end GuestAction

/-- The actions of a guest up to the first that fails, and the results that it
has passed. -/
def runActions (build : Build) (state : HostState) :
    List GuestAction → HostCall × List (List UInt8)
  | [] => (.returned (.ok ()) state, [])
  | action :: rest =>
      match action.perform build state with
      | .returned (.ok ()) next =>
          let run := runActions build next rest
          (run.1, action.passed next ++ run.2)
      | stopped => (stopped, [])

theorem perform_cases (build : Build) (state : HostState) (action : GuestAction) :
    action.perform build state = .panicked ∨
      (∃ error, action.perform build state = .returned (.error error) state) ∨
      ∃ next, action.perform build state = .returned (.ok ()) next ∧
        next.resultBuffer = lastResult (action.passed next) state.resultBuffer := by
  cases action with
  | store memory => exact .inr (.inr ⟨_, rfl, rfl⟩)
  | setResult ptr len | log level ptr len =>
      simp only [GuestAction.perform, ferroqSetResult, ferroqLog]
      rcases withGuestBytes_cases with panics | failed | ⟨bytes, copied⟩
      · exact .inl panics
      · exact .inr (.inl failed)
      · exact .inr (.inr ⟨_, copied, rfl⟩)

/-- After a guest has run, the result buffer holds the last of the results that
it has passed. -/
theorem runActions_resultBuffer {build : Build} {state after : HostState}
    {actions : List GuestAction} {outcome : Except String Unit}
    (ran : (runActions build state actions).1 = .returned outcome after) :
    after.resultBuffer = lastResult (runActions build state actions).2 state.resultBuffer := by
  induction actions generalizing state with
  | nil =>
      cases ran
      rfl
  | cons action rest inductionHypothesis =>
      rcases perform_cases build state action with panics | ⟨error, failed⟩ | ⟨next, done, buffer⟩
      · simp [runActions, panics] at ran
      · simp only [runActions, failed] at ran ⊢
        cases ran
        rfl
      · simp only [runActions, done] at ran ⊢
        rw [lastResult_append, ← buffer]
        exact inductionHypothesis ran

/-- A guest that passes no negative pointer or length never makes the host
panic. -/
theorem runActions_ne_panicked {build : Build} {state : HostState} {actions : List GuestAction}
    (nonnegative : ∀ action ∈ actions, action.Nonnegative) :
    (runActions build state actions).1 ≠ .panicked := by
  induction actions generalizing state with
  | nil => simp [runActions]
  | cons action rest inductionHypothesis =>
      have later (next : HostState) : (runActions build next rest).1 ≠ .panicked :=
        inductionHypothesis fun action member =>
          nonnegative action (List.mem_cons_of_mem _ member)
      have safe := nonnegative action List.mem_cons_self
      have calm : action.perform build state ≠ .panicked := by
        cases action with
        | store memory => simp [GuestAction.perform]
        | setResult ptr len | log level ptr len =>
            exact withGuestBytes_ne_panicked fun memory _ => .inl safe
      rcases perform_cases build state action with panics | ⟨error, failed⟩ | ⟨next, done, -⟩
      · exact absurd panics calm
      · simp [runActions, failed]
      · simpa [runActions, done] using later next

end Ferroq.Gateway.PluginEngine
