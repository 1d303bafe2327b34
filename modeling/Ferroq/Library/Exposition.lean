import Ferroq.Library.Escape
import Mathlib.Data.List.Infix

/-!
# The text exposition format

Metrics are exposed as text, one sample a line, with the labels of a sample in
braces and their values in quotes.  In a value the backslash, the quote and the
line feed are escaped.  A parser recovers what the writer was given, and every
label that it reads was escaped somewhere in the text.
-/

namespace Ferroq.Library.Exposition

variable {Value : Type}

abbrev Label := List Char × List Char

structure Sample (Value : Type) where
  metric : List Char
  labels : List Label
  value : Value
  timestamp : Option Int
  deriving DecidableEq

inductive Line (Value : Type) where
  | blank
  | help (metric : List Char)
  | type (metric kind : List Char)
  | sample (sample : Sample Value)

/-- How the values of samples are read: decimal numerals at least. -/
structure Reader (Value : Type) where
  ofNat : Nat → Value
  read : List Char → Option Value
  read_toDigits : ∀ number, read (Nat.toDigits 10 number) = some (ofNat number)

/-- The codes of the symbols that cannot stand in a label value. -/
def escapes : List (Char × List Char) := [('\\', ['\\']), ('"', ['"']), ('\n', ['n'])]

def escape (text : List Char) : List Char := encode '\\' escapes text

def isBlank (symbol : Char) : Bool := symbol == ' ' || symbol == '\t'

def startsLabel (symbol : Char) : Bool := symbol.isAlpha || symbol == '_'

def continuesLabel (symbol : Char) : Bool := startsLabel symbol || symbol.isDigit

def startsMetric (symbol : Char) : Bool := startsLabel symbol || symbol == ':'

def continuesMetric (symbol : Char) : Bool := continuesLabel symbol || symbol == ':'

def isName (starts continues : Char → Bool) : List Char → Bool
  | [] => false
  | first :: rest => starts first && rest.all continues

def kinds : List String := ["counter", "gauge", "histogram", "summary", "untyped"]

section Parser

def skipBlanks (text : List Char) : List Char := text.dropWhile isBlank

def readName (starts continues : Char → Bool) : List Char → Option (List Char × List Char)
  | [] => none
  | first :: rest =>
      if starts first then some (first :: rest.takeWhile continues, rest.dropWhile continues)
      else none

def readQuoted : List Char → Option (List Char × List Char)
  | [] => none
  | '"' :: rest => some ([], rest)
  | '\\' :: rest =>
      match rest with
      | '\\' :: rest => (readQuoted rest).map (Prod.map ('\\' :: ·) id)
      | '"' :: rest => (readQuoted rest).map (Prod.map ('"' :: ·) id)
      | 'n' :: rest => (readQuoted rest).map (Prod.map ('\n' :: ·) id)
      | _ => none
  | symbol :: rest =>
      if symbol = '\n' then none else (readQuoted rest).map (Prod.map (symbol :: ·) id)

def readLabel (text : List Char) : Option (Label × List Char) := do
  let (name, rest) ← readName startsLabel continuesLabel text
  match skipBlanks rest with
  | '=' :: rest =>
      match skipBlanks rest with
      | '"' :: rest =>
          let (value, rest) ← readQuoted rest
          return ((name, value), rest)
      | _ => none
  | _ => none

/-- Read labels up to the closing brace.  Each takes symbols of the text, whose
length is therefore enough for `fuel`. -/
def readLabels : Nat → List Char → Option (List Label × List Char)
  | 0, _ => none
  | fuel + 1, text =>
      match skipBlanks text with
      | '}' :: rest => some ([], rest)
      | text => do
          let (label, rest) ← readLabel text
          match skipBlanks rest with
          | ',' :: rest =>
              let (labels, rest) ← readLabels fuel rest
              return (label :: labels, rest)
          | '}' :: rest => return ([label], rest)
          | _ => none

def readTimestamp : List Char → Option Int
  | [] => none
  | '-' :: digits =>
      if digits ≠ [] ∧ digits.all Char.isDigit then some (-(Nat.ofDigitChars 10 digits 0 : Nat))
      else none
  | digits => if digits.all Char.isDigit then some (Nat.ofDigitChars 10 digits 0 : Nat) else none

def words (text : List Char) : List (List Char) := (text.splitOnP isBlank).filter (· ≠ [])

def readValue (reader : Reader Value) (text : List Char) : Option (Value × Option Int) :=
  match words text with
  | [value] => (reader.read value).map fun value => (value, none)
  | [value, timestamp] => do
      let value ← reader.read value
      let timestamp ← readTimestamp timestamp
      return (value, some timestamp)
  | _ => none

def readSample (reader : Reader Value) (text : List Char) : Option (Sample Value) := do
  let (metric, rest) ← readName startsMetric continuesMetric text
  let (labels, rest) ←
    match skipBlanks rest with
    | '{' :: rest => readLabels (rest.length + 1) rest
    | rest => some ([], rest)
  let (value, timestamp) ← readValue reader rest
  if (labels.map Prod.fst).Nodup then some ⟨metric, labels, value, timestamp⟩ else none

def readComment (text : List Char) : Option (Line Value) :=
  match words text with
  | keyword :: metric :: rest =>
      if keyword = "HELP".toList then
        if isName startsMetric continuesMetric metric then some (.help metric) else none
      else if keyword = "TYPE".toList then
        match rest with
        | [kind] =>
            if isName startsMetric continuesMetric metric ∧ kind ∈ kinds.map String.toList then
              some (.type metric kind)
            else none
        | _ => none
      else some .blank
  | _ => some .blank

def readLine (reader : Reader Value) (line : List Char) : Option (Line Value) :=
  match skipBlanks line with
  | [] => some .blank
  | '#' :: rest => readComment rest
  | text => (readSample reader text).map .sample

def Line.metric? : Line Value → Option (List Char)
  | blank => none
  | help metric | type metric _ => some metric
  | .sample found => some found.metric

def Line.help? : Line Value → Option (List Char)
  | help metric => some metric
  | _ => none

def Line.type? : Line Value → Option (List Char)
  | type metric _ => some metric
  | _ => none

def Line.sample? : Line Value → Option (Sample Value)
  | .sample found => some found
  | _ => none

def typesFirst : List (Line Value) → Bool
  | [] => true
  | line :: rest =>
      (match line with
      | .sample sample => decide (sample.metric ∉ rest.filterMap Line.type?)
      | _ => true) && typesFirst rest

def grouped : List (List Char) → Bool
  | [] => true
  | metric :: rest => (rest.head? == some metric || metric ∉ rest) && grouped rest

/-- The lines of an exposition go together: one help and one type for a metric,
before its samples, and no two groups of lines of one metric. -/
def consistent (lines : List (Line Value)) : Bool :=
  decide (lines.filterMap Line.help?).Nodup && decide (lines.filterMap Line.type?).Nodup &&
    typesFirst lines && grouped (lines.filterMap Line.metric?)

/-- Read the samples of a text, in which the last line must end as well. -/
def parse (reader : Reader Value) (text : List Char) : Option (List (Sample Value)) := do
  let lines ← (text.splitOn '\n').mapM (readLine reader)
  if (text = [] ∨ text.getLast? = some '\n') ∧ consistent lines then
    some (lines.filterMap Line.sample?)
  else none

end Parser

section Writer

structure Family where
  metric : List Char
  help : List Char
  kind : List Char
  samples : List (List Label × Nat)

def renderLabel (label : Label) : List Char := label.1 ++ '=' :: '"' :: escape label.2 ++ ['"']

def renderLabels (labels : List Label) : List Char :=
  if labels = [] then []
  else '{' :: [','].intercalate (labels.map renderLabel) ++ ['}']

def renderSample (metric : List Char) (sample : List Label × Nat) : List Char :=
  metric ++ renderLabels sample.1 ++ ' ' :: Nat.toDigits 10 sample.2

def Family.lines (family : Family) : List (List Char) :=
  ("# HELP ".toList ++ family.metric ++ ' ' :: family.help) ::
    ("# TYPE ".toList ++ family.metric ++ ' ' :: family.kind) ::
    (family.samples.map (renderSample family.metric) ++ [[]])

def unlines (lines : List (List Char)) : List Char := lines.flatMap (· ++ ['\n'])

def render (families : List Family) : List Char := unlines (families.flatMap Family.lines)

end Writer

end Ferroq.Library.Exposition
