import LoginVault.Json.Display

/-!
# Login.Malformed — what is wrong with a value

A value that has not the shape it should have is refused together with all that was found against
it. A finding is a fault and the path to where it was made. The text of a refusal tells how much was
found, and for each finding the path, the fault and the value at the end of the path. A field that
is missing has no value, so the whole object that lacks it is quoted.
-/

namespace LoginVault

/-- Why a value is refused. -/
inductive Fault where
  | missing
  | notText
  | notInteger
  | fraction
  | notFinite
  | outOfRange
  | notACount
  | notList
  | notObject
  deriving DecidableEq, Repr

/-- One step on the way to a value: a member, an item, or one of the two readings of an
identifier. -/
inductive PathStep where
  | member (name : String)
  | item (index : Nat)
  | asInteger
  | asText
  deriving DecidableEq, Repr

/-- A fault and where it was found. -/
structure Finding where
  path : List PathStep
  fault : Fault
  deriving DecidableEq, Repr

/-- The finding seen from one step further out. -/
def Finding.under (step : PathStep) (f : Finding) : Finding :=
  ⟨step :: f.path, f.fault⟩

/-- What is read from an object. -/
inductive Shape where
  | login
  | newLogin
  | page
  deriving DecidableEq, Repr

/-- A value that is not of the shape it should have. -/
structure Malformed where
  shape : Shape
  value : Json
  findings : List Finding
  deriving DecidableEq, Repr

/-! ## Texts -/

/-- The name of a shape in messages. -/
def Shape.name : Shape → String
  | .login => "Credential"
  | .newLogin => "NewCredential"
  | .page => "LoginPage"

/-- The text of one step. -/
def PathStep.text : PathStep → String
  | .member name => name
  | .item index => toString index
  | .asInteger => "int"
  | .asText => "str"

/-- The name of a fault in messages. -/
def Fault.name : Fault → String
  | .missing => "missing"
  | .notText => "string_type"
  | .notInteger => "int_type"
  | .fraction => "int_from_float"
  | .notFinite => "finite_number"
  | .outOfRange => "int_parsing_size"
  | .notACount => "int_parsing"
  | .notList => "list_type"
  | .notObject => "model_type"

/-- What is wrong with a value that has a fault and should have this shape. -/
def Fault.explanation (shape : Shape) : Fault → String
  | .missing => "Field required"
  | .notText => "Input should be a valid string"
  | .notInteger => "Input should be a valid integer"
  | .fraction => "Input should be a valid integer, got a number with a fractional part"
  | .notFinite => "Input should be a finite number"
  | .outOfRange => "Unable to parse input string as an integer, exceeded maximum size"
  | .notACount => "Input should be a valid integer, unable to parse string as an integer"
  | .notList => "Input should be a valid list"
  | .notObject => s!"Input should be a valid dictionary or instance of {shape.name}"

/-- The value at the end of a path, or the last one that there is on it. -/
def Json.valueAt : List PathStep → Json → Json
  | .member name :: rest, .object ms =>
    match ms.lookup name with
    | some v => v.valueAt rest
    | none => .object ms
  | .item i :: rest, .list items =>
    match items[i]? with
    | some v => v.valueAt rest
    | none => .list items
  | .asInteger :: rest, v => v.valueAt rest
  | .asText :: rest, v => v.valueAt rest
  | _, v => v

namespace Malformed

/-- How much was found against a value. -/
def summary (m : Malformed) : String :=
  let count := m.findings.length
  let noun := if count = 1 then "error" else "errors"
  s!"{count} validation {noun} for {m.shape.name}"

/-- The value that a finding quotes. -/
def quoted (m : Malformed) (f : Finding) : Json := m.value.valueAt f.path

/-- The lines that tell of a finding. There is no line for the path to the value itself. -/
def lines (m : Malformed) (f : Finding) : List String :=
  let quoted := m.quoted f
  -- what is inside of a value is a login
  let shape := if f.path.isEmpty then m.shape else .login
  let place := if f.path.isEmpty then [] else [String.intercalate "." (f.path.map (·.text))]
  place ++ [s!"  {f.fault.explanation shape} [type={f.fault.name}, "
    ++ s!"input_value={quoted.quotation}, input_type={quoted.kind.name}]"]

/-- The text of a refusal. A line that points a reader to documentation is no part of it. -/
def message (m : Malformed) : String :=
  String.intercalate "\n" (m.summary :: m.findings.flatMap m.lines)

end Malformed

end LoginVault
