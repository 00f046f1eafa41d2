import Settings.Text.Quoted
import Settings.Value.Printer

/-!
# Errors

Why an assignment, a look-up or a file operation failed, and the preconditions that the construction
of elements and containers and some direct edits check. Each cause has its message.
-/
namespace Settings

/-- What a value should have been. -/
inductive Expectation where
  | boolean | integer | integerField | integerFields
  | timestamp | text | number
  | string | stringArray | object
  | blob | stringList | stringMaps
  deriving DecidableEq, Repr

def Expectation.describe : Expectation → String
  | .boolean => "boolean"
  | .integer => "integer"
  | .integerField => "integer field"
  | .integerFields => "integer fields"
  | .timestamp => "timestamp"
  | .text => "text"
  | .number => "number"
  | .string => "string"
  | .stringArray => "array of strings"
  | .object => "object"
  | .blob => "v1 blob"
  | .stringList => "list of strings"
  | .stringMaps => "dictionary of string maps"

/-- Why a file could not be read or written. -/
inductive FileFault where
  | missing
  | notDirectory
  | directory
  /-- The name means a folder that is in use. -/
  | busy
  | nameTooLong
  /-- The name holds a zero character. -/
  | zeroInName
  /-- The bytes are no text. -/
  | notText
  | other (reason : String)
  deriving DecidableEq, Repr

def FileFault.message : FileFault → String
  | .missing => "No such file or directory (os error 2)"
  | .notDirectory => "Not a directory (os error 20)"
  | .directory => "Is a directory (os error 21)"
  | .busy => "Device or resource busy (os error 16)"
  | .nameTooLong => "File name too long (os error 36)"
  | .zeroInName => "file name contained an unexpected NUL byte"
  | .notText => "stream did not contain valid UTF-8"
  | .other reason => reason

inductive Error where
  /-- A dynamic value does not fit the element at `path`. -/
  | typeMismatch (path : String) (expected : Expectation) (actual : Value)
  /-- A text is not the string form of a value of the element's kind. -/
  | undecodable (text : String) (expected : Expectation)
  /-- A key does not name what it should. -/
  | unknownPath (key : String)
  | unreadable (path : String) (fault : FileFault)
  | unwritable (path : String) (fault : FileFault)
  deriving DecidableEq, Repr

namespace Error

/-- A mismatch whose place is not known yet. -/
def mismatch (expected : Expectation) (actual : Value) : Error :=
  .typeMismatch "" expected actual

/-- Names the place of a mismatch. -/
def atPath (path : String) : Error → Error
  | .typeMismatch _ expected actual => .typeMismatch path expected actual
  | e => e

def message : Error → String
  | .typeMismatch path expected actual =>
    "type mismatch at " ++ path ++ ": expected " ++ expected.describe ++ ", got " ++ actual.compact
  | .undecodable text expected =>
    "cannot decode " ++ Text.quoted text ++ " as " ++ expected.describe
  | .unknownPath key => "unknown settings path: " ++ key
  | .unreadable path fault => "failed to read " ++ path ++ ": " ++ fault.message
  | .unwritable path fault => "failed to write " ++ path ++ ": " ++ fault.message

end Error

/-- A construction or a direct edit that its arguments do not allow. -/
inductive Violation where
  | noLimits
  | disorderedLimits
  | pinLength (length : Nat)
  | disorderedSlider
  | rangeStep
  | invalidKey (key : String)
  /-- There is one field, and so no steps to count in. -/
  | singleField
  /-- No steps make a whole. -/
  | noSteps
  deriving DecidableEq, Inhabited, Repr

def Violation.message : Violation → String
  | .noLimits => "sequence limits must not be empty"
  | .disorderedLimits => "sequence limits must be (min, max) pairs with min <= max"
  | .pinLength length => "PIN length must be 1..=18, got " ++ Numeral.text length
  | .disorderedSlider => "slider limits must be ordered"
  | .rangeStep => "range selection needs a positive step"
  | .invalidKey key => "invalid settings key " ++ Text.quoted key
  | .singleField => "index out of bounds: the len is 1 but the index is 1"
  | .noSteps => "attempt to divide by zero"

end Settings
