import EdgeRoutes.Data.Basic
import EdgeRoutes.Directive.Basic
import EdgeRoutes.Files.Error
import EdgeRoutes.Number.Integer

/-! Faults: everything that can end a conversion, each with its cause. The wording is given here and nowhere
else. -/

namespace EdgeRoutes

open Number

/-- Why a conversion stops. -/
inductive Fault where
  /-- Something failed that has no cause of its own here. -/
  | general (message : String) (details : Fields Data)
  /-- The configuration cannot be expressed on a target. -/
  | refused (target : String) (errors warnings : List String)
  | unknownTarget (name : String) (available : List String)
  /-- The input is not a directive tree. -/
  | treeFormat (message : String) (line : Option LineMark)
  /-- A proxy address cannot be split into the parts of an origin. -/
  | upstreamUrl (url reason : String)
  /-- A text of digits is not a whole number. -/
  | integer (cause : IntegerError)
  /-- A whole number is beyond the floating-point numbers. -/
  | beyondFloat
  /-- Infinity where a whole number is wanted. -/
  | infinite
  /-- Not a number where a whole number is wanted. -/
  | notANumber
  /-- A pattern repeats something too often. -/
  | repetition
  /-- A pattern asks for ASCII and for Unicode rules at once. -/
  | conflictingFlags
  /-- A scheme that has no standard port. -/
  | unknownScheme (scheme : String)
  /-- Data of this kind has no members to visit. -/
  | notIterable (kind : String)
  /-- Data of this kind is no number. -/
  | notNumeric (kind : String)
  /-- Data of this kind names no file. -/
  | notPath (kind : String)
  /-- A location that the configuration does not hold. -/
  | foreignLocation (label : String)
  /-- Indentation in steps of no width. -/
  | emptyUnit
  /-- Settings that came from no file have no place to be saved to. -/
  | noSettingsPath
  | file (error : FileError)
  | encoding (error : EncodingError)

namespace Fault

/-- The message of an integer text; the text shown is cut at two hundred characters. -/
def integerMessage : IntegerError → String
  | .malformed text =>
    "invalid literal for int() with base 10: " ++
      String.ofList ((Text.quoted text).toList.take 200)
  | .tooLong digits =>
    "Exceeds the limit (4300 digits) for integer string conversion: value has " ++
      toString digits ++ " digits; use sys.set_int_max_str_digits() to increase the limit"

/-- The message without details. -/
def plain : Fault → String
  | .general message _ => message
  | .refused target errors _ =>
    "Validation failed for target '" ++ target ++ "': " ++ Text.joined "; " errors
  | .unknownTarget name available =>
    "Unknown target '" ++ name ++ "'" ++
      (if available.isEmpty then "" else ". Supported: " ++ Text.joined ", " available)
  | .treeFormat message _ => message
  | .upstreamUrl url reason => "Invalid upstream URL '" ++ url ++ "': " ++ reason
  | .integer cause => integerMessage cause
  | .beyondFloat => "int too large to convert to float"
  | .infinite => "cannot convert float infinity to integer"
  | .notANumber => "cannot convert float NaN to integer"
  | .repetition => "the repetition number is too large"
  | .conflictingFlags => "ASCII and UNICODE flags are incompatible"
  | .unknownScheme scheme => Text.quoted scheme
  | .notIterable kind => "'" ++ kind ++ "' object is not iterable"
  | .notNumeric kind =>
    "int() argument must be a string, a bytes-like object or a real number, not '" ++ kind ++ "'"
  | .notPath kind => "expected str, bytes or os.PathLike object, not " ++ kind
  | .foreignLocation label => "location " ++ label ++ " is not part of this configuration"
  | .emptyUnit => "integer division or modulo by zero"
  | .noSettingsPath => "No configuration file path to save to"
  | .file error => error.message
  | .encoding error => error.message

def lineData : LineMark → Data
  | .number n => .int n
  | .flag b => .bool b

/-- Named facts about the fault. -/
def details : Fault → Fields Data
  | .general _ details => details
  | .unknownTarget name _ => [("target", .text name)]
  | .treeFormat _ (some line) => [("line", lineData line)]
  | .upstreamUrl url _ => [("url", .text url)]
  | _ => []

/-- The message, with the details in parentheses behind it. -/
def message (f : Fault) : String :=
  if f.details.isEmpty then f.plain
  else
    f.plain ++ " (" ++
      Text.joined ", " (f.details.map fun (name, value) => name ++ "=" ++ value.display) ++ ")"

end Fault

end EdgeRoutes
