import Crosscheck.Files.Access
/-!
# Faults

Everything that can end an operation early, by cause, and the message that tells about it.
-/

namespace Crosscheck

open Crosscheck.Files

/-- Notations of configuration files. -/
inductive Notation
  | yaml
  | toml
  | properties
  deriving DecidableEq, Repr

/-- The name of a notation. -/
def Notation.name : Notation → String
  | .yaml => "yaml"
  | .toml => "toml"
  | .properties => "properties"

/-- What makes a configuration unusable. The details are those of the notation or of the number. -/
inductive ConfigurationFault
  | missing (path : Path)
  | unknownFormat (path : Path)
  | malformed (format : Notation) (path : Path) (details : String)
  | notMapping (path : Path)
  | badNumber (details : String)
  | noAnalyzer
  deriving DecidableEq, Repr

/-- What makes a report unusable. -/
inductive ReportFault
  | malformedXml (path : Path)
  | malformedJson (path : Path)
  | notList (field : String) (path : Path)
  deriving DecidableEq, Repr

/-- Why an operation ended early. -/
inductive Fault
  | access (error : AccessError)
  | configuration (fault : ConfigurationFault)
  | report (fault : ReportFault)
  | unknownRule (name : String)
  | repeatedRule (name : String)
  | unreadableSource (path : Path) (error : AccessError)
  | repeatedSeed (seed source : String)
  /-- A list or a map in the place of a key. -/
  | notKey
  /-- A value without members in the place of a list. -/
  | notIterable
  /-- Values that have no common order. -/
  | notOrdered
  /-- A value that is no text to print. -/
  | notPrintable
  /-- A key that is not text. -/
  | keyNotText
  /-- Bytes in the place of text. -/
  | notText
  /-- A whole number of more digits than are read or written. -/
  | tooManyDigits
  /-- Two asterisks side by side in a pattern for one name. -/
  | recursivePattern
  /-- A path without a name that is to be replaced. -/
  | emptyName (path : Path)
  /-- A text that is no value of the kind that it is declared to be. -/
  | unfitText
  /-- A word that is no truth value. -/
  | unknownWord
  /-- A text that ends where a character is needed. -/
  | cutShort
  /-- A text that has not the form of a day or a time. -/
  | unfitMoment
  /-- A value of another kind in the place of a table. -/
  | notTable
  /-- A value of another kind in the place of a list of tables. -/
  | notArray
  /-- A number past the range of doubles or of whole numbers. -/
  | overflow
  /-- A file that is not in UTF-8. -/
  | notUtf8
  /-- A document in an encoding that is not known. -/
  | unknownEncoding
  /-- A document in an encoding that takes several bytes to a character. -/
  | wideEncoding
  /-- Styled text with an end mark that ends nothing. -/
  | strayMark
  /-- A failure with a message of its own. -/
  | raised (message : String)
  deriving DecidableEq, Repr

/-- The message of a configuration fault. -/
def ConfigurationFault.message : ConfigurationFault → String
  | .missing path => s!"Configuration file not found: {path.render}"
  | .unknownFormat path => s!"Unknown configuration file format: {path.render}"
  | .malformed format path _ => s!"Failed to parse {format.name} file {path.render}"
  | .notMapping path => s!"Configuration root must be a mapping: {path.render}"
  | .badNumber _ => "Invalid numeric setting"
  | .noAnalyzer =>
    "No static analyzer is enabled. Set one of the *_MUTATION flags to true."

/-- The message of a configuration fault with its details. -/
def ConfigurationFault.fullMessage : ConfigurationFault → String
  | .malformed format path details => s!"{(malformed format path details).message}: {details}"
  | .badNumber details => s!"{(badNumber details).message}: {details}"
  | fault => fault.message

/-- The message of a report fault. -/
def ReportFault.message : ReportFault → String
  | .malformedXml path => s!"Malformed XML in {path.render}"
  | .malformedJson path => s!"Malformed JSON in {path.render}"
  | .notList field path => s!"'{field}' is not a list in {path.render}"

/-- The message of a fault. -/
def Fault.message : Fault → String
  | .access error => error.message
  | .configuration fault => fault.message
  | .report fault => fault.message
  | .unknownRule name => s!"Transform not found: {name}"
  | .repeatedRule name => s!"Duplicate transform name: {name}"
  | .unreadableSource path error => s!"Cannot read {path.render}: {error.message}"
  | .repeatedSeed seed source => s!"Repeat process: {seed} (report: {source})"
  | .notKey => "value cannot be a key"
  | .notIterable => "value has no members"
  | .notOrdered => "values have no common order"
  | .notPrintable => "unable to render value; a string or other renderable object is required"
  | .keyNotText => "key is not text"
  | .notText => "bytes in the place of text"
  | .tooManyDigits => "Exceeds the limit (4300 digits) for integer string conversion"
  | .recursivePattern => "Invalid pattern: '**' can only be an entire path component"
  | .emptyName path => s!"PosixPath({Text.quoted path.render}) has an empty name"
  | .unfitText => "text does not fit its kind"
  | .unknownWord => "no truth value"
  | .cutShort => "text is cut short"
  | .unfitMoment => "no day or time"
  | .notTable => "value is no table"
  | .notArray => "value is no list of tables"
  | .overflow => "number out of range"
  | .notUtf8 => "invalid UTF-8"
  | .unknownEncoding => "unknown encoding"
  | .wideEncoding => "multi-byte encodings are not supported"
  | .strayMark => "closing tag doesn't match any open tag"
  | .raised message => message

end Crosscheck
