/-!
# Issues of a document

What a reader of documents finds wrong: at which place, and of which kind.  A kind has a short code
and a message.
-/

namespace Firewall.Schema

/-- One step from a value to a part of it: a key, an index, or the kind of value that was tried. -/
inductive Step where
  | key (name : String)
  | index (position : Nat)
  deriving DecidableEq, Repr

/-- The kinds of issues. -/
inductive IssueKind where
  | stringType
  /-- The text is not whole. -/
  | stringUnicode
  | listType
  | dictType
  | boolType
  | boolParsing
  | intType
  | intParsing
  | intParsingSize
  | intFromFloat
  | finiteNumber
  | belowLeast (least : Nat)
  | aboveGreatest (greatest : Nat)
  | patternMismatch (pattern : String)
  | ipv4Interface
  | ipv6Interface
  | extraForbidden
  | missing
  /-- The value is none of these words. -/
  | notAmong (words : List String)
  /-- The value is no object, where one of a model is wanted. -/
  | modelType (model : String)
  /-- A check of a whole object or field refuses it. -/
  | refused (reason : String)
  deriving DecidableEq, Repr

namespace IssueKind

def code : IssueKind → String
  | .stringType => "string_type"
  | .stringUnicode => "string_unicode"
  | .listType => "list_type"
  | .dictType => "dict_type"
  | .boolType => "bool_type"
  | .boolParsing => "bool_parsing"
  | .intType => "int_type"
  | .intParsing => "int_parsing"
  | .intParsingSize => "int_parsing_size"
  | .intFromFloat => "int_from_float"
  | .finiteNumber => "finite_number"
  | .belowLeast _ => "greater_than_equal"
  | .aboveGreatest _ => "less_than_equal"
  | .patternMismatch _ => "string_pattern_mismatch"
  | .ipv4Interface => "ip_v4_interface"
  | .ipv6Interface => "ip_v6_interface"
  | .extraForbidden => "extra_forbidden"
  | .missing => "missing"
  | .notAmong _ => "enum"
  | .modelType _ => "model_type"
  | .refused _ => "value_error"

/-- Words in quotes, with commas between them and `or` before the last. -/
def alternatives : List String → String
  | [] => ""
  | [word] => "'" ++ word ++ "'"
  | [word, last] => "'" ++ word ++ "' or '" ++ last ++ "'"
  | word :: rest => "'" ++ word ++ "', " ++ alternatives rest

def message : IssueKind → String
  | .stringType => "Input should be a valid string"
  | .stringUnicode =>
      "Input should be a valid string, unable to parse raw data as a unicode string"
  | .listType => "Input should be a valid list"
  | .dictType => "Input should be a valid dictionary"
  | .boolType => "Input should be a valid boolean"
  | .boolParsing => "Input should be a valid boolean, unable to interpret input"
  | .intType => "Input should be a valid integer"
  | .intParsing => "Input should be a valid integer, unable to parse string as an integer"
  | .intParsingSize => "Unable to parse input string as an integer, exceeded maximum size"
  | .intFromFloat => "Input should be a valid integer, got a number with a fractional part"
  | .finiteNumber => "Input should be a finite number"
  | .belowLeast least => "Input should be greater than or equal to " ++ toString least
  | .aboveGreatest greatest => "Input should be less than or equal to " ++ toString greatest
  | .patternMismatch pattern => "String should match pattern '" ++ pattern ++ "'"
  | .ipv4Interface => "Input is not a valid IPv4 interface"
  | .ipv6Interface => "Input is not a valid IPv6 interface"
  | .extraForbidden => "Extra inputs are not permitted"
  | .missing => "Field required"
  | .notAmong words => "Input should be " ++ alternatives words
  | .modelType model => "Input should be a valid dictionary or instance of " ++ model
  | .refused reason => "Value error, " ++ reason

end IssueKind

/-- An issue: what is wrong, and where. -/
structure Issue where
  kind : IssueKind
  path : List Step
  deriving DecidableEq, Repr

/-- The issues of a document that was read as a model. -/
structure Invalid where
  model : String
  issues : List Issue
  deriving DecidableEq, Repr

/-- The message that counts the issues. -/
def Invalid.message (invalid : Invalid) : String :=
  toString invalid.issues.length ++ " validation error"
    ++ (if invalid.issues.length = 1 then "" else "s") ++ " for " ++ invalid.model

end Firewall.Schema
