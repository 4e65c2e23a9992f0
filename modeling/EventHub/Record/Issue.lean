import EventHub.Number.Text

/-!
# Issues of a definition

What is wrong with a value that should have become a record: a complaint, and the path to the
part that it is about.

* `Issue.within`: the same issue, seen from an enclosing value.
* `issuesText`: the report of all issues of a record.
-/

namespace EventHub

/-- What is wrong with one part of a value. -/
inductive Complaint
  | missing
  | notText
  | textEncoding
  | emptyText
  | emptyList
  | notList
  | notMap
  | notRecord (name : String)
  | noFields
  | notBool
  | unclearBool
  | notInt
  | unclearInt
  | oversizedInt
  | fractionalInt
  | infiniteInt
  | notCallable
  | notAmong (alternatives : List String)
  | unknownTag (tag : String) (expected : List String)
  | noTag
  | rejected (reason : String)
  | frozen
deriving DecidableEq, Repr

/-- A complaint and the path to what it is about. -/
structure Issue where
  path : List String
  complaint : Complaint
deriving DecidableEq, Repr

/-- Alternatives in apostrophes, with commas and a last `or`. -/
def alternativesText : List String → String
  | [] => ""
  | [a] => s!"'{a}'"
  | [a, b] => s!"'{a}' or '{b}'"
  | a :: rest => s!"'{a}', " ++ alternativesText rest

/-- The sentence of a complaint. -/
def Complaint.message : Complaint → String
  | missing => "Field required"
  | notText => "Input should be a valid string"
  | textEncoding => "Input should be a valid string, unable to parse raw data as a unicode string"
  | emptyText => "String should have at least 1 character"
  | emptyList => "List should have at least 1 item after validation, not 0"
  | notList => "Input should be a valid list"
  | notMap => "Input should be a valid dictionary"
  | notRecord name => s!"Input should be a valid dictionary or instance of {name}"
  | noFields => "Input should be a valid dictionary or object to extract fields from"
  | notBool => "Input should be a valid boolean"
  | unclearBool => "Input should be a valid boolean, unable to interpret input"
  | notInt => "Input should be a valid integer"
  | unclearInt => "Input should be a valid integer, unable to parse string as an integer"
  | oversizedInt => "Unable to parse input string as an integer, exceeded maximum size"
  | fractionalInt => "Input should be a valid integer, got a number with a fractional part"
  | infiniteInt => "Input should be a finite number"
  | notCallable => "Input should be callable"
  | notAmong alternatives => "Input should be " ++ alternativesText alternatives
  | unknownTag tag expected =>
    s!"Input tag '{tag}' found using 'type' does not match any of the expected tags: " ++
    String.intercalate ", " (expected.map fun e => s!"'{e}'")
  | noTag => "Unable to extract tag using discriminator 'type'"
  | rejected reason => "Value error, " ++ reason
  | frozen => "Instance is frozen"

/-- The code word of a complaint. -/
def Complaint.code : Complaint → String
  | missing => "missing"
  | notText => "string_type"
  | textEncoding => "string_unicode"
  | emptyText => "string_too_short"
  | emptyList => "too_short"
  | notList => "list_type"
  | notMap => "dict_type"
  | notRecord _ => "model_type"
  | noFields => "model_attributes_type"
  | notBool => "bool_type"
  | unclearBool => "bool_parsing"
  | notInt => "int_type"
  | unclearInt => "int_parsing"
  | oversizedInt => "int_parsing_size"
  | fractionalInt => "int_from_float"
  | infiniteInt => "finite_number"
  | notCallable => "callable_type"
  | notAmong _ => "literal_error"
  | unknownTag _ _ => "union_tag_invalid"
  | noTag => "union_tag_not_found"
  | rejected _ => "value_error"
  | frozen => "frozen_instance"

/-- The issue as it is seen from an enclosing value. -/
def Issue.within (step : String) (issue : Issue) : Issue :=
  { issue with path := step :: issue.path }

/-- An issue on lines of its own: the path, when there is one, and the complaint. -/
def Issue.text (issue : Issue) : String :=
  (if issue.path.isEmpty then "" else "\n" ++ String.intercalate "." issue.path) ++
  s!"\n  {issue.complaint.message} [type={issue.complaint.code}]"

/-- The report of the issues of a record. -/
def issuesText (name : String) (issues : List Issue) : String :=
  let count := issues.length
  s!"{count} validation error" ++ (if count == 1 then "" else "s") ++ s!" for {name}" ++
  String.join (issues.map Issue.text)

end EventHub
