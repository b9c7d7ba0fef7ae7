import DocumentSearch.Expr.Basic
import DocumentSearch.Text.Blank
import DocumentSearch.Text.Case

/-!
# Criteria

A criterion says which documents a search finds. Leaves test one field; the others combine criteria.

Leaves are built by the functions of `Criteria.Checked`, which refuse an empty field name and a blank pattern.
-/

namespace DocumentSearch

/-- How a pattern is matched with the content of a field. -/
inductive PatternKind where
  /-- The content begins with the pattern. -/
  | leading
  | regexp
  | wildcard
deriving DecidableEq, Repr

/-- The kind of test that a leaf makes. -/
inductive LeafKind where
  | term
  | terms
  | range
  | present
  | missing
  | pattern (kind : PatternKind)
  | analyzed
deriving DecidableEq, Repr

/-- The name of a kind of pattern in a search request. -/
def PatternKind.wireName : PatternKind → String
  | leading => "prefix"
  | regexp => "regexp"
  | wildcard => "wildcard"

/-- The name of a kind of leaf in a search request. -/
def LeafKind.wireName : LeafKind → String
  | term => "term"
  | terms => "terms"
  | range => "range"
  | present => "exists"
  | missing => "missing"
  | pattern kind => kind.wireName
  | analyzed => "match"

/-- How an engine is to look for several terms. -/
inductive ExecutionMode where
  | plain
  | bool
  | and
  | or
  | fieldData
deriving DecidableEq, Repr

/-- The name of an execution mode in a search request. -/
def ExecutionMode.wireName : ExecutionMode → String
  | plain => "plain"
  | bool => "bool"
  | and => "and"
  | or => "or"
  | fieldData => "fielddata"

/-- A condition on documents. The member that a value was compared with is kept for the way the value is written. -/
inductive Criteria where
  /-- The field holds the value. -/
  | term (field : String) (value : Value) (member : Option Member)
  /-- The field holds one of the values. -/
  | terms (field : String) (values : List Value) (execution : Option ExecutionMode) (member : Option Member)
  /-- The content of the field stands in this order to the value. -/
  | range (field : String) (comparison : Comparison) (value : Value) (member : Option Member)
  /-- The field has content. -/
  | present (field : String)
  /-- The field has no content. -/
  | missing (field : String)
  /-- The content of the field matches the pattern. -/
  | pattern (kind : PatternKind) (field text : String)
  /-- The analysed content of the field matches the value. -/
  | analyzed (field : String) (value : Value) (member : Option Member)
  /-- Every criterion of `must` holds, none of `mustNot` does and, if there are any in `should`, one of these. -/
  | bool (must should mustNot : List Criteria)
  | negation (c : Criteria)
  | disjunction (clauses : List Criteria)
  | matchAll
deriving Inhabited

/-- Why a leaf cannot be built. -/
inductive CriteriaError where
  | emptyField (kind : LeafKind)
  | emptyPattern (kind : PatternKind)
deriving DecidableEq, Repr

/-- The message for a leaf that cannot be built. -/
def CriteriaError.message : CriteriaError → String
  | emptyField kind => s!"{kind.wireName} criteria requires a field name"
  | emptyPattern kind => s!"{kind.wireName} criteria requires a non-blank pattern"

namespace Criteria

/-- The criterion that holds of no document. -/
def matchNone : Criteria := negation matchAll

/-- The name of the kind of criterion. -/
def name : Criteria → String
  | term .. => LeafKind.wireName .term
  | terms .. => LeafKind.wireName .terms
  | range .. => LeafKind.wireName .range
  | present _ => LeafKind.wireName .present
  | missing _ => LeafKind.wireName .missing
  | pattern kind _ _ => kind.wireName
  | analyzed .. => LeafKind.wireName .analyzed
  | bool .. => "bool"
  | negation _ => "not"
  | disjunction _ => "or"
  | matchAll => "match_all"

/-- The field that a leaf tests. -/
def field? : Criteria → Option String
  | term field _ _ | terms field _ _ _ | range field _ _ _ | present field | missing field | pattern _ field _
  | analyzed field _ _ => some field
  | bool .. | negation _ | disjunction _ | matchAll => none

namespace Checked

/-- A field name, which must not be empty. -/
def checkField (kind : LeafKind) (field : String) : Except CriteriaError Unit :=
  if field.isEmpty then .error (.emptyField kind) else .ok ()

/-- The leaf that asks for one value. -/
def term (field : String) (value : Value) (member : Option Member) : Except CriteriaError Criteria := do
  checkField .term field
  return .term field value member

/-- The leaf that asks for one of several values. -/
def terms (field : String) (values : List Value) (execution : Option ExecutionMode) (member : Option Member) :
    Except CriteriaError Criteria := do
  checkField .terms field
  return .terms field values execution member

/-- The leaf that asks for one of several values, which is a `term` if there is only one. -/
def anyOf (field : String) (values : List Value) (execution : Option ExecutionMode) (member : Option Member) :
    Except CriteriaError Criteria :=
  match values with
  | [value] => term field value member
  | values => terms field values execution member

/-- The leaf that compares by order. -/
def range (field : String) (comparison : Comparison) (value : Value) (member : Option Member) :
    Except CriteriaError Criteria := do
  checkField .range field
  return .range field comparison value member

/-- The leaf that asks for content. -/
def present (field : String) : Except CriteriaError Criteria := do
  checkField .present field
  return .present field

/-- The leaf that asks for the lack of content. -/
def missing (field : String) : Except CriteriaError Criteria := do
  checkField .missing field
  return .missing field

/-- The leaf that matches a pattern, which must not be blank. -/
def pattern (kind : PatternKind) (field text : String) : Except CriteriaError Criteria := do
  checkField (.pattern kind) field
  if Text.isBlank text then
    throw (.emptyPattern kind)
  return .pattern kind field text

/-- The leaf that matches analysed content. Analysed strings are in lower case. -/
def analyzed (field : String) (value : Value) (member : Option Member) : Except CriteriaError Criteria := do
  checkField .analyzed field
  let value :=
    match value with
    | .string s => .string (Text.lower s)
    | value => value
  return .analyzed field value member

end Checked

end Criteria

end DocumentSearch
