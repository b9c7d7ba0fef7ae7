import DocumentSearch.Criteria.Combine
import DocumentSearch.CompileError
import DocumentSearch.Mapping.Basic
import DocumentSearch.Text.Escape

/-!
# Predicates as criteria

`Criteria.ofPredicate` turns a predicate into the criterion that finds the documents for which it holds.

* A comparison is one of a constant with something that the mapping has a field for, in either order.
* A comparison with null asks whether the field has content.
* The operands of nested `or`s are clauses of one disjunction.
-/

namespace DocumentSearch

/-- The test whether an optional value is there. -/
def Member.isHasValue (m : Member) : Bool := m.owner == .nullable && m.name == "has_value"

/-- The member is a truth value, or an optional one. -/
def Member.isTruth (m : Member) : Bool := m.type == .bool || m.type == .nullable .bool

/-- What an expression reads, for messages: the name of the member or the whole expression. -/
def Expr.readable (e : Expr) : String :=
  match e.member? with
  | some (_, m) => m.name
  | none => e.inspect

namespace Criteria

/-- A constant and what it is compared with. -/
structure Pairing where
  constant : Value
  subject : Expr
  /-- The constant is the left operand. -/
  constantFirst : Bool

/-- The pairing of two operands of which exactly one is a constant. -/
def Pairing.of? (a b : Expr) : Option Pairing :=
  match a.constant?, b.constant? with
  | some v, none => some ⟨v, b, true⟩
  | none, some v => some ⟨v, a, false⟩
  | _, _ => none

/-- The member that the constant is compared with. -/
def Pairing.member? (p : Pairing) : Option Member := p.subject.member?.map Prod.snd

/-- A criterion as a step of a compilation. -/
def checked (c : Except CriteriaError Criteria) : Except CompileError Criteria := c.mapError .criteria

/-- The text of a constant string. -/
def patternText (e : Expr) : Except CompileError String :=
  match e.constant? with
  | some (.string s) => .ok s
  | _ => .error (.unsupported .patternText)

/-- The items of a constant array; any other constant but null is a single item. -/
def valueList (e : Expr) : Except CompileError (List Value) :=
  match e.constant? with
  | some (.array values) => .ok values
  | none | some .null => .error (.unsupported .valueList)
  | some v => .ok [v]

variable (mapping : Mapping) (source : String)

/-- The field that an expression reads. -/
def fieldOf (e : Expr) : Except CompileError String :=
  match mapping.fieldName? source e with
  | some field => .ok field
  | none => .error (.unresolvable e.readable)

/-! ### Comparisons -/

/-- The field has content, or it has none. -/
def presence (isPresent : Bool) (field : String) : Except CriteriaError Criteria :=
  if isPresent then Checked.present field else Checked.missing field

/-- Equality with a value. Fields of text are compared in analysed form. -/
def equalityWith (p : Pairing) : Except CompileError Criteria := do
  let field ← fieldOf mapping source p.subject
  if mapping.fieldType? field = some "text" then
    checked (Checked.analyzed field p.constant p.member?)
  else
    checked (Checked.term field p.constant p.member?)

/-- The equality that a pairing stands for. With null it asks whether there is content. -/
def equalityOf (p : Pairing) : Except CompileError Criteria := do
  match p.constant, p.subject.member? with
  | .bool b, some (target?, m) =>
    if m.isHasValue then
      match target? with
      | some target => checked (presence b (← fieldOf mapping source target))
      | none => checked (presence false (← fieldOf mapping source p.subject))
    else
      equalityWith mapping source p
  | .null, some (_, m) =>
    if !m.isHasValue && m.type.isNullable then
      checked (presence false (← fieldOf mapping source p.subject))
    else
      throw (.unsupported (.equalityWithNull p.subject.readable))
  | .null, none => throw (.unsupported (.equalityWithNull p.subject.readable))
  | _, _ => equalityWith mapping source p

/-- The equality of two operands. -/
def ofEquality (a b : Expr) : Except CompileError Criteria :=
  match Pairing.of? a b with
  | some p => equalityOf mapping source p
  | none => .error (.unsupported .equality)

/-- The order comparison of two operands. -/
def ofComparison (comparison : Comparison) (a b : Expr) : Except CompileError Criteria := do
  match Pairing.of? a b with
  | none => throw (.unsupported .comparison)
  | some p =>
    if p.constant.isNull then
      throw (.unsupported (.orderWithNull p.subject.readable))
    let comparison := if p.constantFirst then comparison.flip else comparison
    let field ← fieldOf mapping source p.subject
    checked (Checked.range field comparison p.constant p.member?)

/-! ### Methods -/

/-- A pattern that the content of a field is to match. -/
def ofPattern (kind : PatternKind) (e text : Expr) : Except CompileError Criteria := do
  let field ← fieldOf mapping source e
  checked (Checked.pattern kind field (← patternText text))

/-- A pattern made from a text that stands for itself in it. -/
def ofQuoted (kind : PatternKind) (write : String → String) (e text : Expr) : Except CompileError Criteria := do
  let pattern := write (← patternText text)
  checked (Checked.pattern kind (← fieldOf mapping source e) pattern)

/-- Some or all of several values. -/
def ofValues (e values : Expr) (execution : Option ExecutionMode) : Except CompileError Criteria := do
  let values ← valueList values
  checked (Checked.anyOf (← fieldOf mapping source e) values execution (e.member?.map Prod.snd))

/-- An item in a sequence, of which one is constant. -/
def ofHasItem (items item : Expr) : Except CompileError Criteria := do
  match items.constant?, item.constant? with
  | some _, none => ofValues mapping source item items none
  | none, some v => checked (Checked.term (← fieldOf mapping source items) v (items.member?.map Prod.snd))
  | _, _ => throw (.unsupported .hasItem)

/-- Equality in a mode. Where it disregards letter case, the field is compared in analysed form. -/
def ofEqualityInMode (a b mode : Expr) : Except CompileError Criteria := do
  if mode.constant?.any Value.ignoresCase then
    match Pairing.of? a b with
    | none => throw (.unsupported .equalityInMode)
    | some p => checked (Checked.analyzed (← fieldOf mapping source p.subject) p.constant p.member?)
  else
    ofEquality mapping source a b

/-- A method call. -/
def ofCall (m : Method) (target? : Option Expr) (args : List Expr) : Except CompileError Criteria :=
  match m.builtin?, target?, args with
  | some .equalsString, some a, [b] | some .equals, some a, [b] | some .equals, none, [a, b] =>
    ofEquality mapping source a b
  | some .equalsString, some a, [b, mode] => ofEqualityInMode mapping source a b mode
  | some .startsWith, some e, [text] => ofPattern mapping source .leading e text
  | some .endsWith, some e, [text] =>
    ofQuoted mapping source .wildcard (fun s => "*" ++ Text.escape Text.wildcardReserved s) e text
  | some .contains, some e, [text] =>
    ofQuoted mapping source .regexp (fun s => ".*" ++ Text.escape Text.regexpReserved s ++ ".*") e text
  | some .hasItem, some items, [item] | some .hasItem, none, [items, item] => ofHasItem mapping source items item
  | some .matchesRegexp, none, [e, text] => ofPattern mapping source .regexp e text
  | some .hasPrefix, none, [e, text] => ofPattern mapping source .leading e text
  | some .matchesWildcard, none, [e, text] => ofPattern mapping source .wildcard e text
  | some .containsAny, none, [e, values] => ofValues mapping source e values none
  | some .containsAll, none, [e, values] => ofValues mapping source e values (some .and)
  | _, _, _ => .error (.unsupported (.method m))

/-! ### Predicates -/

/-- A member that is a truth value, read by `whole`. -/
def ofMember (whole : Expr) (m : Member) : Except CompileError Criteria := do
  if m.isTruth then
    checked (Checked.term (← fieldOf mapping source whole) (.bool true) (some m))
  else
    throw (.unsupported (.notPredicate whole.core.inspect))

/-- A single clause as it is, and several as a disjunction. -/
def joined : List Criteria → Criteria
  | [c] => c
  | clauses => or clauses

/-- The criteria for the operands of nested `or`s; any other predicate is its only operand. `whole` is the predicate
with the conversions around it. -/
def alternatives (whole : Expr) : Expr → Except CompileError (List Criteria)
  | .convert e _ => alternatives whole e
  | .constant (.bool b) => return [if b then matchAll else matchNone]
  | .binary a .and b => do
    let left ← alternatives a a
    let right ← alternatives b b
    return [and [joined left, joined right]]
  | .binary a .or b => do
    let left ← alternatives a.core a
    return left ++ (← alternatives b.core b)
  | .binary a .equal b => return [← ofEquality mapping source a b]
  | .binary a .notEqual b => return [not (← ofEquality mapping source a b)]
  | .binary a (.compare comparison) b => return [← ofComparison mapping source comparison a b]
  | .unary .not e => return [not (joined (← alternatives e e))]
  | .call target m args => return [← ofCall mapping source m (some target) args]
  | .staticCall m args => return [← ofCall mapping source m none args]
  | .member target m => do
    if m.isHasValue then
      return [← checked (presence true (← fieldOf mapping source target))]
    else
      return [← ofMember mapping source whole m]
  | .staticMember m => return [← ofMember mapping source whole m]
  | e => throw (.unsupported (.notPredicate e.inspect))

/-- The criterion for a predicate, or for the body of a lambda. -/
def ofPredicate (predicate : Expr) : Except CompileError Criteria := do
  return joined (← alternatives mapping source predicate.body predicate.body)

end Criteria

end DocumentSearch
