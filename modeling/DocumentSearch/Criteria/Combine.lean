import DocumentSearch.Criteria.Basic
import DocumentSearch.Value.Compare

/-!
# Combining criteria

`Criteria.not`, `Criteria.and` and `Criteria.or` put criteria together in a short form:

* a negation moves into the kinds of criteria that have an opposite of their own;
* conjunctions within conjunctions and disjunctions within disjunctions are made one, and clauses that decide nothing
  are left out;
* a disjunction of equalities on one field becomes one leaf with all the values.
-/

namespace DocumentSearch.Criteria

/-! ### Disjunction -/

/-- Whether an equality is meant for the content of a field or for its analysed form. -/
inductive EqualityKind where
  | exact
  | analyzed
deriving DecidableEq, Repr

/-- An equality of a field with one of several values. -/
structure Equality where
  field : String
  kind : EqualityKind
  values : List Value
  member : Option Member

/-- The equality that a leaf says, unless it tells the engine how to look for the values. -/
def equality? : Criteria → Option Equality
  | term field value member => some ⟨field, .exact, [value], member⟩
  | terms field values none member => some ⟨field, .exact, values, member⟩
  | analyzed field value member => some ⟨field, .analyzed, [value], member⟩
  | _ => none

namespace Equality

/-- Two equalities on the same field in the same sense. -/
def joins (a b : Equality) : Bool := a.field == b.field && a.kind == b.kind

/-- Adds a value that is not loosely equal to one that is there. -/
def addValue (values : List Value) (v : Value) : List Value :=
  if values.any (Value.looselyEqual · v) then values else values ++ [v]

/-- The equality with the values of another one as well. -/
def absorb (a b : Equality) : Equality := { a with values := b.values.foldl addValue a.values }

/-- The leaf for an equality. Only a single value remains one that is analysed. -/
def criterion (e : Equality) : Criteria :=
  match e.kind, e.values with
  | .exact, [v] => term e.field v e.member
  | .analyzed, [v] => .analyzed e.field v e.member
  | _, values => terms e.field values none e.member

end Equality

/-- A clause of a disjunction in the making. -/
inductive Clause where
  | equality (e : Equality)
  | other (c : Criteria)

/-- The criterion of a clause. -/
def Clause.criterion : Clause → Criteria
  | equality e => e.criterion
  | other c => c

/-- Adds an equality: to the first clause that it joins, and as a clause of its own if there is none. -/
def addEquality : List Clause → Equality → List Clause
  | [], e => [.equality e]
  | .equality e' :: rest, e =>
    if e'.joins e then .equality (e'.absorb e) :: rest else .equality e' :: addEquality rest e
  | .other c :: rest, e => .other c :: addEquality rest e

/-- Adds a clause. -/
def addClause (clauses : List Clause) (c : Criteria) : List Clause :=
  match c.equality? with
  | some e => addEquality clauses e
  | none => clauses ++ [.other c]

mutual

/-- The clauses of a disjunction, those of disjunctions within it included. Any other criterion is its own clause. -/
def disjuncts : Criteria → List Criteria
  | disjunction clauses => allDisjuncts clauses
  | c => [c]

/-- `disjuncts` of all criteria. -/
def allDisjuncts : List Criteria → List Criteria
  | [] => []
  | c :: rest => disjuncts c ++ allDisjuncts rest

end

/-- The criterion holds of every document. -/
def isMatchAll : Criteria → Bool
  | matchAll => true
  | _ => false

/-- The criterion holds of no document. -/
def isMatchNone : Criteria → Bool
  | negation matchAll => true
  | _ => false

/-- A disjunction of clauses, which is a single clause itself and holds of nothing if there are none. -/
def disjunctionOf : List Criteria → Criteria
  | [] => matchNone
  | [c] => c
  | clauses => disjunction clauses

/-- The criterion that holds where one of the given ones does. -/
def or (cs : List Criteria) : Criteria :=
  let clauses := allDisjuncts cs
  if clauses.any isMatchAll then
    matchAll
  else
    disjunctionOf (((clauses.filter fun c => !c.isMatchNone).foldl addClause []).map Clause.criterion)

/-! ### Negation -/

/-- The criterion that holds where the given one does not. -/
def not : Criteria → Criteria
  | negation c => c
  | range field comparison value member => range field comparison.negate value member
  | present field => missing field
  | missing field => present field
  | bool [] [] (c :: mustNot) => or (c :: mustNot)
  | c => negation c

/-! ### Conjunction -/

/-- The criteria that must hold, among those of a conjunction. -/
def required : Criteria → List Criteria
  | matchAll | negation _ => []
  | bool must [] _ => must
  | c => [c]

/-- The criteria that must not hold, among those of a conjunction. -/
def excluded : Criteria → List Criteria
  | negation c => [c]
  | bool _ [] mustNot => mustNot
  | _ => []

/-- The conjunction of what must hold and what must not. -/
def conjunctionOf : List Criteria → List Criteria → Criteria
  | [], [] => matchAll
  | [c], [] => c
  | [], [c] => not c
  | must, mustNot => bool must [] mustNot

/-- The criterion that holds where all the given ones do. -/
def and (cs : List Criteria) : Criteria := conjunctionOf (cs.flatMap required) (cs.flatMap excluded)

end DocumentSearch.Criteria
