import DocumentSearch.Expr.Builder
import DocumentSearch.Mapping.Document
import DocumentSearch.Criteria.Predicate

/-!
# Spellings of a comparison

Equality can be asked by the operator, of one of the operands or of neither, in a mode that tells letter case apart, and
with the operands in either order. An order comparison can be asked from either side. All spellings have the same
criterion or the same error (`ofPredicate_spellings`), and so any comparison within a predicate may be put in another
way (`ofPredicate_of_respelled`).

The operands make a pairing of a constant with what it is compared with. From the other side it is the same pairing, but
for the mark that the constant comes first (`Pairing.of?_comm`); only an order comparison looks at this mark.
-/

namespace DocumentSearch

namespace Expr

/-- The expression says that two operands are equal. -/
inductive Equates : Expr → Expr → Expr → Prop where
  | operator (a b : Expr) : Equates (a.equal b) a b
  /-- Asked of an operand as of any value. -/
  | asked (a b : Expr) : Equates (a.equals b) a b
  /-- Asked of an operand as of a string. -/
  | askedOfString (a b : Expr) : Equates (call a ⟨"equals", .string⟩ [b]) a b
  /-- Asked of a string in a mode that does not disregard letter case. -/
  | askedInMode (a b : Expr) {mode : Expr} : mode.constant?.any Value.ignoresCase = false →
      Equates (call a ⟨"equals", .string⟩ [b, mode]) a b
  | static (a b : Expr) : Equates (a.staticEquals b) a b
  | swapped {e a b : Expr} : Equates e a b → Equates e b a

/-- In one place within the predicate a comparison is put in another way. -/
inductive Respelled : Expr → Expr → Prop where
  | equality {e e' a b : Expr} : Equates e a b → Equates e' a b → Respelled e e'
  | inequality {e a b : Expr} : Equates e a b → Respelled (a.notEqual b) e.not
  | order (comparison : Comparison) (a b : Expr) :
      Respelled (binary a (.compare comparison) b) (binary b (.compare comparison.flip) a)
  | andLeft {a a' : Expr} (b : Expr) : Respelled a a' → Respelled (a.and b) (a'.and b)
  | andRight (a : Expr) {b b' : Expr} : Respelled b b' → Respelled (a.and b) (a.and b')
  | orLeft {a a' : Expr} (b : Expr) : Respelled a a' → Respelled (a.or b) (a'.or b)
  | orRight (a : Expr) {b b' : Expr} : Respelled b b' → Respelled (a.or b) (a.or b')
  | not {e e' : Expr} : Respelled e e' → Respelled e.not e'.not
  | convert {e e' : Expr} (type : ValueType) : Respelled e e' → Respelled (convert e type) (convert e' type)

end Expr

namespace Criteria

variable {mapping : Mapping} {source : String}

/-! ### Pairings from the other side -/

/-- The pairing of the operands in the other order. -/
def Pairing.turned (p : Pairing) : Pairing := { p with constantFirst := !p.constantFirst }

theorem Pairing.of?_comm (a b : Expr) : Pairing.of? b a = (Pairing.of? a b).map turned := by
  unfold of?
  cases a.constant? <;> cases b.constant? <;> rfl

/-- Equality does not ask which operand is the constant. -/
private theorem equalityOf_turned (p : Pairing) : equalityOf mapping source p.turned = equalityOf mapping source p :=
  rfl

theorem ofEquality_comm (a b : Expr) : ofEquality mapping source b a = ofEquality mapping source a b := by
  unfold ofEquality
  rw [Pairing.of?_comm a b]
  cases Pairing.of? a b with
  | none => rfl
  | some p => exact equalityOf_turned p

private theorem flip_flip (comparison : Comparison) : comparison.flip.flip = comparison := by
  cases comparison <;> rfl

theorem ofComparison_flip (comparison : Comparison) (a b : Expr) :
    ofComparison mapping source comparison.flip b a = ofComparison mapping source comparison a b := by
  unfold ofComparison
  rw [Pairing.of?_comm a b]
  cases Pairing.of? a b with
  | none => rfl
  | some p =>
    -- turned once by its operands and once by its constant, the comparison is as it was
    have hturned : (if p.turned.constantFirst then comparison.flip.flip else comparison.flip) =
        if p.constantFirst then comparison.flip else comparison := by
      rw [flip_flip]
      cases h : p.constantFirst <;> simp [Pairing.turned, h]
    simp only [Option.map_some, hturned]
    rfl

/-! ### Predicates -/

/-- However an equality is put, it is compiled as that of its operands. -/
private theorem alternatives_of_equates {e a b : Expr} (h : e.Equates a b) (whole : Expr) :
    alternatives mapping source whole e = do return [← ofEquality mapping source a b] := by
  induction h with
  | operator a b => rfl
  | asked a b => rfl
  | askedOfString a b => rfl
  | @askedInMode a b mode hmode =>
    have hmethod : ofCall mapping source ⟨"equals", .string⟩ (some a) [b, mode] =
      ofEqualityInMode mapping source a b mode := rfl
    rw [alternatives, hmethod, ofEqualityInMode, if_neg (Bool.eq_false_iff.1 hmode)]
  | static a b => rfl
  | swapped _ ih => rw [ih, ofEquality_comm]

/-- A comparison has the same criteria in another spelling, whatever conversions stand around it. -/
private theorem alternatives_of_respelled {e e' : Expr} (h : e.Respelled e') (whole whole' : Expr) :
    alternatives mapping source whole e = alternatives mapping source whole' e' := by
  induction h generalizing whole whole' with
  | equality he he' => rw [alternatives_of_equates he, alternatives_of_equates he']
  | @inequality e a b he =>
    have hequality : alternatives mapping source e e = do return [← ofEquality mapping source a b] :=
      alternatives_of_equates he e
    simp only [Expr.notEqual, Expr.not, alternatives, hequality, bind_assoc, pure_bind, joined]
  | order comparison a b => rw [alternatives, alternatives, ofComparison_flip]
  | @andLeft a a' b _ ih => rw [Expr.and, Expr.and, alternatives, alternatives, ih a a']
  | @andRight a b b' _ ih => rw [Expr.and, Expr.and, alternatives, alternatives, ih b b']
  | @orLeft a a' b _ ih => rw [Expr.or, Expr.or, alternatives, alternatives, ih a.core a'.core]
  | @orRight a b b' _ ih => rw [Expr.or, Expr.or, alternatives, alternatives, ih b.core b'.core]
  | @not e e' _ ih => rw [Expr.not, Expr.not, alternatives, alternatives, ih e e']
  | convert type _ ih => exact ih whole whole'

/-- A predicate keeps its criterion, or its error, where one of its comparisons is put in another way. -/
theorem ofPredicate_of_respelled {p q : Expr} (h : p.body.Respelled q.body) :
    ofPredicate mapping source p = ofPredicate mapping source q := by
  unfold ofPredicate
  rw [alternatives_of_respelled h p.body q.body]

private theorem body_of_equates {e a b : Expr} (h : e.Equates a b) : e.body = e := by
  induction h with
  | operator | asked | askedOfString | askedInMode | static => rfl
  | swapped _ ih => exact ih

private theorem ofPredicate_of_equates {e a b : Expr} (h : e.Equates a b) :
    ofPredicate mapping source e = ofPredicate mapping source (a.equal b) := by
  apply ofPredicate_of_respelled
  rw [body_of_equates h]
  exact .equality h (.operator a b)

private theorem ofPredicate_notEqual {e a b : Expr} (h : e.Equates a b) :
    ofPredicate mapping source (a.notEqual b) = (ofPredicate mapping source e).map not := by
  have hnot : ofPredicate mapping source (a.notEqual b) = ofPredicate mapping source e.not :=
    ofPredicate_of_respelled (.inequality h)
  rw [hnot]
  unfold ofPredicate
  rw [body_of_equates h]
  show (do return joined (← alternatives mapping source e.not e.not)) = _
  rw [Expr.not, alternatives]
  cases alternatives mapping source e e <;> rfl

private theorem ofPredicate_order (comparison : Comparison) (a b : Expr) :
    ofPredicate mapping source (.binary a (.compare comparison) b) =
      ofPredicate mapping source (.binary b (.compare comparison.flip) a) :=
  ofPredicate_of_respelled (.order comparison a b)

/-- Equality has one criterion or one error in all its spellings, inequality has the negation of this criterion or the
same error, and an order comparison has what the opposite one has of the operands in the other order. -/
theorem ofPredicate_spellings (mapping : Mapping) (source : String) (a b : Expr) :
    (∀ e : Expr, e.Equates a b → ofPredicate mapping source e = ofPredicate mapping source (a.equal b)) ∧
    ofPredicate mapping source (a.notEqual b) = (ofPredicate mapping source (a.equal b)).map not ∧
    ofPredicate mapping source (b.notEqual a) = (ofPredicate mapping source (a.equal b)).map not ∧
    ofPredicate mapping source (a.less b) = ofPredicate mapping source (b.greater a) ∧
    ofPredicate mapping source (a.lessOrEqual b) = ofPredicate mapping source (b.greaterOrEqual a) ∧
    ofPredicate mapping source (a.greater b) = ofPredicate mapping source (b.less a) ∧
    ofPredicate mapping source (a.greaterOrEqual b) = ofPredicate mapping source (b.lessOrEqual a) := by
  refine ⟨fun e he => ofPredicate_of_equates he, ?_, ?_, ?_, ?_, ?_, ?_⟩
  · exact ofPredicate_notEqual (.operator a b)
  · exact ofPredicate_notEqual (.swapped (.operator a b))
  · exact ofPredicate_order .less a b
  · exact ofPredicate_order .lessOrEqual a b
  · exact ofPredicate_order .greater a b
  · exact ofPredicate_order .greaterOrEqual a b

/-- A name asked for in a mode, with the constant first. -/
theorem ofPredicate_spellings_name :
    let mapping := DocumentMapping.toMapping { options := .plain }
    let member : Member := ⟨"name", .named "WebUser", .string⟩
    let name : Expr := .member (.parameter ⟨"w", "WebUser"⟩) member
    let ana : Expr := .constant (.string "Ana")
    (ana.equalsWith name "ordinal").Equates name ana ∧
      ofPredicate mapping "WebUser" (ana.equalsWith name "ordinal") =
        ofPredicate mapping "WebUser" (name.equal ana) ∧
      ofPredicate mapping "WebUser" (name.equal ana) = .ok (term "name" (.string "Ana") (some member)) := by
  intro mapping member name ana
  have hmode : (Expr.constant (.string "ordinal")).constant?.any Value.ignoresCase = false := by decide
  have hequates : (ana.equalsWith name "ordinal").Equates name ana := .swapped (.askedInMode ana name hmode)
  exact ⟨hequates, (ofPredicate_spellings mapping "WebUser" name ana).1 _ hequates, rfl⟩

end Criteria

end DocumentSearch
