import DocumentSearch.Mapping.Document
import DocumentSearch.Proofs.Criteria.Alternatives
import DocumentSearch.Proofs.Criteria.Predicate

/-!
# Negation on documents that lack fields

In a document that has at most one value for each field, a compiled predicate and its negation exclude each other, and
one of them holds (`holds_ofPredicate_not`). There are two exceptions.

* A predicate that becomes a single range is negated by turning the comparison round. Where the document lacks the
  field, neither of the two ranges holds. Ranges within conjunctions and disjunctions are no exceptions, since what
  surrounds them is negated as a whole.
* A predicate that only excludes is negated by the disjunction of what it excludes, and this merges equalities of one
  kind on one field. A value is left out for one that is loosely equal, and several analysed values are looked for in
  exact form. A document may have content that tells apart what is merged.
-/

namespace DocumentSearch

open Criteria

/-- How the content of a field is tested. Any two contents have an order. Exact and analysed content are compared with
values by tests of their own. -/
structure ContentTests where
  equal (kind : EqualityKind) (field : String) (content value : Value) : Bool
  order (field : String) (content value : Value) : Ordering
  pattern (kind : PatternKind) (field : String) (content : Value) (text : String) : Bool
  /-- The test for several values with a hint how to look for them. -/
  hinted (mode : ExecutionMode) (field : String) (content : Value) (values : List Value) : Bool

/-- The leaves that hold of a document with at most one value for each field. Where there is none, no test holds but
the one for the lack of content. -/
def Interpretation.ofContents (tests : ContentTests) (document : String → Option Value) : Interpretation where
  term field v _ := (document field).any (tests.equal .exact field · v)
  terms field values execution _ := (document field).any fun content =>
    match execution with
    | none => values.any (tests.equal .exact field content)
    | some mode => tests.hinted mode field content values
  range field comparison v _ := (document field).any fun content => comparison.holds (tests.order field content v)
  present field := (document field).isSome
  missing field := (document field).isNone
  pattern kind field text := (document field).any (tests.pattern kind field · text)
  analyzed field v _ := (document field).any (tests.equal .analyzed field · v)

variable {tests : ContentTests} {document : String → Option Value}

namespace Interpretation

/-- Comparisons of content that is there are complementary. -/
theorem range_negate_ofContents {field : String} (h : document field ≠ none) (comparison : Comparison) (v : Value)
    (member : Option Member) :
    (ofContents tests document).range field comparison.negate v member =
      !(ofContents tests document).range field comparison v member := by
  obtain ⟨content, hcontent⟩ := Option.ne_none_iff_exists'.1 h
  simp only [ofContents, hcontent, Option.any_some, comparison.holds_negate]

theorem range_ofContents_of_absent {field : String} (h : document field = none) (comparison : Comparison) (v : Value)
    (member : Option Member) : (ofContents tests document).range field comparison v member = false := by
  simp only [ofContents, h, Option.any_none]

theorem missing_ofContents (field : String) :
    (ofContents tests document).missing field = !(ofContents tests document).present field :=
  (Option.not_isSome (document field)).symm

end Interpretation

namespace Criteria

/-! ### Equalities that are merged -/

variable {cs : List Criteria}

/-- One of the criteria, or of the clauses of disjunctions among them, is an equality of the field with the value, in
this kind. -/
def AsksFor (cs : List Criteria) (kind : EqualityKind) (field : String) (v : Value) : Prop :=
  ∃ c ∈ allDisjuncts cs, ∃ e, c.equality? = some e ∧ e.key = (field, kind) ∧ v ∈ e.values

/-- The document has no content that tells apart what the disjunction of these criteria merges. -/
structure MergesAlike (tests : ContentTests) (document : String → Option Value) (cs : List Criteria) : Prop where
  /-- One value stands for another that is loosely equal. -/
  loose {kind : EqualityKind} {field : String} {content v w : Value} : document field = some content →
    AsksFor cs kind field v → AsksFor cs kind field w → v.looselyEqual w = true →
    tests.equal kind field content v = tests.equal kind field content w
  /-- Analysed values of which there are several are looked for in exact form. -/
  several {field : String} {content v w : Value} : document field = some content →
    AsksFor cs .analyzed field v → AsksFor cs .analyzed field w → v.looselyEqual w = false →
    ∀ u ∈ [v, w], tests.equal .exact field content u = tests.equal .analyzed field content u

/-- What an equality says of a document. -/
private theorem holds_of_equality? {c : Criteria} {e : Equality} (h : c.equality? = some e) :
    c.holds (.ofContents tests document) =
      (document e.field).any fun content => e.values.any (tests.equal e.kind e.field content) := by
  unfold equality? at h
  split at h <;> cases h
  · simp only [holds, Interpretation.ofContents, List.any_cons, List.any_nil, Bool.or_false]
  · rfl
  · simp only [holds, Interpretation.ofContents, List.any_cons, List.any_nil, Bool.or_false]

private theorem asksFor_of_mem_values {e : Equality} (he : .equality e ∈ clausesOf cs) {v : Value}
    (hv : v ∈ e.values) : AsksFor cs e.kind e.field v := by
  obtain ⟨c, hc, a, ha, hkey, hva⟩ := exists_mem_of_mem_values he hv
  exact ⟨c, (List.mem_filter.1 hc).1, a, ha, hkey, hva⟩

/-- In a list with two elements at least, each is related to another one if all are in their order. -/
private theorem exists_related_of_pairwise {α : Type} {R : α → α → Prop} {xs : List α} (h : xs.Pairwise R)
    (hseveral : ∀ x, xs ≠ [x]) {x : α} (hx : x ∈ xs) : ∃ y ∈ xs, R x y ∨ R y x := by
  match xs with
  | [] => cases hx
  | [y] => exact absurd rfl (hseveral y)
  | y :: z :: rest =>
    have hfirst : ∀ u ∈ z :: rest, R y u := (List.pairwise_cons.1 h).1
    rcases List.mem_cons.1 hx with rfl | hx
    · exact ⟨z, .tail _ (.head _), .inl (hfirst z (.head _))⟩
    · exact ⟨y, .head _, .inr (hfirst x hx)⟩

/-- Several analysed values that a clause has gathered are found in exact form just as in analysed form. -/
private theorem equal_exact_of_several (h : MergesAlike tests document cs) {e : Equality}
    (he : .equality e ∈ clausesOf cs) (hkind : e.kind = .analyzed) (hseveral : ∀ v, e.values ≠ [v]) {content : Value}
    (hcontent : document e.field = some content) {v : Value} (hv : v ∈ e.values) :
    tests.equal .exact e.field content v = tests.equal .analyzed e.field content v := by
  have hasks : ∀ u ∈ e.values, AsksFor cs .analyzed e.field u := fun u hu => hkind ▸ asksFor_of_mem_values he hu
  obtain ⟨w, hw, hvw | hwv⟩ := exists_related_of_pairwise (pairwise_values_of_analyzed he hkind) hseveral hv
  · exact h.several hcontent (hasks v hv) (hasks w hw) hvw v (.head _)
  · exact h.several hcontent (hasks w hw) (hasks v hv) hwv v (.tail _ (.head _))

/-- The leaf for a clause says of the document what the clause does. -/
private theorem holds_criterion_of_mergesAlike (h : MergesAlike tests document cs) {e : Equality}
    (he : .equality e ∈ clausesOf cs) :
    e.criterion.holds (.ofContents tests document) =
      (document e.field).any fun content => e.values.any (tests.equal e.kind e.field content) := by
  unfold Equality.criterion
  split
  · rename_i hkind hvalues
    simp only [holds, Interpretation.ofContents, hkind, hvalues, List.any_cons, List.any_nil, Bool.or_false]
  · rename_i hkind hvalues
    simp only [holds, Interpretation.ofContents, hkind, hvalues, List.any_cons, List.any_nil, Bool.or_false]
  · rename_i hexact hanalyzed
    cases hcontent : document e.field with
    | none => simp only [holds, Interpretation.ofContents, hcontent, Option.any_none]
    | some content =>
      simp only [holds, Interpretation.ofContents, hcontent, Option.any_some]
      cases hkind : e.kind with
      | exact => rfl
      | analyzed =>
        have hseveral : ∀ v, e.values ≠ [v] := fun v hvalues => hanalyzed v hkind hvalues
        rw [Bool.eq_iff_iff, List.any_eq_true, List.any_eq_true]
        refine exists_congr fun v => and_congr_right fun hv => ?_
        rw [equal_exact_of_several h he hkind hseveral hcontent hv]

/-- A disjunction holds of a document where one of the criteria does, if nothing that it merges is told apart. -/
theorem holds_or_of_mergesAlike (h : MergesAlike tests document cs) :
    (or cs).holds (.ofContents tests document) = cs.any (holds (.ofContents tests document)) := by
  refine holds_or_of_clauses _ ?_
  rw [Bool.eq_iff_iff, List.any_eq_true, List.any_eq_true]
  constructor
  · rintro ⟨_, hmem, hholds⟩
    obtain ⟨cl, hcl, rfl⟩ := List.mem_map.1 hmem
    cases cl with
    | other c => exact ⟨c, (mem_of_other_mem_foldl_addClause hcl).1, hholds⟩
    | equality e =>
      -- the value that is found comes from one of the criteria
      rw [Clause.criterion, holds_criterion_of_mergesAlike h hcl, Option.any_eq_true] at hholds
      obtain ⟨content, hcontent, hfound⟩ := hholds
      obtain ⟨v, hv, hequal⟩ := List.any_eq_true.1 hfound
      obtain ⟨c, hc, a, ha, hkey, hva⟩ := exists_mem_of_mem_values hcl hv
      obtain ⟨hfield, hkind⟩ := Prod.mk.inj hkey
      refine ⟨c, hc, ?_⟩
      rw [holds_of_equality? ha, hfield, hkind, hcontent]
      exact List.any_eq_true.2 ⟨v, hva, hequal⟩
  · rintro ⟨c, hc, hholds⟩
    cases ha : c.equality? with
    | none => exact ⟨c, List.mem_map.2 ⟨.other c, other_mem_foldl_addClause hc ha [], rfl⟩, hholds⟩
    | some a =>
      -- the value that is found is there, or one that stands for it
      rw [holds_of_equality? ha, Option.any_eq_true] at hholds
      obtain ⟨content, hcontent, hfound⟩ := hholds
      obtain ⟨v, hv, hequal⟩ := List.any_eq_true.1 hfound
      obtain ⟨e, he, hkey, w, hw, hwv⟩ : Represents (clausesOf cs) a.key v := represents_foldl_addClause hc ha hv []
      obtain ⟨hfield, hkind⟩ := Prod.mk.inj hkey
      refine ⟨e.criterion, List.mem_map.2 ⟨_, he, rfl⟩, ?_⟩
      rw [holds_criterion_of_mergesAlike h he, hfield, hkind, hcontent]
      refine List.any_eq_true.2 ⟨w, hw, ?_⟩
      rcases hwv with rfl | hwv
      · exact hequal
      · have hasks : AsksFor cs a.kind a.field w := hfield ▸ hkind ▸ asksFor_of_mem_values he hw
        have hasked : AsksFor cs a.kind a.field v := ⟨c, (List.mem_filter.1 hc).1, a, ha, rfl, hv⟩
        rw [h.loose hcontent hasks hasked hwv]
        exact hequal

/-! ### Negated predicates -/

variable {mapping : Mapping} {source : String} {c d : Criteria}

/-- The criterion is a range over a field that the document lacks. -/
def IsRangeOverAbsent (document : String → Option Value) : Criteria → Prop
  | range field _ _ _ => document field = none
  | _ => False

/-- What the criterion excludes, if it asks for nothing else. -/
def excludedAlone : Criteria → List Criteria
  | bool [] [] mustNot => mustNot
  | _ => []

/-- The criterion of a negated predicate is the negation of its criterion. -/
theorem eq_not_of_ofPredicate {p : Expr} (hc : ofPredicate mapping source p = .ok c)
    (hd : ofPredicate mapping source (.unary .not p) = .ok d) : d = not c := by
  obtain ⟨cs, hcs, hd⟩ := bind_eq_ok.1 hd
  cases hd
  obtain ⟨clauses, hclauses, rfl⟩ := bind_singleton_eq_ok.1 hcs
  -- no lambda is negated
  have hbody : p.body = p := by cases p <;> first | rfl | exact absurd hclauses throw_ne_ok
  rw [ofPredicate, hbody, hclauses] at hc
  cases hc
  rfl

/-- Either a predicate or its negation holds of a document, with two exceptions. Neither does if the criterion of the
predicate is a range over a field that the document lacks. And where the criterion only excludes, nothing is said of
documents with content that tells apart what the disjunction of the exclusions merges. -/
theorem holds_ofPredicate_not {p : Expr} (tests : ContentTests) (document : String → Option Value)
    (hc : ofPredicate mapping source p = .ok c) (hd : ofPredicate mapping source (.unary .not p) = .ok d) :
    (c.IsRangeOverAbsent document →
      c.holds (.ofContents tests document) = false ∧ d.holds (.ofContents tests document) = false) ∧
    (¬ c.IsRangeOverAbsent document → MergesAlike tests document c.excludedAlone →
      d.holds (.ofContents tests document) = !c.holds (.ofContents tests document)) := by
  obtain rfl := eq_not_of_ofPredicate hc hd
  constructor
  · intro habsent
    cases c with
    | range field comparison v member =>
      exact ⟨Interpretation.range_ofContents_of_absent habsent comparison v member,
        Interpretation.range_ofContents_of_absent habsent comparison.negate v member⟩
    | _ => exact habsent.elim
  · intro hpresent hmerges
    refine holds_not_of_opposites (fun field comparison v member heq => ?_)
      (fun field _ => Interpretation.missing_ofContents field) fun mustNot heq => ?_
    · rw [heq] at hpresent
      exact Interpretation.range_negate_ofContents hpresent comparison v member
    · rw [heq] at hmerges
      exact holds_or_of_mergesAlike hmerges

end Criteria

/-- Content is found by values that are loosely equal to it, and analysed text in any letter case. -/
def ContentTests.byValue : ContentTests where
  equal
    | .analyzed, _, .string s, .string t => Text.lower s == Text.lower t
    | _, _, content, v => content.looselyEqual v
  order _ content v := (content.compare? v).getD .lt
  pattern _ _ _ _ := false
  hinted _ _ _ _ := false

namespace Criteria

/-- Users whose name is not `bo`, nor one of two others in any letter case. A name in small letters is found in exact
form where it is found at all. -/
theorem holds_ofPredicate_not_user :
    let name : Expr := .member (.parameter ⟨"w", "WebUser"⟩) ⟨"name", .named "WebUser", .string⟩
    let unlike (s : String) : Expr :=
      .unary .not (.call name ⟨"equals", .string⟩ [.constant (.string s), .constant (.string "ignore_case")])
    let p : Expr :=
      .binary (.binary (.binary name .notEqual (.constant (.string "bo"))) .and (unlike "Cy")) .and (unlike "Eva")
    let mapping : DocumentMapping := { options := .plain }
    let document : String → Option Value := fun field => if field = "name" then some (.string "bo") else none
    ∃ c d, ofPredicate mapping.toMapping.withReserved "WebUser" p = .ok c ∧
      ofPredicate mapping.toMapping.withReserved "WebUser" (.unary .not p) = .ok d ∧
      ¬ c.IsRangeOverAbsent document ∧ MergesAlike .byValue document c.excludedAlone ∧
        d.holds (.ofContents .byValue document) = !c.holds (.ofContents .byValue document) := by
  intro name unlike p mapping document
  obtain ⟨c, hc⟩ : ∃ c, ofPredicate mapping.toMapping.withReserved "WebUser" p = .ok c := ⟨_, rfl⟩
  obtain ⟨d, hd⟩ : ∃ d, ofPredicate mapping.toMapping.withReserved "WebUser" (.unary .not p) = .ok d := ⟨_, rfl⟩
  have hpresent : ¬ c.IsRangeOverAbsent document := by cases hc; exact id
  have hasked {kind : EqualityKind} {field : String} {v : Value} (h : AsksFor c.excludedAlone kind field v) :
      field = "name" ∧ ∃ s, v = .string s ∧ (kind = .analyzed → s = Text.lower "Cy" ∨ s = Text.lower "Eva") := by
    cases hc
    obtain ⟨leaf, hleaf, e, he, hkey, hv⟩ := h
    obtain ⟨rfl, rfl⟩ := Prod.mk.inj hkey
    rcases List.mem_cons.1 hleaf with rfl | hleaf
    · cases he
      exact ⟨rfl, _, List.mem_singleton.1 hv, nofun⟩
    rcases List.mem_cons.1 hleaf with rfl | hleaf
    · cases he
      exact ⟨rfl, _, List.mem_singleton.1 hv, fun _ => .inl rfl⟩
    · obtain rfl := List.mem_singleton.1 hleaf
      cases he
      exact ⟨rfl, _, List.mem_singleton.1 hv, fun _ => .inr rfl⟩
  have hmerges : MergesAlike .byValue document c.excludedAlone := by
    constructor
    · intro kind field content v w _ hv _ hvw
      obtain ⟨-, s, rfl, -⟩ := hasked hv
      rw [Value.string_looselyEqual.1 hvw]
    · intro field content v w hcontent hv hw _ u hu
      have hu : AsksFor c.excludedAlone .analyzed field u := by
        rcases List.mem_pair.1 hu with rfl | rfl
        · exact hv
        · exact hw
      obtain ⟨rfl, s, rfl, hs⟩ := hasked hu
      obtain rfl := Option.some.inj hcontent
      rcases hs rfl with rfl | rfl <;> decide
  exact ⟨c, d, hc, hd, hpresent, hmerges, (holds_ofPredicate_not .byValue document hc hd).2 hpresent hmerges⟩

/-- Neither a predicate nor its negation holds where the document lacks the field of a range, where one of the analysed
names that are excluded is there in another letter case, or where an integer that is excluded by a float comes after
the one that stands for the float. -/
theorem exists_neither_holds :
    let user (name : String) (type : ValueType) : Expr :=
      .member (.parameter ⟨"w", "WebUser"⟩) ⟨name, .named "WebUser", type⟩
    let mapping : DocumentMapping := { options := .plain }
    let neither (p : Expr) (document : String → Option Value) : Prop :=
      ∃ c d, ofPredicate mapping.toMapping.withReserved "WebUser" p = .ok c ∧
        ofPredicate mapping.toMapping.withReserved "WebUser" (.unary .not p) = .ok d ∧
        c.holds (.ofContents .byValue document) = false ∧ d.holds (.ofContents .byValue document) = false
    let unlike (s : String) : Expr :=
      .unary .not (.call (user "name" .string) ⟨"equals", .string⟩
        [.constant (.string s), .constant (.string "ignore_case")])
    let other (v : Value) : Expr := .binary (user "n" .int64) .notEqual (.constant v)
    neither (.binary (user "age" (.nullable .int32)) (.compare .less) (.constant (.int32 21))) (fun _ => none) ∧
      neither (.binary (unlike "ana") .and (unlike "eva"))
        (fun field => if field = "name" then some (.string "Ana") else none) ∧
      neither (.binary (other (.int64 9007199254740992)) .and (other (.float 9007199254740992)))
        (fun field => if field = "n" then some (.int64 9007199254740993) else none) := by
  intro user mapping neither unlike other
  exact ⟨⟨_, _, rfl, rfl, rfl, rfl⟩, ⟨_, _, rfl, rfl, by decide, by decide⟩, ⟨_, _, rfl, rfl, by decide, by decide⟩⟩

end Criteria

end DocumentSearch
