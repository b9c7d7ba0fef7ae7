import DocumentSearch.Criteria.Wire
import DocumentSearch.Mapping.Document
import DocumentSearch.Proofs.Criteria.Canonical

/-!
# Written criteria

`Engine.accepts` reads a query by the rules of the engine. A criterion is written as a query that is accepted where
the criterion holds (`accepts_toJson`), as long as no hint says how to look for several terms and no boolean query
has a single optional clause beside required ones (`DemandsOptional`). Canonical criteria have no such clause.

How queries are put together from others is read alike whatever the verdicts on the others are (`Engine.verdict`). A
single optional clause beside required ones is then not asked for (`asRead`, `verdict_written`).
-/

namespace DocumentSearch

/-- What an engine makes of the queries that it does not put together from others, for one document. -/
structure Engine where
  /-- A query about one field. -/
  leaf (kind field : String) (content : Json) : Bool
  /-- Any other query. -/
  other (query : Json) : Bool

namespace Engine

/-! ### Reading queries -/

/-- How many of the optional clauses must hold: as many as are asked for and else one, if there are any and none is
required. -/
def demanded (asked : Option Json) (must should : List Bool) : Int :=
  match asked.bind Json.integer? with
  | some n => n
  | none => if should.isEmpty || !must.isEmpty then 0 else 1

/-- The verdicts on the clauses of one name. -/
def listed (verdicts : Members (List Bool)) (name : String) : List Bool := (verdicts.get? name).getD []

/-- The verdict on a boolean query by those on its clauses. -/
def combined (asked : Option Json) (must should mustNot : List Bool) : Bool :=
  must.all id && !mustNot.any id && decide (demanded asked must should ≤ should.count true)

/-- The verdict on a query that has no clauses. `terms` holds where one of its values is a `term`. -/
def acceptsLeaf (E : Engine) (kind : String) : Members Json → Bool
  | [] => if kind = "match_all" then true else E.other (.tagged kind (.object []))
  | [(field, .array values)] =>
    if kind = "terms" then values.any (E.leaf "term" field) else E.leaf kind field (.array values)
  | [(field, content)] => E.leaf kind field content
  | body => E.other (.tagged kind (.object body))

mutual

/-- The engine accepts the document for the query. -/
def accepts (E : Engine) : Json → Bool
  | .object [(kind, .object body)] =>
    if kind = "bool" then
      combined (Members.get? body "minimum_should_match") (listed (verdictsOn E body) "must")
        (listed (verdictsOn E body) "should") (listed (verdictsOn E body) "must_not")
    else
      E.acceptsLeaf kind body
  | query => E.other query

/-- The verdicts on the clauses in each member of a boolean query. -/
def verdictsOn (E : Engine) : List (String × Json) → Members (List Bool)
  | [] => []
  | (name, .array clauses) :: rest => (name, allVerdicts E clauses) :: verdictsOn E rest
  | _ :: rest => verdictsOn E rest

/-- The verdict on each query. -/
def allVerdicts (E : Engine) : List Json → List Bool
  | [] => []
  | query :: rest => accepts E query :: allVerdicts E rest

end

/-- The verdict on a query that is not put together from others. -/
def leafVerdict (E : Engine) : Json → Bool
  | .object [(kind, .object body)] => E.acceptsLeaf kind body
  | query => E.other query

mutual

/-- The verdict on a query, if `leaf` gives it on those that are not put together from others. -/
def verdict (leaf : Json → Bool) : Json → Bool
  | .object [(kind, .object body)] =>
    if kind = "bool" then
      combined (Members.get? body "minimum_should_match") (listed (verdictsIn leaf body) "must")
        (listed (verdictsIn leaf body) "should") (listed (verdictsIn leaf body) "must_not")
    else if kind = "match_all" ∧ body.isEmpty then
      true
    else
      leaf (.tagged kind (.object body))
  | query => leaf query

/-- The verdicts on the clauses in each member of a boolean query. -/
def verdictsIn (leaf : Json → Bool) : List (String × Json) → Members (List Bool)
  | [] => []
  | (name, .array clauses) :: rest => (name, verdicts leaf clauses) :: verdictsIn leaf rest
  | _ :: rest => verdictsIn leaf rest

/-- The verdict on each query. -/
def verdicts (leaf : Json → Bool) : List Json → List Bool
  | [] => []
  | query :: rest => verdict leaf query :: verdicts leaf rest

end

/-- The engine accepts the document for the request with this body. Without a query it accepts every document. -/
def acceptsBody (E : Engine) (body : Json) : Bool :=
  match body.get? "query" with
  | some query => E.accepts query
  | none => true

mutual

/-- An engine reads the queries that are put together from others by the verdict on these. -/
theorem accepts_eq_verdict (E : Engine) : ∀ query : Json, E.accepts query = verdict E.leafVerdict query
  | .object [(kind, .object body)] => by
    rw [accepts, verdict, verdictsOn_eq_verdictsIn E body]
    split
    · rfl
    · split
      · rename_i hall
        rw [hall.1, List.isEmpty_iff.1 hall.2]
        rfl
      · rfl
  | .null | .bool _ | .integer _ | .float _ | .string _ | .array _ | .object []
  | .object [(_, .null)] | .object [(_, .bool _)] | .object [(_, .integer _)] | .object [(_, .float _)]
  | .object [(_, .string _)] | .object [(_, .array _)] => rfl
  | .object ((_, first) :: _ :: _) => by cases first <;> rfl

private theorem verdictsOn_eq_verdictsIn (E : Engine) : ∀ body : List (String × Json),
    E.verdictsOn body = verdictsIn E.leafVerdict body
  | [] => rfl
  | (name, .array clauses) :: rest => by
    rw [verdictsOn, verdictsIn, allVerdicts_eq_verdicts E clauses, verdictsOn_eq_verdictsIn E rest]
  | (_, .null) :: rest | (_, .bool _) :: rest | (_, .integer _) :: rest | (_, .float _) :: rest
  | (_, .string _) :: rest | (_, .object _) :: rest => verdictsOn_eq_verdictsIn E rest

private theorem allVerdicts_eq_verdicts (E : Engine) : ∀ queries : List Json,
    E.allVerdicts queries = verdicts E.leafVerdict queries
  | [] => rfl
  | query :: rest => by
    rw [allVerdicts, verdicts, accepts_eq_verdict E query, allVerdicts_eq_verdicts E rest]

end

/-! ### Leaves -/

variable (E : Engine)

theorem accepts_tagged {kind : String} (h : kind ≠ "bool") (body : Members Json) :
    E.accepts (.tagged kind (.object body)) = E.acceptsLeaf kind body := by
  rw [Json.tagged, accepts, if_neg h]

private theorem acceptsLeaf_of_ne_terms {kind : String} (h : kind ≠ "terms") (field : String) (content : Json) :
    E.acceptsLeaf kind [(field, content)] = E.leaf kind field content := by
  cases content with
  | array values => rw [acceptsLeaf, if_neg h]
  | null | bool | integer | float | string | object => rfl

theorem accepts_fieldQuery (kind : LeafKind) (h : kind ≠ .terms) (field : String) (content : Json) :
    E.accepts (Criteria.fieldQuery kind field content) = E.leaf kind.wireName field content := by
  have hname : kind.wireName ≠ "bool" ∧ kind.wireName ≠ "terms" := by
    cases kind with
    | terms => exact absurd rfl h
    | pattern kind => cases kind <;> decide
    | term | range | present | missing | analyzed => decide
  exact (E.accepts_tagged hname.1 _).trans (E.acceptsLeaf_of_ne_terms hname.2 field content)

theorem accepts_termsQuery (field : String) (values : List Json) :
    E.accepts (Criteria.termsQuery field values none) = values.any (E.leaf (LeafKind.wireName .term) field) :=
  E.accepts_tagged (by decide) _

/-! ### Boolean queries -/

variable (leaf : Json → Bool)

theorem verdicts_eq (queries : List Json) : verdicts leaf queries = queries.map (verdict leaf) := by
  induction queries with
  | nil => rfl
  | cons query rest ih => rw [verdicts, ih, List.map_cons]

theorem verdict_fieldQuery (kind : LeafKind) (field : String) (content : Json) :
    verdict leaf (Criteria.fieldQuery kind field content) = leaf (Criteria.fieldQuery kind field content) := by
  have hname : kind.wireName ≠ "bool" := by
    cases kind with
    | pattern kind => cases kind <;> decide
    | term | terms | range | present | missing | analyzed => decide
  rw [Criteria.fieldQuery, Json.tagged, Json.tagged, verdict, if_neg hname, if_neg (by simp)]
  rfl

theorem verdict_termsQuery (field : String) (values : List Json) (execution : Option ExecutionMode) :
    verdict leaf (Criteria.termsQuery field values execution) =
      leaf (Criteria.termsQuery field values execution) := by
  unfold Criteria.termsQuery
  rw [Json.tagged, verdict, if_neg (by decide), if_neg fun h => absurd h.1 (by decide)]
  rfl

/-- A list of clauses is written where it is not empty, and so it is found under its name. -/
private theorem verdictsIn_boolQuery (must should mustNot : List Json) {demand : Members Json}
    (h : demand = [] ∨ demand = Criteria.atLeastOne) :
    let verdicts := verdictsIn leaf (Criteria.occurrences must should mustNot ++ demand)
    listed verdicts "must" = must.map (verdict leaf) ∧ listed verdicts "should" = should.map (verdict leaf) ∧
      listed verdicts "must_not" = mustNot.map (verdict leaf) := by
  rcases h with rfl | rfl <;> cases must <;> cases should <;> cases mustNot <;>
    simp [Criteria.occurrences, Criteria.atLeastOne, verdictsIn, verdicts_eq, listed, Members.get?, List.lookup_cons]

private theorem get?_boolQuery (must should mustNot : List Json) (demand : Members Json) :
    Members.get? (Criteria.occurrences must should mustNot ++ demand) "minimum_should_match" =
      demand.get? "minimum_should_match" := by
  cases must <;> cases should <;> cases mustNot <;> simp [Criteria.occurrences, Members.get?, List.lookup_cons]

private theorem one_le_count_iff {verdicts : List Bool} : (1 : Int) ≤ verdicts.count true ↔ true ∈ verdicts := by
  rw [← List.count_pos_iff]
  omega

/-- One of the optional clauses is demanded, if there are any. Only a single one beside required clauses is not. -/
private theorem demanded_le_iff (must should : List Bool) :
    demanded (if should.length > 1 then some (.integer 1) else none) must should ≤ should.count true ↔
      should = [] ∨ true ∈ should ∨ should.length = 1 ∧ must ≠ [] := by
  match should with
  | [] => simp [demanded]
  | [b] =>
    by_cases hmust : must = []
    · cases b <;> simp [demanded, hmust]
    · simp [demanded, hmust]
  | b :: b' :: rest =>
    have hdemanded : demanded (some (.integer 1)) must (b :: b' :: rest) = 1 := rfl
    rw [if_pos (by simp), hdemanded, one_le_count_iff]
    simp

/-- What a boolean query says, whatever its clauses are. -/
theorem verdict_boolQuery (must should mustNot : List Json) :
    verdict leaf (Criteria.boolQuery must should mustNot) =
      (must.all (verdict leaf) && !mustNot.any (verdict leaf) &&
        (should.isEmpty || should.any (verdict leaf) || should.length == 1 && !must.isEmpty)) := by
  rw [Criteria.boolQuery, Json.tagged, verdict, if_pos rfl]
  generalize hdemand : (if should.length > 1 then Criteria.atLeastOne else []) = demand
  have hwritten : demand = [] ∨ demand = Criteria.atLeastOne := by
    rw [← hdemand]
    split <;> simp
  have hasked : demand.get? "minimum_should_match" =
      if (should.map (verdict leaf)).length > 1 then some (.integer 1) else none := by
    rw [← hdemand, List.length_map]
    split <;> rfl
  obtain ⟨hmust, hshould, hmustNot⟩ := verdictsIn_boolQuery leaf must should mustNot hwritten
  rw [hmust, hshould, hmustNot, get?_boolQuery, hasked, combined, Bool.eq_iff_iff, Bool.and_eq_true,
    decide_eq_true_eq, demanded_le_iff]
  simp [or_assoc]

/-- The query that at least one of the queries is accepted. -/
theorem verdict_atLeastOne (queries : List Json) :
    verdict leaf (.tagged "bool" (.object (("should", .array queries) :: Criteria.atLeastOne))) =
      queries.any (verdict leaf) := by
  have hverdict : verdict leaf (.tagged "bool" (.object (("should", .array queries) :: Criteria.atLeastOne))) =
      decide ((1 : Int) ≤ (verdicts leaf queries).count true) := rfl
  rw [hverdict, Bool.eq_iff_iff, decide_eq_true_eq, one_le_count_iff, verdicts_eq]
  simp

end Engine

/-- What leaves mean where an engine reads them: a leaf is given to the engine as it is written, and one of several
values without a hint holds where the engine finds one of these. -/
def Interpretation.ofEngine (E : Engine) (format : Option Member → Value → Json) : Interpretation where
  term field value member := E.leaf (LeafKind.wireName .term) field (format member value)
  terms field values _ member := values.any fun value => E.leaf (LeafKind.wireName .term) field (format member value)
  range field comparison value member :=
    E.leaf (LeafKind.wireName .range) field (.tagged comparison.wireName (format member value))
  present field := E.leaf (LeafKind.wireName .present) "field" (.string field)
  missing field := E.leaf (LeafKind.wireName .missing) "field" (.string field)
  pattern kind field text := E.leaf (LeafKind.wireName (.pattern kind)) field (.string text)
  analyzed field value member := E.leaf (LeafKind.wireName .analyzed) field (format member value)

/-- What leaves mean where only the verdicts on their queries are known. -/
def Interpretation.ofQueries (leaf : Json → Bool) (format : Option Member → Value → Json) : Interpretation where
  term field value member := leaf ((Criteria.term field value member).toJson format)
  terms field values execution member := leaf ((Criteria.terms field values execution member).toJson format)
  range field comparison value member := leaf ((Criteria.range field comparison value member).toJson format)
  present field := leaf ((Criteria.present field).toJson format)
  missing field := leaf ((Criteria.missing field).toJson format)
  pattern kind field text := leaf ((Criteria.pattern kind field text).toJson format)
  analyzed field value member := leaf ((Criteria.analyzed field value member).toJson format)

namespace Criteria

/-! ### Optional clauses -/

mutual

/-- No boolean query in the criterion has a single optional clause beside required ones. An engine would not ask for
such a clause. -/
def DemandsOptional : Criteria → Prop
  | bool must should mustNot =>
    (should.length = 1 → must = []) ∧ AllDemandOptional must ∧ AllDemandOptional should ∧ AllDemandOptional mustNot
  | negation c => DemandsOptional c
  | disjunction clauses => AllDemandOptional clauses
  | term .. | terms .. | range .. | present _ | missing _ | pattern .. | analyzed .. | matchAll => True

/-- `DemandsOptional` for each criterion. -/
def AllDemandOptional : List Criteria → Prop
  | [] => True
  | c :: rest => DemandsOptional c ∧ AllDemandOptional rest

end

theorem allDemandOptional_iff {cs : List Criteria} : AllDemandOptional cs ↔ ∀ c ∈ cs, c.DemandsOptional := by
  induction cs with
  | nil => simp [AllDemandOptional]
  | cons c rest ih => rw [AllDemandOptional, ih, List.forall_mem_cons]

theorem demandsOptional_of_canonical {c : Criteria} (h : c.Canonical) : c.DemandsOptional := by
  induction h with
  | leaf hleaf => rename_i c; cases c <;> first | exact trivial | cases hleaf
  | matchAll => trivial
  | negation _ _ ih => exact ih
  | bool _ _ _ _ _ ihmust ihmustNot =>
    exact ⟨nofun, allDemandOptional_iff.2 ihmust, trivial, allDemandOptional_iff.2 ihmustNot⟩
  | disjunction _ _ _ ih => exact allDemandOptional_iff.2 ih

mutual

/-- The criterion as an engine takes it: a single optional clause beside required ones is not asked for. -/
def asRead : Criteria → Criteria
  | bool must should mustNot =>
    bool (allAsRead must) (if should.length == 1 && !must.isEmpty then [] else allAsRead should) (allAsRead mustNot)
  | negation c => negation (asRead c)
  | disjunction clauses => disjunction (allAsRead clauses)
  | term field value member => term field value member
  | terms field values execution member => terms field values execution member
  | range field comparison value member => range field comparison value member
  | present field => present field
  | missing field => missing field
  | pattern kind field text => pattern kind field text
  | analyzed field value member => analyzed field value member
  | matchAll => matchAll

/-- `asRead` for each criterion. -/
def allAsRead : List Criteria → List Criteria
  | [] => []
  | c :: rest => asRead c :: allAsRead rest

end

theorem allAsRead_eq (cs : List Criteria) : allAsRead cs = cs.map asRead := by
  induction cs with
  | nil => rfl
  | cons c rest ih => rw [allAsRead, ih, List.map_cons]

mutual

/-- A criterion without such clauses is taken as it is. -/
theorem asRead_eq_self : ∀ {c : Criteria}, c.DemandsOptional → c.asRead = c
  | bool must should mustNot, h => by
    have hsingle : (should.length == 1 && !must.isEmpty) = false := by
      by_cases hlength : should.length = 1
      · simp [h.1 hlength]
      · simp [hlength]
    rw [asRead, hsingle, if_neg Bool.false_ne_true, allAsRead_eq_self h.2.1, allAsRead_eq_self h.2.2.1,
      allAsRead_eq_self h.2.2.2]
  | negation c, h => by rw [asRead, asRead_eq_self (c := c) h]
  | disjunction clauses, h => by rw [asRead, allAsRead_eq_self h]
  | term .., _ | terms .., _ | range .., _ | present _, _ | missing _, _ | pattern .., _ | analyzed .., _
  | matchAll, _ => by simp only [asRead]

private theorem allAsRead_eq_self : ∀ {cs : List Criteria}, AllDemandOptional cs → allAsRead cs = cs
  | [], _ => rfl
  | c :: rest, h => by rw [allAsRead, asRead_eq_self h.1, allAsRead_eq_self h.2]

end

/-! ### What written criteria ask for -/

section Queries

variable (leaf : Json → Bool) (format : Option Member → Value → Json)

theorem allToJson_eq (cs : List Criteria) : allToJson format cs = cs.map (toJson format) := by
  induction cs with
  | nil => rfl
  | cons c rest ih => rw [allToJson, ih, List.map_cons]

private theorem verdict_terms (field : String) (values : List Value) (execution : Option ExecutionMode)
    (member : Option Member) :
    Engine.verdict leaf ((terms field values execution member).toJson format) =
      leaf ((terms field values execution member).toJson format) := by
  match values with
  | [value] => exact Engine.verdict_fieldQuery leaf .term field _
  | [] | _ :: _ :: _ => exact Engine.verdict_termsQuery leaf field _ execution

mutual

/-- The verdict on the query for a criterion is the meaning of the criterion as an engine takes it. -/
theorem verdict_toJson : ∀ c : Criteria,
    Engine.verdict leaf (c.toJson format) = c.asRead.holds (.ofQueries leaf format)
  | term .. | range .. | present _ | missing _ | pattern .. | analyzed .. => Engine.verdict_fieldQuery leaf _ _ _
  | terms field values execution member => verdict_terms leaf format field values execution member
  | bool must should mustNot => by
    have hmust := verdict_allToJson must
    have hshould := verdict_allToJson should
    have hmustNot := verdict_allToJson mustNot
    rw [toJson, Engine.verdict_boolQuery, hmust.1, hshould.2, hmustNot.2, asRead, holds_bool]
    simp only [allToJson_eq, allAsRead_eq, List.length_map, List.isEmpty_map]
    cases should.length == 1 && !must.isEmpty with
    | true => simp
    | false => simp
  | negation c => by
    rw [toJson, Engine.verdict_boolQuery, asRead, holds_negation, ← verdict_toJson c]
    simp
  | disjunction [c] => by
    rw [toJson, verdict_toJson c, asRead, holds_disjunction, allAsRead, allAsRead, List.any_cons, List.any_nil,
      Bool.or_false]
  | disjunction [] => Engine.verdict_atLeastOne leaf []
  | disjunction (c :: c' :: rest) => by
    rw [asRead, holds_disjunction, ← (verdict_allToJson (c :: c' :: rest)).2]
    exact Engine.verdict_atLeastOne leaf _
  | matchAll => rfl

private theorem verdict_allToJson : ∀ cs : List Criteria,
    (allToJson format cs).all (Engine.verdict leaf) = (allAsRead cs).all (holds (.ofQueries leaf format)) ∧
      (allToJson format cs).any (Engine.verdict leaf) = (allAsRead cs).any (holds (.ofQueries leaf format))
  | [] => ⟨rfl, rfl⟩
  | c :: rest => by
    have ih := verdict_allToJson rest
    rw [allToJson, allAsRead, List.all_cons, List.any_cons, List.all_cons, List.any_cons, verdict_toJson c, ih.1, ih.2]
    exact ⟨rfl, rfl⟩

end

/-- A criterion is written as a query that says what the criterion does, whatever its leaves mean, but for single
optional clauses beside required ones: these are not asked for. -/
theorem verdict_written (c : Criteria) :
    Engine.verdict leaf (c.toJson format) = c.asRead.holds (.ofQueries leaf format) ∧
      (c.DemandsOptional → Engine.verdict leaf (c.toJson format) = c.holds (.ofQueries leaf format)) := by
  refine ⟨verdict_toJson leaf format c, fun hdemand => ?_⟩
  rw [verdict_toJson, asRead_eq_self hdemand]

end Queries

/-- Two optional clauses beside a required one, a single one without any, and both within a negation. -/
theorem verdict_written_names :
    let named (s : String) : Criteria := term "name" (.string s) none
    let c := disjunction [negation (bool [present "age"] [named "Ana", named "Eva"] []),
      bool [] [terms "age" [.int32 3, .int32 4] none none] [named "Ida"]]
    let format := (DocumentMapping.toMapping { options := .plain }).formatValue
    c.DemandsOptional ∧ ∀ leaf, Engine.verdict leaf (c.toJson format) = c.holds (.ofQueries leaf format) := by
  intro named c format
  have hdemand : c.DemandsOptional := by simp [c, named, DemandsOptional, AllDemandOptional]
  exact ⟨hdemand, fun leaf => (verdict_written leaf format c).2 hdemand⟩

/-- A single optional clause beside a required one: the query is accepted though no optional clause holds. -/
theorem verdict_ne_holds_of_single :
    let c := bool [term "a" (.int32 1) none] [term "b" (.int32 2) none] []
    let format := (DocumentMapping.toMapping { options := .plain }).formatValue
    let leaf (query : Json) : Bool := ((query.get? "term").bind (·.get? "a")).isSome
    Engine.verdict leaf (c.toJson format) = true ∧ c.holds (.ofQueries leaf format) = false :=
  ⟨rfl, rfl⟩

/-! ### An engine that reads terms one by one -/

mutual

/-- What holds of leaves alike holds of criteria alike. -/
theorem holds_congr {I J : Interpretation} {P : LeafCondition}
    (h : ∀ c : Criteria, c.isLeaf = true → c.Leaves P → c.holds I = c.holds J) :
    ∀ {c : Criteria}, c.Leaves P → c.holds I = c.holds J
  | term .., hleaves | terms .., hleaves | range .., hleaves | present _, hleaves | missing _, hleaves
  | pattern .., hleaves | analyzed .., hleaves => h _ rfl hleaves
  | bool must should mustNot, hleaves => by
    have hmust := all_congr h hleaves.1
    have hshould := all_congr h hleaves.2.1
    have hmustNot := all_congr h hleaves.2.2
    rw [holds_bool, holds_bool, hmust.1, hshould.2, hmustNot.2]
  | negation c, hleaves => by rw [holds_negation, holds_negation, holds_congr h (c := c) hleaves]
  | disjunction clauses, hleaves => by rw [holds_disjunction, holds_disjunction, (all_congr h hleaves).2]
  | matchAll, _ => rfl

private theorem all_congr {I J : Interpretation} {P : LeafCondition}
    (h : ∀ c : Criteria, c.isLeaf = true → c.Leaves P → c.holds I = c.holds J) :
    ∀ {cs : List Criteria}, AllLeaves P cs →
      cs.all (holds I) = cs.all (holds J) ∧ cs.any (holds I) = cs.any (holds J)
  | [], _ => ⟨rfl, rfl⟩
  | c :: rest, hleaves => by
    have ih := all_congr h hleaves.2
    rw [List.all_cons, List.any_cons, List.all_cons, List.any_cons, holds_congr h hleaves.1, ih.1, ih.2]
    exact ⟨rfl, rfl⟩

end

variable (E : Engine) (format : Option Member → Value → Json)

private theorem accepts_terms (field : String) (values : List Value) (member : Option Member) :
    E.accepts ((terms field values none member).toJson format) =
      (terms field values none member).holds (.ofEngine E format) := by
  match values with
  | [value] =>
    rw [toJson, E.accepts_fieldQuery .term nofun]
    simp [holds, Interpretation.ofEngine]
  | [] | _ :: _ :: _ =>
    rw [toJson, E.accepts_termsQuery, holds, Interpretation.ofEngine, List.any_map]
    · rfl
    · simp

private theorem accepts_leaf {P : LeafCondition} (hP : ∀ mode, ¬ P.mode mode) {c : Criteria} (h : c.isLeaf = true)
    (hleaves : c.Leaves P) : E.accepts (c.toJson format) = c.holds (.ofEngine E format) := by
  cases c with
  | term field value member => exact E.accepts_fieldQuery .term nofun field _
  | terms field values execution member =>
    cases execution with
    | none => exact accepts_terms E format field values member
    | some mode => exact (hP mode (hleaves.2.2 mode rfl)).elim
  | range field comparison value member => exact E.accepts_fieldQuery .range nofun field _
  | present field => exact E.accepts_fieldQuery .present nofun "field" _
  | missing field => exact E.accepts_fieldQuery .missing nofun "field" _
  | pattern kind field text => exact E.accepts_fieldQuery (.pattern kind) nofun field _
  | analyzed field value member => exact E.accepts_fieldQuery .analyzed nofun field _
  | bool | negation | disjunction | matchAll => cases h

/-- The query that is written for a criterion is accepted where the criterion holds. -/
theorem accepts_toJson {P : LeafCondition} (hP : ∀ mode, ¬ P.mode mode) {c : Criteria} (hleaves : c.Leaves P)
    (hdemand : c.DemandsOptional) : E.accepts (c.toJson format) = c.holds (.ofEngine E format) := by
  rw [E.accepts_eq_verdict, verdict_toJson, asRead_eq_self hdemand]
  refine holds_congr (fun d hleaf hleaves => ?_) hleaves
  -- the verdict on the query for a leaf is the meaning of the leaf for queries, and for the engine
  have hd : d.DemandsOptional := demandsOptional_of_canonical (.leaf hleaf)
  rw [← accepts_leaf E format hP hleaf hleaves, E.accepts_eq_verdict, verdict_toJson, asRead_eq_self hd]

end Criteria

end DocumentSearch
