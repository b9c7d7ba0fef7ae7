import DocumentSearch.Criteria.Wire
import DocumentSearch.Mapping.Document

/-!
# What written criteria tell

The normal form of a criterion leaves out what makes no difference to the way it is written: the members that leaves
carry, and the several ways to put a term, a negation or a disjunction. It can be read back from the query
(`ofJson?_toJson`), and so criteria that are written alike have one normal form (`normalForm_eq_of_toJson_eq`).

There is one exception. A hint how to look for several terms is written beside the field, under the name `execution`;
if this is the name of the field, the hint takes the place of the values.
-/

namespace DocumentSearch

/-! ### Names -/

/-- The kind of leaf with this name in a search request. -/
def LeafKind.ofWireName? (name : String) : Option LeafKind :=
  [.term, .terms, .range, .present, .missing, .pattern .leading, .pattern .regexp, .pattern .wildcard,
    .analyzed].find? fun kind => kind.wireName == name

theorem LeafKind.ofWireName?_wireName (kind : LeafKind) : ofWireName? kind.wireName = some kind := by
  cases kind with
  | pattern kind => cases kind <;> rfl
  | term | terms | range | present | missing | analyzed => rfl

/-- The execution mode with this name in a search request. -/
def ExecutionMode.ofWireName? (name : String) : Option ExecutionMode :=
  [.plain, .bool, .and, .or, .fieldData].find? fun mode => mode.wireName == name

theorem ExecutionMode.ofWireName?_wireName (mode : ExecutionMode) : ofWireName? mode.wireName = some mode := by
  cases mode <;> rfl

/-- The comparison with this name in a search request. -/
def Comparison.ofWireName? (name : String) : Option Comparison :=
  [.less, .lessOrEqual, .greater, .greaterOrEqual].find? fun comparison => comparison.wireName == name

theorem Comparison.ofWireName?_wireName (comparison : Comparison) :
    ofWireName? comparison.wireName = some comparison := by
  cases comparison <;> rfl

/-! ### Normal forms -/

/-- A leaf with its values as they are written. -/
inductive WrittenLeaf where
  | term (field : String) (value : Json)
  | terms (field : String) (values : List Json) (execution : Option ExecutionMode)
  | range (field : String) (comparison : Comparison) (value : Json)
  | present (field : String)
  | missing (field : String)
  | pattern (kind : PatternKind) (field text : String)
  | analyzed (field : String) (value : Json)

/-- What leaves are put together to: boolean queries, the disjunction of no clauses, and what holds of all documents. -/
inductive NormalForm (α : Type) where
  | leaf (l : α)
  | bool (must should mustNot : List (NormalForm α))
  | noClause
  | matchAll

namespace NormalForm

variable {α β : Type}

mutual

/-- The normal form with other leaves. -/
def map (f : α → β) : NormalForm α → NormalForm β
  | leaf l => leaf (f l)
  | bool must should mustNot => bool (mapAll f must) (mapAll f should) (mapAll f mustNot)
  | noClause => noClause
  | matchAll => matchAll

/-- `map` for each normal form. -/
def mapAll (f : α → β) : List (NormalForm α) → List (NormalForm β)
  | [] => []
  | n :: rest => map f n :: mapAll f rest

end

mutual

/-- The leaves from left to right. -/
def leaves : NormalForm α → List α
  | leaf l => [l]
  | bool must should mustNot => leavesOfAll must ++ leavesOfAll should ++ leavesOfAll mustNot
  | noClause | matchAll => []

/-- `leaves` of all normal forms. -/
def leavesOfAll : List (NormalForm α) → List α
  | [] => []
  | n :: rest => leaves n ++ leavesOfAll rest

end

mutual

theorem leaves_map (f : α → β) : ∀ n : NormalForm α, (n.map f).leaves = n.leaves.map f
  | leaf _ | noClause | matchAll => rfl
  | bool must should mustNot => by
    simp only [map, leaves, List.map_append, leavesOfAll_mapAll f must, leavesOfAll_mapAll f should,
      leavesOfAll_mapAll f mustNot]

private theorem leavesOfAll_mapAll (f : α → β) : ∀ ns : List (NormalForm α),
    leavesOfAll (mapAll f ns) = (leavesOfAll ns).map f
  | [] => rfl
  | n :: rest => by
    simp only [mapAll, leavesOfAll, List.map_append, leaves_map f n, leavesOfAll_mapAll f rest]

end

mutual

/-- A normal form whose leaves stay as they are stays as it is. -/
theorem map_eq_self {f : α → α} : ∀ n : NormalForm α, (∀ l ∈ n.leaves, f l = l) → n.map f = n
  | leaf l, h => by rw [map, h l (by simp [leaves])]
  | noClause, _ | matchAll, _ => rfl
  | bool must should mustNot, h => by
    simp only [leaves, List.forall_mem_append] at h
    rw [map, mapAll_eq_self must h.1.1, mapAll_eq_self should h.1.2, mapAll_eq_self mustNot h.2]

private theorem mapAll_eq_self {f : α → α} : ∀ ns : List (NormalForm α), (∀ l ∈ leavesOfAll ns, f l = l) →
    mapAll f ns = ns
  | [], _ => rfl
  | n :: rest, h => by
    simp only [leavesOfAll, List.forall_mem_append] at h
    rw [mapAll, map_eq_self n h.1, mapAll_eq_self rest h.2]

end

end NormalForm

namespace Criteria

mutual

/-- What a criterion tells by the way it is written. -/
def normalForm (format : Option Member → Value → Json) : Criteria → NormalForm WrittenLeaf
  | term field value member => .leaf (.term field (format member value))
  | terms field [value] _ member => .leaf (.term field (format member value))
  | terms field values execution member => .leaf (.terms field (values.map (format member)) execution)
  | range field comparison value member => .leaf (.range field comparison (format member value))
  | present field => .leaf (.present field)
  | missing field => .leaf (.missing field)
  | pattern kind field text => .leaf (.pattern kind field text)
  | analyzed field value member => .leaf (.analyzed field (format member value))
  | bool must should mustNot =>
    .bool (normalForms format must) (normalForms format should) (normalForms format mustNot)
  | negation c => .bool [] [] [normalForm format c]
  | disjunction [] => .noClause
  | disjunction [c] => normalForm format c
  | disjunction clauses => .bool [] (normalForms format clauses) []
  | matchAll => .matchAll

/-- The normal form of each criterion. -/
def normalForms (format : Option Member → Value → Json) : List Criteria → List (NormalForm WrittenLeaf)
  | [] => []
  | c :: rest => normalForm format c :: normalForms format rest

end

end Criteria

namespace WrittenLeaf

/-- A hint takes the place of the values of the leaf. -/
def isOverwritten : WrittenLeaf → Bool
  | terms field _ execution => field == "execution" && execution.isSome
  | _ => false

/-- The leaf without values that a hint takes the place of. -/
def asWritten : WrittenLeaf → WrittenLeaf
  | terms field values execution =>
    terms field (if field == "execution" && execution.isSome then [] else values) execution
  | l => l

theorem isOverwritten_asWritten (l : WrittenLeaf) : l.asWritten.isOverwritten = l.isOverwritten := by
  cases l <;> rfl

theorem asWritten_eq_self {l : WrittenLeaf} (h : l.isOverwritten = false) : l.asWritten = l := by
  cases l with
  | terms field values execution => rw [asWritten, show (field == "execution" && execution.isSome) = false from h]; rfl
  | term | range | present | missing | pattern | analyzed => rfl

end WrittenLeaf

/-! ### Reading -/

/-- The leaf that is written as a query of this kind. -/
def WrittenLeaf.ofQuery? (kind : LeafKind) (body : Members Json) : Option WrittenLeaf :=
  match kind, body with
  | .term, [(field, value)] => some (.term field value)
  | .terms, [(field, .array values)] => some (.terms field values none)
  | .terms, [(field, .array values), (_, .string name)] =>
    (ExecutionMode.ofWireName? name).map fun mode => .terms field values (some mode)
  | .terms, [(field, .string name)] => (ExecutionMode.ofWireName? name).map fun mode => .terms field [] (some mode)
  | .range, [(field, .object [(name, value)])] =>
    (Comparison.ofWireName? name).map fun comparison => .range field comparison value
  | .present, [(_, .string field)] => some (.present field)
  | .missing, [(_, .string field)] => some (.missing field)
  | .pattern kind, [(field, .string text)] => some (.pattern kind field text)
  | .analyzed, [(field, value)] => some (.analyzed field value)
  | _, _ => none

namespace NormalForm

/-- The boolean query with these clauses. An empty list of optional clauses is written only for a disjunction. -/
def ofClauses (clauses : Members (List (NormalForm WrittenLeaf))) : NormalForm WrittenLeaf :=
  match clauses.get? "should" with
  | some [] => noClause
  | should => bool ((clauses.get? "must").getD []) (should.getD []) ((clauses.get? "must_not").getD [])

mutual

/-- The normal form of the criterion that is written so. -/
def ofJson? : Json → Option (NormalForm WrittenLeaf)
  | .object [(kind, .object body)] =>
    if kind = "bool" then
      (clausesOf? body).map ofClauses
    else if kind = "match_all" then
      some matchAll
    else
      (LeafKind.ofWireName? kind).bind fun kind => (WrittenLeaf.ofQuery? kind body).map leaf
  | _ => none

/-- The clauses in each member of a boolean query. -/
def clausesOf? : List (String × Json) → Option (Members (List (NormalForm WrittenLeaf)))
  | [] => some []
  | (name, .array queries) :: rest =>
    (allOfJson? queries).bind fun ns => (clausesOf? rest).map ((name, ns) :: ·)
  | _ :: rest => clausesOf? rest

/-- `ofJson?` for each query. -/
def allOfJson? : List Json → Option (List (NormalForm WrittenLeaf))
  | [] => some []
  | query :: rest => (ofJson? query).bind fun n => (allOfJson? rest).map (n :: ·)

end

private theorem ofJson?_tagged (kind : LeafKind) (body : Members Json) :
    ofJson? (.tagged kind.wireName (.object body)) = (WrittenLeaf.ofQuery? kind body).map leaf := by
  have hname : kind.wireName ≠ "bool" ∧ kind.wireName ≠ "match_all" := by
    cases kind with
    | pattern kind => cases kind <;> decide
    | term | terms | range | present | missing | analyzed => decide
  rw [Json.tagged, ofJson?, if_neg hname.1, if_neg hname.2, LeafKind.ofWireName?_wireName, Option.bind_some]

private theorem ofJson?_fieldQuery {kind : LeafKind} {field : String} {content : Json} {l : WrittenLeaf}
    (h : WrittenLeaf.ofQuery? kind [(field, content)] = some l) :
    ofJson? (Criteria.fieldQuery kind field content) = some (leaf l) :=
  (ofJson?_tagged kind [(field, content)]).trans (by rw [h, Option.map_some])

private theorem ofJson?_termsQuery (field : String) (values : List Json) (execution : Option ExecutionMode) :
    ofJson? (Criteria.termsQuery field values execution) =
      some (leaf (WrittenLeaf.terms field values execution).asWritten) := by
  unfold Criteria.termsQuery
  rw [ofJson?_tagged]
  cases execution with
  | none => simp [WrittenLeaf.ofQuery?, WrittenLeaf.asWritten]
  | some mode =>
    -- the hint is put over the values, or behind them
    by_cases h : field = "execution" <;>
      simp [WrittenLeaf.ofQuery?, WrittenLeaf.asWritten, Members.put, h, ExecutionMode.ofWireName?_wireName]

private theorem isEmpty_of_allOfJson? {queries : List Json} {ns : List (NormalForm WrittenLeaf)}
    (h : allOfJson? queries = some ns) : queries.isEmpty = ns.isEmpty := by
  cases queries with
  | nil => cases h; rfl
  | cons query rest =>
    rw [allOfJson?] at h
    obtain ⟨n, -, h⟩ := Option.bind_eq_some_iff.1 h
    obtain ⟨rest, -, rfl⟩ := Option.map_eq_some_iff.1 h
    rfl

/-- The members of a boolean query are read one by one. That of a list without clauses is not there. -/
private theorem clausesOf?_occurrences {must should mustNot : List Json} {ms ss ns : List (NormalForm WrittenLeaf)}
    (hmust : allOfJson? must = some ms) (hshould : allOfJson? should = some ss)
    (hmustNot : allOfJson? mustNot = some ns) {demand : Members Json} (hdemand : clausesOf? demand = some []) :
    clausesOf? (Criteria.occurrences must should mustNot ++ demand) =
      some ([("must", ms), ("should", ss), ("must_not", ns)].filter fun e => !e.2.isEmpty) := by
  have hm := isEmpty_of_allOfJson? hmust
  have hs := isEmpty_of_allOfJson? hshould
  have hn := isEmpty_of_allOfJson? hmustNot
  -- which of the lists are empty decides which members there are
  cases ms <;> cases ss <;> cases ns <;> simp_all [Criteria.occurrences, clausesOf?]

/-- A list of clauses that is not empty is found under its name, and any other one is taken to be empty. -/
private theorem ofClauses_filter (ms ss ns : List (NormalForm WrittenLeaf)) :
    ofClauses ([("must", ms), ("should", ss), ("must_not", ns)].filter fun e => !e.2.isEmpty) = bool ms ss ns := by
  cases ms <;> cases ss <;> cases ns <;> rfl

private theorem ofJson?_boolQuery {must should mustNot : List Json} {ms ss ns : List (NormalForm WrittenLeaf)}
    (hmust : allOfJson? must = some ms) (hshould : allOfJson? should = some ss)
    (hmustNot : allOfJson? mustNot = some ns) :
    ofJson? (Criteria.boolQuery must should mustNot) = some (bool ms ss ns) := by
  have hdemand : clausesOf? (if should.length > 1 then Criteria.atLeastOne else []) = some [] := by
    split <;> rfl
  unfold Criteria.boolQuery
  rw [Json.tagged, ofJson?, if_pos rfl, clausesOf?_occurrences hmust hshould hmustNot hdemand, Option.map_some,
    ofClauses_filter]

private theorem ofJson?_disjunction {queries : List Json} {n : NormalForm WrittenLeaf}
    {rest : List (NormalForm WrittenLeaf)} (h : allOfJson? queries = some (n :: rest)) :
    ofJson? (.tagged "bool" (.object (("should", .array queries) :: Criteria.atLeastOne))) =
      some (bool [] (n :: rest) []) := by
  rw [Json.tagged, ofJson?, if_pos rfl, clausesOf?, h]
  rfl

end NormalForm

namespace Criteria

open NormalForm

variable (format : Option Member → Value → Json)

mutual

/-- The normal form is read from what is written, save for the values that a hint takes the place of. -/
theorem ofJson?_toJson : ∀ c : Criteria,
    ofJson? (c.toJson format) = some ((c.normalForm format).map WrittenLeaf.asWritten)
  | term .. | present _ | missing _ | pattern .. | analyzed .. => ofJson?_fieldQuery rfl
  | range field comparison value member => by
    refine ofJson?_fieldQuery ?_
    simp only [WrittenLeaf.ofQuery?, Json.tagged, Comparison.ofWireName?_wireName, Option.map_some,
      WrittenLeaf.asWritten]
  | terms field [value] execution member => ofJson?_fieldQuery rfl
  | terms field [] execution member => ofJson?_termsQuery field [] execution
  | terms field (v :: v' :: rest) execution member => ofJson?_termsQuery field _ execution
  | bool must should mustNot =>
    ofJson?_boolQuery (allOfJson?_allToJson must) (allOfJson?_allToJson should) (allOfJson?_allToJson mustNot)
  | negation c => by
    have hc : allOfJson? [toJson format c] = some [(c.normalForm format).map WrittenLeaf.asWritten] := by
      rw [allOfJson?, ofJson?_toJson c]
      rfl
    exact ofJson?_boolQuery rfl rfl hc
  | disjunction [] => rfl
  | disjunction [c] => ofJson?_toJson c
  | disjunction (c :: c' :: rest) => ofJson?_disjunction (allOfJson?_allToJson (c :: c' :: rest))
  | matchAll => rfl

private theorem allOfJson?_allToJson : ∀ cs : List Criteria,
    allOfJson? (allToJson format cs) = some (mapAll WrittenLeaf.asWritten (normalForms format cs))
  | [] => rfl
  | c :: rest => by
    rw [allToJson, allOfJson?, ofJson?_toJson c, allOfJson?_allToJson rest]
    rfl

end

/-- Criteria that are written alike have one normal form, save for values that a hint takes the place of. If there are
no such values in one of the criteria, there are none in the other one either. -/
theorem normalForm_eq_of_toJson_eq {c c' : Criteria} (h : c.toJson format = c'.toJson format) :
    (c.normalForm format).map WrittenLeaf.asWritten = (c'.normalForm format).map WrittenLeaf.asWritten ∧
      ((∀ l ∈ (c.normalForm format).leaves, l.isOverwritten = false) →
        c.normalForm format = c'.normalForm format) := by
  have hwritten : (c.normalForm format).map WrittenLeaf.asWritten =
      (c'.normalForm format).map WrittenLeaf.asWritten := by
    have hread := congrArg ofJson? h
    rw [ofJson?_toJson, ofJson?_toJson] at hread
    exact Option.some.inj hread
  refine ⟨hwritten, fun hkept => ?_⟩
  have hkept' : ∀ l ∈ (c'.normalForm format).leaves, l.isOverwritten = false := by
    intro l hl
    have hmem : l.asWritten ∈ ((c.normalForm format).map WrittenLeaf.asWritten).leaves := by
      rw [hwritten, leaves_map]
      exact List.mem_map_of_mem hl
    rw [leaves_map] at hmem
    obtain ⟨l₀, hl₀, heq⟩ := List.mem_map.1 hmem
    rw [← l.isOverwritten_asWritten, ← heq, l₀.isOverwritten_asWritten]
    exact hkept l₀ hl₀
  rw [map_eq_self _ fun l hl => WrittenLeaf.asWritten_eq_self (hkept l hl),
    map_eq_self _ fun l hl => WrittenLeaf.asWritten_eq_self (hkept' l hl)] at hwritten
  exact hwritten

/-- Several names without a hint and a negation, put in two ways. -/
theorem normalForm_eq_of_toJson_eq_name :
    let format := DocumentMapping.toMapping { options := .plain } |>.formatValue
    let named (name : String) : Criteria := term "name" (.string name) none
    let c := disjunction [negation (named "Ana"), terms "name" [.string "Eva", .string "Ida"] (some .or) none]
    let c' := bool [] [bool [] [] [terms "name" [.string "Ana"] none none],
      disjunction [terms "name" [.string "Eva", .string "Ida"] (some .or) none]] []
    c.toJson format = c'.toJson format ∧ (∀ l ∈ (c.normalForm format).leaves, l.isOverwritten = false) ∧
      c.normalForm format = c'.normalForm format := by
  intro format named c c'
  have hwire : c.toJson format = c'.toJson format := rfl
  have hkept : ∀ l ∈ (c.normalForm format).leaves, l.isOverwritten = false := by decide
  exact ⟨hwire, hkept, (normalForm_eq_of_toJson_eq format hwire).2 hkept⟩

/-- Searches for all of several values in a field called `execution` are written alike, whatever the values are. -/
theorem toJson_eq_of_execution :
    let format := DocumentMapping.toMapping { options := .plain } |>.formatValue
    let c := terms "execution" [.string "a", .string "b"] (some .and) none
    let c' := terms "execution" [.string "c", .string "d"] (some .and) none
    c.toJson format = c'.toJson format ∧ c.normalForm format ≠ c'.normalForm format := by
  intro format c c'
  refine ⟨rfl, fun h => ?_⟩
  have hvalues : [Json.string "a", .string "b"] = [.string "c", .string "d"] := by
    injection h with h
    injection h
  simp at hvalues

end Criteria

end DocumentSearch
