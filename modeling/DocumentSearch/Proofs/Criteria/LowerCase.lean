import DocumentSearch.Proofs.Criteria.Meaning
import DocumentSearch.Proofs.Criteria.NormalForm
import DocumentSearch.Proofs.Text.Case

/-!
# Criteria in lower case

A mapping can send strings in lower case, for fields that are indexed so. Then the letter case of values makes no
difference to the way a criterion is written (`toJson_lowered`), whatever kind of leaf they are in: values that are
written alike may take the place of each other (`toJson_withValues`).

The texts of patterns are written as they are. Any change of them shows (`toJson_withPatterns_iff`), and a pattern with
a capital letter finds nothing in such a field.
-/

namespace DocumentSearch

namespace Value

mutual

/-- The value with its strings in lower case, those in arrays included. Objects stay as they are. -/
def lowered : Value → Value
  | string s => string (Text.lower s)
  | array items => array (loweredItems items)
  | v => v

/-- `lowered` for each item. -/
def loweredItems : List Value → List Value
  | [] => []
  | v :: rest => lowered v :: loweredItems rest

end

end Value

/-- The text of a pattern in lower case. In a regular expression letter case has a meaning of its own. -/
def PatternKind.lowered : PatternKind → String → String
  | leading, text | wildcard, text => Text.lower text
  | regexp, text => text

/-- The condition that a change of patterns leaves the text as it is. -/
def LeafCondition.fixedBy (g : PatternKind → String → String) : LeafCondition where
  pattern kind text := g kind text = text

namespace Criteria

/-! ### Criteria with other contents -/

mutual

/-- The criterion with other values in its leaves. -/
def withValues (f : Value → Value) : Criteria → Criteria
  | term field value member => term field (f value) member
  | terms field values execution member => terms field (values.map f) execution member
  | range field comparison value member => range field comparison (f value) member
  | present field => present field
  | missing field => missing field
  | pattern kind field text => pattern kind field text
  | analyzed field value member => analyzed field (f value) member
  | bool must should mustNot => bool (allWithValues f must) (allWithValues f should) (allWithValues f mustNot)
  | negation c => negation (withValues f c)
  | disjunction clauses => disjunction (allWithValues f clauses)
  | matchAll => matchAll

/-- `withValues` for each criterion. -/
def allWithValues (f : Value → Value) : List Criteria → List Criteria
  | [] => []
  | c :: rest => withValues f c :: allWithValues f rest

end

mutual

/-- The criterion with other texts in its patterns. -/
def withPatterns (g : PatternKind → String → String) : Criteria → Criteria
  | pattern kind field text => pattern kind field (g kind text)
  | bool must should mustNot => bool (allWithPatterns g must) (allWithPatterns g should) (allWithPatterns g mustNot)
  | negation c => negation (withPatterns g c)
  | disjunction clauses => disjunction (allWithPatterns g clauses)
  | c => c

/-- `withPatterns` for each criterion. -/
def allWithPatterns (g : PatternKind → String → String) : List Criteria → List Criteria
  | [] => []
  | c :: rest => withPatterns g c :: allWithPatterns g rest

end

section Values

variable {format : Option Member → Value → Json} {f : Value → Value}

mutual

/-- Values that are written alike may take the place of each other. -/
theorem toJson_withValues (h : ∀ member v, format member (f v) = format member v) : ∀ c : Criteria,
    (c.withValues f).toJson format = c.toJson format
  | term field value member | analyzed field value member | range field _ value member => by
    simp only [withValues, toJson, h]
  | terms field [value] execution member => by
    simp only [withValues, toJson, List.map_cons, List.map_nil, h]
  | terms field [] execution member => rfl
  | terms field (v :: v' :: rest) execution member => by
    have hvalues : ((v :: v' :: rest).map f).map (format member) = (v :: v' :: rest).map (format member) := by
      rw [List.map_map]
      exact List.map_congr_left fun v _ => h member v
    exact congrArg (termsQuery field · execution) hvalues
  | present _ | missing _ | pattern .. | matchAll => rfl
  | bool must should mustNot => by
    rw [withValues, toJson, toJson, allToJson_withValues h must, allToJson_withValues h should,
      allToJson_withValues h mustNot]
  | negation c => by
    rw [withValues, toJson, toJson, toJson_withValues h c]
  | disjunction [] => rfl
  | disjunction [c] => toJson_withValues h c
  | disjunction (c :: c' :: rest) => by
    have hclauses := allToJson_withValues h (c :: c' :: rest)
    exact congrArg (fun queries => Json.tagged "bool" (.object (("should", .array queries) :: atLeastOne))) hclauses

private theorem allToJson_withValues (h : ∀ member v, format member (f v) = format member v) : ∀ cs : List Criteria,
    allToJson format (allWithValues f cs) = allToJson format cs
  | [] => rfl
  | c :: rest => by
    rw [allWithValues, allToJson, allToJson, toJson_withValues h c, allToJson_withValues h rest]

end

end Values

section Patterns

open NormalForm

variable {g : PatternKind → String → String} (format : Option Member → Value → Json)

mutual

private theorem withPatterns_eq_self : ∀ {c : Criteria}, c.Leaves (.fixedBy g) → c.withPatterns g = c
  | pattern kind field text, h => by
    rw [withPatterns, h.2]
  | bool must should mustNot, h => by
    obtain ⟨hmust, hshould, hmustNot⟩ := h
    rw [withPatterns, allWithPatterns_eq_self hmust, allWithPatterns_eq_self hshould,
      allWithPatterns_eq_self hmustNot]
  | negation c, h => by
    rw [withPatterns, withPatterns_eq_self (leaves_negation.1 h)]
  | disjunction clauses, h => by
    rw [withPatterns, allWithPatterns_eq_self h]
  | term .., _ | terms .., _ | range .., _ | present _, _ | missing _, _ | analyzed .., _ | matchAll, _ => rfl

private theorem allWithPatterns_eq_self : ∀ {cs : List Criteria}, AllLeaves (.fixedBy g) cs →
    allWithPatterns g cs = cs
  | [], _ => rfl
  | c :: rest, ⟨hc, hrest⟩ => by
    rw [allWithPatterns, withPatterns_eq_self hc, allWithPatterns_eq_self hrest]

end

mutual

/-- The normal form keeps all patterns, and values that a hint takes the place of are none. -/
private theorem leaves_of_normalForm_eq : ∀ {c : Criteria},
    ((c.withPatterns g).normalForm format).map WrittenLeaf.asWritten =
      (c.normalForm format).map WrittenLeaf.asWritten →
        c.Leaves (.fixedBy g)
  | pattern kind field text, h => by
    injection h with hleaf
    injection hleaf with _ _ htext
    exact ⟨trivial, htext⟩
  | bool must should mustNot, h => by
    injection h with hmust hshould hmustNot
    exact ⟨allLeaves_of_normalForms_eq hmust, allLeaves_of_normalForms_eq hshould,
      allLeaves_of_normalForms_eq hmustNot⟩
  | negation c, h => by
    injection h with _ _ hc
    injection hc with hc _
    exact leaves_negation.2 (leaves_of_normalForm_eq hc)
  | disjunction [], _ => trivial
  | disjunction [c], h => ⟨leaves_of_normalForm_eq h, trivial⟩
  | disjunction (c :: c' :: rest), h => by
    injection h with _ hclauses _
    exact allLeaves_of_normalForms_eq hclauses
  | term .., _ | terms .., _ | range .., _ | present _, _ | missing _, _ | analyzed .., _ | matchAll, _ => by
    simp [Leaves, LeafCondition.fixedBy]

private theorem allLeaves_of_normalForms_eq : ∀ {cs : List Criteria},
    mapAll WrittenLeaf.asWritten (normalForms format (allWithPatterns g cs)) =
      mapAll WrittenLeaf.asWritten (normalForms format cs) →
        AllLeaves (.fixedBy g) cs
  | [], _ => trivial
  | c :: rest, h => by
    injection h with hc hrest
    exact ⟨leaves_of_normalForm_eq hc, allLeaves_of_normalForms_eq hrest⟩

end

/-- A change of patterns shows in what is written, whatever way values are written in. -/
theorem toJson_withPatterns_iff {c : Criteria} :
    (c.withPatterns g).toJson format = c.toJson format ↔ c.Leaves (.fixedBy g) := by
  constructor
  · intro h
    have hread := congrArg ofJson? h
    rw [ofJson?_toJson, ofJson?_toJson] at hread
    exact leaves_of_normalForm_eq format (Option.some.inj hread)
  · intro h
    rw [withPatterns_eq_self h]

end Patterns

end Criteria

namespace DocumentMapping

mutual

private theorem formatValue_lowered {options : MappingOptions} (h : options.lowerCaseValues = true) : ∀ v : Value,
    formatValue options v.lowered = formatValue options v
  | .string s => by
    rw [Value.lowered, formatValue, formatValue, h, if_pos rfl, if_pos rfl, Text.lower_lower]
  | .array items => by
    rw [Value.lowered, formatValue, formatValue, formatValues_lowered h items]
  | .null | .bool _ | .int32 _ | .int64 _ | .float _ | .dateTime _ | .object _ => rfl

private theorem formatValues_lowered {options : MappingOptions} (h : options.lowerCaseValues = true) :
    ∀ items : List Value, formatValues options (Value.loweredItems items) = formatValues options items
  | [] => rfl
  | v :: rest => by
    rw [Value.loweredItems, formatValues, formatValues, formatValue_lowered h v, formatValues_lowered h rest]

end

end DocumentMapping

namespace Criteria

/-- If strings are sent in lower case, a criterion is written like the one with its values in lower case. It is written
like the one with its values and patterns in lower case only if the patterns were in lower case from the start. -/
theorem toJson_lowered (mapping : DocumentMapping) (h : mapping.options.lowerCaseValues = true) (c : Criteria) :
    (c.withValues Value.lowered).toJson mapping.toMapping.formatValue = c.toJson mapping.toMapping.formatValue ∧
      (((c.withPatterns PatternKind.lowered).withValues Value.lowered).toJson mapping.toMapping.formatValue =
          c.toJson mapping.toMapping.formatValue ↔
        c.Leaves (.fixedBy PatternKind.lowered)) := by
  have hvalues : ∀ c : Criteria,
      (c.withValues Value.lowered).toJson mapping.toMapping.formatValue = c.toJson mapping.toMapping.formatValue :=
    toJson_withValues fun _ v => DocumentMapping.formatValue_lowered h v
  refine ⟨hvalues c, ?_⟩
  rw [hvalues (c.withPatterns PatternKind.lowered)]
  exact toJson_withPatterns_iff mapping.toMapping.formatValue

/-- Names with and without capital letters, in a list and in an array, and the beginning of a name without. -/
theorem toJson_lowered_names :
    let mapping : DocumentMapping := { options := { lowerCaseValues := true } }
    let format := mapping.toMapping.formatValue
    let c := bool [terms "name" [.string "Ana", .array [.string "EVA"]] none none, pattern .leading "name" "mor"] [] []
    (c.withValues Value.lowered).toJson format = c.toJson format ∧
      ((c.withPatterns PatternKind.lowered).withValues Value.lowered).toJson format = c.toJson format := by
  intro mapping format c
  have hleaves : c.Leaves (.fixedBy PatternKind.lowered) := by
    have hmor : Text.lower "mor" = "mor" := by decide
    simp [c, Leaves, AllLeaves, LeafCondition.fixedBy, PatternKind.lowered, hmor]
  obtain ⟨hvalues, hpatterns⟩ := toJson_lowered mapping rfl c
  exact ⟨hvalues, hpatterns.2 hleaves⟩

/-- The beginning of a name is sent with its capital letter. -/
theorem toJson_lowered_ne_of_leading :
    let mapping : DocumentMapping := { options := { lowerCaseValues := true } }
    let format := mapping.toMapping.formatValue
    let c := pattern .leading "name" "Mor"
    ((c.withPatterns PatternKind.lowered).withValues Value.lowered).toJson format ≠ c.toJson format := by
  intro mapping format c h
  have hleaves : c.Leaves (.fixedBy PatternKind.lowered) := (toJson_withPatterns_iff format).1 h
  have htext : Text.lower "Mor" = "Mor" := hleaves.2
  exact absurd htext (by decide)

end Criteria

end DocumentSearch
