import DocumentSearch.Document
import DocumentSearch.Mapping.Document
import DocumentSearch.Proofs.Value.Json

/-!
# Values of returned fields

Engines return every field in an array. A sequence is read from the whole array (`fieldValue_sequence`) and a value of
any other type from the first item (`fieldValue_of_isSequence_eq_false`). Which of the two it is goes by the outermost
form of the type, and so a sequence that may be null is read from the first item as well.

For all other types the permission to be null makes no difference where there is a value (`fieldValue_nullable`).
-/

namespace DocumentSearch

/-- What types other than sequences are read from: the first item of an array, and all else as it is. -/
def Json.leading? : Json → Option Json
  | .array items => items.head?
  | j => some j

/-- There is such a part, and it is not null, unless this is null or an array that is empty or begins with null. -/
theorem Json.exists_leading? {j : Json} (hnull : j ≠ .null) (hempty : j ≠ .array [])
    (hfirst : ∀ rest, j ≠ .array (.null :: rest)) : ∃ first, j.leading? = some first ∧ first ≠ .null := by
  cases j with
  | null => exact absurd rfl hnull
  | array items =>
    cases items with
    | nil => exact absurd rfl hempty
    | cons first rest =>
      refine ⟨first, rfl, ?_⟩
      intro h
      exact hfirst rest (by rw [h])
  | _ => exact ⟨_, rfl, nofun⟩

theorem Json.leading?_of_items?_eq_none {j : Json} (h : j.items? = none) : j.leading? = some j := by
  cases j with
  | array items => cases h
  | _ => rfl

namespace Value

/-- That a document may be null makes no difference if it is not. -/
theorem ofJsonAs_nullable {j : Json} (h : j ≠ .null) (inner : ValueType) :
    ofJsonAs j (.nullable inner) = ofJsonAs j inner := by
  cases j with
  | null => exact absurd rfl h
  | _ => rfl

/-- An array and its first item are read as the same sequence exactly if there are no other items, or if the first
cannot be read at all. -/
theorem ofJsonAs_cons_eq_iff {first : Json} (hnull : first ≠ .null) (hitems : first.items? = none) (rest : List Json)
    (item : ValueType) :
    ofJsonAs first (.sequence item) = ofJsonAs (.array (first :: rest)) (.sequence item) ↔
      rest = [] ∨ ∃ error, ofJsonAs first item = .error error := by
  rw [ofJsonAs_sequence hnull hitems, ofJsonAs, List.mapM_cons]
  cases hv : ofJsonAs first item with
  | error error =>
    exact iff_of_true rfl (.inr ⟨error, rfl⟩)
  | ok v =>
    constructor
    · intro h
      obtain ⟨vs, hvs, harray⟩ := map_eq_ok.1 h.symm
      obtain ⟨v', hv', hvs⟩ := bind_eq_ok.1 hvs
      obtain ⟨vs', hrest, hvs⟩ := bind_eq_ok.1 hvs
      -- the value of the first item is all that the array has been read as
      have hcons : v' :: vs' = vs := Except.ok.inj hvs
      have hsingle : vs = [v] := array.inj harray
      have hnone : vs' = [] := (List.cons.inj (hcons.trans hsingle)).2
      left
      cases rest with
      | nil => rfl
      | cons second rest =>
        rw [List.mapM_cons] at hrest
        obtain ⟨w, -, hrest⟩ := bind_eq_ok.1 hrest
        obtain ⟨ws, -, hrest⟩ := bind_eq_ok.1 hrest
        rw [hnone] at hrest
        cases hrest
    · rintro (rfl | ⟨error, herror⟩)
      · rfl
      · cases herror

end Value

namespace Document

variable {mapping : DocumentMapping} {fields : Option (Members Json)} {key : String} {j first : Json}

/-- A sequence is read from all that was returned. -/
theorem fieldValue_sequence (hfield : fields.bind (·.get? key) = some j) (item : ValueType) :
    fieldValue mapping.toMapping fields key (.sequence item) = Value.ofJsonAs j (.sequence item) := by
  rw [fieldValue, hfield]
  rfl

/-- A value of any other type is read from the first item. -/
theorem fieldValue_of_isSequence_eq_false (hfield : fields.bind (·.get? key) = some j)
    (hleading : j.leading? = some first) (hfirst : first ≠ .null) {type : ValueType} (htype : type.isSequence = false) :
    fieldValue mapping.toMapping fields key type = Value.ofJsonAs first type := by
  have hsingle : singleValue mapping.toMapping type first = Value.ofJsonAs first type := by
    cases first with
    | null => exact absurd rfl hfirst
    | _ => rfl
  rw [fieldValue, hfield, ← hsingle]
  simp only [htype, Bool.false_eq_true, if_false]
  cases j with
  | array items =>
    cases items with
    | nil => cases hleading
    | cons head rest =>
      cases hleading
      rfl
  | _ =>
    cases hleading
    rfl

/-- Where a field has a value, the permission to be null makes no difference to types that are no sequences, and none
to a sequence if the value is no array. Of an array a sequence has all items, but a sequence that may be null is read
from the first alone: if this is no array in turn, both are the same exactly if there are no other items or the first
cannot be read. -/
theorem fieldValue_nullable (mapping : DocumentMapping) (type : ValueType)
    (hfield : fields.bind (·.get? key) = some j) (hnull : j ≠ .null) (hempty : j ≠ .array [])
    (hfirst : ∀ rest, j ≠ .array (.null :: rest)) :
    (type.isSequence = false ∨ j.items? = none →
      fieldValue mapping.toMapping fields key (.nullable type) = fieldValue mapping.toMapping fields key type) ∧
    ∀ item first rest, type = .sequence item → j = .array (first :: rest) →
      fieldValue mapping.toMapping fields key (.nullable type) = Value.ofJsonAs first type ∧
      fieldValue mapping.toMapping fields key type = Value.ofJsonAs (.array (first :: rest)) type ∧
      (first.items? = none →
        (fieldValue mapping.toMapping fields key (.nullable type) = fieldValue mapping.toMapping fields key type ↔
          rest = [] ∨ ∃ error, Value.ofJsonAs first item = .error error)) := by
  obtain ⟨leading, hleading, hpresent⟩ := j.exists_leading? hnull hempty hfirst
  have hoptional : fieldValue mapping.toMapping fields key (.nullable type) = Value.ofJsonAs leading type := by
    rw [fieldValue_of_isSequence_eq_false hfield hleading hpresent rfl, Value.ofJsonAs_nullable hpresent]
  constructor
  · intro h
    rw [hoptional]
    cases htype : type.isSequence with
    | false => rw [fieldValue_of_isSequence_eq_false hfield hleading hpresent htype]
    | true =>
      have hitems : j.items? = none := by
        rcases h with h | h
        · rw [htype] at h
          cases h
        · exact h
      obtain rfl : j = leading := by
        rw [j.leading?_of_items?_eq_none hitems] at hleading
        exact Option.some.inj hleading
      cases type with
      | sequence item => rw [fieldValue_sequence hfield]
      | _ => cases htype
  · rintro item first rest rfl rfl
    obtain rfl : first = leading := Option.some.inj hleading
    have hall : fieldValue mapping.toMapping fields key (.sequence item) =
        Value.ofJsonAs (.array (first :: rest)) (.sequence item) := fieldValue_sequence hfield item
    refine ⟨hoptional, hall, ?_⟩
    intro hitems
    rw [hoptional, hall]
    exact Value.ofJsonAs_cons_eq_iff hpresent hitems rest item

/-- An age, of a user for whom it may be missing as well as of one who has one, and two tags. -/
theorem fieldValue_nullable_tags :
    let fields : Members Json := [("age", .array [.integer 41]), ("tags", .array [.string "a", .string "b"])]
    let mapping : DocumentMapping := {}
    fieldValue mapping.toMapping (some fields) "age" (.nullable .int32) =
      fieldValue mapping.toMapping (some fields) "age" .int32 ∧
    fieldValue mapping.toMapping (some fields) "tags" (.nullable (.sequence .string)) = .ok (.array [.string "a"]) ∧
    fieldValue mapping.toMapping (some fields) "tags" (.sequence .string) =
      .ok (.array [.string "a", .string "b"]) := by
  intro fields mapping
  have hage : (some fields).bind (·.get? "age") = some (Json.array [.integer 41]) := rfl
  have htags : (some fields).bind (·.get? "tags") = some (Json.array [.string "a", .string "b"]) := rfl
  obtain ⟨hfirst, hall, -⟩ := (fieldValue_nullable mapping (.sequence .string) htags nofun nofun nofun).2
    .string _ _ rfl rfl
  refine ⟨(fieldValue_nullable mapping .int32 hage nofun nofun nofun).1 (.inl rfl), hfirst.trans ?_, hall.trans ?_⟩
  · cbv
  · cbv

/-- Of two tags, the second is not read if there may be none. -/
theorem fieldValue_nullable_ne_of_tags :
    let fields : Members Json := [("tags", .array [.string "a", .string "b"])]
    let mapping : DocumentMapping := {}
    fieldValue mapping.toMapping (some fields) "tags" (.nullable (.sequence .string)) ≠
      fieldValue mapping.toMapping (some fields) "tags" (.sequence .string) := by
  nofun

end Document

end DocumentSearch
