import DocumentSearch.Proofs.Steps
import DocumentSearch.Value.Json

/-!
# Reading a document and casting what it shows

Two ways lead from a document to a value of a given shape: `Value.ofJsonAs` reads it in that shape, and `Value.cast`
brings the value that it shows by itself into the shape. They agree on values and on errors, save where an array stands
at a place that the type leaves open: the first refuses such an array, the second keeps it
(`Value.ofJsonAs_eq_cast_iff`).
-/

namespace DocumentSearch

/-- An array stands at a place that the type leaves open. -/
def Json.hasArrayAtAny (j : Json) : ValueType → Bool
  | .any => j.items?.isSome
  | .nullable inner => j.hasArrayAtAny inner
  | .sequence item =>
    match j with
    | .array items => items.any fun j => j.hasArrayAtAny item
    | j => j.hasArrayAtAny item
  | _ => false

theorem Json.hasArrayAtAny_eq_false {j : Json} (h : j.items? = none) (t : ValueType) :
    j.hasArrayAtAny t = false := by
  induction t with
  | any => rw [hasArrayAtAny, h, Option.isSome_none]
  | nullable inner ih => exact ih
  | sequence item ih =>
    cases j with
    | array items => cases h
    | _ => exact ih
  | bool | int32 | int64 | float | string | dateTime | object => rfl

namespace Value

theorem ofJsonItems_eq_map (items : List Json) : ofJsonItems items = items.map ofJson := by
  induction items with
  | nil => rfl
  | cons j rest ih => rw [ofJsonItems, ih, List.map_cons]

theorem isNull_ofJson {j : Json} (h : j ≠ .null) : (ofJson j).isNull = false := by
  cases j with
  | null => exact absurd rfl h
  | integer n =>
    rw [ofJson, ofJsonInteger]
    split <;> rfl
  | _ => rfl

theorem cast_nullable {v : Value} (h : v.isNull = false) (inner : ValueType) :
    v.cast (.nullable inner) = v.cast inner := by
  rw [cast, h]
  rfl

/-- A document that is neither null nor an array becomes a sequence of one. -/
theorem ofJsonAs_sequence {j : Json} (hnull : j ≠ .null) (hitems : j.items? = none) (item : ValueType) :
    ofJsonAs j (.sequence item) = (ofJsonAs j item).map fun v => array [v] := by
  cases j with
  | null => exact absurd rfl hnull
  | array items => cases hitems
  | _ => rfl

theorem cast_sequence_ofJson {j : Json} (hnull : j ≠ .null) (hitems : j.items? = none) (item : ValueType) :
    (ofJson j).cast (.sequence item) = ((ofJson j).cast item).map fun v => array [v] := by
  cases j with
  | null => exact absurd rfl hnull
  | array items => cases hitems
  | integer n =>
    rw [ofJson, ofJsonInteger]
    split <;> rfl
  | _ => rfl

/-- A type that leaves a place open for some array admits every value. -/
theorem exists_cast_eq_ok {j : Json} {t : ValueType} (h : j.hasArrayAtAny t = true) (v : Value) :
    ∃ w, v.cast t = .ok w := by
  induction t generalizing j v with
  | any => exact ⟨v, rfl⟩
  | nullable inner ih =>
    rw [cast]
    split
    · exact ⟨null, rfl⟩
    · exact ih h v
  | sequence item ih =>
    obtain ⟨j, hj⟩ : ∃ j : Json, j.hasArrayAtAny item = true := by
      cases j with
      | array items =>
        obtain ⟨j, -, hj⟩ := List.any_eq_true.1 h
        exact ⟨j, hj⟩
      | _ => exact ⟨_, h⟩
    cases v with
    | null => exact ⟨null, rfl⟩
    | array items =>
      obtain ⟨ws, hws⟩ := exists_mapM_eq_ok fun v (_ : v ∈ items) => ih hj v
      exact ⟨array ws, map_eq_ok.2 ⟨ws, hws, rfl⟩⟩
    | _ =>
      obtain ⟨w, hw⟩ := ih hj _
      exact ⟨array [w], map_eq_ok.2 ⟨w, hw, rfl⟩⟩
  | bool | int32 | int64 | float | string | dateTime | object => cases h

/-- An array is read item by item, and so is it cast. -/
private theorem ofJsonAs_array {items : List Json} {item : ValueType}
    (ih : ∀ j, ofJsonAs j item =
      if j.hasArrayAtAny item then .error (.incompatible (.sequence .any) .any) else (ofJson j).cast item) :
    ofJsonAs (.array items) (.sequence item) =
      if (Json.array items).hasArrayAtAny (.sequence item) then .error (.incompatible (.sequence .any) .any)
      else (ofJson (.array items)).cast (.sequence item) := by
  have hitems : (items.mapM fun j => ofJsonAs j item) =
      if items.any fun j => j.hasArrayAtAny item then .error (.incompatible (.sequence .any) .any)
      else items.mapM fun j => (ofJson j).cast item := by
    refine mapM_eq_ite_error (fun j _ => ih j) fun hany j _ => ?_
    obtain ⟨j', -, hj'⟩ := List.any_eq_true.1 hany
    exact exists_cast_eq_ok hj' (ofJson j)
  have hcast : (ofJson (.array items)).cast (.sequence item) =
      (items.mapM fun j => (ofJson j).cast item).map array := by
    rw [ofJson, ofJsonItems_eq_map, cast, List.mapM_map]
    rfl
  rw [hcast, ofJsonAs, hitems, Json.hasArrayAtAny]
  split <;> rfl

/-- Both ways end in the same, save for the refusal of an array at a place that the type leaves open. -/
theorem ofJsonAs_eq (j : Json) (t : ValueType) :
    ofJsonAs j t =
      if j.hasArrayAtAny t then .error (.incompatible (.sequence .any) .any) else (ofJson j).cast t := by
  induction t generalizing j with
  | any | bool | int32 | int64 | float | string | dateTime | object => cases j <;> rfl
  | nullable inner ih =>
    cases j with
    | null =>
      rw [Json.hasArrayAtAny_eq_false rfl]
      rfl
    | _ =>
      rw [cast_nullable (isNull_ofJson ?_)]
      · exact ih _
      · nofun
  | sequence item ih =>
    cases j with
    | null =>
      rw [Json.hasArrayAtAny_eq_false rfl]
      rfl
    | array items => exact ofJsonAs_array ih
    | _ =>
      rw [ofJsonAs_sequence ?_ rfl, cast_sequence_ofJson ?_ rfl, ih, Json.hasArrayAtAny_eq_false rfl,
        Json.hasArrayAtAny_eq_false rfl]
      · rfl
      all_goals nofun

/-- To read a document in a shape and to cast the value that it shows end in the same value or the same error exactly
if no array stands at a place that the type leaves open. The first refuses the document otherwise. -/
theorem ofJsonAs_eq_cast_iff (j : Json) (t : ValueType) :
    (ofJsonAs j t =
      if j.hasArrayAtAny t then .error (.incompatible (.sequence .any) .any) else (ofJson j).cast t) ∧
    (ofJsonAs j t = (ofJson j).cast t ↔ j.hasArrayAtAny t = false) := by
  refine ⟨ofJsonAs_eq j t, ?_⟩
  rw [ofJsonAs_eq]
  cases h : j.hasArrayAtAny t with
  | false => simp
  | true =>
    obtain ⟨w, hw⟩ := exists_cast_eq_ok h (ofJson j)
    simp [hw]

/-- An array is no value without restriction, but the value that it shows is one. -/
theorem ofJsonAs_ne_cast_of_array :
    ofJsonAs (.array [.integer 1]) .any ≠ (ofJson (.array [.integer 1])).cast .any := nofun

end Value

end DocumentSearch
