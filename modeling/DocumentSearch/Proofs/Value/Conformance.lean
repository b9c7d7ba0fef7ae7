import Mathlib
import DocumentSearch.Document
import DocumentSearch.Mapping.Document
import DocumentSearch.Proofs.Steps
import DocumentSearch.Proofs.Value.Compare

/-!
# Values that have the shape of a type

`Value.Conforms v t` says that the value has the shape that the type asks for. A cast ends in such values and leaves
them as they are, and documents and fields are read as such values (`Value.conforms_of_cast_or_read`).

Each cast to a type that is not composed returns values of one kind, or null where the type allows it (`castTo*_eq_ok`);
the rest is an induction on the type.
-/

namespace DocumentSearch

namespace Value

/-- The value has the shape that the type asks for. -/
inductive Conforms : Value → ValueType → Prop
  | any (v : Value) : Conforms v .any
  | null {t : ValueType} : t.isNullable = true → Conforms .null t
  | nullable {v : Value} {t : ValueType} : Conforms v t → Conforms v (.nullable t)
  | sequence {items : List Value} {t : ValueType} : (∀ v ∈ items, Conforms v t) →
      Conforms (.array items) (.sequence t)
  | object (members : List (String × Value)) (name : String) : Conforms (.object members) (.object name)
  | scalar {v : Value} {t : ValueType} : v.isScalar = true → v.type = t → Conforms v t

theorem conforms_zero (t : ValueType) : t.zero.Conforms t := by
  cases t with
  | any => exact .any _
  | string | nullable | sequence | object => exact .null rfl
  | bool | int32 | int64 | float | dateTime => exact .scalar rfl rfl

/-- A cast leaves a value as it is that has the shape already. -/
theorem Conforms.cast_eq {v : Value} {t : ValueType} (h : v.Conforms t) : v.cast t = .ok v := by
  induction h with
  | any v => rfl
  | @null t ht =>
    cases t with
    | bool | int32 | int64 | float | dateTime => cases ht
    | any | string | nullable | sequence | object => rfl
  | @nullable v t _ ih =>
    cases v with
    | null => rfl
    | _ => exact ih
  | @sequence items t _ ih =>
    have hitems : (items.mapM fun v => v.cast t) = items.mapM (pure : Value → Except CastError Value) :=
      mapM_eq_of_forall₂ (List.forall₂_same.2 ih)
    rw [cast, hitems, List.mapM_pure, List.map_id']
    rfl
  | object => rfl
  | @scalar v t hscalar ht =>
    subst ht
    cases v with
    | array | object => cases hscalar
    | _ => rfl

/-! ### Casts to types that are not composed -/

private theorem orInvalid_eq_ok {α : Type} {text : String} {target : ValueType} {make : α → Value} {o : Option α}
    {w : Value} (h : orInvalid text target make o = .ok w) : ∃ a, w = make a := by
  cases o with
  | none => cases h
  | some a =>
    cases h
    exact ⟨a, rfl⟩

variable {v w : Value}

theorem castToBool_eq_ok (h : v.castToBool = .ok w) : ∃ b, w = bool b := by
  cases v with
  | string s => exact orInvalid_eq_ok h
  | bool | int32 | int64 | float =>
    cases h
    exact ⟨_, rfl⟩
  | null | dateTime | array | object => cases h

theorem castToInt32_eq_ok (h : v.castToInt32 = .ok w) : ∃ n, w = int32 n := by
  cases v with
  | string s =>
    obtain ⟨n, rfl⟩ := orInvalid_eq_ok h
    exact ⟨_, rfl⟩
  | int32 n =>
    cases h
    exact ⟨n, rfl⟩
  | int64 n =>
    rw [castToInt32] at h
    split at h <;> cases h
    exact ⟨_, rfl⟩
  | float x =>
    rw [castToInt32] at h
    split at h <;> cases h
    exact ⟨_, rfl⟩
  | null | bool | dateTime | array | object => cases h

theorem castToInt64_eq_ok (h : v.castToInt64 = .ok w) : ∃ n, w = int64 n := by
  cases v with
  | string s =>
    obtain ⟨n, rfl⟩ := orInvalid_eq_ok h
    exact ⟨_, rfl⟩
  | int32 | int64 =>
    cases h
    exact ⟨_, rfl⟩
  | float x =>
    rw [castToInt64] at h
    split at h <;> cases h
    exact ⟨_, rfl⟩
  | null | bool | dateTime | array | object => cases h

theorem castToFloat_eq_ok (h : v.castToFloat = .ok w) : ∃ x, w = float x := by
  cases v with
  | string s => exact orInvalid_eq_ok h
  | int32 | int64 | float =>
    cases h
    exact ⟨_, rfl⟩
  | null | bool | dateTime | array | object => cases h

theorem castToString_eq_ok (h : v.castToString = .ok w) : w = null ∨ ∃ s, w = string s := by
  cases v with
  | null =>
    cases h
    exact .inl rfl
  | bool | int32 | int64 | float | string | dateTime =>
    cases h
    exact .inr ⟨_, rfl⟩
  | array | object => cases h

theorem castToDateTime_eq_ok (h : v.castToDateTime = .ok w) : ∃ t, w = dateTime t := by
  cases v with
  | string s => exact orInvalid_eq_ok h
  | dateTime t =>
    cases h
    exact ⟨t, rfl⟩
  | int64 n =>
    rw [castToDateTime] at h
    split at h <;> cases h
    exact ⟨_, rfl⟩
  | null | bool | int32 | float | array | object => cases h

theorem castToObject_eq_ok {name : String} (h : v.castToObject name = .ok w) :
    w = null ∨ ∃ members, w = object members := by
  cases v with
  | null =>
    cases h
    exact .inl rfl
  | object members =>
    cases h
    exact .inr ⟨members, rfl⟩
  | bool | int32 | int64 | float | string | dateTime | array => cases h

/-! ### All casts -/

/-- What a cast returns has the shape. -/
theorem conforms_of_cast_eq_ok {t : ValueType} (h : v.cast t = .ok w) : w.Conforms t := by
  induction t generalizing v w with
  | any => exact .any w
  | bool =>
    obtain ⟨b, rfl⟩ := castToBool_eq_ok h
    exact .scalar rfl rfl
  | int32 =>
    obtain ⟨n, rfl⟩ := castToInt32_eq_ok h
    exact .scalar rfl rfl
  | int64 =>
    obtain ⟨n, rfl⟩ := castToInt64_eq_ok h
    exact .scalar rfl rfl
  | float =>
    obtain ⟨x, rfl⟩ := castToFloat_eq_ok h
    exact .scalar rfl rfl
  | dateTime =>
    obtain ⟨t, rfl⟩ := castToDateTime_eq_ok h
    exact .scalar rfl rfl
  | string =>
    obtain rfl | ⟨s, rfl⟩ := castToString_eq_ok h
    · exact .null rfl
    · exact .scalar rfl rfl
  | object name =>
    obtain rfl | ⟨members, rfl⟩ := castToObject_eq_ok h
    · exact .null rfl
    · exact .object members name
  | nullable inner ih =>
    rw [cast] at h
    split at h
    · cases h
      exact .null rfl
    · exact .nullable (ih h)
  | sequence item ih =>
    cases v with
    | null =>
      cases h
      exact .null rfl
    | array items =>
      obtain ⟨ws, hws, rfl⟩ := map_eq_ok.1 h
      refine .sequence fun w hw => ?_
      obtain ⟨v, -, hv⟩ := (mem_of_mapM_eq_ok hws).1 w hw
      exact ih hv
    | _ =>
      -- anything else becomes a sequence of one
      obtain ⟨w, hw, rfl⟩ := map_eq_ok.1 h
      exact .sequence (List.forall_mem_singleton.2 (ih hw))

/-! ### Documents and fields -/

private theorem conforms_of_ofJsonAsPlain {j : Json} {t : ValueType} (h : ofJsonAsPlain j t = .ok w) :
    w.Conforms t := by
  unfold ofJsonAsPlain at h
  split at h
  · cases h
    exact .object _ _
  · cases h
    exact .any _
  · cases h
  · cases h
  · exact conforms_of_cast_eq_ok h

/-- A document is read as a value that has the shape. -/
theorem conforms_of_ofJsonAs {j : Json} {t : ValueType} (h : ofJsonAs j t = .ok w) : w.Conforms t := by
  induction t generalizing j w with
  | any | bool | int32 | int64 | float | string | dateTime | object => exact conforms_of_ofJsonAsPlain h
  | nullable inner ih =>
    cases j with
    | null =>
      cases h
      exact .null rfl
    | _ => exact .nullable (ih h)
  | sequence item ih =>
    cases j with
    | null =>
      cases h
      exact .null rfl
    | array items =>
      obtain ⟨ws, hws, rfl⟩ := map_eq_ok.1 h
      refine .sequence fun w hw => ?_
      obtain ⟨j, -, hj⟩ := (mem_of_mapM_eq_ok hws).1 w hw
      exact ih hj
    | _ =>
      obtain ⟨w, hw, rfl⟩ := map_eq_ok.1 h
      exact .sequence (List.forall_mem_singleton.2 (ih hw))

private theorem conforms_of_singleValue {mapping : DocumentMapping} {j : Json} {t : ValueType}
    (h : Document.singleValue mapping.toMapping t j = .ok w) : w.Conforms t := by
  cases j with
  | null =>
    cases h
    exact conforms_zero t
  | _ => exact conforms_of_ofJsonAs h

/-- A field is read as a value that has the shape, and so is a field that is not there. -/
theorem conforms_of_fieldValue {mapping : DocumentMapping} {fields : Option (Members Json)} {key : String}
    {t : ValueType} (h : Document.fieldValue mapping.toMapping fields key t = .ok w) : w.Conforms t := by
  unfold Document.fieldValue at h
  split at h
  · cases h
    exact conforms_zero t
  · split at h
    · exact conforms_of_ofJsonAs h
    · split at h
      · cases h
        exact conforms_zero t
      · exact conforms_of_singleValue h
      · exact conforms_of_singleValue h

/-- Casts, documents and the fields of documents give values of the shape that was asked for. A cast changes a value
only if it does not have the shape: what a cast has returned stays as it is, and so does what had the shape before. -/
theorem conforms_of_cast_or_read (v : Value) (t : ValueType) :
    (∀ w, v.cast t = .ok w → w.Conforms t ∧ w.cast t = .ok w) ∧
    (v.Conforms t → v.cast t = .ok v) ∧
    (∀ j w, ofJsonAs j t = .ok w → w.Conforms t) ∧
    ∀ (mapping : DocumentMapping) fields key w,
      Document.fieldValue mapping.toMapping fields key t = .ok w → w.Conforms t := by
  refine ⟨fun w hw => ?_, Conforms.cast_eq, fun j w => conforms_of_ofJsonAs, fun _ _ _ _ => conforms_of_fieldValue⟩
  have hconforms := conforms_of_cast_eq_ok hw
  exact ⟨hconforms, hconforms.cast_eq⟩

/-- Ages of which one is missing are cast, a single one is read from a document, and a field holds two. -/
theorem conforms_of_cast_or_read_ages :
    let t : ValueType := .sequence (.nullable .int32)
    let v : Value := .array [.int64 41, .null, .string "17"]
    let w : Value := .array [.int32 41, .null, .int32 17]
    let fields : Members Json := [("ages", .array [.integer 41, .null])]
    let mapping : DocumentMapping := {}
    v.cast t = .ok w ∧ w.Conforms t ∧ w.cast t = .ok w ∧
      ofJsonAs (.string "17") t = .ok (.array [.int32 17]) ∧ (array [.int32 17]).Conforms t ∧
      Document.fieldValue mapping.toMapping (some fields) "ages" t = .ok (.array [.int32 41, .null]) ∧
      (array [.int32 41, .null]).Conforms t ∧
      (array [.int32 41, .null]).cast t = .ok (.array [.int32 41, .null]) := by
  intro t v w fields mapping
  have hcast : v.cast t = .ok w := by cbv
  have hread : ofJsonAs (.string "17") t = .ok (.array [.int32 17]) := by cbv
  have hfield : Document.fieldValue mapping.toMapping (some fields) "ages" t = .ok (.array [.int32 41, .null]) := by
    cbv
  obtain ⟨hshape, hfixed⟩ := (conforms_of_cast_or_read v t).1 w hcast
  obtain ⟨-, hkept, hdocument, hfields⟩ := conforms_of_cast_or_read (array [.int32 41, .null]) t
  have hages := hfields mapping _ _ _ hfield
  exact ⟨hcast, hshape, hfixed, hread, hdocument _ _ hread, hfield, hages, hkept hages⟩

end Value

end DocumentSearch
