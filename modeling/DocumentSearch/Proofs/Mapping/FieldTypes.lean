import Mathlib
import DocumentSearch.Mapping.FieldTypes
import DocumentSearch.Proofs.Members

/-!
# Field types of several indexes

What `FieldTypes.ofIndexes` collects from several indexes, compared with what it collects from each of them alone.

A run over properties leaves a type as it is that is known already, save where a property has a keyword form
(`Update`). For the types of all indexes to be those that the first index gives to each path, two things must hold
(`isConsistent`): what lies within a known path is known as well, for it is skipped, and a keyword form has the type
that is known of its path, for it replaces it. The main result is `get?_ofIndexes`.
-/

namespace DocumentSearch.FieldTypes

/-! ### The properties of an index -/

/-- What a document or a property has under `properties`, by name. -/
def propertyMembers (j : Json) : List (String × Json) := ((j.get? "properties").bind Json.members?).getD []

theorem sizeOf_propertyMembers_le (property : Members Json) :
    sizeOf (propertyMembers (.object property)) ≤ sizeOf property := by
  induction property with
  | nil => exact Nat.le_refl _
  | cons m rest ih =>
    obtain ⟨name, j⟩ := m
    rw [propertyMembers, Json.get?, Members.get?_cons]
    split
    · rw [Option.bind_some, List.cons.sizeOf_spec, Prod.mk.sizeOf_spec]
      cases j with
      | object properties =>
        rw [Json.members?, Option.getD_some, Json.object.sizeOf_spec]
        omega
      | _ =>
        change sizeOf ([] : List (String × Json)) ≤ _
        rw [List.nil.sizeOf_spec]
        omega
    · refine Nat.le_trans ih ?_
      rw [List.cons.sizeOf_spec]
      omega

/-- The properties and those within them, by path. -/
def allProperties (parent : String) : List (String × Json) → List (String × Members Json)
  | [] => []
  | (name, .object property) :: rest =>
    (childPath parent name, property) ::
      (allProperties (childPath parent name) (propertyMembers (.object property)) ++ allProperties parent rest)
  | _ :: rest => allProperties parent rest
termination_by properties => sizeOf properties
decreasing_by
  · have := sizeOf_propertyMembers_le property
    simp only [List.cons.sizeOf_spec, Prod.mk.sizeOf_spec, Json.object.sizeOf_spec]
    omega
  · simp only [List.cons.sizeOf_spec]
    omega
  · simp only [List.cons.sizeOf_spec]
    omega

/-- The documents of an index that have properties: its mappings, or those of each document type. -/
def documents (index : Json) : List Json :=
  match index.get? "mappings" with
  | none => []
  | some mappings =>
    match mappings.get? "properties" with
    | some _ => [mappings]
    | none => (mappings.members?.getD []).map Prod.snd

/-- The properties of an index, by path. -/
def indexProperties (index : Json) : List (String × Members Json) :=
  (documents index).flatMap fun document => allProperties "" (propertyMembers document)

/-! ### The steps of a run -/

section Steps

variable {types : Members String} {parent name path : String} {property : Members Json} {rest : List (String × Json)}

theorem get?_addProperty (types : Members String) (path : String) (property : Members Json) (p : String) :
    (addProperty types path property).get? p =
      (if p = path ++ ".keyword" then keywordTypeOf? property else none).or
        ((if p = path then typeOf? property else none).or (types.get? p)) := by
  have hput (types : Members String) (path type : String) :
      (types.put path type).get? p = (if p = path then some type else none).or (types.get? p) := by
    rw [Members.get?_put]
    split <;> rfl
  unfold addProperty
  cases keywordTypeOf? property <;> cases typeOf? property <;> simp only [hput, ite_self, Option.none_or]

theorem addProperties_nil : addProperties parent types [] = types := by
  rw [addProperties]

theorem addNested_eq :
    addNested path types property = addProperties path types (propertyMembers (.object property)) := by
  induction property with
  | nil =>
    rw [addNested]
    exact addProperties_nil.symm
  | cons m rest ih =>
    obtain ⟨name, j⟩ := m
    rw [propertyMembers, Json.get?, Members.get?_cons]
    by_cases hname : name = "properties"
    · rw [if_pos hname.symm, Option.bind_some]
      cases j with
      | object properties =>
        rw [addNested, if_pos hname]
        rfl
      | _ =>
        rw [addNested, if_pos hname]
        · exact addProperties_nil.symm
        · exact fun _ h => Json.noConfusion h
    · rw [if_neg (Ne.symm hname)]
      refine Eq.trans ?_ ih
      cases j with
      | object properties => rw [addNested, if_neg hname]
      | _ =>
        rw [addNested, if_neg hname]
        exact fun _ h => Json.noConfusion h

theorem addProperties_cons_of_isSome (h : (types.get? (childPath parent name)).isSome) :
    addProperties parent types ((name, .object property) :: rest) = addProperties parent types rest := by
  rw [addProperties]
  exact if_pos h

theorem addProperties_cons_of_none (h : types.get? (childPath parent name) = none) :
    addProperties parent types ((name, .object property) :: rest) =
      addProperties parent
        (addProperties (childPath parent name) (addProperty types (childPath parent name) property)
          (propertyMembers (.object property))) rest := by
  rw [addProperties, ← addNested_eq]
  exact if_neg (Option.not_isSome_iff_eq_none.2 h)

theorem addAll_eq (document : Json) : addAll types document = addProperties "" types (propertyMembers document) := by
  unfold addAll propertyMembers
  cases document.get? "properties" with
  | none => exact addProperties_nil.symm
  | some j =>
    cases j with
    | object properties => rfl
    | _ => exact addProperties_nil.symm

theorem addIndex_eq_foldl (index : Json) : addIndex types index = (documents index).foldl addAll types := by
  unfold addIndex documents
  cases index.get? "mappings" with
  | none => rfl
  | some mappings =>
    dsimp only
    cases mappings.get? "properties" <;> rfl

end Steps

/-! ### One run -/

/-- What a run over properties may do to the type of a path. -/
inductive Update (properties : List (String × Members Json)) (types types' : Members String) (path : String) : Prop
  /-- It stays as it is. -/
  | same : types'.get? path = types.get? path → Update properties types types' path
  /-- A path without a type takes that of a property. -/
  | property {q : String × Members Json} {type : String} : q ∈ properties → q.1 = path → typeOf? q.2 = some type →
      types.get? path = none → types'.get? path = some type → Update properties types types' path
  /-- The path of a keyword form takes the type of this form. -/
  | keyword {q : String × Members Json} {type : String} : q ∈ properties → q.1 ++ ".keyword" = path →
      keywordTypeOf? q.2 = some type → types'.get? path = some type → Update properties types types' path

namespace Update

variable {properties properties' : List (String × Members Json)} {types types' types'' : Members String} {path : String}

theorem mono (h : Update properties types types' path) (hsub : properties ⊆ properties') :
    Update properties' types types' path := by
  cases h with
  | same h => exact .same h
  | property hq hpath htype hnone h => exact .property (hsub hq) hpath htype hnone h
  | keyword hq hpath htype h => exact .keyword (hsub hq) hpath htype h

theorem trans (h : Update properties types types' path) (h' : Update properties types' types'' path) :
    Update properties types types'' path := by
  cases h' with
  | keyword hq hpath htype h' => exact .keyword hq hpath htype h'
  | same h' =>
    cases h with
    | same h => exact .same (h'.trans h)
    | property hq hpath htype hnone h => exact .property hq hpath htype hnone (h'.trans h)
    | keyword hq hpath htype h => exact .keyword hq hpath htype (h'.trans h)
  | property hq hpath htype hnone h' =>
    -- a path that had been given a type would have one
    cases h with
    | same h => exact .property hq hpath htype (h.symm.trans hnone) h'
    | property _ _ _ _ h | keyword _ _ _ h => cases h.symm.trans hnone

/-- One run after another. -/
theorem foldl {α : Type} {add : Members String → α → Members String} {f : α → List (String × Members Json)}
    (hadd : ∀ types a, Update (f a) types (add types a) path) (types : Members String) (as : List α) :
    Update (as.flatMap f) types (as.foldl add types) path := by
  induction as generalizing types with
  | nil => exact .same rfl
  | cons a rest ih =>
    rw [List.flatMap_cons]
    exact ((hadd types a).mono (List.subset_append_left _ _)).trans ((ih _).mono (List.subset_append_right _ _))

end Update

theorem update_addProperty {types : Members String} {path : String} (h : types.get? path = none)
    (property : Members Json) (p : String) : Update [(path, property)] types (addProperty types path property) p := by
  have hget := get?_addProperty types path property p
  cases hkeyword : (if p = path ++ ".keyword" then keywordTypeOf? property else none) with
  | some type =>
    obtain ⟨hp, htype⟩ := Option.ite_none_right_eq_some.1 hkeyword
    exact .keyword (.head _) hp.symm htype (by rw [hget, hkeyword]; rfl)
  | none =>
    cases hown : (if p = path then typeOf? property else none) with
    | some type =>
      obtain ⟨hp, htype⟩ := Option.ite_none_right_eq_some.1 hown
      exact .property (.head _) hp.symm htype (hp ▸ h) (by rw [hget, hkeyword, hown]; rfl)
    | none => exact .same (by rw [hget, hkeyword, hown]; rfl)

/-- A property is added together with what lies within it. -/
theorem Update.of_addProperty {properties : List (String × Members Json)} {types types' : Members String}
    {path p : String} {property : Members Json} (h : types.get? path = none)
    (hwithin : Update properties (addProperty types path property) types' p) :
    Update ((path, property) :: properties) types types' p :=
  ((update_addProperty h property p).mono (List.cons_subset_cons _ (List.nil_subset _))).trans
    (hwithin.mono (List.subset_cons_self _ _))

theorem update_addProperties (parent : String) (types : Members String) (properties : List (String × Json))
    (p : String) : Update (allProperties parent properties) types (addProperties parent types properties) p := by
  fun_induction allProperties parent properties generalizing types with
  | case1 parent =>
    rw [addProperties_nil]
    exact .same rfl
  | case2 parent name property rest ihwithin ihrest =>
    rw [← List.cons_append]
    cases h : types.get? (childPath parent name) with
    | some type =>
      rw [addProperties_cons_of_isSome (Option.isSome_of_eq_some h)]
      exact (ihrest types).mono (List.subset_append_right _ _)
    | none =>
      rw [addProperties_cons_of_none h]
      have hwithin := Update.of_addProperty h (ihwithin (addProperty types (childPath parent name) property))
      exact (hwithin.mono (List.subset_append_left _ _)).trans ((ihrest _).mono (List.subset_append_right _ _))
  | case3 parent m rest hother ih =>
    rw [addProperties]
    · exact ih types
    · exact hother

theorem update_addIndex (types : Members String) (index : Json) (p : String) :
    Update (indexProperties index) types (addIndex types index) p := by
  rw [addIndex_eq_foldl]
  refine Update.foldl (fun types document => ?_) types (documents index)
  rw [addAll_eq]
  exact update_addProperties "" types (propertyMembers document) p

/-! ### A run beside the run of an index alone -/

/-- Whatever type a property defines, one is known for its path. -/
def isCovered (known : String → Option String) (q : String × Members Json) : Bool :=
  ((typeOf? q.2).isNone || (known q.1).isSome) &&
    ((keywordTypeOf? q.2).isNone || (known (q.1 ++ ".keyword")).isSome)

/-- What a property says is consistent with the types that are known: if its path is known, then so is all that lies
within, and if not, then its keyword form has the type that is known for it, if any is. -/
def isConsistent (known : String → Option String) (q : String × Members Json) : Bool :=
  match known q.1 with
  | some _ => (q :: allProperties q.1 (propertyMembers (.object q.2))).all (isCovered known)
  | none =>
    match keywordTypeOf? q.2, known (q.1 ++ ".keyword") with
    | some type, some type' => type == type'
    | _, _ => true

/-- The types are those that were known before, and beyond these the ones that the index gives alone. -/
def Extends (known : String → Option String) (types alone : Members String) : Prop :=
  ∀ path, types.get? path = (known path).or (alone.get? path)

namespace Extends

variable {known : String → Option String} {types alone alone' : Members String}

/-- What is added within what is known makes no difference. -/
theorem of_isCovered {properties : List (String × Members Json)} (h : Extends known types alone)
    (hcovered : properties.all (isCovered known) = true) (hupdate : ∀ path, Update properties alone alone' path) :
    Extends known types alone' := by
  intro path
  have hknown : (known path).isSome → types.get? path = (known path).or (alone'.get? path) := by
    intro hsome
    rw [h path, Option.or_of_isSome hsome, Option.or_of_isSome hsome]
  rw [List.all_eq_true] at hcovered
  cases hupdate path with
  | same hsame => rw [hsame, h path]
  | property hq hpath htype =>
    have hq := hcovered _ hq
    rw [isCovered, htype, hpath, Bool.and_eq_true] at hq
    exact hknown hq.1
  | keyword hq hpath htype =>
    have hq := hcovered _ hq
    rw [isCovered, htype, hpath, Bool.and_eq_true] at hq
    exact hknown hq.2

theorem addProperty {q : String × Members Json} (h : Extends known types alone) (hq : isConsistent known q = true)
    (hnone : known q.1 = none) :
    Extends known (FieldTypes.addProperty types q.1 q.2) (FieldTypes.addProperty alone q.1 q.2) := by
  intro path
  rw [get?_addProperty, get?_addProperty, h path]
  cases hknown : known path with
  | none => simp only [Option.none_or]
  | some type =>
    -- the own type of the property is not for this path, and its keyword form has the known type
    have hown : (if path = q.1 then typeOf? q.2 else none) = none :=
      if_neg fun hpath => by cases hnone.symm.trans (hpath ▸ hknown)
    rw [hown]
    cases hkeyword : (if path = q.1 ++ ".keyword" then keywordTypeOf? q.2 else none) with
    | none => rfl
    | some type' =>
      obtain ⟨rfl, htype'⟩ := Option.ite_none_right_eq_some.1 hkeyword
      rw [isConsistent, hnone, htype', hknown] at hq
      rw [eq_of_beq hq]
      rfl

theorem addProperties {parent : String} {properties : List (String × Json)} (h : Extends known types alone)
    (hconsistent : (allProperties parent properties).all (isConsistent known) = true) :
    Extends known (FieldTypes.addProperties parent types properties)
      (FieldTypes.addProperties parent alone properties) := by
  fun_induction allProperties parent properties generalizing types alone with
  | case1 parent =>
    rw [addProperties_nil, addProperties_nil]
    exact h
  | case2 parent name property rest ihwithin ihrest =>
    rw [List.all_cons, List.all_append, Bool.and_eq_true, Bool.and_eq_true] at hconsistent
    obtain ⟨hq, hwithin, hrest⟩ := hconsistent
    have hpath := h (childPath parent name)
    cases halone : alone.get? (childPath parent name) with
    | some type =>
      -- the index itself has given the path already
      have htypes : (types.get? (childPath parent name)).isSome := by
        rw [hpath, halone]
        cases known (childPath parent name) <;> rfl
      rw [addProperties_cons_of_isSome htypes, addProperties_cons_of_isSome (Option.isSome_of_eq_some halone)]
      exact ihrest h hrest
    | none =>
      rw [halone, Option.or_none] at hpath
      rw [addProperties_cons_of_none halone]
      cases hknown : known (childPath parent name) with
      | some type =>
        -- only the index alone adds the property, and nothing by it that is not known
        rw [addProperties_cons_of_isSome (by rw [hpath, hknown]; rfl)]
        rw [isConsistent, hknown] at hq
        refine ihrest (h.of_isCovered hq fun p => ?_) hrest
        exact Update.of_addProperty halone (update_addProperties _ _ _ p)
      | none =>
        rw [addProperties_cons_of_none (hpath.trans hknown)]
        exact ihrest (ihwithin (h.addProperty hq hknown) hwithin) hrest
  | case3 parent m rest hother ih =>
    rw [FieldTypes.addProperties, FieldTypes.addProperties]
    · exact ih h hconsistent
    all_goals exact hother

theorem addIndex {index : Json} (h : Extends known types alone)
    (hconsistent : (indexProperties index).all (isConsistent known) = true) :
    Extends known (FieldTypes.addIndex types index) (FieldTypes.addIndex alone index) := by
  rw [addIndex_eq_foldl, addIndex_eq_foldl]
  rw [indexProperties, List.all_flatMap] at hconsistent
  generalize documents index = ds at hconsistent
  induction ds generalizing types alone with
  | nil => exact h
  | cons document rest ih =>
    rw [List.all_cons, Bool.and_eq_true] at hconsistent
    refine ih ?_ hconsistent.2
    rw [addAll_eq, addAll_eq]
    exact h.addProperties hconsistent.1

end Extends

/-! ### All indexes -/

/-- The type that the first of the indexes gives to a path, each of them read alone. -/
def firstType? (indexes : Members Json) (path : String) : Option String :=
  indexes.findSome? fun index => (ofIndexes (.object [index])).get? path

/-- Each index is consistent with the types that the indexes before it give. -/
inductive Consistent : Members Json → Prop
  | nil : Consistent []
  | concat {earlier : Members Json} {index : String × Json} : Consistent earlier →
      (indexProperties index.2).all (isConsistent (firstType? earlier)) = true → Consistent (earlier ++ [index])

theorem ofIndexes_append (earlier later : Members Json) :
    ofIndexes (.object (earlier ++ later)) =
      later.foldl (fun types index => addIndex types index.2) (ofIndexes (.object earlier)) := by
  simp only [ofIndexes, Json.members?, Option.getD_some, List.map_append, List.foldl_append, List.foldl_map]

theorem firstType?_append_singleton (earlier : Members Json) (index : String × Json) (path : String) :
    firstType? (earlier ++ [index]) path = (firstType? earlier path).or ((addIndex [] index.2).get? path) := by
  rw [firstType?, List.findSome?_append, List.findSome?_singleton]
  rfl

/-- The indexes after some others may replace the type of a path only by that of a keyword form. -/
theorem update_ofIndexes_append (earlier later : Members Json) (path : String) :
    Update (later.flatMap fun index => indexProperties index.2) (ofIndexes (.object earlier))
      (ofIndexes (.object (earlier ++ later))) path := by
  rw [ofIndexes_append]
  exact Update.foldl (fun types index => update_addIndex types index.2 path) _ later

theorem get?_ofIndexes_of_consistent {indexes : Members Json} (h : Consistent indexes) (path : String) :
    (ofIndexes (.object indexes)).get? path = firstType? indexes path := by
  induction h generalizing path with
  | nil => rfl
  | @concat earlier index _ hindex ih =>
    have hextends : Extends (firstType? earlier) (ofIndexes (.object earlier)) [] := fun p => by
      rw [ih p]
      exact Option.or_none.symm
    rw [ofIndexes_append, firstType?_append_singleton]
    exact hextends.addIndex hindex path

/-- Indexes that come later give types only to paths that have none, save for those of keyword forms, which replace what
is known of their paths. If each index is consistent with the ones before it, then all of them together give to each
path the type that the first of them gives to it, and none to the other paths. -/
theorem get?_ofIndexes (indexes : Members Json) :
    (∀ earlier later, indexes = earlier ++ later → ∀ path,
      Update (later.flatMap fun index => indexProperties index.2) (ofIndexes (.object earlier))
        (ofIndexes (.object indexes)) path) ∧
    (Consistent indexes → ∀ path, (ofIndexes (.object indexes)).get? path = firstType? indexes path) := by
  refine ⟨?_, get?_ofIndexes_of_consistent⟩
  rintro earlier later rfl path
  exact update_ofIndexes_append earlier later path

/-- Two indexes that agree on the names of people, but not on their codes; the second one has more to say. -/
theorem get?_ofIndexes_people :
    let name : Members Json := [("type", .string "text"),
      ("fields", .object [("keyword", .object [("type", .string "keyword")])])]
    let typed (type : String) : Members Json := [("type", .string type)]
    let index (properties : Members Json) : Json := .object [("mappings", .object [("properties", .object properties)])]
    let a : String × Json := ("a", index [("name", .object name), ("code", .object (typed "keyword"))])
    let b : String × Json := ("b", index [("name", .object name), ("code", .object (typed "text")),
      ("address", .object [("properties", .object [("city", .object (typed "keyword"))])])])
    Consistent [a, b] ∧
      (∀ path, Update ([b].flatMap fun index => indexProperties index.2) (ofIndexes (.object [a]))
        (ofIndexes (.object [a, b])) path) ∧
      (∀ path, (ofIndexes (.object [a, b])).get? path = firstType? [a, b] path) ∧
      (ofIndexes (.object [a, b])).get? "code" = some "keyword" ∧
      (ofIndexes (.object [a, b])).get? "address.city" = some "keyword" := by
  intro name typed index a b
  have ha : (indexProperties a.2).all (isConsistent (firstType? [])) = true := by cbv
  have hb : (indexProperties b.2).all (isConsistent (firstType? [a])) = true := by cbv
  have h : Consistent [a, b] := @Consistent.concat [a] b (@Consistent.concat [] a .nil ha) hb
  obtain ⟨hupdate, hfirst⟩ := get?_ofIndexes [a, b]
  have hcode : firstType? [a, b] "code" = some "keyword" := by cbv
  have hcity : firstType? [a, b] "address.city" = some "keyword" := by cbv
  exact ⟨h, hupdate [a] [b] rfl, hfirst h, (hfirst h _).trans hcode, (hfirst h _).trans hcity⟩

/-- The keyword form of a property is lost if the path of the property is known, and replaces an earlier type if it is
not. -/
theorem get?_ofIndexes_ne_firstType? :
    let typed (type : String) : String × Json := ("type", .string type)
    let index (name : Members Json) : Json :=
      .object [("mappings", .object [("properties", .object [("name", .object name)])])]
    let plain : String × Json := ("plain", index [typed "text"])
    let nested : String × Json := ("nested", index [("properties", .object [("keyword", .object [typed "long"])])])
    let both : String × Json :=
      ("both", index [typed "text", ("fields", .object [("keyword", .object [typed "keyword"])])])
    ((ofIndexes (.object [plain, both])).get? "name.keyword" = none ∧
      firstType? [plain, both] "name.keyword" = some "keyword") ∧
    (ofIndexes (.object [nested, both])).get? "name.keyword" = some "keyword" ∧
      firstType? [nested, both] "name.keyword" = some "long" := by
  cbv

end DocumentSearch.FieldTypes
