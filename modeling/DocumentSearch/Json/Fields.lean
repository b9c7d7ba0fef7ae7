import DocumentSearch.Json.Basic

/-!
# Records in JSON

A record is written as an object, and may also be given as the array of its fields in their order. A variant is
written as an object with one member, whose name is the name of the variant; a variant without content is the string
of its name.

* `Json.field?` and `Json.variant?` give parts of a document together with the fact that they are smaller, so that
  readers may recurse on them.
* `Json.recordFields?` reads a record whose fields may be missing, from the document as it was written.
-/

namespace DocumentSearch.Json

/-- A document that is a part of `j`. -/
abbrev Part (j : Json) := { part : Json // sizeOf part < sizeOf j }

private theorem sizeOf_lt_of_mem {members : List (String × Json)} {name : String} {j : Json}
    (h : members.lookup name = some j) : sizeOf j < sizeOf members := by
  induction members with
  | nil => simp at h
  | cons m rest ih =>
    obtain ⟨name', j'⟩ := m
    simp only [List.lookup_cons] at h
    split at h
    · simp only [Option.some.injEq] at h
      subst h
      simp
      omega
    · have := ih h
      simp
      omega

private theorem sizeOf_lt_of_getElem? {items : List Json} {i : Nat} {j : Json} (h : items[i]? = some j) :
    sizeOf j < sizeOf items :=
  List.sizeOf_lt_of_mem (List.mem_of_getElem? h)

/-- The field of a record with so many fields in all, at this place among them. -/
def field? (j : Json) (count place : Nat) (name : String) : Option (Part j) :=
  match j with
  | object members =>
    match h : members.lookup name with
    | some part => some ⟨part, by have := sizeOf_lt_of_mem h; simp; omega⟩
    | none => none
  | array items =>
    if items.length = count then
      match h : items[place]? with
      | some part => some ⟨part, by have := sizeOf_lt_of_getElem? h; simp; omega⟩
      | none => none
    else
      none
  | _ => none

/-- The name of a variant and its content. -/
def variant? (j : Json) : Option (String × Option (Part j)) :=
  match j with
  | string name => some (name, none)
  | object [(name, part)] => some (name, some ⟨part, by simp; omega⟩)
  | _ => none

/-- The name of a variant without content. -/
def unit? : Json → Option String
  | string name => some name
  | object [(name, null)] => some name
  | _ => none

/-- A document with one member. -/
def tagged (name : String) (content : Json) : Json := object [(name, content)]

/-! ### Fields that may be missing -/

/-- The fields of a record with the given names, those that are missing included. Other members are passed over, but
none of the given names may be repeated. -/
def recordFields? (names : List String) : Json → Option (List (Option Json))
  | object members =>
    names.mapM fun name =>
      match members.filter fun e => e.1 == name with
      | [] => some none
      | [(_, j)] => some (some j)
      | _ => none
  | array items =>
    if items.length ≤ names.length then
      some (items.map some ++ List.replicate (names.length - items.length) none)
    else
      none
  | _ => none

/-- A field that may be missing but not null. -/
def orDefault? (read : Json → Option α) (default : α) : Option Json → Option α
  | none => some default
  | some j => read j

/-- A field that may be missing or null. -/
def orNone? (read : Json → Option α) : Option Json → Option (Option α)
  | none | some null => some none
  | some j => (read j).map some

/-- An integer that is not negative. -/
def natural? (j : Json) : Option Nat := (j.integer?.filter (0 ≤ ·)).map Int.toNat

end DocumentSearch.Json
