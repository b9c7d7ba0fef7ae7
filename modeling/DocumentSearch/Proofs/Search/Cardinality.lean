import DocumentSearch.Mapping.Document
import DocumentSearch.Query
import DocumentSearch.Proofs.Steps

/-!
# How many results are asked for

A query for the first result, or for the only one, asks for fewer results than it may take. What is made of these is
what would be made of all of them, and no smaller number would do (`select_take_size`).

One result decides which is the first, and a second one decides that there is more than one (`select_take`). A query
asks for so many, unless it takes fewer anyway.
-/

namespace DocumentSearch

namespace Cardinality

/-- How many results there must be for more of them to make no difference. -/
def decisive? : Cardinality → Option Nat
  | all => none
  | single _ => some 2
  | first _ => some 1

variable {cardinality : Cardinality} {k : Nat}

/-- Results after the decisive ones may be left out. -/
theorem select_take (hk : cardinality.decisive? = some k) (items : List Value) (default : Value) :
    cardinality.select (items.take k) default = cardinality.select items default := by
  cases cardinality with
  | all => cases hk
  | single orDefault =>
    cases hk
    match items with
    | [] | [_] | _ :: _ :: _ => rfl
  | first orDefault =>
    cases hk
    cases items <;> rfl

/-- The number of results makes a difference as long as it is not more than the decisive one. -/
private theorem select_replicate_ne (hk : cardinality.decisive? = some k) {m n : Nat} (hmn : m < n) (hn : n ≤ k)
    {v default : Value} (hv : v ≠ default) :
    cardinality.select (List.replicate m v) default ≠ cardinality.select (List.replicate n v) default := by
  have hne : ∀ orDefault : Bool, (absent orDefault default).map Results.one ≠ .ok (.one v) := by
    intro orDefault h
    cases orDefault
    · cases h
    · injection h with h
      injection h with h
      exact hv h.symm
  cases cardinality with
  | all => cases hk
  | single orDefault =>
    cases hk
    -- none and one, none and two, one and two
    have hcases : m = 0 ∧ n = 1 ∨ m = 0 ∧ n = 2 ∨ m = 1 ∧ n = 2 := by omega
    rcases hcases with ⟨rfl, rfl⟩ | ⟨rfl, rfl⟩ | ⟨rfl, rfl⟩
    · exact hne orDefault
    · intro h
      cases orDefault <;> cases h
    · intro h
      cases h
  | first orDefault =>
    cases hk
    have hcases : m = 0 ∧ n = 1 := by omega
    obtain ⟨rfl, rfl⟩ := hcases
    exact hne orDefault

end Cardinality

theorem ValueType.zero_ne_string (type : ValueType) (s : String) : Value.string s ≠ type.zero := by
  cases type <;> simp [zero]

namespace Query

/-- The results that the query takes. -/
def taken (query : Query) (results : List Value) : List Value :=
  match query.take with
  | some n => results.take n
  | none => results

/-- How many of so many results the query takes. -/
def atMost (query : Query) (k : Nat) : Nat := (query.take.map (min k)).getD k

variable {query : Query} {k : Nat}

private theorem size_eq (hk : query.cardinality.decisive? = some k) : query.size = some (query.atMost k) := by
  unfold size
  cases h : query.cardinality <;> rw [h] at hk <;> cases hk <;> rfl

private theorem atMost_le (query : Query) (k : Nat) : query.atMost k ≤ k := by
  unfold atMost
  cases query.take with
  | none => exact Nat.le_refl k
  | some n => exact Nat.min_le_left k n

/-- The results that are asked for are the decisive ones among those that are taken. -/
private theorem take_atMost (query : Query) (k : Nat) (results : List Value) :
    results.take (query.atMost k) = (query.taken results).take k := by
  unfold taken atMost
  cases query.take with
  | none => rfl
  | some n => exact List.take_take.symm

private theorem taken_replicate_atMost (query : Query) (k : Nat) (v : Value) :
    query.taken (List.replicate (query.atMost k) v) = List.replicate (query.atMost k) v := by
  unfold taken atMost
  cases query.take with
  | none => rfl
  | some n =>
    show (List.replicate (min k n) v).take n = List.replicate (min k n) v
    rw [List.take_replicate, Nat.min_eq_right (Nat.min_le_right k n)]

/-- Fewer results than are asked for do not do. -/
private theorem atMost_le_of_select_eq (hk : query.cardinality.decisive? = some k) {n : Nat} {v default : Value}
    (hv : v ≠ default) (h : ∀ results : List Value, query.cardinality.select (results.take n) default =
      query.cardinality.select (query.taken results) default) : query.atMost k ≤ n := by
  by_contra hlt
  have hn : n < query.atMost k := Nat.lt_of_not_le hlt
  have hsame := h (List.replicate (query.atMost k) v)
  rw [List.take_replicate, Nat.min_eq_left (Nat.le_of_lt hn), taken_replicate_atMost] at hsame
  exact Cardinality.select_replicate_ne hk hn (atMost_le query k) hv hsame

/-- A query for the first result or the only one asks for the least number of results of which it makes what it would
make of all the results that it takes. -/
theorem select_take_size {mapping : Mapping} {compiled : CompiledQuery} (h : query.compile mapping = .ok compiled)
    (hcardinality : query.cardinality ≠ .all) :
    let reader := compiled.reader
    ∃ size, compiled.request.size = some size ∧
      (∀ results : List Value, reader.cardinality.select (results.take size) reader.element.zero =
        reader.cardinality.select (query.taken results) reader.element.zero) ∧
      ∀ n, (∀ results : List Value, reader.cardinality.select (results.take n) reader.element.zero =
        reader.cardinality.select (query.taken results) reader.element.zero) → size ≤ n := by
  intro reader
  have hcompiled : compiled.request.size = query.size ∧ reader.cardinality = query.cardinality := by
    obtain ⟨_, -, h⟩ := bind_eq_ok.1 h
    obtain ⟨_, -, h⟩ := bind_eq_ok.1 h
    obtain ⟨_, -, h⟩ := bind_eq_ok.1 h
    cases h
    exact ⟨rfl, rfl⟩
  obtain ⟨k, hk⟩ : ∃ k, query.cardinality.decisive? = some k := by
    cases hall : query.cardinality with
    | all => exact absurd hall hcardinality
    | single _ => exact ⟨2, rfl⟩
    | first _ => exact ⟨1, rfl⟩
  rw [hcompiled.1, hcompiled.2]
  refine ⟨query.atMost k, size_eq hk, ?_, ?_⟩
  · intro results
    rw [take_atMost, Cardinality.select_take hk]
  · intro n hn
    exact atMost_le_of_select_eq hk (reader.element.zero_ne_string "") hn

/-- The only user, of at most ten. -/
theorem select_take_size_user :
    let query : Query := { source := "WebUser", take := some 10, cardinality := .single true }
    let mapping : DocumentMapping := {}
    query.cardinality ≠ .all ∧ ∃ compiled, query.compile mapping.toMapping = .ok compiled ∧
      compiled.request.size = some 2 ∧
      ∀ results : List Value, compiled.reader.cardinality.select (results.take 2) compiled.reader.element.zero =
        compiled.reader.cardinality.select (results.take 10) compiled.reader.element.zero := by
  intro query mapping
  obtain ⟨compiled, hcompile, hsize⟩ : ∃ compiled, query.compile mapping.toMapping = .ok compiled ∧
    compiled.request.size = some 2 := ⟨_, rfl, rfl⟩
  have hcardinality : query.cardinality ≠ .all := nofun
  obtain ⟨size, hrequest, hselect, -⟩ := select_take_size hcompile hcardinality
  rw [hsize] at hrequest
  cases hrequest
  exact ⟨hcardinality, compiled, hcompile, hsize, hselect⟩

end Query

end DocumentSearch
