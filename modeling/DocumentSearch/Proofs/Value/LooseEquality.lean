import DocumentSearch.Proofs.Members
import DocumentSearch.Proofs.Value.Compare
import DocumentSearch.Proofs.Value.Rounding

/-!
# Loose equality as a relation

Values that are the same are so in either order (`same_symm`) and along a chain (`same_trans`), and a value without
floats is the same as itself (`same_refl`). Loose equality does not depend on the order either (`looselyEqual_symm`),
but a chain through a float may lead from one large integer to another. It leads on where the value in the middle is
sharp (`looselyEqual_trans`), that is, where its floats are the rounded form of one integer at most. Integers below 2^53
are rounded to such floats (`sharp_ofInt`).
-/

namespace DocumentSearch.Value

/-! ### Sameness -/

private theorem sameMembers_iff {as bs : List (String × Value)} :
    sameMembers as bs = true ↔ ∀ m ∈ as, ∃ b, Members.get? bs m.1 = some b ∧ same m.2 b = true := by
  induction as with
  | nil => simp [sameMembers]
  | cons m rest ih =>
    obtain ⟨name, a⟩ := m
    rw [sameMembers, Bool.and_eq_true, ih, List.forall_mem_cons]
    refine and_congr_left fun _ => ?_
    cases Members.get? bs name <;> simp

mutual

theorem same_trans : ∀ {a b c : Value}, same a b = true → same b c = true → same a c = true
  | null, b, c, hab, hbc => by cases b <;> cases hab; exact hbc
  | bool _, b, c, hab, hbc | int32 _, b, c, hab, hbc | int64 _, b, c, hab, hbc | string _, b, c, hab, hbc
  | dateTime _, b, c, hab, hbc => by
    cases b <;> simp only [same, beq_iff_eq, Bool.false_eq_true] at hab
    rw [hab]
    exact hbc
  | float x, b, c, hab, hbc => by
    cases b <;> simp only [same, Bool.false_eq_true] at hab
    cases c <;> simp only [same, Bool.false_eq_true] at hbc ⊢
    exact Rounding.beq_trans hab hbc
  | array as, b, c, hab, hbc => by
    cases b <;> simp only [same, Bool.false_eq_true] at hab
    cases c <;> simp only [same, Bool.false_eq_true] at hbc ⊢
    exact sameItems_trans hab hbc
  | object as, b, c, hab, hbc => by
    cases b <;> simp only [same, Bool.false_eq_true, Bool.and_eq_true, beq_iff_eq] at hab
    cases c <;> simp only [same, Bool.false_eq_true, Bool.and_eq_true, beq_iff_eq] at hbc ⊢
    exact ⟨hab.1.trans hbc.1, sameMembers_trans hab.2 hbc.2⟩

private theorem sameItems_trans : ∀ {as bs cs : List Value}, sameItems as bs = true → sameItems bs cs = true →
    sameItems as cs = true
  | [], bs, cs, hab, hbc => by cases bs <;> cases hab; exact hbc
  | a :: as, [], cs, hab, hbc => by cases hab
  | a :: as, b :: bs, [], hab, hbc => by cases hbc
  | a :: as, b :: bs, c :: cs, hab, hbc => by
    rw [sameItems, Bool.and_eq_true] at hab hbc ⊢
    exact ⟨same_trans hab.1 hbc.1, sameItems_trans hab.2 hbc.2⟩

private theorem sameMembers_trans : ∀ {as bs cs : List (String × Value)}, sameMembers as bs = true →
    sameMembers bs cs = true → sameMembers as cs = true
  | [], _, _, _, _ => by rw [sameMembers]
  | (name, a) :: rest, bs, cs, hab, hbc => by
    obtain ⟨⟨b, hb, hsame⟩, hrest⟩ := List.forall_mem_cons.1 (sameMembers_iff.1 hab)
    obtain ⟨c, hc, hsame'⟩ := sameMembers_iff.1 hbc _ (Members.mem_of_get? hb)
    rw [sameMembers, hc, Bool.and_eq_true]
    exact ⟨same_trans hsame hsame', sameMembers_trans (sameMembers_iff.2 hrest) hbc⟩

end

/-- Where one of two objects of one size has all names of the other, the other has all of its names. -/
private theorem sameMembers_symm {as bs : List (String × Value)} (hdistinct : Members.Distinct as)
    (hlength : as.length = bs.length)
    (h : ∀ m ∈ as, ∃ b, Members.get? bs m.1 = some b ∧ same b m.2 = true) : sameMembers bs as = true := by
  have hsubset : Members.names as ⊆ Members.names bs := by
    intro name hname
    obtain ⟨m, hm, rfl⟩ := List.mem_map.1 hname
    obtain ⟨b, hb, -⟩ := h m hm
    exact List.mem_map.2 ⟨_, Members.mem_of_get? hb, rfl⟩
  have hperm : (Members.names as).Perm (Members.names bs) := by
    refine (hdistinct.subperm hsubset).perm_of_length_le ?_
    rw [Members.names, Members.names, List.length_map, List.length_map, hlength]
  rw [sameMembers_iff]
  rintro ⟨name, b⟩ hm
  obtain ⟨⟨name', a⟩, ha, rfl⟩ := List.mem_map.1 (hperm.mem_iff.2 (List.mem_map_of_mem hm))
  obtain ⟨b', hb', hsame⟩ := h _ ha
  have hb : Members.get? bs name' = some b := Members.get?_of_mem (hperm.nodup_iff.1 hdistinct) hm
  rw [hb] at hb'
  cases hb'
  exact ⟨a, Members.get?_of_mem hdistinct ha, hsame⟩

mutual

theorem same_symm : ∀ {a b : Value}, a.Distinct → same a b = true → same b a = true
  | null, b, _, hab => by cases b <;> cases hab; rfl
  | bool _, b, _, hab | int32 _, b, _, hab | int64 _, b, _, hab | string _, b, _, hab | dateTime _, b, _, hab => by
    cases b <;> simp only [same, beq_iff_eq, Bool.false_eq_true] at hab ⊢
    exact hab.symm
  | float x, b, _, hab => by
    cases b <;> simp only [same, Bool.false_eq_true] at hab ⊢
    exact Rounding.beq_comm hab
  | array as, b, hdistinct, hab => by
    cases b <;> simp only [same, Bool.false_eq_true] at hab ⊢
    exact sameItems_symm hdistinct hab
  | object as, b, hdistinct, hab => by
    cases b <;> simp only [same, Bool.false_eq_true, Bool.and_eq_true, beq_iff_eq] at hab ⊢
    exact ⟨hab.1.symm, sameMembers_symm hdistinct.1 hab.1 (exists_same_of_sameMembers hdistinct.2 hab.2)⟩

private theorem sameItems_symm : ∀ {as bs : List Value}, DistinctItems as → sameItems as bs = true →
    sameItems bs as = true
  | [], bs, _, hab => by cases bs <;> cases hab; rfl
  | a :: as, [], _, hab => by cases hab
  | a :: as, b :: bs, hdistinct, hab => by
    rw [sameItems, Bool.and_eq_true] at hab ⊢
    exact ⟨same_symm hdistinct.1 hab.1, sameItems_symm hdistinct.2 hab.2⟩

private theorem exists_same_of_sameMembers : ∀ {as bs : List (String × Value)}, DistinctMembers as →
    sameMembers as bs = true → ∀ m ∈ as, ∃ b, Members.get? bs m.1 = some b ∧ same b m.2 = true
  | [], _, _, _ => by simp
  | (name, a) :: rest, bs, hdistinct, hab => by
    obtain ⟨⟨b, hb, hsame⟩, hrest⟩ := List.forall_mem_cons.1 (sameMembers_iff.1 hab)
    rw [List.forall_mem_cons]
    exact ⟨⟨b, hb, same_symm hdistinct.1 hsame⟩,
      exists_same_of_sameMembers hdistinct.2 (sameMembers_iff.2 hrest)⟩

end

/-- Objects with the same members in any order are the same, if each member is the same as itself. -/
private theorem sameMembers_of_perm {as bs : List (String × Value)} (hdistinct : Members.Distinct bs)
    (hperm : as.Perm bs) (hself : ∀ m ∈ as, same m.2 m.2 = true) : sameMembers as bs = true := by
  rw [sameMembers_iff]
  intro m hm
  have hget : Members.get? bs m.1 = some m.2 := Members.get?_of_mem hdistinct (hperm.mem_iff.1 hm)
  exact ⟨m.2, hget, hself m hm⟩

mutual

/-- A value is the same as itself unless it holds a float, which may be not a number. -/
theorem same_refl : ∀ {v : Value}, v.isFloatFree = true → v.Distinct → same v v = true
  | null, _, _ => rfl
  | bool _, _, _ | int32 _, _, _ | int64 _, _, _ | string _, _, _ | dateTime _, _, _ => by
    rw [same]
    exact beq_self_eq_true _
  | float _, hfree, _ => by cases hfree
  | array _, hfree, hdistinct => sameItems_refl hfree hdistinct
  | object members, hfree, hdistinct => by
    have hmembers := sameMembers_of_perm hdistinct.1 (.refl members) (same_of_mem hfree hdistinct.2)
    rw [same, hmembers, beq_self_eq_true, Bool.and_true]

private theorem sameItems_refl : ∀ {items : List Value}, itemsAreFloatFree items = true → DistinctItems items →
    sameItems items items = true
  | [], _, _ => rfl
  | v :: rest, hfree, hdistinct => by
    rw [itemsAreFloatFree, Bool.and_eq_true] at hfree
    rw [sameItems, same_refl hfree.1 hdistinct.1, sameItems_refl hfree.2 hdistinct.2, Bool.and_true]

private theorem same_of_mem : ∀ {members : List (String × Value)}, membersAreFloatFree members = true →
    DistinctMembers members → ∀ m ∈ members, same m.2 m.2 = true
  | [], _, _ => by simp
  | (name, v) :: rest, hfree, hdistinct => by
    rw [membersAreFloatFree, Bool.and_eq_true] at hfree
    rw [List.forall_mem_cons]
    exact ⟨same_refl hfree.1 hdistinct.1, same_of_mem hfree.2 hdistinct.2⟩

end

/-- The order of the members of an object makes no difference. -/
theorem same_of_perm {as bs : List (String × Value)} (hfree : (object as).isFloatFree = true)
    (hdistinct : (object as).Distinct) (hperm : as.Perm bs) : same (object as) (object bs) = true := by
  have hnames : (Members.names as).Perm (Members.names bs) := hperm.map Prod.fst
  have hmembers := sameMembers_of_perm (hnames.nodup_iff.1 hdistinct.1) hperm (same_of_mem hfree hdistinct.2)
  rw [same, hmembers, hperm.length_eq, beq_self_eq_true, Bool.and_true]

/-! ### Loose equality by kind -/

private theorem number?_of_integer? {v : Value} {n : Int64} (h : v.integer? = some n) :
    v.number? = some (Float.ofInt n.toInt) := by
  cases v <;> simp only [integer?, Option.some.injEq, reduceCtorEq] at h
  · rw [← h, number?, Int32.toInt_toInt64]
  · rw [← h, number?]

private theorem number?_eq_some {v : Value} {y : Float} (h : v.number? = some y) :
    (∃ n, v.integer? = some n ∧ Float.ofInt n.toInt = y) ∨ v = float y := by
  cases v with
  | int32 n => exact .inl ⟨n.toInt64, rfl, by rw [Int32.toInt_toInt64]; exact Option.some.inj h⟩
  | int64 n => exact .inl ⟨n, rfl, Option.some.inj h⟩
  | float x => rw [Option.some.inj h]; exact .inr rfl
  | null | bool | string | dateTime | array | object => cases h

/-- An integer is loosely equal to the same integer in either width and to the floats that it is rounded to. -/
private theorem integer_looselyEqual {a b : Value} {n : Int64} (ha : a.integer? = some n) :
    a.looselyEqual b = true ↔ b.integer? = some n ∨ ∃ y, b = float y ∧ (Float.ofInt n.toInt == y) = true := by
  have hscalars : a.looselyEqual b = looselyEqualScalars a b := by
    cases a <;> first | rfl | cases ha
  rw [hscalars, looselyEqualScalars, ha, number?_of_integer? ha]
  cases b with
  | int32 m | int64 m =>
    simp only [integer?, beq_iff_eq, Option.some.injEq, reduceCtorEq, false_and, exists_false, or_false]
    exact eq_comm
  | float y => simp [integer?, number?]
  | null | bool | string | dateTime | array | object =>
    cases a <;> cases ha <;> simp [integer?, number?, beq_eq_same, same]

private theorem float_looselyEqual {x : Float} {b : Value} :
    (float x).looselyEqual b = true ↔ ∃ y, b.number? = some y ∧ (x == y) = true := by
  cases b <;> simp [looselyEqual, looselyEqualScalars, integer?, number?, beq_eq_same, same]

private theorem array_looselyEqual {items : List Value} {b : Value} :
    (array items).looselyEqual b = true ↔ ∃ items', b = array items' ∧ looselyEqualItems items items' = true := by
  cases b <;> simp [looselyEqual, looselyEqualScalars, integer?, number?, beq_eq_same, same]

/-- Any other value is loosely equal to the same value alone. -/
private theorem looselyEqual_iff_same {a b : Value} (hnumber : a.number? = none) (hitems : a.items? = none) :
    a.looselyEqual b = true ↔ same a b = true := by
  cases a with
  | int32 | int64 | float => cases hnumber
  | array => cases hitems
  | null | bool | string | dateTime | object => exact Iff.rfl

/-- What is compared by sameness alone has its like only among such values. -/
private theorem number?_eq_none_of_same {a b : Value} (hnumber : a.number? = none) (hitems : a.items? = none)
    (h : same a b = true) : b.number? = none ∧ b.items? = none := by
  cases a <;> cases hnumber <;> cases hitems <;> cases b <;> first | exact ⟨rfl, rfl⟩ | cases h

/-- A value is an integer, a float, an array, or it is compared by sameness alone. -/
private theorem kind_cases (v : Value) : (∃ n, v.integer? = some n) ∨ (∃ x, v = float x) ∨
    (∃ items, v = array items) ∨ (v.number? = none ∧ v.items? = none) := by
  cases v <;> simp [integer?, number?, items?]

/-! ### Sharp values -/

mutual

/-- No two integers are rounded to one float of the value. This is asked of the items of an array too, which are
compared as numbers, and not of the members of an object, which are not. -/
def Sharp : Value → Prop
  | float x => ∀ m n : Int64, (Float.ofInt m.toInt == x) = true → (Float.ofInt n.toInt == x) = true → m = n
  | array items => SharpItems items
  | null | bool _ | int32 _ | int64 _ | string _ | dateTime _ | object _ => True

/-- `Sharp` for each item. -/
def SharpItems : List Value → Prop
  | [] => True
  | v :: rest => Sharp v ∧ SharpItems rest

end

mutual

theorem sharp_of_isFloatFree : ∀ {v : Value}, v.isFloatFree = true → v.Sharp
  | float _, h => by cases h
  | array _, h => sharpItems_of_areFloatFree h
  | null, _ | bool _, _ | int32 _, _ | int64 _, _ | string _, _ | dateTime _, _ | object _, _ => trivial

private theorem sharpItems_of_areFloatFree : ∀ {items : List Value}, itemsAreFloatFree items = true →
    SharpItems items
  | [], _ => trivial
  | v :: rest, h => by
    rw [itemsAreFloatFree, Bool.and_eq_true] at h
    exact ⟨sharp_of_isFloatFree h.1, sharpItems_of_areFloatFree h.2⟩

end

private theorem natAbs_toInt_lt (n : Int64) : n.toInt.natAbs < 2 ^ 64 := by
  have := n.toInt_lt
  have := n.le_toInt
  omega

/-- A float that is an integer below 2^53 in magnitude is sharp. -/
theorem sharp_ofInt {k : Int} {x : Float} (hk : k.natAbs < 2 ^ 53) (h : (Float.ofInt k == x) = true) :
    (float x).Sharp := by
  intro m n hm hn
  have heq : ∀ n : Int64, (Float.ofInt n.toInt == x) = true → k = n.toInt := fun n hn =>
    Rounding.eq_of_ofInt_beq hk (natAbs_toInt_lt n) (Rounding.beq_trans h (Rounding.beq_comm hn))
  exact Int64.toInt_inj.1 ((heq m hm).symm.trans (heq n hn))

/-! ### Loose equality as a relation -/

theorem looselyEqualItems_iff {as bs : List Value} :
    looselyEqualItems as bs = true ↔ List.Forall₂ (fun a b => a.looselyEqual b = true) as bs := by
  induction as generalizing bs with
  | nil => cases bs <;> simp [looselyEqualItems]
  | cons a as ih => cases bs <;> simp [looselyEqualItems, ih]

mutual

/-- A value without floats is loosely equal to itself. -/
theorem looselyEqual_refl {v : Value} (hfree : v.isFloatFree = true) (hdistinct : v.Distinct) :
    v.looselyEqual v = true := by
  rcases kind_cases v with ⟨n, hn⟩ | ⟨x, rfl⟩ | ⟨items, rfl⟩ | ⟨hnumber, hitems⟩
  · exact (integer_looselyEqual hn).2 (.inl hn)
  · cases hfree
  · exact looselyEqualItems_refl hfree hdistinct
  · exact (looselyEqual_iff_same hnumber hitems).2 (same_refl hfree hdistinct)

private theorem looselyEqualItems_refl : ∀ {items : List Value}, itemsAreFloatFree items = true →
    DistinctItems items → looselyEqualItems items items = true
  | [], _, _ => rfl
  | v :: rest, hfree, hdistinct => by
    rw [itemsAreFloatFree, Bool.and_eq_true] at hfree
    rw [looselyEqualItems, looselyEqual_refl hfree.1 hdistinct.1, looselyEqualItems_refl hfree.2 hdistinct.2,
      Bool.and_true]

end

mutual

/-- Loose equality does not depend on the order. -/
theorem looselyEqual_symm {a b : Value} (ha : a.Distinct) (hab : a.looselyEqual b = true) :
    b.looselyEqual a = true := by
  rcases kind_cases a with ⟨n, hn⟩ | ⟨x, rfl⟩ | ⟨as, rfl⟩ | ⟨hnumber, hitems⟩
  · rcases (integer_looselyEqual hn).1 hab with hb | ⟨y, rfl, hy⟩
    · exact (integer_looselyEqual hb).2 (.inl hn)
    · exact float_looselyEqual.2 ⟨_, number?_of_integer? hn, Rounding.beq_comm hy⟩
  · obtain ⟨y, hy, hxy⟩ := float_looselyEqual.1 hab
    rcases number?_eq_some hy with ⟨n, hn, rfl⟩ | rfl
    · exact (integer_looselyEqual hn).2 (.inr ⟨x, rfl, Rounding.beq_comm hxy⟩)
    · exact float_looselyEqual.2 ⟨x, rfl, Rounding.beq_comm hxy⟩
  · obtain ⟨bs, rfl, hbs⟩ := array_looselyEqual.1 hab
    exact looselyEqualItems_symm ha hbs
  · have hsame := (looselyEqual_iff_same hnumber hitems).1 hab
    obtain ⟨hnumber', hitems'⟩ := number?_eq_none_of_same hnumber hitems hsame
    exact (looselyEqual_iff_same hnumber' hitems').2 (same_symm ha hsame)

private theorem looselyEqualItems_symm : ∀ {as bs : List Value}, DistinctItems as →
    looselyEqualItems as bs = true → looselyEqualItems bs as = true
  | [], bs, _, hab => by cases bs <;> cases hab; rfl
  | a :: as, [], _, hab => by cases hab
  | a :: as, b :: bs, hdistinct, hab => by
    rw [looselyEqualItems, Bool.and_eq_true] at hab ⊢
    exact ⟨looselyEqual_symm hdistinct.1 hab.1, looselyEqualItems_symm hdistinct.2 hab.2⟩

end

mutual

/-- Loose equality leads from a value to another one by way of a sharp one. -/
theorem looselyEqual_trans {a b c : Value} (hb : b.Sharp) (hab : a.looselyEqual b = true)
    (hbc : b.looselyEqual c = true) : a.looselyEqual c = true := by
  rcases kind_cases a with ⟨n, hn⟩ | ⟨x, rfl⟩ | ⟨as, rfl⟩ | ⟨hnumber, hitems⟩
  · rcases (integer_looselyEqual hn).1 hab with hbn | ⟨y, rfl, hny⟩
    · exact (integer_looselyEqual hn).2 ((integer_looselyEqual hbn).1 hbc)
    · obtain ⟨z, hz, hyz⟩ := float_looselyEqual.1 hbc
      rcases number?_eq_some hz with ⟨m, hm, rfl⟩ | rfl
      · -- two integers meet in a float, and so they are one
        rw [hb n m hny (Rounding.beq_comm hyz)] at hn
        exact (integer_looselyEqual hn).2 (.inl hm)
      · exact (integer_looselyEqual hn).2 (.inr ⟨z, rfl, Rounding.beq_trans hny hyz⟩)
  · obtain ⟨y, hy, hxy⟩ := float_looselyEqual.1 hab
    refine float_looselyEqual.2 ?_
    rcases number?_eq_some hy with ⟨n, hn, rfl⟩ | rfl
    · rcases (integer_looselyEqual hn).1 hbc with hc | ⟨z, rfl, hz⟩
      · exact ⟨_, number?_of_integer? hc, hxy⟩
      · exact ⟨z, rfl, Rounding.beq_trans hxy hz⟩
    · obtain ⟨z, hz, hyz⟩ := float_looselyEqual.1 hbc
      exact ⟨z, hz, Rounding.beq_trans hxy hyz⟩
  · obtain ⟨bs, rfl, habs⟩ := array_looselyEqual.1 hab
    obtain ⟨cs, rfl, hbcs⟩ := array_looselyEqual.1 hbc
    exact looselyEqualItems_trans hb habs hbcs
  · have hsame := (looselyEqual_iff_same hnumber hitems).1 hab
    obtain ⟨hnumber', hitems'⟩ := number?_eq_none_of_same hnumber hitems hsame
    exact (looselyEqual_iff_same hnumber hitems).2
      (same_trans hsame ((looselyEqual_iff_same hnumber' hitems').1 hbc))

private theorem looselyEqualItems_trans : ∀ {as bs cs : List Value}, SharpItems bs →
    looselyEqualItems as bs = true → looselyEqualItems bs cs = true → looselyEqualItems as cs = true
  | [], bs, cs, _, hab, hbc => by cases bs <;> cases hab; exact hbc
  | a :: as, [], cs, _, hab, hbc => by cases hab
  | a :: as, b :: bs, [], _, hab, hbc => by cases hbc
  | a :: as, b :: bs, c :: cs, hsharp, hab, hbc => by
    rw [looselyEqualItems, Bool.and_eq_true] at hab hbc ⊢
    exact ⟨looselyEqual_trans hsharp.1 hab.1 hbc.1, looselyEqualItems_trans hsharp.2 hab.2 hbc.2⟩

end

end DocumentSearch.Value
