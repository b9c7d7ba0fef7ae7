import DocumentSearch.Members

/-!
# Entries by name

What is found under a name: the first entry with it (`get?_cons`), after one has been set (`get?_put`), and any entry
where no two share their name (`get?_of_mem`).

Whatever entries are given one after the other, no two of those that are kept share their name (`distinct_ofList`).
-/

namespace DocumentSearch.Members

variable {α : Type}

theorem get?_cons (key name : String) (x : α) (members : Members α) :
    get? ((key, x) :: members) name = if name = key then some x else members.get? name := by
  rw [get?, List.lookup_cons]
  by_cases h : name = key
  · simp [h]
  · have hne : (name == key) = false := beq_false_of_ne h
    simp [hne, h, get?]

theorem get?_put (members : Members α) (key name : String) (x : α) :
    (members.put key x).get? name = if name = key then some x else members.get? name := by
  induction members with
  | nil => exact get?_cons key name x []
  | cons m rest ih =>
    obtain ⟨key', y⟩ := m
    rw [put]
    by_cases hkey : key' = key
    · subst hkey
      rw [if_pos rfl, get?_cons, get?_cons]
      by_cases hname : name = key' <;> simp [hname]
    · rw [if_neg hkey, get?_cons, get?_cons, ih]
      by_cases hname : name = key'
      · simp [hname, hkey]
      · simp [hname]

theorem mem_of_get? {members : Members α} {name : String} {x : α} (h : members.get? name = some x) :
    (name, x) ∈ members := by
  obtain ⟨before, after, rfl, -⟩ := List.lookup_eq_some_iff.1 h
  simp

theorem get?_of_mem {members : Members α} (hdistinct : members.Distinct) {name : String} {x : α}
    (h : (name, x) ∈ members) : members.get? name = some x := by
  induction members with
  | nil => cases h
  | cons m rest ih =>
    obtain ⟨name', y⟩ := m
    rw [Distinct, names, List.map_cons, List.nodup_cons] at hdistinct
    rw [get?_cons]
    rcases List.mem_cons.1 h with heq | h
    · cases heq
      rw [if_pos rfl]
    · have hne : name ≠ name' := fun heq => hdistinct.1 (heq ▸ List.mem_map.2 ⟨_, h, rfl⟩)
      rw [if_neg hne]
      exact ih hdistinct.2 h

theorem sizeOf_lt_of_mem_values [SizeOf α] {members : Members α} {x : α} (h : x ∈ members.map Prod.snd) :
    sizeOf x < sizeOf members := by
  obtain ⟨⟨name, y⟩, hmem, rfl⟩ := List.mem_map.1 h
  have hlt := List.sizeOf_lt_of_mem hmem
  rw [Prod.mk.sizeOf_spec] at hlt
  change sizeOf y < sizeOf members
  omega

/-! ### Entries one after the other -/

theorem eq_or_mem_of_mem_put {members : Members α} {name : String} {x : α} {m : String × α}
    (h : m ∈ members.put name x) : m = (name, x) ∨ m ∈ members := by
  induction members with
  | nil => exact .inl (List.mem_singleton.1 h)
  | cons m' rest ih =>
    obtain ⟨name', y⟩ := m'
    rw [put] at h
    split at h
    · rename_i hname
      rcases List.mem_cons.1 h with rfl | h
      · exact .inl (by rw [hname])
      · exact .inr (.tail _ h)
    · rcases List.mem_cons.1 h with rfl | h
      · exact .inr (.head _)
      · rcases ih h with h | h
        · exact .inl h
        · exact .inr (.tail _ h)

theorem distinct_put {members : Members α} (h : members.Distinct) (name : String) (x : α) :
    (members.put name x).Distinct := by
  induction members with
  | nil => simp [put, Distinct, names]
  | cons m rest ih =>
    obtain ⟨name', y⟩ := m
    rw [Distinct, names, List.map_cons, List.nodup_cons] at h
    rw [put]
    split
    · exact List.nodup_cons.2 h
    · rename_i hne
      refine List.nodup_cons.2 ⟨?_, ih h.2⟩
      intro hmem
      obtain ⟨m, hm, hname⟩ := List.mem_map.1 hmem
      rcases eq_or_mem_of_mem_put hm with rfl | hm
      · exact hne hname.symm
      · exact h.1 (List.mem_map.2 ⟨m, hm, hname⟩)

/-- Entries that are put one after the other all come from what there was and what was put. -/
theorem mem_of_mem_foldl_put {members entries : Members α} {m : String × α}
    (h : m ∈ entries.foldl (fun members e => members.put e.1 e.2) members) : m ∈ members ∨ m ∈ entries := by
  induction entries generalizing members with
  | nil => exact .inl h
  | cons e rest ih =>
    rcases ih h with h | h
    · rcases eq_or_mem_of_mem_put h with rfl | h
      · exact .inr (.head _)
      · exact .inl h
    · exact .inr (.tail _ h)

theorem distinct_foldl_put {members : Members α} (h : members.Distinct) (entries : List (String × α)) :
    (entries.foldl (fun members e => members.put e.1 e.2) members).Distinct := by
  induction entries generalizing members with
  | nil => exact h
  | cons e rest ih => exact ih (distinct_put h e.1 e.2)

theorem mem_of_mem_ofList {entries : List (String × α)} {m : String × α} (h : m ∈ ofList entries) :
    m ∈ entries := by
  rcases mem_of_mem_foldl_put h with h | h
  · cases h
  · exact h

theorem distinct_ofList (entries : List (String × α)) : (ofList entries).Distinct := by
  have hnil : Distinct ([] : Members α) := List.nodup_nil
  exact distinct_foldl_put hnil entries

end DocumentSearch.Members
