/-!
# Named entries

Objects keep their members in the order in which the names were first given. Giving a name again replaces the entry
where it stands.
-/

namespace DocumentSearch

/-- Entries by name, in order. -/
abbrev Members (α : Type) := List (String × α)

namespace Members

variable {α β : Type}

/-- The entry of a name. -/
def get? (members : Members α) (name : String) : Option α := members.lookup name

/-- The names in order. -/
def names (members : Members α) : List String := members.map Prod.fst

/-- Sets the entry of a name: in its place if there is one, and at the end if not. -/
def put : Members α → String → α → Members α
  | [], name, x => [(name, x)]
  | (name', y) :: rest, name, x => if name' = name then (name', x) :: rest else (name', y) :: put rest name x

/-- Entries given one after the other. -/
def ofList (entries : List (String × α)) : Members α := entries.foldl (fun members e => put members e.1 e.2) []

/-- No name has two entries. -/
def Distinct (members : Members α) : Prop := (names members).Nodup

instance (members : Members α) : Decidable members.Distinct :=
  inferInstanceAs (Decidable (names members).Nodup)

end Members

end DocumentSearch
