import Mathlib
import DocumentSearch.Text.Case

/-!
# Texts in lower case

Putting a text in lower case twice is putting it in lower case once (`lower_lower`): a letter that another one is put
to stays as it is.

In the tables this is a matter of runs. A run leads to the run of its lower-case letters (`CaseRun.landing`), which lies
apart from all runs of letters that have one, or takes turns with them (`CaseRun.isApart`).
-/

namespace DocumentSearch.Text

namespace CaseRun

/-- The code point is one of the run. -/
def has (r : CaseRun) (n : Nat) : Bool := r.first ≤ n && n ≤ r.last && (n - r.first) % r.step == 0

/-- The code point that one of the run is mapped to. -/
def target (r : CaseRun) (n : Nat) : Nat := ((n : Int) + r.shift).toNat

/-- The code points that those of the run are mapped to. -/
def landing (r : CaseRun) : CaseRun := ⟨r.target r.first, r.target r.last, r.step, 0⟩

/-- All code points of the run are even, or all are odd. -/
def isSparse (r : CaseRun) : Bool := r.step == 2 || r.first == r.last

/-- Two runs of which one ends before the other one begins, or of which one is even and the other one odd. -/
def isApart (r r' : CaseRun) : Bool :=
  r.last.blt r'.first || r'.last.blt r.first || (r.isSparse && r'.isSparse && r.first % 2 != r'.first % 2)

/-- The run is mapped to code points of characters. -/
def landsInside (r : CaseRun) : Bool :=
  0 ≤ (r.first : Int) + r.shift && (r.landing.last < 0xD800 || 0xE000 ≤ r.landing.first && r.landing.last < 0x110000)

variable {r r' : CaseRun} {n : Nat}

private theorem has_iff : r.has n = true ↔ r.first ≤ n ∧ n ≤ r.last ∧ (n - r.first) % r.step = 0 := by
  simp only [has, Bool.and_eq_true, decide_eq_true_eq, beq_iff_eq, and_assoc]

private theorem mod_two_of_isSparse (hsparse : r.isSparse = true) (h : r.has n = true) : n % 2 = r.first % 2 := by
  obtain ⟨hfirst, hlast, hstep⟩ := has_iff.1 h
  simp only [isSparse, Bool.or_eq_true, beq_iff_eq] at hsparse
  rcases hsparse with htwo | hone
  · rw [htwo] at hstep
    omega
  · omega

/-- No code point is in two runs that are apart. -/
private theorem has_eq_false_of_isApart (hapart : r.isApart r' = true) (h : r.has n = true) : r'.has n = false := by
  rw [Bool.eq_false_iff]
  intro h'
  obtain ⟨hfirst, hlast, -⟩ := has_iff.1 h
  obtain ⟨hfirst', hlast', -⟩ := has_iff.1 h'
  simp only [isApart, Bool.or_eq_true, Bool.and_eq_true, Nat.blt_eq, bne_iff_ne, ne_eq] at hapart
  rcases hapart with (hbefore | hafter) | ⟨⟨hsparse, hsparse'⟩, hparity⟩
  · omega
  · omega
  · have hmod := mod_two_of_isSparse hsparse h
    have hmod' := mod_two_of_isSparse hsparse' h'
    omega

/-- The code points of a run are mapped to characters of the run that it leads to. -/
private theorem landing_has_target (hinside : r.landsInside = true) (h : r.has n = true) :
    r.landing.has (r.target n) = true ∧ (r.target n).isValidChar := by
  obtain ⟨hfirst, hlast, hstep⟩ := has_iff.1 h
  simp only [landsInside, Bool.and_eq_true, Bool.or_eq_true, decide_eq_true_eq] at hinside
  simp only [landing, target] at hinside
  have hdistance : r.target n - r.target r.first = n - r.first := by
    unfold target
    omega
  constructor
  · rw [has_iff]
    refine ⟨?_, ?_, ?_⟩
    · show r.target r.first ≤ r.target n
      unfold target
      omega
    · show r.target n ≤ r.target r.last
      unfold target
      omega
    · show (r.target n - r.target r.first) % r.step = 0
      rw [hdistance, hstep]
  · unfold Nat.isValidChar target
    omega

end CaseRun

/-! ### Letters in lower case -/

/-- The capital letters of ASCII. -/
private def asciiCapitals : CaseRun := ⟨0x41, 0x5A, 1, 32⟩

/-- The capital letter that has two characters in lower case. -/
private def dottedCapital : CaseRun := ⟨0x130, 0x130, 1, 0⟩

/-- All letters that have another form in lower case. -/
private def capitals : List CaseRun := asciiCapitals :: dottedCapital :: lowerRuns

/-- The character has no other form in lower case. -/
private def IsLower (c : Char) : Prop := ∀ r ∈ capitals, r.has c.toNat = false

/-- What a letter is mapped to has no other form in lower case. -/
private theorem isApart_landing {r r' : CaseRun} (h : r ∈ lowerRuns) (h' : r' ∈ capitals) :
    r.landing.isApart r' = true := by
  -- mapped first, so that each landing is computed once and not for every other run
  have hall : ((lowerRuns.map CaseRun.landing).all fun l => capitals.all l.isApart) = true := by decide +kernel
  rw [List.all_map] at hall
  exact List.all_eq_true.1 (List.all_eq_true.1 hall r h) r' h'

private theorem landsInside_of_mem {r : CaseRun} (h : r ∈ lowerRuns) : r.landsInside = true := by
  have hall : lowerRuns.all CaseRun.landsInside = true := by decide +kernel
  exact List.all_eq_true.1 hall r h

private theorem mapped?_eq_some {c d : Char} (h : mapped? lowerRuns c = some d) :
    ∃ r ∈ lowerRuns, r.has c.toNat = true ∧ d = Char.ofNat (r.target c.toNat) := by
  obtain ⟨r, hfind, rfl⟩ := Option.map_eq_some_iff.1 h
  have hhas := List.find?_some hfind
  exact ⟨r, List.mem_of_find?_eq_some hfind, hhas, rfl⟩

private theorem mapped?_eq_none_iff {c : Char} :
    mapped? lowerRuns c = none ↔ ∀ r ∈ lowerRuns, r.has c.toNat = false := by
  unfold mapped?
  rw [Option.map_eq_none_iff, List.find?_eq_none]
  simp only [Bool.not_eq_true]
  rfl

private theorem isLower_of_mapped? {c d : Char} (h : mapped? lowerRuns c = some d) : IsLower d := by
  obtain ⟨r, hr, hhas, rfl⟩ := mapped?_eq_some h
  obtain ⟨hlands, hvalid⟩ := CaseRun.landing_has_target (landsInside_of_mem hr) hhas
  intro r' hr'
  rw [Char.toNat_ofNat, if_pos hvalid]
  exact CaseRun.has_eq_false_of_isApart (isApart_landing hr hr') hlands

private theorem isUpper_iff {c : Char} : c.isUpper = true ↔ 0x41 ≤ c.toNat ∧ c.toNat ≤ 0x5A := by
  simp only [Char.isUpper, decide_eq_true_eq]
  rfl

/-- The characters that all branches of `lowerChar` leave as they are. -/
private theorem isLower_iff {c : Char} :
    IsLower c ↔ c.isUpper = false ∧ c.toNat ≠ 0x130 ∧ mapped? lowerRuns c = none := by
  have hascii : asciiCapitals.has c.toNat = true ↔ c.isUpper = true := by
    rw [CaseRun.has_iff, isUpper_iff]
    exact ⟨fun ⟨hfirst, hlast, _⟩ => ⟨hfirst, hlast⟩, fun ⟨hfirst, hlast⟩ => ⟨hfirst, hlast, Nat.mod_one _⟩⟩
  have hdotted : dottedCapital.has c.toNat = true ↔ c.toNat = 0x130 := by
    rw [CaseRun.has_iff]
    exact ⟨fun ⟨hfirst, hlast, _⟩ => Nat.le_antisymm hlast hfirst, fun h => by rw [h]; decide⟩
  unfold IsLower capitals
  rw [List.forall_mem_cons, List.forall_mem_cons, mapped?_eq_none_iff, ← Bool.not_eq_true, ← Bool.not_eq_true, hascii,
    hdotted, Bool.not_eq_true]

/-- The characters of ASCII that are no capital letters have no other form. -/
private theorem isLower_of_isUpper_eq_false {c : Char} (hascii : c.toNat < 0x80) (hupper : c.isUpper = false) :
    IsLower c := by
  have hbeyond : ∀ r ∈ lowerRuns, 0x80 ≤ r.first := by decide +kernel
  refine isLower_iff.2 ⟨hupper, by omega, mapped?_eq_none_iff.2 ?_⟩
  intro r hr
  rw [Bool.eq_false_iff]
  intro hhas
  obtain ⟨hfirst, -, -⟩ := CaseRun.has_iff.1 hhas
  have := hbeyond r hr
  omega

private theorem isLower_toLower {c : Char} (h : c.toNat < 0x80) : IsLower c.toLower := by
  refine isLower_of_isUpper_eq_false ?_ (Char.isUpper_toLower_eq_false c)
  by_cases hupper : c.isUpper = true
  · obtain ⟨hfirst, hlast⟩ := isUpper_iff.1 hupper
    rw [Char.toLower_eq_of_isUpper hupper, Char.toNat_ofNat, if_pos (by unfold Nat.isValidChar; omega)]
    omega
  · rw [Char.toLower_eq_of_not_isUpper hupper]
    exact h

/-- The letters that stand in no table: those of the dotted capital and the two small sigmas. -/
private theorem isLower_of_mem_letters {c : Char} (h : c ∈ ['i', Char.ofNat 0x307, 'ς', 'σ']) : IsLower c := by
  have hall : (['i', Char.ofNat 0x307, 'ς', 'σ'].all fun c => capitals.all fun r => !r.has c.toNat) = true := by
    decide +kernel
  intro r hr
  have hhas := List.all_eq_true.1 (List.all_eq_true.1 hall c h) r hr
  rwa [Bool.not_eq_true'] at hhas

/-- Every character that a letter is put to stays as it is. -/
private theorem isLower_of_mem_lowerChar {c d : Char} (h : d ∈ lowerChar c) : IsLower d := by
  unfold lowerChar at h
  by_cases hascii : c.toNat < 0x80
  · rw [if_pos hascii, List.mem_singleton] at h
    rw [h]
    exact isLower_toLower hascii
  by_cases hdotted : c.toNat = 0x130
  · rw [if_neg hascii, if_pos hdotted] at h
    exact isLower_of_mem_letters (List.mem_append_left ['ς', 'σ'] h)
  rw [if_neg hascii, if_neg hdotted, List.mem_singleton] at h
  rw [h]
  cases hmapped : mapped? lowerRuns c with
  | some d => exact isLower_of_mapped? hmapped
  | none =>
    have hupper : ¬c.isUpper = true := fun hupper => by
      have := isUpper_iff.1 hupper
      omega
    exact isLower_iff.2 ⟨Bool.eq_false_iff.2 hupper, hdotted, hmapped⟩

private theorem lowerChar_of_isLower {c : Char} (h : IsLower c) : lowerChar c = [c] := by
  obtain ⟨hupper, hdotted, hmapped⟩ := isLower_iff.1 h
  unfold lowerChar
  rw [if_neg hdotted, hmapped, Char.toLower_eq_of_not_isUpper (Bool.eq_false_iff.1 hupper)]
  exact ite_self [c]

/-- A capital sigma has another form in lower case, wherever it stands. -/
private theorem ne_sigma_of_isLower {c : Char} (h : IsLower c) : c ≠ 'Σ' := by
  have hhas : (capitals.any fun r => r.has 'Σ'.toNat) = true := by decide +kernel
  rintro rfl
  obtain ⟨r, hr, hsigma⟩ := List.any_eq_true.1 hhas
  rw [h r hr] at hsigma
  contradiction

/-! ### Texts in lower case -/

/-- What stands before a letter matters to a capital sigma only, and there is none. -/
private theorem lowerFrom_of_isLower {cs : List Char} (h : ∀ c ∈ cs, IsLower c) (before : List Char) :
    lowerFrom before cs = cs := by
  induction cs generalizing before with
  | nil => rfl
  | cons c rest ih =>
    have hc := h c (List.mem_cons_self ..)
    have hrest := ih (fun d hd => h d (List.mem_cons_of_mem _ hd)) (c :: before)
    unfold lowerFrom
    rw [if_neg (ne_sigma_of_isLower hc), lowerChar_of_isLower hc, hrest]
    rfl

private theorem isLower_of_mem_lowerFrom {before cs : List Char} {d : Char} (h : d ∈ lowerFrom before cs) :
    IsLower d := by
  induction cs generalizing before with
  | nil => contradiction
  | cons c rest ih =>
    unfold lowerFrom at h
    rcases List.mem_append.1 h with hfirst | hrest
    · by_cases hsigma : c = 'Σ'
      · rw [if_pos hsigma, List.mem_singleton] at hfirst
        rw [hfirst]
        unfold lowerSigma
        split <;> exact isLower_of_mem_letters (by decide)
      · rw [if_neg hsigma] at hfirst
        exact isLower_of_mem_lowerChar hfirst
    · exact ih hrest

/-- A text in lower case stays as it is. -/
theorem lower_lower (s : String) : lower (lower s) = lower s := by
  unfold lower
  rw [String.toList_ofList, lowerFrom_of_isLower fun _ => isLower_of_mem_lowerFrom]

end DocumentSearch.Text
