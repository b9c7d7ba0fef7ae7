import Mathlib.Data.List.Infix
import DocumentSearch.Expr.Eval
import DocumentSearch.Mapping.Document
import DocumentSearch.Proofs.Criteria.Predicate

/-!
# Patterns made from texts

A test whether a string begins with a text, ends with it or holds it becomes a pattern. `PatternKind.accepts` reads
patterns as engines do: a wildcard pattern and a regular expression are lists of parts, each of which stands for one
character or for any string, and they accept what their parts stand for one after the other.

An escaped text has one literal part for each of its characters, whatever these are and whatever follows
(`PatternPart.ofRegexp_escapeAll_append`). So the pattern accepts exactly the strings that pass the test
(`accepts_of_ofPredicate`).
-/

namespace DocumentSearch

/-! ### The language of patterns -/

/-- A part of a pattern. -/
inductive PatternPart where
  /-- This character. -/
  | literal (c : Char)
  /-- Any one character. -/
  | anyChar
  /-- Any string. -/
  | anyString
  /-- A character with another meaning, which may depend on all that stands around it. -/
  | operator (c : Char)
deriving DecidableEq, Repr

namespace PatternPart

/-- The part has a meaning that is not its own. -/
def isOperator : PatternPart → Bool
  | operator _ => true
  | _ => false

/-- The parts of a wildcard pattern. A backslash makes the next character literal. -/
def ofWildcard : List Char → List PatternPart
  | '\\' :: c :: rest => literal c :: ofWildcard rest
  | '*' :: rest => anyString :: ofWildcard rest
  | '?' :: rest => anyChar :: ofWildcard rest
  | c :: rest => literal c :: ofWildcard rest
  | [] => []

/-- The characters that a regular expression of the engine gives another meaning. -/
def regexpOperators : List Char :=
  ['.', '?', '+', '*', '|', '\x7b', '\x7d', '[', ']', '(', ')', '"', '\\', '#', '@', '&', '<', '>', '~']

/-- The parts of a regular expression. A backslash makes the next character literal, and a point with a star is any
string. -/
def ofRegexp : List Char → List PatternPart
  | '\\' :: c :: rest => literal c :: ofRegexp rest
  | '.' :: '*' :: rest => anyString :: ofRegexp rest
  | c :: rest => (if regexpOperators.contains c then operator c else literal c) :: ofRegexp rest
  | [] => []

/-- The characters are what the parts stand for one after the other. For any string, all lengths are tried. -/
def acceptAll : List PatternPart → List Char → Bool
  | [], t => t.isEmpty
  | literal c :: rest, t => t.head? == some c && acceptAll rest t.tail
  | anyChar :: rest, t => !t.isEmpty && acceptAll rest t.tail
  | anyString :: rest, t => t.tails.any (acceptAll rest)
  | operator _ :: _, _ => false

end PatternPart

/-- An engine that looks for a pattern accepts a string. What it takes an expression with operators to mean is left
open. -/
def PatternKind.accepts (operators : String → String → Bool) (kind : PatternKind) (pattern t : String) : Bool :=
  match kind with
  | .leading => pattern.toList.isPrefixOf t.toList
  | .wildcard => PatternPart.acceptAll (PatternPart.ofWildcard pattern.toList) t.toList
  | .regexp =>
    if (PatternPart.ofRegexp pattern.toList).any PatternPart.isOperator then
      operators pattern t
    else
      PatternPart.acceptAll (PatternPart.ofRegexp pattern.toList) t.toList

/-! ### Texts that stand for themselves -/

/-- `Text.escape` of the characters of a text. -/
def Text.escapeAll (reserved : List Char) : List Char → List Char
  | [] => []
  | c :: rest => if reserved.contains c then '\\' :: c :: escapeAll reserved rest else c :: escapeAll reserved rest

private theorem Text.toList_escape (reserved : List Char) (s : String) :
    (Text.escape reserved s).toList = escapeAll reserved s.toList := by
  rw [escape, String.toList_ofList]
  induction s.toList with
  | nil => rfl
  | cons c rest ih =>
    rw [List.flatMap_cons, escapeAll, ih]
    split <;> rfl

namespace PatternPart

variable {s t : List Char} {parts : List PatternPart}

/-- In a wildcard pattern an escaped text is the list of its characters. -/
private theorem ofWildcard_escapeAll (s : List Char) :
    ofWildcard (Text.escapeAll Text.wildcardReserved s) = s.map literal := by
  induction s with
  | nil => rfl
  | cons c s ih =>
    rw [Text.escapeAll, List.map_cons]
    split
    · rw [ofWildcard, ih]
    · rename_i hc
      -- no reserved character gets into the pattern by itself
      have hne (d : Char) (hd : Text.wildcardReserved.contains d = true) : c ≠ d := fun h => hc (h ▸ hd)
      rw [ofWildcard, ih]
      · exact fun _ _ h => absurd h (hne _ rfl)
      · exact hne _ rfl
      · exact hne _ rfl

/-- No operator is left as it is. -/
private theorem contains_regexpReserved {c : Char} (h : regexpOperators.contains c = true) :
    Text.regexpReserved.contains c = true := by
  have hsubset : regexpOperators ⊆ Text.regexpReserved := by decide
  rw [List.contains_iff_mem] at h ⊢
  exact hsubset h

/-- In a regular expression an escaped text is the list of its characters, whatever follows. -/
private theorem ofRegexp_escapeAll_append (s after : List Char) :
    ofRegexp (Text.escapeAll Text.regexpReserved s ++ after) = s.map literal ++ ofRegexp after := by
  induction s with
  | nil => rfl
  | cons c s ih =>
    rw [Text.escapeAll, List.map_cons, List.cons_append]
    split
    · rw [List.cons_append, List.cons_append, ofRegexp, ih]
    · rename_i hc
      have hne (d : Char) (hd : Text.regexpReserved.contains d = true) : c ≠ d := fun h => hc (h ▸ hd)
      have hplain : ¬ regexpOperators.contains c = true := fun h => hc (contains_regexpReserved h)
      rw [List.cons_append, ofRegexp, if_neg hplain, ih]
      · exact fun _ _ h => absurd h (hne _ rfl)
      · exact fun _ h => absurd h (hne _ rfl)

/-! ### Strings that parts stand for -/

/-- Literal parts take their characters from the string, the others take the rest. -/
private theorem acceptAll_literals_append :
    acceptAll (s.map literal ++ parts) t = true ↔ ∃ rest, t = s ++ rest ∧ acceptAll parts rest = true := by
  induction s generalizing t with
  | nil => simp
  | cons c s ih =>
    rw [List.map_cons, List.cons_append, acceptAll, Bool.and_eq_true, ih, beq_iff_eq]
    constructor
    · rintro ⟨hhead, rest, htail, hrest⟩
      refine ⟨rest, ?_, hrest⟩
      rw [List.cons_append, ← htail]
      exact (List.cons_head?_tail hhead).symm
    · rintro ⟨rest, rfl, hrest⟩
      exact ⟨rfl, rest, rfl, hrest⟩

private theorem acceptAll_anyString :
    acceptAll (anyString :: parts) t = true ↔ ∃ before rest, t = before ++ rest ∧ acceptAll parts rest = true := by
  rw [acceptAll, List.any_eq_true]
  constructor
  · rintro ⟨rest, hrest, h⟩
    obtain ⟨before, rfl⟩ := (List.mem_tails _ _).1 hrest
    exact ⟨before, rest, rfl, h⟩
  · rintro ⟨before, rest, rfl, h⟩
    exact ⟨rest, (List.mem_tails _ _).2 (List.suffix_append _ _), h⟩

/-- A text behind any string: the string ends with it. -/
private theorem acceptAll_ending : acceptAll (anyString :: s.map literal) t = true ↔ s <:+ t := by
  have hliterals {t : List Char} : acceptAll (s.map literal) t = true ↔ t = s := by
    rw [← List.append_nil (s.map literal), acceptAll_literals_append]
    constructor
    · rintro ⟨rest, rfl, hrest⟩
      rw [List.isEmpty_iff.1 hrest, List.append_nil]
    · intro h
      exact ⟨[], by rw [h, List.append_nil], rfl⟩
  rw [acceptAll_anyString]
  constructor
  · rintro ⟨before, rest, rfl, hrest⟩
    rw [hliterals.1 hrest]
    exact List.suffix_append _ _
  · rintro ⟨before, rfl⟩
    exact ⟨before, s, rfl, hliterals.2 rfl⟩

/-- A text between any strings: the string holds it. -/
private theorem acceptAll_holding : acceptAll (anyString :: (s.map literal ++ [anyString])) t = true ↔ s <:+: t := by
  have hrest (t : List Char) : acceptAll [anyString] t = true :=
    acceptAll_anyString.2 ⟨t, [], (List.append_nil t).symm, rfl⟩
  rw [acceptAll_anyString]
  constructor
  · rintro ⟨before, rest, rfl, h⟩
    obtain ⟨after, rfl, -⟩ := acceptAll_literals_append.1 h
    exact ⟨before, after, List.append_assoc _ _ _⟩
  · rintro ⟨before, after, rfl⟩
    exact ⟨before, s ++ after, List.append_assoc _ _ _, acceptAll_literals_append.2 ⟨after, rfl, hrest after⟩⟩

end PatternPart

/-! ### Tests as patterns -/

private theorem Text.occursIn_iff {needle t : List Char} : occursIn needle t = true ↔ needle <:+: t := by
  induction t with
  | nil => rw [occursIn, List.isEmpty_iff, List.infix_nil]
  | cons c t ih => rw [occursIn, Bool.or_eq_true, List.isPrefixOf_iff_prefix, ih, List.infix_cons_iff]

namespace PatternKind

variable (operators : String → String → Bool)

theorem accepts_leading (s t : String) : leading.accepts operators s t = Text.startsWith t s := rfl

theorem accepts_wildcard_ending (s t : String) :
    wildcard.accepts operators ("*" ++ Text.escape Text.wildcardReserved s) t = Text.endsWith t s := by
  have hparts : PatternPart.ofWildcard ("*" ++ Text.escape Text.wildcardReserved s).toList =
      .anyString :: s.toList.map .literal := by
    rw [String.toList_append, Text.toList_escape]
    exact congrArg _ (PatternPart.ofWildcard_escapeAll s.toList)
  rw [Bool.eq_iff_iff, accepts, hparts, PatternPart.acceptAll_ending, Text.endsWith, List.isSuffixOf_iff_suffix]

theorem accepts_regexp_holding (s t : String) :
    regexp.accepts operators (".*" ++ Text.escape Text.regexpReserved s ++ ".*") t = Text.contains t s := by
  have hparts : PatternPart.ofRegexp (".*" ++ Text.escape Text.regexpReserved s ++ ".*").toList =
      .anyString :: (s.toList.map .literal ++ [.anyString]) := by
    rw [String.toList_append, String.toList_append, Text.toList_escape, List.append_assoc]
    exact congrArg _ (PatternPart.ofRegexp_escapeAll_append s.toList _)
  have hplain : (PatternPart.anyString :: (s.toList.map .literal ++ [.anyString])).any PatternPart.isOperator =
      false := by
    simp [PatternPart.isOperator]
  rw [Bool.eq_iff_iff, accepts, hparts, hplain, if_neg Bool.false_ne_true, PatternPart.acceptAll_holding,
    Text.contains, Text.occursIn_iff]

end PatternKind

namespace Criteria

/-- The tests of strings that become patterns, with the kinds of these. -/
def textTests : List (Method × PatternKind) :=
  [(⟨"starts_with", .string⟩, .leading), (⟨"ends_with", .string⟩, .wildcard), (⟨"contains", .string⟩, .regexp)]

variable {mapping : Mapping} {source : String}

/-- A test of a string becomes a pattern that accepts exactly the strings which pass the test, whatever characters the
text consists of. -/
theorem accepts_of_ofPredicate {m : Method} {kind : PatternKind} (hm : (m, kind) ∈ textTests) {x text : Expr}
    {s : String} (hs : text.constant? = some (.string s)) {c : Criteria}
    (h : ofPredicate mapping source (.call x m [text]) = .ok c) :
    ∃ field pattern, mapping.fieldName? source x = some field ∧ c = .pattern kind field pattern ∧
      ∀ operators t,
        Value.invoke m (some (.string t)) [.string s] = .ok (.bool (kind.accepts operators pattern t)) := by
  obtain ⟨cs, hcs, h⟩ := bind_eq_ok.1 h
  cases h
  obtain ⟨c, hc, rfl⟩ := bind_singleton_eq_ok.1 hcs
  simp only [textTests, List.mem_cons, List.not_mem_nil, or_false, Prod.mk.injEq] at hm
  obtain ⟨rfl, rfl⟩ | ⟨rfl, rfl⟩ | ⟨rfl, rfl⟩ := hm
  · obtain ⟨field, s', hfield, hs', -, -, rfl⟩ := ofPattern_cases hc
    cases hs.symm.trans hs'
    refine ⟨field, s, hfield, rfl, fun operators t => ?_⟩
    rw [PatternKind.accepts_leading]
    rfl
  · obtain ⟨field, s', hfield, hs', -, -, rfl⟩ := ofQuoted_cases hc
    cases hs.symm.trans hs'
    refine ⟨field, _, hfield, rfl, fun operators t => ?_⟩
    rw [PatternKind.accepts_wildcard_ending]
    rfl
  · obtain ⟨field, s', hfield, hs', -, -, rfl⟩ := ofQuoted_cases hc
    cases hs.symm.trans hs'
    refine ⟨field, _, hfield, rfl, fun operators t => ?_⟩
    rw [PatternKind.accepts_regexp_holding]
    rfl

/-- A name that holds a text of reserved characters, the last of which is a backslash. -/
theorem accepts_of_ofPredicate_name :
    let name : Expr := .member (.parameter ⟨"w", "WebUser"⟩) ⟨"name", .named "WebUser", .string⟩
    let m : Method := ⟨"contains", .string⟩
    let text : Expr := .constant (.string "a.*\\")
    let mapping : DocumentMapping := { options := .plain }
    (m, PatternKind.regexp) ∈ textTests ∧ text.constant? = some (.string "a.*\\") ∧
      ofPredicate mapping.toMapping.withReserved "WebUser" (.call name m [text]) =
        .ok (.pattern .regexp "name" ".*a\\.\\*\\\\.*") ∧
      ∀ operators t, Value.invoke m (some (.string t)) [.string "a.*\\"] =
        .ok (.bool (PatternKind.regexp.accepts operators ".*a\\.\\*\\\\.*" t)) := by
  intro name m text mapping
  have hm : (m, PatternKind.regexp) ∈ textTests := by decide
  have hs : text.constant? = some (.string "a.*\\") := rfl
  have h : ofPredicate mapping.toMapping.withReserved "WebUser" (.call name m [text]) =
      .ok (.pattern .regexp "name" ".*a\\.\\*\\\\.*") := rfl
  obtain ⟨field, pattern, hfield, hc, hpattern⟩ := accepts_of_ofPredicate hm hs h
  cases hc
  exact ⟨hm, hs, h, hpattern⟩

end Criteria

end DocumentSearch
