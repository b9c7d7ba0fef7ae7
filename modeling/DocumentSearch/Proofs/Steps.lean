import Mathlib.Data.List.Forall2
import DocumentSearch.Members

/-!
# Computations that may fail

When a sequence of steps succeeds, and which error it ends with otherwise. Two computations are compared by `Agree`.
-/

namespace DocumentSearch

variable {ε ε' α β γ δ : Type}

theorem bind_eq_ok {x : Except ε α} {f : α → Except ε β} {b : β} :
    (x >>= f) = .ok b ↔ ∃ a, x = .ok a ∧ f a = .ok b := by
  cases x <;> simp [bind, Except.bind]

theorem bind_eq_error {x : Except ε α} {f : α → Except ε β} {e : ε} :
    (x >>= f) = .error e ↔ x = .error e ∨ ∃ a, x = .ok a ∧ f a = .error e := by
  cases x <;> simp [bind, Except.bind]

theorem bind_pure_eq_error {x : Except ε α} {f : α → β} {e : ε} :
    (x >>= fun a => pure (f a)) = .error e ↔ x = .error e := by
  cases x <;> simp [bind, Except.bind, pure, Except.pure]

theorem throw_ne_ok {e : ε} {a : α} : (throw e : Except ε α) ≠ .ok a := by
  simp [throw, throwThe, MonadExceptOf.throw]

theorem map_eq_ok {x : Except ε α} {f : α → β} {b : β} : x.map f = .ok b ↔ ∃ a, x = .ok a ∧ f a = b := by
  cases x <;> simp [Except.map]

theorem mapError_eq_ok {x : Except ε α} {f : ε → ε'} {a : α} : x.mapError f = .ok a ↔ x = .ok a := by
  cases x with
  | ok b =>
    constructor <;>
    · intro h
      cases h
      rfl
  | error e => exact ⟨nofun, nofun⟩

/-- Steps that all succeed: each result is that of a step, and each step has its result. -/
theorem mem_of_mapM_eq_ok {f : α → Except ε β} {xs : List α} {ys : List β} (h : xs.mapM f = .ok ys) :
    (∀ y ∈ ys, ∃ x ∈ xs, f x = .ok y) ∧ ∀ x ∈ xs, ∃ y ∈ ys, f x = .ok y := by
  induction xs generalizing ys with
  | nil =>
    cases h
    simp
  | cons x xs ih =>
    rw [List.mapM_cons] at h
    obtain ⟨y, hy, h⟩ := bind_eq_ok.1 h
    obtain ⟨ys', hys, h⟩ := bind_eq_ok.1 h
    cases h
    obtain ⟨hfrom, hto⟩ := ih hys
    constructor
    · rintro z (_ | ⟨_, hz⟩)
      · exact ⟨x, .head _, hy⟩
      · obtain ⟨w, hw, hwz⟩ := hfrom z hz
        exact ⟨w, .tail _ hw, hwz⟩
    · rintro w (_ | ⟨_, hw⟩)
      · exact ⟨y, .head _, hy⟩
      · obtain ⟨z, hz, hwz⟩ := hto w hw
        exact ⟨z, .tail _ hz, hwz⟩

theorem forall_mem_iff_of_mapM_eq_ok {f : α → Except ε β} {xs : List α} {ys : List β} (h : xs.mapM f = .ok ys)
    {p : β → Prop} : (∀ y ∈ ys, p y) ↔ ∀ x ∈ xs, ∃ y, f x = .ok y ∧ p y := by
  obtain ⟨hfrom, hto⟩ := mem_of_mapM_eq_ok h
  constructor
  · intro hp x hx
    obtain ⟨y, hy, hxy⟩ := hto x hx
    exact ⟨y, hxy, hp y hy⟩
  · intro hp y hy
    obtain ⟨x, hx, hxy⟩ := hfrom y hy
    obtain ⟨y', hxy', hpy⟩ := hp x hx
    cases hxy.symm.trans hxy'
    exact hpy

/-- The error of a computation that fails. -/
def error? : Except ε α → Option ε
  | .ok _ => none
  | .error e => some e

theorem error?_eq_none {x : Except ε α} : error? x = none ↔ ∃ a, x = .ok a := by
  cases x <;> simp [error?]

theorem error?_eq_some {x : Except ε α} {e : ε} : error? x = some e ↔ x = .error e := by
  cases x <;> simp [error?]

theorem error?_bind {x : Except ε α} {f : α → Except ε β} {o : Option ε} (h : ∀ a, error? (f a) = o) :
    error? (x >>= f) = (error? x).or o := by
  cases x with
  | ok a => simpa [bind, Except.bind, error?] using h a
  | error e => rfl

theorem error?_bind_pure {x : Except ε α} {f : α → β} : error? (x >>= fun a => pure (f a)) = error? x := by
  cases x <;> rfl

theorem exists_mapM_eq_ok {f : α → Except ε β} {xs : List α} (h : ∀ x ∈ xs, ∃ y, f x = .ok y) :
    ∃ ys, xs.mapM f = .ok ys := by
  induction xs with
  | nil => exact ⟨[], rfl⟩
  | cons x xs ih =>
    obtain ⟨y, hy⟩ := h x (.head _)
    obtain ⟨ys, hys⟩ := ih fun z hz => h z (.tail _ hz)
    rw [List.mapM_cons, hy, hys]
    exact ⟨y :: ys, rfl⟩

/-- Steps of which some are refused with one error, where the others succeed in any case. -/
theorem mapM_eq_ite_error {f g : α → Except ε β} {p : α → Bool} {e : ε} {xs : List α}
    (hf : ∀ x ∈ xs, f x = if p x then .error e else g x) (hg : xs.any p = true → ∀ x ∈ xs, ∃ y, g x = .ok y) :
    xs.mapM f = if xs.any p then .error e else xs.mapM g := by
  induction xs with
  | nil => rfl
  | cons x xs ih =>
    have htail := ih (fun z hz => hf z (.tail _ hz))
      fun h z hz => hg (by rw [List.any_cons, h, Bool.or_true]) z (.tail _ hz)
    rw [List.mapM_cons, hf x (.head _), htail, List.any_cons]
    cases hx : p x with
    | true => rfl
    | false =>
      cases hxs : xs.any p with
      | true =>
        -- an error that comes later is not hidden by another one
        obtain ⟨y, hy⟩ := hg (by rw [List.any_cons, hxs, Bool.or_true]) x (.head _)
        rw [if_neg Bool.false_ne_true, hy]
        rfl
      | false => rw [List.mapM_cons]; rfl

theorem mapM_eq_of_forall₂ {f : α → Except ε γ} {g : β → Except ε γ} {xs : List α} {ys : List β}
    (h : List.Forall₂ (fun x y => f x = g y) xs ys) : xs.mapM f = ys.mapM g := by
  induction h with
  | nil => rfl
  | cons hxy _ ih => rw [List.mapM_cons, List.mapM_cons, hxy, ih]

/-! ### Two computations -/

/-- Both computations fail with the same error, or both succeed with results of which `R` holds. -/
def Agree (R : α → β → Prop) : Except ε α → Except ε β → Prop
  | .ok a, .ok b => R a b
  | .error e, .error e' => e = e'
  | .ok _, .error _ | .error _, .ok _ => False

namespace Agree

variable {R : α → β → Prop} {S : γ → δ → Prop}

theorem refl {R : α → α → Prop} (h : ∀ a, R a a) (x : Except ε α) : Agree R x x := by
  cases x with
  | ok a => exact h a
  | error e => exact rfl

theorem pure {a : α} {b : β} (h : R a b) : Agree R (Pure.pure a : Except ε α) (Pure.pure b : Except ε β) := h

theorem bind {x : Except ε α} {y : Except ε β} {f : α → Except ε γ} {g : β → Except ε δ} (h : Agree R x y)
    (hfg : ∀ a b, R a b → Agree S (f a) (g b)) : Agree S (x >>= f) (y >>= g) := by
  match x, y, h with
  | .ok a, .ok b, h => exact hfg a b h
  | .error _, .error _, h => exact h

end Agree

end DocumentSearch
