import Mathlib
import TensorTyping.Proofs.Faultless

/-!
# Inferences that end the same way

Two requests may mean the same and still meet the rules in another order, or with other shapes on
the way, so that the causes of their rejections differ in what they tell. What can be asked of them
is that both succeed, with values that correspond, or that both are rejected in one category.

* `Infer.Agrees` — two inferences that end the same way, with rules for sequences.
* `Infer.Agrees.of_eq_ok_iff` — it suffices to compare values when there is only one category.
-/

namespace TensorTyping

namespace Infer

variable {α β γ : Type} {R : β → γ → Prop}

/-- Both inferences have values, which are related, or both are rejected, for causes of one
category. An inference that faults agrees with none. -/
inductive Agrees (R : β → γ → Prop) : Infer β → Infer γ → Prop where
  | ok {b : β} {c : γ} (h : R b c) : Agrees R (.ok b) (.ok c)
  | rejected {cause cause' : Cause} (h : cause.category = cause'.category) :
    Agrees R (.error (.rejected cause)) (.error (.rejected cause'))

namespace Agrees

/-- Two sequences with a common first step agree when the rests do. A guard on the first sequence
becomes one on its rest. -/
theorem bind_common {G : Infer β → Prop} {x : Infer α} {f : α → Infer β} {g : α → Infer γ}
    (hx : Faultless x) (h : ∀ a, x = .ok a → G (f a) → Agrees R (f a) (g a)) (hG : G (x >>= f)) :
    Agrees R (x >>= f) (x >>= g) := by
  cases x with
  | ok a => exact h a rfl hG
  | error failure =>
    cases failure with
    | rejected cause => exact .rejected rfl
    | fault fault => exact absurd rfl (hx fault)

theorem refl {x : Infer α} (hx : Faultless x) : Agrees Eq x x := by
  cases x with
  | ok a => exact .ok rfl
  | error failure =>
    cases failure with
    | rejected cause => exact .rejected rfl
    | fault fault => exact absurd rfl (hx fault)

/-- Two wordings of a rule agree when they ask for the same and tell of one category. -/
theorem require {p q : Prop} [Decidable p] [Decidable q] {cause cause' : Cause} (hpq : p ↔ q)
    (h : cause.category = cause'.category) :
    Agrees Eq (TensorTyping.require p cause) (TensorTyping.require q cause') := by
  unfold TensorTyping.require
  by_cases hp : p
  · rw [if_pos hp, if_pos (hpq.mp hp)]
    exact .ok rfl
  · rw [if_neg hp, if_neg (hp ∘ hpq.mpr)]
    exact .rejected h

/-- Two sequences agree when their first steps do and then the rests, on the value of both. -/
theorem bind_of_ok {x y : Infer α} {f : α → Infer β} {g : α → Infer γ} (hxy : Agrees Eq x y)
    (h : ∀ a, x = .ok a → Agrees R (f a) (g a)) : Agrees R (x >>= f) (y >>= g) := by
  cases hxy with
  | @ok a b hab =>
    subst hab
    exact h a rfl
  | rejected hcategory => exact .rejected hcategory

/-- Two sequences agree when their first steps do and then the rests. -/
theorem bind {x y : Infer α} {f : α → Infer β} {g : α → Infer γ} (hxy : Agrees Eq x y)
    (h : ∀ a, Agrees R (f a) (g a)) : Agrees R (x >>= f) (y >>= g) :=
  bind_of_ok hxy fun a _ => h a

/-- Inferences that are rejected in one category only agree when they have the same values. -/
theorem of_eq_ok_iff {category : Category} {x y : Infer α} (hx : RejectsAs category x)
    (hy : RejectsAs category y) (h : ∀ a, x = .ok a ↔ y = .ok a) : Agrees Eq x y := by
  cases x with
  | ok a =>
    rw [(h a).mp rfl]
    exact .ok rfl
  | error failure =>
    cases y with
    | ok b => cases (h b).mpr rfl
    | error failure' =>
      obtain ⟨cause, rfl, hcause⟩ := hx failure rfl
      obtain ⟨cause', rfl, hcause'⟩ := hy failure' rfl
      exact .rejected (hcause.trans hcause'.symm)

end Agrees

end Infer

end TensorTyping
