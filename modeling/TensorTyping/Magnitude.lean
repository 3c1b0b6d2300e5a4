/-!
# Magnitudes

Sizes are counted in fixed widths. A magnitude is a natural number that fits its width, or the
record that some earlier step left that range. Once invalid it stays invalid, so a whole expression
is written with ordinary operators and inspected once, at its end.

* `Width` — the widths in which magnitudes are held.
* `Magnitude w` — a magnitude of width `w`, or invalid.
* `Magnitude.product`, `Magnitude.sum` — folds over a list of dimensions.
* `Magnitude.value_add_eq_some`, … — when an operation has a valid result, and which one.
-/

namespace TensorTyping

/-- The widths in which magnitudes are held. -/
inductive Width where
  /-- One dimension of a tensor. -/
  | dimension
  /-- A number of elements or bytes. -/
  | count
  /-- A place in a list. -/
  | index
  deriving DecidableEq

/-- The least number that does not fit the width. -/
def Width.limit : Width → Nat
  | .dimension => UInt32.size
  | .count => UInt64.size
  | .index => UInt64.size

/-- A natural number that fits the width `w`, or nothing when an earlier step left its range. -/
@[ext]
structure Magnitude (w : Width) where
  value : Option Nat
  fits : ∀ n, value = some n → n < w.limit
  deriving DecidableEq

namespace Magnitude

variable {w : Width}

/-- The magnitude of a computation that left its range. -/
def invalid : Magnitude w :=
  ⟨none, fun _ h => nomatch h⟩

/-- The magnitude `n`, invalid when it does not fit. -/
def ofNat (n : Nat) : Magnitude w :=
  if h : n < w.limit then ⟨some n, fun _ e => Option.some.inj e ▸ h⟩ else invalid

/-- A dimension as a magnitude of its own width. -/
def ofDim (d : UInt32) : Magnitude .dimension :=
  ⟨some d.toNat, fun _ e => Option.some.inj e ▸ d.toNat_lt⟩

instance {n : Nat} : OfNat (Magnitude w) n where
  ofNat := .ofNat n

/-- Whether the magnitude has a value. -/
def isValid (a : Magnitude w) : Bool :=
  a.value.isSome

/-- Combines two valid magnitudes by `f`; the result is valid when `f` has an answer that fits. -/
def combine (f : Nat → Nat → Option Nat) (a b : Magnitude w) : Magnitude w :=
  match a.value, b.value with
  | some m, some n =>
    match f m n with
    | some r => ofNat r
    | none => invalid
  | _, _ => invalid

instance : Add (Magnitude w) where
  add := combine fun m n => some (m + n)

/-- A difference exists only when it is not negative. -/
instance : Sub (Magnitude w) where
  sub := combine fun m n => if n ≤ m then some (m - n) else none

instance : Mul (Magnitude w) where
  mul := combine fun m n => some (m * n)

/-- A quotient is rounded down and exists only for a divisor other than zero. -/
instance : Div (Magnitude w) where
  div := combine fun m n => if n = 0 then none else some (m / n)

/-- The quotient rounded up: one more than the quotient rounded down when a remainder is left. -/
def divCeil (a b : Magnitude w) : Magnitude w :=
  let quotient := a / b
  let remainder := a - quotient * b
  match remainder.value with
  | some 0 => quotient
  | some _ => quotient + 1
  | none => invalid

/-- The same number in another width, invalid when it does not fit there. -/
def cast (v : Width) (a : Magnitude w) : Magnitude v :=
  match a.value with
  | some n => ofNat n
  | none => invalid

/-! ## Values of results -/

@[simp] theorem value_invalid : (invalid : Magnitude w).value = none := rfl

@[simp] theorem value_ofDim (d : UInt32) : (ofDim d).value = some d.toNat := rfl

theorem value_ofNat (n : Nat) :
    (ofNat n : Magnitude w).value = if n < w.limit then some n else none := by
  unfold ofNat
  split <;> rfl

/-- A combination is valid when both sides are and the answer of `f` fits. -/
theorem value_combine_eq_some {f : Nat → Nat → Option Nat} {a b : Magnitude w} {r : Nat} :
    (combine f a b).value = some r ↔
      ∃ m n, a.value = some m ∧ b.value = some n ∧ f m n = some r ∧ r < w.limit := by
  cases ha : a.value with
  | none => simp [combine, ha]
  | some m =>
    cases hb : b.value with
    | none => simp [combine, ha, hb]
    | some n =>
      cases hf : f m n with
      | none => simp [combine, ha, hb, hf]
      | some k =>
        simp only [combine, ha, hb, hf, value_ofNat, Option.some.injEq]
        constructor
        · intro h
          split at h
          · next hk => exact ⟨m, n, rfl, rfl, Option.some.inj h ▸ ⟨hf, hk⟩⟩
          · exact nomatch h
        · rintro ⟨m', n', rfl, rfl, hr, hlt⟩
          have hkr : k = r := Option.some.inj (hf.symm.trans hr)
          rw [hkr, if_pos hlt]

theorem value_add_eq_some {a b : Magnitude w} {r : Nat} :
    (a + b).value = some r ↔
      ∃ m n, a.value = some m ∧ b.value = some n ∧ m + n = r ∧ r < w.limit := by
  refine value_combine_eq_some.trans ?_
  simp

theorem value_sub_eq_some {a b : Magnitude w} {r : Nat} :
    (a - b).value = some r ↔
      ∃ m n, a.value = some m ∧ b.value = some n ∧ n ≤ m ∧ m - n = r := by
  refine value_combine_eq_some.trans ⟨?_, ?_⟩
  · rintro ⟨m, n, ha, hb, hf, -⟩
    split at hf
    · next h => exact ⟨m, n, ha, hb, h, Option.some.inj hf⟩
    · exact nomatch hf
  · rintro ⟨m, n, ha, hb, h, rfl⟩
    have := a.fits m ha
    exact ⟨m, n, ha, hb, if_pos h, by omega⟩

theorem value_mul_eq_some {a b : Magnitude w} {r : Nat} :
    (a * b).value = some r ↔
      ∃ m n, a.value = some m ∧ b.value = some n ∧ m * n = r ∧ r < w.limit := by
  refine value_combine_eq_some.trans ?_
  simp

theorem value_div_eq_some {a b : Magnitude w} {r : Nat} :
    (a / b).value = some r ↔
      ∃ m n, a.value = some m ∧ b.value = some n ∧ n ≠ 0 ∧ m / n = r := by
  refine value_combine_eq_some.trans ⟨?_, ?_⟩
  · rintro ⟨m, n, ha, hb, hf, -⟩
    split at hf
    · exact nomatch hf
    · next h => exact ⟨m, n, ha, hb, h, Option.some.inj hf⟩
  · rintro ⟨m, n, ha, hb, h, rfl⟩
    have := a.fits m ha
    exact ⟨m, n, ha, hb, if_neg h, Nat.lt_of_le_of_lt (Nat.div_le_self m n) this⟩

/-! ## Folds -/

/-- The product of the dimensions as a count. The product of none is 1. -/
def product (dims : List UInt32) : Magnitude .count :=
  dims.foldl (fun acc d => acc * ofNat d.toNat) 1

/-- The sum of the dimensions as a dimension. -/
def sum (dims : List UInt32) : Magnitude .dimension :=
  dims.foldl (fun acc d => acc + ofDim d) 0

end Magnitude

end TensorTyping
