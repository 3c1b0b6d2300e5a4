import Mathlib
import TensorTyping.Magnitude.Steps
import TensorTyping.Proofs.Inference
import TensorTyping.Proofs.Magnitude

/-!
# Sequences of steps against exact arithmetic

A magnitude that has left its range stays invalid, so one look at the end of a computation is
enough. What is seen there is exact: the running magnitude is valid as long as the same steps, taken
on natural numbers, stay within the width of each step, and then it is the number that they give.

* `Magnitude.Operation.exact`, `Magnitude.Operation.Defined` — the arithmetic of natural numbers.
* `Magnitude.Operation.value_apply_eq_some` — one operation, against that arithmetic.
* `Magnitude.Steps.Leads` — the first steps of a sequence, carried out on natural numbers.
* `Magnitude.Steps.number?_run` — what a whole run answers, by induction over its steps.
* `Magnitude.Steps.run_exact` — a run is exact as long as it is valid, and never becomes valid
  again.
-/

namespace TensorTyping.Magnitude

/-! ## One operation -/

namespace Operation

variable {w : Width} {a b : Magnitude w} {r : ℕ}

/-- The result for natural numbers, without a limit. -/
def exact : Operation → ℕ → ℕ → ℕ
  | add, m, n => m + n
  | sub, m, n => m - n
  | mul, m, n => m * n
  | div, m, n => m / n
  | divCeil, m, n => m ⌈/⌉ n

/-- The natural numbers that have a result: a difference is not negative, and a divisor is not
zero. -/
def Defined : Operation → ℕ → ℕ → Prop
  | sub, m, n => n ≤ m
  | div, _, n | divCeil, _, n => n ≠ 0
  | add, _, _ | mul, _, _ => True

/-- A result within the width of its sides is found by every operation. -/
theorem value_apply_eq_some {operation : Operation} :
    (operation.apply a b).value = some r ↔
      ∃ m n, a.value = some m ∧ b.value = some n ∧ operation.Defined m n ∧
        operation.exact m n < w.limit ∧ operation.exact m n = r := by
  have hfits : ∀ {c : Magnitude w}, c.value = some r → r < w.limit := fun h => fits _ r h
  cases operation with
  | add =>
    refine value_add_eq_some.trans ⟨?_, ?_⟩
    · rintro ⟨m, n, ha, hb, rfl, hlt⟩
      exact ⟨m, n, ha, hb, trivial, hlt, rfl⟩
    · rintro ⟨m, n, ha, hb, -, hlt, rfl⟩
      exact ⟨m, n, ha, hb, rfl, hlt⟩
  | mul =>
    refine value_mul_eq_some.trans ⟨?_, ?_⟩
    · rintro ⟨m, n, ha, hb, rfl, hlt⟩
      exact ⟨m, n, ha, hb, trivial, hlt, rfl⟩
    · rintro ⟨m, n, ha, hb, -, hlt, rfl⟩
      exact ⟨m, n, ha, hb, rfl, hlt⟩
  -- the other results are no larger than the left side, so they always fit
  | sub =>
    constructor
    · intro h
      obtain ⟨m, n, ha, hb, hle, rfl⟩ := value_sub_eq_some.mp h
      exact ⟨m, n, ha, hb, hle, hfits h, rfl⟩
    · rintro ⟨m, n, ha, hb, hle, -, hr⟩
      exact value_sub_eq_some.mpr ⟨m, n, ha, hb, hle, hr⟩
  | div =>
    constructor
    · intro h
      obtain ⟨m, n, ha, hb, hn, rfl⟩ := value_div_eq_some.mp h
      exact ⟨m, n, ha, hb, hn, hfits h, rfl⟩
    · rintro ⟨m, n, ha, hb, hn, -, hr⟩
      exact value_div_eq_some.mpr ⟨m, n, ha, hb, hn, hr⟩
  | divCeil =>
    constructor
    · intro h
      obtain ⟨m, n, ha, hb, hn, rfl⟩ := value_divCeil_eq_some.mp h
      exact ⟨m, n, ha, hb, hn, hfits h, rfl⟩
    · rintro ⟨m, n, ha, hb, hn, -, hr⟩
      exact value_divCeil_eq_some.mpr ⟨m, n, ha, hb, hn, hr⟩

end Operation

variable {w : Width} {a b : Magnitude w} {r : ℕ}

theorem value_cast_eq_some {v : Width} :
    (a.cast v).value = some r ↔ a.value = some r ∧ r < v.limit := by
  unfold cast
  cases ha : a.value with
  | none => simp
  | some m =>
    dsimp only
    rw [value_ofNat, Option.ite_none_right_eq_some, Option.some.injEq]
    constructor
    · rintro ⟨hlt, rfl⟩
      exact ⟨rfl, hlt⟩
    · rintro ⟨rfl, hlt⟩
      exact ⟨hlt, rfl⟩

/-- A quotient rounded up is invalid for an invalid side or for a divisor of zero only. -/
theorem value_divCeil_eq_none :
    (divCeil a b).value = none ↔ a.value = none ∨ b.value = none ∨ b.value = some 0 := by
  constructor
  · intro h
    by_contra hcon
    obtain ⟨ha, hb, hzero⟩ : a.value ≠ none ∧ b.value ≠ none ∧ b.value ≠ some 0 := by
      refine ⟨fun h => hcon (.inl h), fun h => hcon (.inr (.inl h)), fun h => hcon (.inr (.inr h))⟩
    obtain ⟨m, hm⟩ := Option.ne_none_iff_exists'.mp ha
    obtain ⟨n, hn⟩ := Option.ne_none_iff_exists'.mp hb
    have hne : n ≠ 0 := fun h => hzero (h ▸ hn)
    rw [value_divCeil hm hn hne] at h
    cases h
  · intro h
    rw [Option.eq_none_iff_forall_ne_some]
    intro r hr
    obtain ⟨m, n, ha, hb, hn, -⟩ := value_divCeil_eq_some.mp hr
    rcases h with h | h | h
    · rw [ha] at h
      cases h
    · rw [hb] at h
      cases h
    · rw [hb] at h
      exact hn (Option.some.inj h)

/-! ## Sequences of steps -/

/-- The number that a step answers, if it is valid. -/
def Outcome.number? : Outcome → Option ℕ
  | running _ a => a.value
  | reported value => value.toOption

theorem toOption_orOverflow (name : Overflow) : (a.orOverflow name).toOption = a.value := by
  unfold orOverflow
  cases a.value with
  | none => rfl
  | some n => rfl

namespace Steps

variable {steps : Steps w} {m j k : ℕ}

/-- The number of steps. -/
def length {w : Width} : Steps w → ℕ
  | done => 0
  | apply _ _ rest => rest.length + 1
  | cast _ rest => rest.length + 1
  | report _ rest => rest.length + 1

/-- The width in which the running magnitude is held after the first `k` steps. -/
def widthAfter {w : Width} : Steps w → ℕ → Width
  | _, 0 => w
  | done, _ => w
  | apply _ _ rest, k + 1 => rest.widthAfter k
  | cast _ rest, k + 1 => rest.widthAfter k
  | report _ rest, k + 1 => rest.widthAfter k

/-- Carried out on natural numbers, the first `k` steps lead from `m` to `r`: every right side is
valid, no difference is negative, no divisor is zero, and every result fits the width in which the
step is taken. -/
inductive Leads : {w : Width} → Steps w → ℕ → ℕ → ℕ → Prop where
  | start {w : Width} {steps : Steps w} {m : ℕ} : steps.Leads m 0 m
  | apply {w : Width} {operation : Operation} {rhs : Magnitude w} {rest : Steps w} {m n k r : ℕ}
      (valid : rhs.value = some n) (defined : operation.Defined m n)
      (fits : operation.exact m n < w.limit) (next : rest.Leads (operation.exact m n) k r) :
      (Steps.apply operation rhs rest).Leads m (k + 1) r
  | cast {w target : Width} {rest : Steps target} {m k r : ℕ} (fits : m < target.limit)
      (next : rest.Leads m k r) : (Steps.cast target rest : Steps w).Leads m (k + 1) r
  | report {w : Width} {context : String} {rest : Steps w} {m k r : ℕ}
      (next : rest.Leads m k r) : (Steps.report context rest).Leads m (k + 1) r

/-- What leads through `k` steps leads through any fewer of them. -/
theorem Leads.of_le (h : steps.Leads m k r) (hle : j ≤ k) : ∃ q, steps.Leads m j q := by
  induction h generalizing j with
  | start =>
    obtain rfl := Nat.le_zero.mp hle
    exact ⟨_, .start⟩
  | apply valid defined fits _ ih =>
    cases j with
    | zero => exact ⟨_, .start⟩
    | succ j =>
      obtain ⟨q, hq⟩ := ih (Nat.le_of_succ_le_succ hle)
      exact ⟨q, .apply valid defined fits hq⟩
  | cast fits _ ih =>
    cases j with
    | zero => exact ⟨_, .start⟩
    | succ j =>
      obtain ⟨q, hq⟩ := ih (Nat.le_of_succ_le_succ hle)
      exact ⟨q, .cast fits hq⟩
  | report _ ih =>
    cases j with
    | zero => exact ⟨_, .start⟩
    | succ j =>
      obtain ⟨q, hq⟩ := ih (Nat.le_of_succ_le_succ hle)
      exact ⟨q, .report hq⟩

theorem length_run (a : Magnitude w) (steps : Steps w) : (steps.run a).length = steps.length := by
  induction steps with
  | done => rfl
  | apply operation rhs rest ih => exact congrArg (· + 1) (ih _)
  | cast target rest ih => exact congrArg (· + 1) (ih _)
  | report context rest ih => exact congrArg (· + 1) (ih _)

/-- Each answer is held in the width that the sequence has reached. -/
theorem width_run {a : Magnitude w} {v : Width} {b : Magnitude v}
    (h : (steps.run a)[k]? = some (.running v b)) : v = steps.widthAfter (k + 1) := by
  induction steps generalizing k with
  | done => cases h
  | apply operation rhs rest ih =>
    cases k with
    | zero =>
      cases h
      cases rest <;> rfl
    | succ k => exact ih h
  | cast target rest ih =>
    cases k with
    | zero =>
      cases h
      cases rest <;> rfl
    | succ k => exact ih h
  | report context rest ih =>
    cases k with
    | zero => cases h
    | succ k => exact ih h

/-- The start and the answers of a run, in order, are the numbers to which the first steps lead. -/
theorem number?_run {a : Magnitude w} :
    (a.value :: (steps.run a).map Outcome.number?)[k]? = some (some r) ↔
      ∃ m, a.value = some m ∧ steps.Leads m k r := by
  induction k generalizing w with
  | zero =>
    constructor
    · intro h
      exact ⟨r, Option.some.inj h, .start⟩
    · rintro ⟨m, ha, hleads⟩
      cases hleads
      exact congrArg some ha
  | succ k ih =>
    -- after its first step the run is one of the other steps, from the magnitude that it gave
    cases steps with
    | done =>
      constructor
      · intro h
        cases h
      · rintro ⟨m, -, hleads⟩
        cases hleads
    | apply operation rhs rest =>
      refine ih.trans ⟨?_, ?_⟩
      · rintro ⟨q, hq, hnext⟩
        obtain ⟨m, n, ha, hrhs, hdefined, hfits, rfl⟩ := Operation.value_apply_eq_some.mp hq
        exact ⟨m, ha, .apply hrhs hdefined hfits hnext⟩
      · rintro ⟨m, ha, hleads⟩
        cases hleads with
        | apply hrhs hdefined hfits hnext =>
          exact ⟨_, Operation.value_apply_eq_some.mpr ⟨m, _, ha, hrhs, hdefined, hfits, rfl⟩, hnext⟩
    | cast target rest =>
      refine ih.trans ⟨?_, ?_⟩
      · rintro ⟨m, hm, hnext⟩
        obtain ⟨ha, hfits⟩ := value_cast_eq_some.mp hm
        exact ⟨m, ha, .cast hfits hnext⟩
      · rintro ⟨m, ha, hleads⟩
        cases hleads with
        | cast hfits hnext => exact ⟨m, value_cast_eq_some.mpr ⟨ha, hfits⟩, hnext⟩
    | report context rest =>
      have hsame : Outcome.number? (.reported (a.orOverflow (.context context))) = a.value :=
        toOption_orOverflow _
      show (Outcome.number? (.reported (a.orOverflow (.context context))) ::
        (rest.run a).map Outcome.number?)[k]? = some (some r) ↔ _
      rw [hsame]
      refine ih.trans ⟨?_, ?_⟩
      · rintro ⟨m, ha, hnext⟩
        exact ⟨m, ha, .report hnext⟩
      · rintro ⟨m, ha, hleads⟩
        cases hleads with
        | report hnext => exact ⟨m, ha, hnext⟩

/-- The same for a single answer. -/
theorem number?_eq_some {a : Magnitude w} {outcome : Outcome}
    (h : (steps.run a)[k]? = some outcome) :
    outcome.number? = some r ↔ ∃ m, a.value = some m ∧ steps.Leads m (k + 1) r := by
  have hanswer : (a.value :: (steps.run a).map Outcome.number?)[k + 1]? = some outcome.number? := by
    rw [List.getElem?_cons_succ, List.getElem?_map, h]
    rfl
  rw [← number?_run, hanswer, Option.some.injEq]

/-- After an invalid answer every later one is invalid. -/
theorem number?_eq_none_of_le {a : Magnitude w} {outcome later : Outcome} (hle : j ≤ k)
    (hj : (steps.run a)[j]? = some outcome) (hk : (steps.run a)[k]? = some later)
    (h : outcome.number? = none) : later.number? = none := by
  rw [Option.eq_none_iff_forall_ne_some]
  intro r hr
  obtain ⟨m, ha, hleads⟩ := (number?_eq_some hk).mp hr
  obtain ⟨q, hq⟩ := hleads.of_le (Nat.succ_le_succ hle)
  have hvalid := (number?_eq_some hj).mpr ⟨m, ha, hq⟩
  rw [h] at hvalid
  cases hvalid

/-- **A run of checked steps is exact as long as it is valid.** The answer of a step is valid
exactly when the start is, and the steps so far, carried out on natural numbers, lead somewhere; it
is then the number to which they lead. An invalid answer is never followed by a valid one. The
quotient rounded up, which is put together from other operations, is invalid only for an invalid
side or a divisor of zero: neither its remainder nor the quotient after the one is added leaves the
range. -/
theorem run_exact {w : Width} (a : Magnitude w) (steps : Steps w) :
    (steps.run a).length = steps.length ∧
    (∀ k outcome, (steps.run a)[k]? = some outcome →
      (∀ r, outcome.number? = some r ↔ ∃ m, a.value = some m ∧ steps.Leads m (k + 1) r) ∧
      (∀ v b, outcome = .running v b → v = steps.widthAfter (k + 1)) ∧
      (outcome.number? = none →
        ∀ l later, k ≤ l → (steps.run a)[l]? = some later → later.number? = none)) ∧
    (∀ b c : Magnitude w,
      ((b.divCeil c).value = none ↔ b.value = none ∨ c.value = none ∨ c.value = some 0) ∧
      ∀ m n, b.value = some m → c.value = some n → n ≠ 0 →
        (b - b / c * c).value = some (m % n) ∧
        (m % n ≠ 0 → (b / c + 1).value = some (m / n + 1))) := by
  refine ⟨length_run a steps, fun k outcome h => ⟨fun r => number?_eq_some h, ?_, ?_⟩,
    fun b c => ⟨value_divCeil_eq_none, fun m n hb hc hn => ?_⟩⟩
  · rintro v b rfl
    exact width_run h
  · intro hnone l later hle hlater
    exact number?_eq_none_of_le hle h hlater hnone
  · exact ⟨value_sub_div_mul hb hc hn, value_div_add_one hb hc hn⟩

/-- Half of 7, rounded up, taken to a wider width and there beyond the narrower one. -/
def widening : Steps .dimension :=
  .apply .divCeil 2 <| .cast .count <| .apply .mul 4294967296 <| .cast .dimension <|
    .apply .sub 1 .done

/-- The product is found in the wider width; back in the narrower one it is lost for good. -/
theorem run_exact_widening :
    (widening.run 7).map Outcome.number? = [some 4, some 4, some 17179869184, none, none] ∧
      (∃ m, (7 : Magnitude .dimension).value = some m ∧ widening.Leads m 3 17179869184) ∧
      ∀ r, ¬ ∃ m, (7 : Magnitude .dimension).value = some m ∧ widening.Leads m 5 r := by
  have hproduct : (widening.run 7)[2]? = some (.running .count 17179869184) := rfl
  have hlast : (widening.run 7)[4]? = some (.running .dimension .invalid) := rfl
  refine ⟨by decide, ?_, fun r hleads => ?_⟩
  · exact (((run_exact 7 widening).2.1 2 _ hproduct).1 _).mp rfl
  · have hvalid := (((run_exact 7 widening).2.1 4 _ hlast).1 r).mpr hleads
    cases hvalid

end Steps

end TensorTyping.Magnitude
