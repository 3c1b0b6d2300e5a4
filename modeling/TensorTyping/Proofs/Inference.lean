import Mathlib
import TensorTyping.Event

/-!
# When an inference succeeds

An inference is a sequence of steps, each of which may end it. Its value is therefore reached
exactly when every step has one, and a proof about an operator starts by taking the sequence
apart. This module says, for each kind of step, when it has a value and which one.

* `Infer.bind_eq_ok`, `Infer.mapM_eq_ok`, `Infer.mapM_eq_ok_map` — sequences and traversals.
* `Infer.bind_eq_error`, `Infer.exists_of_mapM_eq_error` — which step of them failed.
* `Infer.RejectsAs` — an inference whose failures are all of one category; `Infer.Rejected` — an
  inference that fails in it.
* `Traced.mem_events_bind` — which step of a sequence an event comes from.
* `Dim.quotient_eq_ok`, `Shape.dim_eq_ok`, … — the steps with a domain.
* `Magnitude.dimOrOverflow_eq_ok`, `Operand.create_eq_ok` — magnitudes and operands.
-/

namespace TensorTyping

namespace Infer

variable {α β : Type}

/-- A sequence succeeds exactly when its first step does and then the rest. -/
@[simp] theorem bind_eq_ok {x : Infer α} {f : α → Infer β} {b : β} :
    x >>= f = .ok b ↔ ∃ a, x = .ok a ∧ f a = .ok b := by
  cases x with
  | error failure =>
    constructor
    · intro h
      cases h
    · rintro ⟨a, h, -⟩
      cases h
  | ok a =>
    constructor
    · intro h
      exact ⟨a, rfl, h⟩
    · rintro ⟨a', h, hf⟩
      cases h
      exact hf

@[simp] theorem pure_eq_ok {a b : α} : (pure a : Infer α) = .ok b ↔ a = b :=
  ⟨Except.ok.inj, congrArg _⟩

@[simp] theorem reject_eq_ok {cause : Cause} {a : α} : reject cause = .ok a ↔ False :=
  ⟨nofun, False.elim⟩

@[simp] theorem raise_eq_ok {fault : Fault} {a : α} : fault.raise = .ok a ↔ False :=
  ⟨nofun, False.elim⟩

/-- A traversal succeeds exactly when every item does, and lists the values in order. -/
theorem mapM_eq_ok {f : α → Infer β} {l : List α} {r : List β} :
    l.mapM f = .ok r ↔ List.Forall₂ (fun a b => f a = .ok b) l r := by
  induction l generalizing r with
  | nil =>
    rw [List.mapM_nil, pure_eq_ok, List.forall₂_nil_left_iff]
    exact eq_comm
  | cons a l ih =>
    rw [List.mapM_cons, bind_eq_ok, List.forall₂_cons_left_iff]
    constructor
    · rintro ⟨b, hb, h⟩
      obtain ⟨t, ht, hr⟩ := bind_eq_ok.mp h
      exact ⟨b, t, hb, ih.mp ht, (pure_eq_ok.mp hr).symm⟩
    · rintro ⟨b, t, hb, ht, rfl⟩
      exact ⟨b, hb, bind_eq_ok.mpr ⟨t, ih.mpr ht, rfl⟩⟩

/-- A traversal has a value exactly when every item has one. -/
theorem exists_mapM_eq_ok {f : α → Infer β} {l : List α} :
    (∃ r, l.mapM f = .ok r) ↔ ∀ a ∈ l, ∃ b, f a = .ok b := by
  induction l with
  | nil => exact ⟨fun _ => List.forall_mem_nil _, fun _ => ⟨[], rfl⟩⟩
  | cons a l ih =>
    rw [List.forall_mem_cons, ← ih]
    simp only [mapM_eq_ok, List.forall₂_cons_left_iff]
    constructor
    · rintro ⟨_, b, t, hb, ht, rfl⟩
      exact ⟨⟨b, hb⟩, t, ht⟩
    · rintro ⟨⟨b, hb⟩, t, ht⟩
      exact ⟨b :: t, b, t, hb, ht, rfl⟩

/-- A traversal whose items have the values of a function, each under a condition. -/
theorem mapM_eq_ok_map {f : α → Infer β} {g : α → β} {P : α → Prop} {l : List α} {r : List β}
    (hf : ∀ a ∈ l, ∀ b, f a = .ok b ↔ P a ∧ b = g a) :
    l.mapM f = .ok r ↔ (∀ a ∈ l, P a) ∧ r = l.map g := by
  induction l generalizing r with
  | nil => simp
  | cons a l ih =>
    obtain ⟨hhead, htail⟩ := List.forall_mem_cons.mp hf
    simp only [List.mapM_cons, bind_eq_ok, pure_eq_ok, hhead, ih htail, List.forall_mem_cons,
      List.map_cons]
    constructor
    · rintro ⟨_, ⟨ha, rfl⟩, _, ⟨hl, rfl⟩, rfl⟩
      exact ⟨⟨ha, hl⟩, rfl⟩
    · rintro ⟨⟨ha, hl⟩, rfl⟩
      exact ⟨_, ⟨ha, rfl⟩, _, ⟨hl, rfl⟩, rfl⟩

/-- After a value the rest of the sequence goes on with it. -/
theorem ok_bind (a : α) (f : α → Infer β) : (.ok a : Infer α) >>= f = f a := rfl

/-- Sequences with a common first step are equal when the rests are, on the values it has. -/
theorem bind_congr {x : Infer α} {f g : α → Infer β} (h : ∀ a, x = .ok a → f a = g a) :
    x >>= f = x >>= g := by
  cases x with
  | error failure => rfl
  | ok a => exact h a rfl

/-! ## Failures of a sequence -/

/-- A sequence fails with its first step, or with the rest after it. -/
theorem bind_eq_error {x : Infer α} {f : α → Infer β} {failure : Failure} :
    x >>= f = .error failure ↔ x = .error failure ∨ ∃ a, x = .ok a ∧ f a = .error failure := by
  cases x with
  | error first =>
    constructor
    · intro h
      exact .inl (congrArg Except.error (Except.error.inj h))
    · rintro (h | ⟨a, h, -⟩)
      · exact congrArg Except.error (Except.error.inj h)
      · cases h
  | ok a =>
    constructor
    · intro h
      exact .inr ⟨a, rfl, h⟩
    · rintro (h | ⟨a', h, hf⟩)
      · cases h
      · cases h
        exact hf

/-- A traversal fails with one of its items. -/
theorem exists_of_mapM_eq_error {f : α → Infer β} {l : List α} {failure : Failure}
    (h : l.mapM f = .error failure) : ∃ a ∈ l, f a = .error failure := by
  induction l with
  | nil => cases h
  | cons a l ih =>
    rw [List.mapM_cons, bind_eq_error] at h
    rcases h with ha | ⟨b, -, h⟩
    · exact ⟨a, List.mem_cons_self, ha⟩
    · rcases bind_eq_error.mp h with hl | ⟨_, -, hpure⟩
      · obtain ⟨a', hmem, ha'⟩ := ih hl
        exact ⟨a', List.mem_cons_of_mem a hmem, ha'⟩
      · cases hpure

end Infer

attribute [simp] require_eq_ok

theorem require_eq_error {p : Prop} [Decidable p] {cause : Cause} {failure : Failure} :
    require p cause = .error failure ↔ ¬ p ∧ failure = .rejected cause := by
  unfold require reject
  by_cases hp : p
  · simp [hp]
  · simp [hp, eq_comm]

namespace Infer

variable {α β : Type} {category : Category} {x : Infer α}

/-- Every failure of the inference is a rejection, for a cause of the category. -/
def RejectsAs (category : Category) (x : Infer α) : Prop :=
  ∀ failure, x = .error failure → ∃ cause, failure = .rejected cause ∧ cause.category = category

namespace RejectsAs

theorem of_eq_ok {a : α} (h : x = .ok a) : RejectsAs category x := by
  intro failure hfailure
  rw [h] at hfailure
  cases hfailure

theorem reject {cause : Cause} (h : cause.category = category) :
    RejectsAs category (TensorTyping.reject cause : Infer α) := by
  rintro failure ⟨⟩
  exact ⟨cause, rfl, h⟩

theorem require {p : Prop} [Decidable p] {cause : Cause} (h : cause.category = category) :
    RejectsAs category (TensorTyping.require p cause) := by
  intro failure hfailure
  exact ⟨cause, (require_eq_error.mp hfailure).2, h⟩

theorem bind {f : α → Infer β} (hx : RejectsAs category x)
    (hf : ∀ a, x = .ok a → RejectsAs category (f a)) : RejectsAs category (x >>= f) := by
  intro failure hfailure
  rcases bind_eq_error.mp hfailure with hfirst | ⟨a, ha, hrest⟩
  · exact hx failure hfirst
  · exact hf a ha failure hrest

theorem mapM {f : α → Infer β} {l : List α} (h : ∀ a ∈ l, RejectsAs category (f a)) :
    RejectsAs category (l.mapM f) := by
  intro failure hfailure
  obtain ⟨a, hmem, ha⟩ := exists_of_mapM_eq_error hfailure
  exact h a hmem failure ha

end RejectsAs

/-- The inference is rejected, for a cause of the category. -/
def Rejected (category : Category) (x : Infer α) : Prop :=
  ∃ cause, x = .error (.rejected cause) ∧ cause.category = category

@[simp] theorem rejected_reject {cause : Cause} :
    Rejected category (TensorTyping.reject cause : Infer α) ↔ cause.category = category := by
  constructor
  · rintro ⟨_, ⟨⟩, hcategory⟩
    exact hcategory
  · intro hcategory
    exact ⟨cause, rfl, hcategory⟩

@[simp] theorem not_rejected_ok {a : α} : ¬ Rejected category (.ok a) := by
  rintro ⟨_, ⟨⟩, -⟩

end Infer

/-! ## Events of a sequence -/

/-- An event of a sequence is one of its first step, or one of the rest after it. -/
theorem Traced.mem_events_bind {α β : Type} {x : Traced α} {f : α → Traced β} {event : Event} :
    event ∈ (x >>= f).events ↔
      event ∈ x.events ∨ ∃ a, x.result = .ok a ∧ event ∈ (f a).events := by
  rw [events_bind, List.mem_append]
  cases x.result with
  | ok a => simp
  | error failure => simp

/-! ## Steps with a domain -/

@[simp] theorem difference_eq_ok {m n d : ℕ} : difference m n = .ok d ↔ n ≤ m ∧ d = m - n := by
  unfold difference
  split_ifs with h
  · simp [h, eq_comm]
  · simp [h]

namespace Dim

theorem le_largest (d : Dim) : d.toNat ≤ largest.toNat := by
  have := d.toNat_lt
  show d.toNat ≤ 4294967295
  omega

theorem ne_zero_iff {d : Dim} : d ≠ 0 ↔ 0 < d.toNat := by
  rw [Nat.pos_iff_ne_zero, ne_eq, ← UInt32.toNat_inj]
  rfl

theorem exists_toNat_eq {n : ℕ} (h : n ≤ largest.toNat) : ∃ d : Dim, d.toNat = n :=
  ⟨.ofNat n, UInt32.toNat_ofNat_of_lt' (Nat.lt_succ_of_le h)⟩

@[simp] theorem minus_eq_ok {m n d : Dim} :
    minus m n = .ok d ↔ n.toNat ≤ m.toNat ∧ d.toNat = m.toNat - n.toNat := by
  unfold minus
  split_ifs with h
  · have hle := UInt32.le_iff_toNat_le.mp h
    rw [Except.ok.injEq, ← UInt32.toNat_inj, UInt32.toNat_sub_of_le m n h]
    exact ⟨fun hd => ⟨hle, hd.symm⟩, fun hd => hd.2.symm⟩
  · rw [Infer.raise_eq_ok, false_iff]
    exact fun hd => h (UInt32.le_iff_toNat_le.mpr hd.1)

@[simp] theorem quotient_eq_ok {m n d : Dim} :
    quotient m n = .ok d ↔ n ≠ 0 ∧ d.toNat = m.toNat / n.toNat := by
  unfold quotient
  split_ifs with h
  · simp [h]
  · rw [Except.ok.injEq, ← UInt32.toNat_inj, UInt32.toNat_div]
    exact ⟨fun hd => ⟨h, hd.symm⟩, fun hd => hd.2.symm⟩

@[simp] theorem remainder_eq_ok {m n d : Dim} :
    remainder m n = .ok d ↔ n ≠ 0 ∧ d.toNat = m.toNat % n.toNat := by
  unfold remainder
  split_ifs with h
  · simp [h]
  · rw [Except.ok.injEq, ← UInt32.toNat_inj, UInt32.toNat_mod]
    exact ⟨fun hd => ⟨h, hd.symm⟩, fun hd => hd.2.symm⟩

@[simp] theorem ofInt_eq_ok {n : ℤ} {d : Dim} : ofInt n = .ok d ↔ n = d.toNat := by
  unfold ofInt
  split_ifs with h
  · obtain ⟨k, rfl⟩ := Int.eq_ofNat_of_zero_le h.1
    have hk : k < UInt32.size := by
      have hle : k ≤ 4294967295 := Int.ofNat_le.mp h.2
      show k < 4294967296
      omega
    rw [Except.ok.injEq, ← UInt32.toNat_inj, Int.toNat_natCast, UInt32.toNat_ofNat_of_lt' hk]
    exact Int.ofNat_inj.symm
  · rw [Infer.raise_eq_ok, false_iff]
    rintro rfl
    exact h ⟨Int.natCast_nonneg _, Int.ofNat_le.mpr (le_largest d)⟩

end Dim

@[simp] theorem Shape.dim_eq_ok {s : Shape} {place : ℕ} {d : Dim} :
    s.dim place = .ok d ↔ s[place]? = some d := by
  unfold Shape.dim
  cases s[place]? with
  | none => simp
  | some e => simp

@[simp] theorem Shape.set_eq_ok {s t : Shape} {place : ℕ} {d : Dim} :
    s.set place d = .ok t ↔ place < s.length ∧ t = List.set s place d := by
  unfold Shape.set
  split_ifs with h
  · simp [h, eq_comm]
  · simp [h]

/-! ## Magnitudes and operands -/

@[simp] theorem Magnitude.orOverflow_eq_ok {w : Width} {a : Magnitude w} {name : Overflow} {n : ℕ} :
    a.orOverflow name = .ok n ↔ a.value = some n := by
  unfold Magnitude.orOverflow
  cases a.value with
  | none => simp
  | some m => simp

@[simp] theorem Magnitude.dimOrOverflow_eq_ok {a : Magnitude .dimension} {name : Overflow}
    {d : Dim} : a.dimOrOverflow name = .ok d ↔ a.value = some d.toNat := by
  unfold Magnitude.dimOrOverflow
  rw [← bind_pure_comp, Infer.bind_eq_ok]
  constructor
  · rintro ⟨n, hn, hd⟩
    have hvalue := Magnitude.orOverflow_eq_ok.mp hn
    rw [← Infer.pure_eq_ok.mp hd, UInt32.toNat_ofNat_of_lt' (a.fits n hvalue)]
    exact hvalue
  · intro h
    exact ⟨d.toNat, Magnitude.orOverflow_eq_ok.mpr h, Infer.pure_eq_ok.mpr UInt32.ofNat_toNat⟩

theorem Magnitude.dimOrOverflow_eq_error {a : Magnitude .dimension} {name : Overflow}
    {failure : Failure} :
    a.dimOrOverflow name = .error failure ↔
      a.value = none ∧ failure = .rejected (.overflow name) := by
  unfold Magnitude.dimOrOverflow Magnitude.orOverflow reject
  cases a.value with
  | none => simp [eq_comm]
  | some n => simp

theorem Magnitude.dimOrOverflow_rejectsAs {a : Magnitude .dimension} {name : Overflow} :
    Infer.RejectsAs .overflow (a.dimOrOverflow name) := fun _ hfailure =>
  ⟨_, (Magnitude.dimOrOverflow_eq_error.mp hfailure).2, rfl⟩

@[simp] theorem Operand.create_eq_ok {dataType : DataType} {shape : Shape} {y : Operand} :
    Operand.create dataType shape = .ok y ↔ y = ⟨dataType, shape⟩ ∧ y.Sized := by
  unfold Operand.create
  simp only [Infer.bind_eq_ok, require_eq_ok, Infer.pure_eq_ok]
  constructor
  · rintro ⟨-, hsized, rfl⟩
    exact ⟨rfl, hsized⟩
  · rintro ⟨rfl, hsized⟩
    exact ⟨(), hsized, rfl⟩

theorem Operand.create_eq_error {dataType : DataType} {shape : Shape} {failure : Failure} :
    Operand.create dataType shape = .error failure ↔
      ¬ (⟨dataType, shape⟩ : Operand).Sized ∧
        failure = .rejected (.overflow (.operandBytes dataType shape)) := by
  unfold Operand.create
  rw [Infer.bind_eq_error, require_eq_error]
  refine or_iff_left ?_
  rintro ⟨_, -, hpure⟩
  cases hpure

theorem Operand.create_rejectsAs {dataType : DataType} {shape : Shape} :
    Infer.RejectsAs .overflow (Operand.create dataType shape) := fun _ hfailure =>
  ⟨_, (Operand.create_eq_error.mp hfailure).2, rfl⟩

end TensorTyping
