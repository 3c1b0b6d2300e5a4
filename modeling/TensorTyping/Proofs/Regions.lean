import Mathlib
import TensorTyping.Proofs.Agreement
import TensorTyping.Proofs.Slices

/-!
# Paddings, copies and slices together

A padding adds to each dimension and copies multiply it, so both enlarge a tensor: where the result
is within bounds, every tensor on the way to it is. This is why a slice can take either of them
back, and why two of a kind amount to one. The limits are met at different steps, but at the same
inputs.

* `Pad.Extends`, `Pad.infer_eq_ok` — the result of a padding, and when there is one.
* `Tiles`, `tile_eq_ok` — the same for copies.
* `slice_recovers_input` — the input of a padding or of copies is a slice of the result.
* `regions_compose` — two paddings, two numbers of copies or two slices are one.
-/

namespace TensorTyping

open Infer (Agrees RejectsAs)

/-! ## Lists of numbers -/

section Entries

variable {l k : List Dim} {i n : ℕ}

/-- The numbers of a list that is not empty are its first one and those of the rest. -/
theorem entry_cons_iff {f : ℕ → ℕ} :
    (l.length = n + 1 ∧ ∀ i, entry l i = f i) ↔
      ∃ d rest, d.toNat = f 0 ∧ (rest.length = n ∧ ∀ i, entry rest i = f (i + 1)) ∧
        d :: rest = l := by
  constructor
  · rintro ⟨hlength, h⟩
    obtain ⟨d, rest, rfl⟩ := List.exists_cons_of_length_eq_add_one hlength
    exact ⟨d, rest, h 0, ⟨Nat.succ.inj hlength, fun i => h (i + 1)⟩, rfl⟩
  · rintro ⟨d, rest, hfirst, ⟨hlength, hrest⟩, rfl⟩
    exact ⟨congrArg Nat.succ hlength, Nat.and_forall_add_one.mp ⟨hfirst, hrest⟩⟩

theorem zero_not_mem_iff : 0 ∉ l ↔ ∀ i < l.length, 1 ≤ entry l i := by
  constructor
  · intro h i hi
    rw [entry_of_lt hi]
    exact Dim.ne_zero_iff.mp fun hzero => h (hzero ▸ List.getElem_mem hi)
  · intro h hmem
    obtain ⟨i, hi, hzero⟩ := List.mem_iff_getElem.mp hmem
    have hpos := h i hi
    rw [entry_of_lt hi, hzero] at hpos
    exact Nat.not_succ_le_zero 0 hpos

/-- Copies are no fewer than what is copied, as long as there is nothing where no number is. -/
theorem le_mul_entry {m : ℕ} (h : 0 ∉ l) (hend : l.length ≤ i → m = 0) : m ≤ m * entry l i := by
  by_cases hi : i < l.length
  · exact Nat.le_mul_of_pos_right _ (zero_not_mem_iff.mp h i hi)
  · rw [hend (Nat.le_of_not_lt hi), Nat.zero_mul]

theorem entry_replicate_zero : entry (List.replicate n 0) i = 0 := by
  by_cases hi : i < (List.replicate n (0 : Dim)).length
  · rw [entry_of_lt hi, List.getElem_replicate]
    rfl
  · exact entry_of_length_le (Nat.le_of_not_lt hi)

theorem length_zipWith_of_eq {f : Dim → Dim → Dim} (hlength : l.length = k.length) :
    (List.zipWith f l k).length = l.length := by
  rw [List.length_zipWith, ← hlength, Nat.min_self]

theorem getD_zipWith {f : Dim → Dim → Dim} (hlength : l.length = k.length) (hzero : f 0 0 = 0) :
    (List.zipWith f l k).getD i 0 = f (l.getD i 0) (k.getD i 0) := by
  have hboth : (List.zipWith f l k).length = l.length := length_zipWith_of_eq hlength
  by_cases hi : i < l.length
  · rw [List.getD_eq_getElem _ _ (lt_of_lt_of_eq hi hboth.symm), List.getElem_zipWith,
      List.getD_eq_getElem _ _ hi, List.getD_eq_getElem _ _ (lt_of_lt_of_eq hi hlength)]
  · have hle := Nat.le_of_not_lt hi
    rw [List.getD_eq_default _ _ (le_of_eq_of_le hboth hle), List.getD_eq_default _ _ hle,
      List.getD_eq_default _ _ (le_of_eq_of_le hlength.symm hle), hzero]

theorem entry_zipWith_add (hlength : l.length = k.length) (h : entry l i + entry k i < 2 ^ 32) :
    entry (List.zipWith (· + ·) l k) i = entry l i + entry k i := by
  unfold entry
  rw [getD_zipWith hlength rfl]
  exact Dim.toNat_add_of_lt h

theorem entry_zipWith_mul (hlength : l.length = k.length) (h : entry l i * entry k i < 2 ^ 32) :
    entry (List.zipWith (· * ·) l k) i = entry l i * entry k i := by
  unfold entry
  rw [getD_zipWith hlength rfl, UInt32.toNat_mul, Nat.mod_eq_of_lt]
  exact h

end Entries

/-! ## Padding -/

theorem Magnitude.value_add_add {a b c d : Dim} :
    (ofDim a + ofDim b + ofDim c).value = some d.toNat ↔
      d.toNat = a.toNat + b.toNat + c.toNat := by
  have hd := Dim.le_largest d
  simp only [value_add_ofDim, value_ofDim, Option.some.injEq, exists_eq_left']
  constructor
  · rintro ⟨_, ⟨rfl, -⟩, hsum, -⟩
    exact hsum.symm
  · intro hsum
    exact ⟨_, ⟨rfl, by omega⟩, hsum.symm, hd⟩

namespace PadMode

variable {mode : PadMode} {dims beginnings endings shape : List Dim} {place : ℕ}

/-- An axis without cells can be left as it is in every mode. -/
theorem admits_zero (mode : PadMode) : mode.admits 0 0 0 = true := by
  cases mode <;> rfl

theorem pad_eq_ok (hbeginnings : beginnings.length = dims.length)
    (hendings : endings.length = dims.length) :
    mode.pad place dims beginnings endings = .ok shape ↔
      (∀ i, mode.admits (dims.getD i 0) (beginnings.getD i 0) (endings.getD i 0)) ∧
      shape.length = dims.length ∧
      ∀ i, entry shape i = entry dims i + entry beginnings i + entry endings i := by
  induction dims generalizing place beginnings endings shape with
  | nil =>
    obtain rfl := List.length_eq_zero_iff.mp hbeginnings
    obtain rfl := List.length_eq_zero_iff.mp hendings
    have hnil : mode.pad place [] [] [] = pure [] := rfl
    rw [hnil, Infer.pure_eq_ok]
    constructor
    · rintro rfl
      exact ⟨fun _ => mode.admits_zero, rfl, fun _ => rfl⟩
    · rintro ⟨-, hlength, -⟩
      exact (List.length_eq_zero_iff.mp hlength).symm
  | cons dim dims ih =>
    obtain ⟨beginning, beginnings, rfl⟩ := List.exists_cons_of_length_eq_add_one hbeginnings
    obtain ⟨ending, endings, rfl⟩ := List.exists_cons_of_length_eq_add_one hendings
    simp only [pad, Infer.bind_eq_ok, require_eq_ok, Magnitude.dimOrOverflow_eq_ok,
      Magnitude.value_add_add, Infer.pure_eq_ok, exists_const,
      ih (Nat.succ.inj hbeginnings) (Nat.succ.inj hendings)]
    rw [List.length_cons, entry_cons_iff]
    constructor
    · rintro ⟨hfirst, padded, hpadded, rest, ⟨hadmits, hrest⟩, hshape⟩
      exact ⟨Nat.and_forall_add_one.mp ⟨hfirst, hadmits⟩, padded, rest, hpadded, hrest, hshape⟩
    · rintro ⟨hadmits, padded, rest, hpadded, hrest, hshape⟩
      exact ⟨hadmits 0, padded, hpadded, rest, ⟨fun i => hadmits (i + 1), hrest⟩, hshape⟩

/-- These modes take no cells from the input. -/
theorem admits_of_mode (hmode : mode = .constant ∨ mode = .edge) (dim beginning ending : Dim) :
    mode.admits dim beginning ending = true := by
  rcases hmode with rfl | rfl <;> rfl

/-- Without a limit on the cells, only sizes that are not dimensions are rejected. -/
theorem pad_rejectsAs (hmode : mode = .constant ∨ mode = .edge) :
    RejectsAs .overflow (mode.pad place dims beginnings endings) := by
  induction dims generalizing place beginnings endings with
  | nil => exact .of_eq_ok rfl
  | cons dim dims ih =>
    cases beginnings with
    | nil => exact .of_eq_ok rfl
    | cons beginning beginnings =>
      cases endings with
      | nil => exact .of_eq_ok rfl
      | cons ending endings =>
        refine .bind (.of_eq_ok (if_pos (admits_of_mode hmode _ _ _))) fun _ _ => ?_
        exact .bind Magnitude.dimOrOverflow_rejectsAs fun _ _ => .bind ih fun _ _ => .of_eq_ok rfl

end PadMode

namespace Pad

variable {p q : Pad} {x y z : Operand}

/-- `y` is `x` with the cells of the padding added on each axis. -/
structure Extends (p : Pad) (x y : Operand) : Prop where
  beginning_length : p.beginning.length = x.rank
  ending_length : p.ending.length = x.rank
  admitted : ∀ i, p.mode.admits (x.shape.getD i 0) (p.beginning.getD i 0) (p.ending.getD i 0)
  sameType : y.dataType = x.dataType
  sameRank : y.rank = x.rank
  sizes : ∀ i, entry y.shape i = entry x.shape i + entry p.beginning i + entry p.ending i

/-- The result of a padding can be counted only if the input can. -/
theorem Extends.sized (h : p.Extends x y) (hy : y.Sized) : x.Sized := by
  refine hy.of_entry_le h.sameType.symm h.sameRank.symm fun i => ?_
  have hi := h.sizes i
  omega

/-- A padding gives the extended operand, if that can be counted. -/
theorem infer_eq_ok : p.infer x = .ok y ↔ p.Extends x y ∧ y.Sized := by
  simp only [infer, Operand.requireLength, Infer.bind_eq_ok, require_eq_ok, Operand.create_eq_ok,
    exists_const]
  constructor
  · rintro ⟨hbeginning, hending, shape, hshape, rfl, hsized⟩
    obtain ⟨hadmitted, hrank, hsizes⟩ := (PadMode.pad_eq_ok hbeginning hending).mp hshape
    exact ⟨⟨hbeginning, hending, hadmitted, rfl, hrank, hsizes⟩, hsized⟩
  · rintro ⟨h, hsized⟩
    obtain ⟨dataType, shape⟩ := y
    obtain rfl : dataType = x.dataType := h.sameType
    have hshape : p.mode.pad 0 x.shape p.beginning p.ending = .ok shape :=
      (PadMode.pad_eq_ok h.beginning_length h.ending_length).mpr
        ⟨h.admitted, h.sameRank, h.sizes⟩
    exact ⟨h.beginning_length, h.ending_length, shape, hshape, rfl, hsized⟩

end Pad

/-! ## Copies -/

/-- `y` is as many copies of `x` along each axis as `repetitions` says. -/
structure Tiles (repetitions : List Dim) (x y : Operand) : Prop where
  length : repetitions.length = x.rank
  positive : 0 ∉ repetitions
  sameType : y.dataType = x.dataType
  sameRank : y.rank = x.rank
  sizes : ∀ i, entry y.shape i = entry x.shape i * entry repetitions i

section Tile

variable {repetitions : List Dim} {x y z : Operand}

theorem Tiles.entry_le (h : Tiles repetitions x y) (i : ℕ) :
    entry x.shape i ≤ entry y.shape i := by
  rw [h.sizes i]
  refine le_mul_entry h.positive fun hend => entry_of_length_le ?_
  exact le_of_eq_of_le h.length.symm hend

/-- Copies can be counted only if the input can. -/
theorem Tiles.sized (h : Tiles repetitions x y) (hy : y.Sized) : x.Sized :=
  hy.of_entry_le h.sameType.symm h.sameRank.symm h.entry_le

theorem Magnitude.value_mul_ofDim {a b d : Dim} :
    (ofDim a * ofDim b).value = some d.toNat ↔ d.toNat = a.toNat * b.toNat := by
  simp only [value_mul_eq_some, value_ofDim, Option.some.injEq, exists_eq_left', exists_and_left]
  exact ⟨fun h => h.1.symm, fun h => ⟨h.symm, d.toNat_lt⟩⟩

theorem mapM_copies_eq_ok {dims shape : List Dim} (hlength : repetitions.length = dims.length) :
    ((dims.zip repetitions).mapM fun (dim, copies) =>
      (Magnitude.ofDim dim * Magnitude.ofDim copies).dimOrOverflow (.tiledSize dim copies)) =
        .ok shape ↔
      shape.length = dims.length ∧ ∀ i, entry shape i = entry dims i * entry repetitions i := by
  induction dims generalizing repetitions shape with
  | nil =>
    obtain rfl := List.length_eq_zero_iff.mp hlength
    rw [List.zip_nil_left, List.mapM_nil, Infer.pure_eq_ok]
    constructor
    · rintro rfl
      exact ⟨rfl, fun _ => rfl⟩
    · rintro ⟨hshape, -⟩
      exact (List.length_eq_zero_iff.mp hshape).symm
  | cons dim dims ih =>
    obtain ⟨copies, repetitions, rfl⟩ := List.exists_cons_of_length_eq_add_one hlength
    simp only [List.zip_cons_cons, List.mapM_cons, Infer.bind_eq_ok, Infer.pure_eq_ok,
      Magnitude.dimOrOverflow_eq_ok, Magnitude.value_mul_ofDim, ih (Nat.succ.inj hlength)]
    rw [List.length_cons, entry_cons_iff]
    constructor
    · rintro ⟨size, hsize, rest, hrest, hshape⟩
      exact ⟨size, rest, hsize, hrest, hshape⟩
    · rintro ⟨size, rest, hsize, hrest, hshape⟩
      exact ⟨size, hsize, rest, hrest, hshape⟩

/-- Tiling gives the copies, if these can be counted. -/
theorem tile_eq_ok : tile repetitions x = .ok y ↔ Tiles repetitions x y ∧ y.Sized := by
  simp only [tile, Operand.requireLength, Infer.bind_eq_ok, require_eq_ok, Operand.create_eq_ok,
    exists_const]
  constructor
  · rintro ⟨hlength, hpositive, shape, hshape, rfl, hsized⟩
    obtain ⟨hrank, hsizes⟩ := (mapM_copies_eq_ok hlength).mp hshape
    exact ⟨⟨hlength, hpositive, rfl, hrank, hsizes⟩, hsized⟩
  · rintro ⟨h, hsized⟩
    obtain ⟨dataType, shape⟩ := y
    obtain rfl : dataType = x.dataType := h.sameType
    exact ⟨h.length, h.positive, shape, (mapM_copies_eq_ok h.length).mpr ⟨h.sameRank, h.sizes⟩, rfl,
      hsized⟩

theorem tile_rejectsAs (hlength : repetitions.length = x.rank) (hpositive : 0 ∉ repetitions) :
    RejectsAs .overflow (tile repetitions x) :=
  .bind (.of_eq_ok (Operand.requireLength_eq_ok hlength)) fun _ _ =>
    .bind (.of_eq_ok (if_pos hpositive)) fun _ _ =>
    .bind (.mapM fun _ _ => Magnitude.dimOrOverflow_rejectsAs) fun _ _ => Operand.create_rejectsAs

end Tile

/-! ## Slices take both back -/

section Recovery

variable {p : Pad} {repetitions : List Dim} {x y : Operand}

theorem Pad.Extends.isBox (h : p.Extends x y) : IsBox p.beginning x.shape y x where
  starts_length := h.beginning_length.trans h.sameRank.symm
  sizes_length := h.sameRank.symm
  inRange i := by
    have hi := h.sizes i
    exact .inr (by omega)
  eq_mk := by rw [h.sameType]

theorem Tiles.isBox (h : Tiles repetitions x y) :
    IsBox (List.replicate x.rank 0) x.shape y x where
  starts_length := List.length_replicate.trans h.sameRank.symm
  sizes_length := h.sameRank.symm
  inRange i := by
    refine .inr ?_
    rw [entry_replicate_zero, Nat.zero_add]
    exact h.entry_le i
  eq_mk := by rw [h.sameType]

end Recovery

/-- **The input of a padding and of copies is a slice of the result.** It begins behind the cells
added at the beginning, or at the first copy. -/
theorem slice_recovers_input :
    (∀ (p : Pad) (x y : Operand), p.infer x = .ok y → slice p.beginning x.shape y = .ok x) ∧
    ∀ (repetitions : List Dim) (x y : Operand), tile repetitions x = .ok y →
      slice (List.replicate x.rank 0) x.shape y = .ok x := by
  constructor
  · intro p x y hinfer
    obtain ⟨hextends, hsized⟩ := Pad.infer_eq_ok.mp hinfer
    exact slice_eq_ok.mpr ⟨hextends.isBox, hextends.sized hsized⟩
  · intro repetitions x y htile
    obtain ⟨htiles, hsized⟩ := tile_eq_ok.mp htile
    exact slice_eq_ok.mpr ⟨htiles.isBox, htiles.sized hsized⟩

/-- A tensor with an empty axis, mirrored behind its edges and copied. -/
theorem slice_recovers_input_empty :
    Pad.infer ⟨[1, 0, 2], [0, 0, 3], .reflection⟩ ⟨.int64, [2, 0, 4]⟩ = .ok ⟨.int64, [3, 0, 9]⟩ ∧
      slice [1, 0, 2] [2, 0, 4] ⟨.int64, [3, 0, 9]⟩ = .ok ⟨.int64, [2, 0, 4]⟩ ∧
      tile [2, 7, 3] ⟨.int64, [2, 0, 4]⟩ = .ok ⟨.int64, [4, 0, 12]⟩ ∧
      slice [0, 0, 0] [2, 0, 4] ⟨.int64, [4, 0, 12]⟩ = .ok ⟨.int64, [2, 0, 4]⟩ := by
  have hpad : Pad.infer ⟨[1, 0, 2], [0, 0, 3], .reflection⟩ ⟨.int64, [2, 0, 4]⟩ =
      .ok ⟨.int64, [3, 0, 9]⟩ := by decide
  have htile : tile [2, 7, 3] ⟨.int64, [2, 0, 4]⟩ = .ok ⟨.int64, [4, 0, 12]⟩ := by decide
  exact ⟨hpad, slice_recovers_input.1 _ _ _ hpad, htile, slice_recovers_input.2 _ _ _ htile⟩

/-! ## Two of a kind -/

/-- Two steps that enlarge an operand: where the last one can be counted, the one between can be. -/
theorem bind_eq_ok_of_enlarging {first : Infer Operand} {second : Operand → Infer Operand}
    {R : Operand → Prop} {S : Operand → Operand → Prop} {z : Operand}
    (hfirst : ∀ y, first = .ok y ↔ R y ∧ y.Sized)
    (hsecond : ∀ y, second y = .ok z ↔ S y z ∧ z.Sized)
    (henlarges : ∀ y, S y z → z.Sized → y.Sized) :
    first >>= second = .ok z ↔ (∃ y, R y ∧ S y z) ∧ z.Sized := by
  simp only [Infer.bind_eq_ok, hfirst, hsecond]
  constructor
  · rintro ⟨y, ⟨hy, -⟩, hz, hsized⟩
    exact ⟨⟨y, hy, hz⟩, hsized⟩
  · rintro ⟨⟨y, hy, hz⟩, hsized⟩
    exact ⟨y, ⟨hy, henlarges y hz hsized⟩, hz, hsized⟩

namespace Pad

variable {p q : Pad} {x y z : Operand}

/-- The padding has a number for each axis of `x`, and its mode takes no cells from `x`. -/
structure Plain (p : Pad) (x : Operand) : Prop where
  mode : p.mode = .constant ∨ p.mode = .edge
  beginning_length : p.beginning.length = x.rank
  ending_length : p.ending.length = x.rank

/-- One padding with the cells of two. -/
def followedBy (p q : Pad) : Pad :=
  ⟨List.zipWith (· + ·) p.beginning q.beginning, List.zipWith (· + ·) p.ending q.ending, p.mode⟩

theorem Plain.of_rank_eq (h : p.Plain x) (hrank : y.rank = x.rank) : p.Plain y :=
  ⟨h.mode, h.beginning_length.trans hrank.symm, h.ending_length.trans hrank.symm⟩

theorem Plain.followedBy (hp : p.Plain x) (hq : q.Plain x) : (p.followedBy q).Plain x where
  mode := hp.mode
  beginning_length := by
    have hlength := hp.beginning_length.trans hq.beginning_length.symm
    exact (length_zipWith_of_eq hlength).trans hp.beginning_length
  ending_length := by
    have hlength := hp.ending_length.trans hq.ending_length.symm
    exact (length_zipWith_of_eq hlength).trans hp.ending_length

theorem Plain.extends_iff (h : p.Plain x) :
    p.Extends x y ↔ y.dataType = x.dataType ∧ y.rank = x.rank ∧
      ∀ i, entry y.shape i = entry x.shape i + entry p.beginning i + entry p.ending i := by
  constructor
  · intro hextends
    exact ⟨hextends.sameType, hextends.sameRank, hextends.sizes⟩
  · rintro ⟨htype, hrank, hsizes⟩
    exact ⟨h.beginning_length, h.ending_length, fun _ => PadMode.admits_of_mode h.mode _ _ _, htype,
      hrank, hsizes⟩

theorem Plain.infer_rejectsAs (h : p.Plain x) : RejectsAs .overflow (p.infer x) :=
  .bind (.of_eq_ok (Operand.requireLength_eq_ok h.beginning_length)) fun _ _ =>
    .bind (.of_eq_ok (Operand.requireLength_eq_ok h.ending_length)) fun _ _ =>
    .bind (PadMode.pad_rejectsAs h.mode) fun _ _ => Operand.create_rejectsAs

/-- The result of one padding with the cells of two is reached through that of the first: what lies
between is no larger than the result. -/
theorem Plain.extends_followedBy_iff (hp : p.Plain x) (hq : q.Plain x)
    (hbeginning : ∀ i, entry p.beginning i + entry q.beginning i < 2 ^ 32)
    (hending : ∀ i, entry p.ending i + entry q.ending i < 2 ^ 32) :
    (p.followedBy q).Extends x z ↔ ∃ y, p.Extends x y ∧ q.Extends y z := by
  have hbeginnings : ∀ i, entry (p.followedBy q).beginning i =
      entry p.beginning i + entry q.beginning i := fun i =>
    entry_zipWith_add (hp.beginning_length.trans hq.beginning_length.symm) (hbeginning i)
  have hendings : ∀ i, entry (p.followedBy q).ending i =
      entry p.ending i + entry q.ending i := fun i =>
    entry_zipWith_add (hp.ending_length.trans hq.ending_length.symm) (hending i)
  simp only [(hp.followedBy hq).extends_iff, hp.extends_iff, hbeginnings, hendings]
  constructor
  · rintro ⟨htype, hrank, hsizes⟩
    obtain ⟨shape, hshape, hbetween⟩ : ∃ shape : Shape, shape.length = z.rank ∧
        ∀ i, entry shape i = entry x.shape i + entry p.beginning i + entry p.ending i := by
      refine exists_entry_of_le fun i => ?_
      have hi := hsizes i
      omega
    have hy : q.Plain ⟨x.dataType, shape⟩ := hq.of_rank_eq (hshape.trans hrank)
    refine ⟨⟨x.dataType, shape⟩, ⟨rfl, hshape.trans hrank, hbetween⟩,
      hy.extends_iff.mpr ⟨htype, hshape.symm, fun i => ?_⟩⟩
    rw [hsizes i, hbetween i]
    omega
  · rintro ⟨y, ⟨htype, hrank, hsizes⟩, hy⟩
    refine ⟨hy.sameType.trans htype, hy.sameRank.trans hrank, fun i => ?_⟩
    rw [hy.sizes i, hsizes i]
    omega

end Pad

theorem Pad.Plain.infer_agrees {p q : Pad} {x : Operand} (hp : p.Plain x) (hq : q.Plain x)
    (hbeginning : ∀ i, entry p.beginning i + entry q.beginning i < 2 ^ 32)
    (hending : ∀ i, entry p.ending i + entry q.ending i < 2 ^ 32) :
    Agrees Eq (p.infer x >>= q.infer) ((p.followedBy q).infer x) := by
  refine .of_eq_ok_iff (.bind hp.infer_rejectsAs fun y hy => ?_)
    (hp.followedBy hq).infer_rejectsAs fun z => ?_
  · exact (hq.of_rank_eq (Pad.infer_eq_ok.mp hy).1.sameRank).infer_rejectsAs
  · rw [bind_eq_ok_of_enlarging (fun _ => Pad.infer_eq_ok) (fun _ => Pad.infer_eq_ok)
      fun _ h => h.sized, Pad.infer_eq_ok, hp.extends_followedBy_iff hq hbeginning hending]

section Copies

variable {first second : List Dim} {x z : Operand}
  (hfirst : first.length = x.rank) (hsecond : second.length = x.rank)
  (hpositive : 0 ∉ first) (hpositive' : 0 ∉ second)
  (hfits : ∀ i, entry first i * entry second i < 2 ^ 32)

include hfirst hsecond hpositive hpositive' hfits

theorem zero_not_mem_zipWith_mul : 0 ∉ List.zipWith (· * ·) first second := by
  have hlength := hfirst.trans hsecond.symm
  refine zero_not_mem_iff.mpr fun i hi => ?_
  rw [length_zipWith_of_eq hlength] at hi
  rw [entry_zipWith_mul hlength (hfits i)]
  exact Nat.mul_pos (zero_not_mem_iff.mp hpositive i hi)
    (zero_not_mem_iff.mp hpositive' i (lt_of_lt_of_eq hi hlength))

/-- Copies of copies are as many as the product says, and none on the way is larger than all. -/
theorem tiles_mul_iff :
    Tiles (List.zipWith (· * ·) first second) x z ↔ ∃ y, Tiles first x y ∧ Tiles second y z := by
  have hlength := hfirst.trans hsecond.symm
  have hproduct : ∀ i, entry (List.zipWith (· * ·) first second) i =
      entry first i * entry second i := fun i => entry_zipWith_mul hlength (hfits i)
  constructor
  · intro h
    have hsizes : ∀ i, entry z.shape i = entry x.shape i * entry first i * entry second i := by
      intro i
      rw [h.sizes i, hproduct i, Nat.mul_assoc]
    obtain ⟨shape, hshape, hbetween⟩ : ∃ shape : Shape, shape.length = z.rank ∧
        ∀ i, entry shape i = entry x.shape i * entry first i := by
      refine exists_entry_of_le fun i => ?_
      rw [hsizes i]
      refine le_mul_entry hpositive' fun hend => ?_
      rw [entry_of_length_le (le_of_eq_of_le hsecond.symm hend), Nat.zero_mul]
    have hrank : shape.length = x.rank := hshape.trans h.sameRank
    refine ⟨⟨x.dataType, shape⟩, ⟨hfirst, hpositive, rfl, hrank, hbetween⟩,
      ⟨hsecond.trans hrank.symm, hpositive', h.sameType, hshape.symm, fun i => ?_⟩⟩
    rw [hsizes i, hbetween i]
  · rintro ⟨y, hy, hz⟩
    refine ⟨(length_zipWith_of_eq hlength).trans hfirst,
      zero_not_mem_zipWith_mul hfirst hsecond hpositive hpositive' hfits,
      hz.sameType.trans hy.sameType, hz.sameRank.trans hy.sameRank, fun i => ?_⟩
    rw [hz.sizes i, hy.sizes i, hproduct i, Nat.mul_assoc]

theorem tile_agrees :
    Agrees Eq (tile first x >>= tile second) (tile (List.zipWith (· * ·) first second) x) := by
  have hlength := hfirst.trans hsecond.symm
  have hproduct := zero_not_mem_zipWith_mul hfirst hsecond hpositive hpositive' hfits
  refine .of_eq_ok_iff (.bind (tile_rejectsAs hfirst hpositive) fun y hy => ?_)
    (tile_rejectsAs ((length_zipWith_of_eq hlength).trans hfirst) hproduct) fun z => ?_
  · exact tile_rejectsAs (hsecond.trans (tile_eq_ok.mp hy).1.sameRank.symm) hpositive'
  · rw [bind_eq_ok_of_enlarging (fun _ => tile_eq_ok) (fun _ => tile_eq_ok) fun _ h => h.sized,
      tile_eq_ok, tiles_mul_iff hfirst hsecond hpositive hpositive' hfits]

end Copies

section Boxes

variable {first second sizes sizes' : List Dim} {x y z : Operand}

/-- A box inside a box is a box. -/
theorem IsBox.trans (h : IsBox first sizes x y) (h' : IsBox second sizes' y z)
    (hfits : ∀ i, entry first i + entry second i < 2 ^ 32) :
    IsBox (List.zipWith (· + ·) first second) sizes' x z := by
  obtain rfl := h.eq_mk
  have hlength : first.length = second.length :=
    h.starts_length.trans (h'.starts_length.trans h.sizes_length).symm
  refine ⟨(length_zipWith_of_eq hlength).trans h.starts_length,
    h'.sizes_length.trans h.sizes_length, fun i => ?_, h'.eq_mk⟩
  -- where the inner box is not empty the outer one is not either, so that its bound applies
  have houter : entry sizes i = 0 ∨ entry first i + entry sizes i ≤ entry x.shape i := h.inRange i
  have hinner : entry sizes' i = 0 ∨ entry second i + entry sizes' i ≤ entry sizes i := h'.inRange i
  unfold InRange
  rw [entry_zipWith_add hlength (hfits i)]
  omega

theorem slice_of_slice (hy : slice first sizes x = .ok y) (hz : slice second sizes' y = .ok z)
    (hfits : ∀ i, entry first i + entry second i < 2 ^ 32) :
    slice (List.zipWith (· + ·) first second) sizes' x = .ok z := by
  obtain ⟨hbox, -⟩ := slice_eq_ok.mp hy
  obtain ⟨hbox', hsized⟩ := slice_eq_ok.mp hz
  exact slice_eq_ok.mpr ⟨hbox.trans hbox' hfits, hsized⟩

end Boxes

/-- **Two paddings, two numbers of copies and two slices are one.** Paddings without a limit on
their cells add up, copies multiply, and a slice of a slice begins where both say. A tensor on the
way breaks a limit only where the result does. -/
theorem regions_compose (x : Operand) :
    (∀ p q : Pad, p.Plain x → q.Plain x →
      (∀ i, entry p.beginning i + entry q.beginning i < 2 ^ 32) →
      (∀ i, entry p.ending i + entry q.ending i < 2 ^ 32) →
        Agrees Eq (p.infer x >>= q.infer) ((p.followedBy q).infer x)) ∧
    (∀ first second : List Dim, first.length = x.rank → second.length = x.rank →
      0 ∉ first → 0 ∉ second → (∀ i, entry first i * entry second i < 2 ^ 32) →
        Agrees Eq (tile first x >>= tile second) (tile (List.zipWith (· * ·) first second) x)) ∧
    ∀ (first sizes second sizes' : List Dim) (y z : Operand), slice first sizes x = .ok y →
      slice second sizes' y = .ok z → (∀ i, entry first i + entry second i < 2 ^ 32) →
        slice (List.zipWith (· + ·) first second) sizes' x = .ok z := by
  refine ⟨?_, ?_, ?_⟩
  · intro p q hp hq hbeginning hending
    exact hp.infer_agrees hq hbeginning hending
  · intro first second hfirst hsecond hpositive hpositive' hfits
    exact tile_agrees hfirst hsecond hpositive hpositive' hfits
  · intro first sizes second sizes' y z hy hz hfits
    exact slice_of_slice hy hz hfits

/-- An empty tensor with an axis that is nearly full: two paddings that fill it, copies of which
only the second ones leave the range, and a slice of a slice. Copies of a small tensor are copied
again. -/
theorem regions_compose_full :
    (Pad.infer ⟨[1, 3], [2, 2], .edge⟩ ⟨.uint8, [0, 4294967290]⟩ = .ok ⟨.uint8, [3, 4294967295]⟩ ∧
      Agrees Eq
        (Pad.infer ⟨[1, 2], [0, 1], .edge⟩ ⟨.uint8, [0, 4294967290]⟩ >>=
          Pad.infer ⟨[0, 1], [2, 1], .constant⟩)
        (Pad.infer ⟨[1, 3], [2, 2], .edge⟩ ⟨.uint8, [0, 4294967290]⟩)) ∧
    ((∀ y, tile [6, 2] ⟨.uint8, [0, 4294967290]⟩ ≠ .ok y) ∧
      Agrees Eq (tile [3, 1] ⟨.uint8, [0, 4294967290]⟩ >>= tile [2, 2])
        (tile [6, 2] ⟨.uint8, [0, 4294967290]⟩)) ∧
    (tile [6, 2] ⟨.uint8, [2, 5]⟩ = .ok ⟨.uint8, [12, 10]⟩ ∧
      Agrees Eq (tile [3, 1] ⟨.uint8, [2, 5]⟩ >>= tile [2, 2]) (tile [6, 2] ⟨.uint8, [2, 5]⟩)) ∧
    slice [9, 4294967280] [0, 10] ⟨.uint8, [0, 4294967290]⟩ = .ok ⟨.uint8, [0, 10]⟩ ∧
      slice [5, 3] [0, 7] ⟨.uint8, [0, 10]⟩ = .ok ⟨.uint8, [0, 7]⟩ ∧
      slice [14, 4294967283] [0, 7] ⟨.uint8, [0, 4294967290]⟩ = .ok ⟨.uint8, [0, 7]⟩ := by
  obtain ⟨hpads, htiles, hslices⟩ := regions_compose ⟨.uint8, [0, 4294967290]⟩
  obtain ⟨-, htiles', -⟩ := regions_compose ⟨.uint8, [2, 5]⟩
  have hsum : ∀ a b c d : Dim, a.toNat + c.toNat < 2 ^ 32 → b.toNat + d.toNat < 2 ^ 32 →
      ∀ i, entry [a, b] i + entry [c, d] i < 2 ^ 32 := by
    rintro a b c d hfirst hsecond (_ | _ | i)
    · exact hfirst
    · exact hsecond
    · exact Nat.two_pow_pos 32
  have hproduct : ∀ i, entry [3, 1] i * entry [2, 2] i < 2 ^ 32 := by
    rintro (_ | _ | i)
    · decide
    · decide
    · exact Nat.two_pow_pos 32
  have hslice : slice [9, 4294967280] [0, 10] ⟨.uint8, [0, 4294967290]⟩ =
      .ok ⟨.uint8, [0, 10]⟩ := by decide
  have hslice' : slice [5, 3] [0, 7] ⟨.uint8, [0, 10]⟩ = .ok ⟨.uint8, [0, 7]⟩ := by decide
  refine ⟨⟨by decide, ?_⟩, ⟨nofun, ?_⟩, ⟨by decide, ?_⟩, hslice, hslice', ?_⟩
  · exact hpads ⟨[1, 2], [0, 1], .edge⟩ ⟨[0, 1], [2, 1], .constant⟩ ⟨.inr rfl, rfl, rfl⟩
      ⟨.inl rfl, rfl, rfl⟩ (hsum _ _ _ _ (by decide) (by decide))
      (hsum _ _ _ _ (by decide) (by decide))
  · exact htiles [3, 1] [2, 2] rfl rfl (by decide) (by decide) hproduct
  · exact htiles' [3, 1] [2, 2] rfl rfl (by decide) (by decide) hproduct
  · exact hslices [9, 4294967280] [0, 10] [5, 3] [0, 7] _ _ hslice hslice'
      (hsum _ _ _ _ (by decide) (by decide))

end TensorTyping
