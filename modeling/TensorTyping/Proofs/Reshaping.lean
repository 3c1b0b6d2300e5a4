import Mathlib
import TensorTyping.Proofs.Reductions

/-!
# Reshaping as an equivalence

A reshape counts the elements of two shapes from the outermost axis in, and then the bytes of its
output. It does not ask whether the bytes of the input can be counted, but they can: they are those
of the output. So the operands that can be counted fall into classes, one for each type and number
of elements, and a reshape reaches every member of its class and nothing else.

* `Operand.SameElements` — operands that can be counted, of one type and with as many elements.
* `reshape_iff_sameElements` — a reshape leads exactly to such operands.
* `reshape_equivalence` — so reshapes can be undone, and two of them are one.
-/

namespace TensorTyping

namespace Operand

variable {x y z : Operand}

/-- Both operands can be counted, and they have as many elements of one type. -/
structure SameElements (x y : Operand) : Prop where
  source : x.Sized
  target : y.Sized
  dataType : x.dataType = y.dataType
  elements : x.shape.elements = y.shape.elements

/-- The sizes of an operand that can be counted. -/
theorem Sized.counts (h : x.Sized) :
    x.elementCount = some x.shape.elements ∧
      x.byteLength = some (x.shape.elements * x.dataType.bytes) := by
  obtain ⟨hbytes, hleading⟩ := sized_iff.mp h
  exact ⟨elementCount_eq_some.mpr ⟨rfl, hleading⟩,
    byteLength_eq_some.mpr ⟨rfl, hbytes, hleading⟩⟩

namespace SameElements

theorem refl (h : x.Sized) : x.SameElements x :=
  ⟨h, h, rfl, rfl⟩

theorem symm (h : x.SameElements y) : y.SameElements x :=
  ⟨h.target, h.source, h.dataType.symm, h.elements.symm⟩

theorem trans (h : x.SameElements y) (h' : y.SameElements z) : x.SameElements z :=
  ⟨h.source, h'.target, h.dataType.trans h'.dataType, h.elements.trans h'.elements⟩

/-- Elements and bytes of both operands are counted as the same numbers. -/
theorem exists_counts (h : x.SameElements y) :
    ∃ count bytes, x.elementCount = some count ∧ y.elementCount = some count ∧
      x.byteLength = some bytes ∧ y.byteLength = some bytes := by
  obtain ⟨hcount, hbytes⟩ := h.source.counts
  obtain ⟨hcount', hbytes'⟩ := h.target.counts
  rw [← h.elements] at hcount' hbytes'
  rw [← h.dataType] at hbytes'
  exact ⟨_, _, hcount, hcount', hbytes, hbytes'⟩

end SameElements

end Operand

variable {x y : Operand} {target : Shape}

/-- A reshape leads to the operand of the target shape that has the elements of its input. -/
theorem reshape_iff_sameElements :
    reshape target x = .ok y ↔ y.shape = target ∧ x.SameElements y := by
  rw [reshape_eq_ok]
  constructor
  · rintro ⟨hleading, helements, rfl, hsized⟩
    -- the bytes of the input are those of the output, which were counted
    have hbytes : x.shape.elements * x.dataType.bytes < Width.count.limit := by
      rw [helements]
      exact (Operand.sized_iff.mp hsized).1
    exact ⟨rfl, Operand.sized_iff.mpr ⟨hbytes, hleading⟩, hsized, rfl, helements⟩
  · rintro ⟨rfl, h⟩
    have hy : y = ⟨x.dataType, y.shape⟩ := by rw [h.dataType]
    exact ⟨(Operand.sized_iff.mp h.source).2, h.elements, hy, h.target⟩

/-- Two operands are a reshape apart exactly when they have the same elements. -/
theorem reshape_shape_iff : reshape y.shape x = .ok y ↔ x.SameElements y :=
  reshape_iff_sameElements.trans (and_iff_right rfl)

/-- **Reshaping is an equivalence on the operands that can be counted.** A reshape that succeeds
leads from such an operand to another one, with the same counts of elements and bytes and of the
same type; it is undone by a reshape to the shape it came from, and a reshape of its output is one
of its input. An operand is its own reshape exactly when it can be counted. -/
theorem reshape_equivalence :
    (∀ (x y : Operand) (s : Shape), reshape s x = .ok y →
      x.Sized ∧ y.Sized ∧
        (∃ count bytes, x.elementCount = some count ∧ y.elementCount = some count ∧
          x.byteLength = some bytes ∧ y.byteLength = some bytes) ∧
        y.dataType = x.dataType ∧ y.shape = s ∧ reshape x.shape y = .ok x ∧
        ∀ (t : Shape) (z : Operand), reshape t y = .ok z → reshape t x = .ok z) ∧
    (∀ x : Operand, reshape x.shape x = .ok x ↔ x.Sized) ∧
    Equivalence fun x y : { x : Operand // x.Sized } => reshape y.1.shape x.1 = .ok y.1 := by
  refine ⟨fun x y s hy => ?_, fun x => ?_, ?_⟩
  · obtain ⟨hshape, h⟩ := reshape_iff_sameElements.mp hy
    refine ⟨h.source, h.target, h.exists_counts, h.dataType.symm, hshape,
      reshape_shape_iff.mpr h.symm, fun t z hz => ?_⟩
    obtain ⟨hshape', h'⟩ := reshape_iff_sameElements.mp hz
    exact reshape_iff_sameElements.mpr ⟨hshape', h.trans h'⟩
  · rw [reshape_shape_iff]
    exact ⟨fun h => h.source, .refl⟩
  · simp only [reshape_shape_iff]
    exact ⟨fun x => .refl x.2, .symm, .trans⟩

/-- An empty tensor whose axes could not be counted with the zero at their end. It can be reshaped,
and what it is reshaped to can be reshaped back, but not to that other order of its axes. -/
theorem reshape_equivalence_empty :
    reshape [5, 0] ⟨.int64, [0, 4294967295, 4294967295, 4294967295]⟩ = .ok ⟨.int64, [5, 0]⟩ ∧
      reshape [0, 4294967295, 4294967295, 4294967295] ⟨.int64, [5, 0]⟩ =
        .ok ⟨.int64, [0, 4294967295, 4294967295, 4294967295]⟩ ∧
      reshape [0] ⟨.int64, [0, 4294967295, 4294967295, 4294967295]⟩ = .ok ⟨.int64, [0]⟩ ∧
      reshape [4294967295, 4294967295, 4294967295, 0]
        ⟨.int64, [4294967295, 4294967295, 4294967295, 0]⟩ ≠
          .ok ⟨.int64, [4294967295, 4294967295, 4294967295, 0]⟩ := by
  have hfirst : reshape [5, 0] ⟨.int64, [0, 4294967295, 4294967295, 4294967295]⟩ =
      .ok ⟨.int64, [5, 0]⟩ := by decide
  have hsecond : reshape [0] ⟨.int64, [5, 0]⟩ = .ok ⟨.int64, [0]⟩ := by decide
  obtain ⟨-, -, -, -, -, hback, hon⟩ := reshape_equivalence.1 _ _ _ hfirst
  refine ⟨hfirst, hback, hon _ _ hsecond, fun h => ?_⟩
  exact absurd ((reshape_equivalence.2.1 _).mp h) (by decide)

end TensorTyping
