import Mathlib
import TensorTyping.Layout
import TensorTyping.Proofs.Inference

/-!
# Reading a shape by its layout, and writing it back

Every layout is a way to write four named sizes as a shape of four dimensions. Reading is the
inverse of writing, for each of the layouts.

* `FilterLayout.join`, `TransposedFilterLayout.join` — the shape of a filter.
* `ActivationLayout.split_eq_ok`, … — a shape of rank 4 is read as the sizes that it was written
  from.
* `ActivationLayout.join_injective`, … — different sizes are written as different shapes.
-/

namespace TensorTyping

theorem Shape.eq_of_length_four {s : Shape} (h : s.length = 4) : ∃ a b c d, s = [a, b, c, d] := by
  match s, h with
  | [a, b, c, d], _ => exact ⟨a, b, c, d, rfl⟩

/-- A reading that takes every written shape back to its sizes is the inverse of the writing. -/
theorem Shape.read_eq_ok {α : Type} {read : Shape → Infer α} {write : α → Shape} {s : Shape} {a : α}
    (hread : ∀ a, read (write a) = .ok a) (hs : ∃ a, s = write a) :
    read s = .ok a ↔ s = write a := by
  obtain ⟨b, rfl⟩ := hs
  constructor
  · intro h
    rw [hread, Except.ok.injEq] at h
    rw [h]
  · intro h
    rw [h, hread]

/-- Sizes that can be read back are written as different shapes when they differ. -/
theorem Shape.write_injective {α : Type} {read : Shape → Infer α} {write : α → Shape}
    (hread : ∀ a, read (write a) = .ok a) : Function.Injective write := by
  intro a b h
  have hb := hread b
  rw [← h, hread] at hb
  exact Except.ok.inj hb

namespace ActivationLayout

variable (layout : ActivationLayout) {s : Shape} {x : Activation}

@[simp] theorem length_join : (layout.join x).length = 4 := by
  cases layout <;> rfl

@[simp] theorem split_join : layout.split (layout.join x) = .ok x := by
  cases layout <;> rfl

theorem exists_join (h : s.length = 4) : ∃ x, s = layout.join x := by
  obtain ⟨a, b, c, d, rfl⟩ := Shape.eq_of_length_four h
  cases layout with
  | nchw => exact ⟨⟨a, b, c, d⟩, rfl⟩
  | nhwc => exact ⟨⟨a, d, b, c⟩, rfl⟩

theorem split_eq_ok (h : s.length = 4) : layout.split s = .ok x ↔ s = layout.join x :=
  Shape.read_eq_ok (fun _ => layout.split_join) (layout.exists_join h)

theorem join_injective : Function.Injective layout.join :=
  Shape.write_injective fun _ => layout.split_join

end ActivationLayout

/-- Writes the shape of a convolution's filter by the layout. -/
def FilterLayout.join (layout : FilterLayout) (f : Filter) : Shape :=
  match layout with
  | oihw => [f.outputChannels, f.inputChannels, f.height, f.width]
  | hwio => [f.height, f.width, f.inputChannels, f.outputChannels]
  | ohwi => [f.outputChannels, f.height, f.width, f.inputChannels]
  | ihwo => [f.inputChannels, f.height, f.width, f.outputChannels]

namespace FilterLayout

variable (layout : FilterLayout) {s : Shape} {f : Filter}

@[simp] theorem length_join : (layout.join f).length = 4 := by
  cases layout <;> rfl

@[simp] theorem split_join : layout.split (layout.join f) = .ok f := by
  cases layout <;> rfl

theorem exists_join (h : s.length = 4) : ∃ f, s = layout.join f := by
  obtain ⟨a, b, c, d, rfl⟩ := Shape.eq_of_length_four h
  cases layout with
  | oihw => exact ⟨⟨b, a, c, d⟩, rfl⟩
  | hwio => exact ⟨⟨c, d, a, b⟩, rfl⟩
  | ohwi => exact ⟨⟨d, a, b, c⟩, rfl⟩
  | ihwo => exact ⟨⟨a, d, b, c⟩, rfl⟩

theorem split_eq_ok (h : s.length = 4) : layout.split s = .ok f ↔ s = layout.join f :=
  Shape.read_eq_ok (fun _ => layout.split_join) (layout.exists_join h)

theorem join_injective : Function.Injective layout.join :=
  Shape.write_injective fun _ => layout.split_join

end FilterLayout

/-- Writes the shape of a transposed convolution's filter by the layout. -/
def TransposedFilterLayout.join (layout : TransposedFilterLayout) (f : Filter) : Shape :=
  match layout with
  | iohw => [f.inputChannels, f.outputChannels, f.height, f.width]
  | hwoi => [f.height, f.width, f.outputChannels, f.inputChannels]
  | ohwi => [f.outputChannels, f.height, f.width, f.inputChannels]

namespace TransposedFilterLayout

variable (layout : TransposedFilterLayout) {s : Shape} {f : Filter}

@[simp] theorem length_join : (layout.join f).length = 4 := by
  cases layout <;> rfl

@[simp] theorem split_join : layout.split (layout.join f) = .ok f := by
  cases layout <;> rfl

theorem exists_join (h : s.length = 4) : ∃ f, s = layout.join f := by
  obtain ⟨a, b, c, d, rfl⟩ := Shape.eq_of_length_four h
  cases layout with
  | iohw => exact ⟨⟨a, b, c, d⟩, rfl⟩
  | hwoi => exact ⟨⟨d, c, a, b⟩, rfl⟩
  | ohwi => exact ⟨⟨d, a, b, c⟩, rfl⟩

theorem split_eq_ok (h : s.length = 4) : layout.split s = .ok f ↔ s = layout.join f :=
  Shape.read_eq_ok (fun _ => layout.split_join) (layout.exists_join h)

theorem join_injective : Function.Injective layout.join :=
  Shape.write_injective fun _ => layout.split_join

end TransposedFilterLayout

end TensorTyping
