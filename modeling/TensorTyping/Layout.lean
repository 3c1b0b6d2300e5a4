import TensorTyping.Infer

/-!
# Named axes of rank-4 shapes

A layout says which axis of a rank-4 shape is which. Reading a shape by its layout gives the sizes
by name, and an activation is written back by its layout.

* `Activation`, `ActivationLayout.split`, `ActivationLayout.join` — batches, channels, height,
  width.
* `Filter`, `FilterLayout.split`, `TransposedFilterLayout.split` — channels, height, width.
-/

namespace TensorTyping

/-- The sizes of an activation by name. -/
structure Activation where
  batches : Dim
  channels : Dim
  height : Dim
  width : Dim
  deriving DecidableEq

/-- The sizes of the two spatial axes. -/
def Activation.size (a : Activation) : Size2d Dim :=
  ⟨a.height, a.width⟩

namespace ActivationLayout

/-- Reads a shape by the layout. -/
def split (layout : ActivationLayout) (s : Shape) : Infer Activation := do
  match layout with
  | nchw => return ⟨← s.dim 0, ← s.dim 1, ← s.dim 2, ← s.dim 3⟩
  | nhwc => return ⟨← s.dim 0, ← s.dim 3, ← s.dim 1, ← s.dim 2⟩

/-- Writes a shape by the layout. -/
def join (layout : ActivationLayout) (a : Activation) : Shape :=
  match layout with
  | nchw => [a.batches, a.channels, a.height, a.width]
  | nhwc => [a.batches, a.height, a.width, a.channels]

/-- The place of the channels. -/
def channelAxis : ActivationLayout → Nat
  | nchw => 1
  | nhwc => 3

end ActivationLayout

/-- The sizes of a filter by name. One of the channel counts is that of a group. -/
structure Filter where
  inputChannels : Dim
  outputChannels : Dim
  height : Dim
  width : Dim
  deriving DecidableEq

/-- The sizes of the two spatial axes. -/
def Filter.size (f : Filter) : Size2d Dim :=
  ⟨f.height, f.width⟩

/-- Reads the shape of a convolution's filter by the layout. -/
def FilterLayout.split (layout : FilterLayout) (s : Shape) : Infer Filter := do
  match layout with
  | oihw => return ⟨← s.dim 1, ← s.dim 0, ← s.dim 2, ← s.dim 3⟩
  | hwio => return ⟨← s.dim 2, ← s.dim 3, ← s.dim 0, ← s.dim 1⟩
  | ohwi => return ⟨← s.dim 3, ← s.dim 0, ← s.dim 1, ← s.dim 2⟩
  | ihwo => return ⟨← s.dim 0, ← s.dim 3, ← s.dim 1, ← s.dim 2⟩

/-- Reads the shape of a transposed convolution's filter by the layout. -/
def TransposedFilterLayout.split (layout : TransposedFilterLayout) (s : Shape) : Infer Filter := do
  match layout with
  | iohw => return ⟨← s.dim 0, ← s.dim 1, ← s.dim 2, ← s.dim 3⟩
  | hwoi => return ⟨← s.dim 3, ← s.dim 2, ← s.dim 0, ← s.dim 1⟩
  | ohwi => return ⟨← s.dim 3, ← s.dim 0, ← s.dim 1, ← s.dim 2⟩

end TensorTyping
