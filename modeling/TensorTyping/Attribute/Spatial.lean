import TensorTyping.Operand

/-!
# Spatial attributes

The attributes that the operators over two spatial axes share.

* `Size2d` — a pair for height and width.
* `AxisPadding`, `Padding2d` — padding along one axis and along both.
* `AutoPad`, `Padding` — the two automatic policies, and the choice of a padding.
* `ActivationLayout`, `FilterLayout`, `TransposedFilterLayout` — the order of the four axes.
-/

namespace TensorTyping

/-- A pair of values, one for each spatial axis. -/
structure Size2d (α : Type) where
  height : α
  width : α
  deriving DecidableEq

instance {α : Type} [Describe α] : Describe (Size2d α) where
  describe s := describeRecord "Size2d"
    [("height", describe s.height), ("width", describe s.width)]

/-- The pair as a list in messages. -/
def Size2d.bracketed {α : Type} [Describe α] (s : Size2d α) : String :=
  describe [s.height, s.width]

/-- The cells added at the two ends of one axis. -/
structure AxisPadding where
  beginning : Dim
  ending : Dim
  deriving DecidableEq

instance : Describe AxisPadding where
  describe p := describeRecord "PaddingSizes"
    [("beginning", describe p.beginning), ("ending", describe p.ending)]

/-- The cells added at the beginnings and at the ends of both spatial axes. -/
structure Padding2d where
  beginning : Size2d Dim
  ending : Size2d Dim
  deriving DecidableEq

namespace Padding2d

/-- Joins the paddings of the two axes. -/
def ofAxes (height width : AxisPadding) : Padding2d where
  beginning := ⟨height.beginning, width.beginning⟩
  ending := ⟨height.ending, width.ending⟩

def height (p : Padding2d) : AxisPadding :=
  ⟨p.beginning.height, p.ending.height⟩

def width (p : Padding2d) : AxisPadding :=
  ⟨p.beginning.width, p.ending.width⟩

end Padding2d

instance : Describe Padding2d where
  describe p := describeRecord "Padding2d"
    [("beginning", describe p.beginning), ("ending", describe p.ending)]

/-- Which end of an axis takes the odd cell of an automatic padding. -/
inductive AutoPad where
  /-- The odd cell goes to the end. -/
  | sameUpper
  /-- The odd cell goes to the beginning. -/
  | sameLower
  deriving DecidableEq

instance : Tagged AutoPad where
  all := [.sameUpper, .sameLower]
  tag
    | .sameUpper => "same_upper"
    | .sameLower => "same_lower"
  title
    | .sameUpper => "SameUpper"
    | .sameLower => "SameLower"

/-- The choice of a padding for both spatial axes. -/
inductive Padding where
  /-- The given padding. -/
  | explicit (padding : Padding2d)
  /-- Padding computed from the input, the window, the stride and the dilation. -/
  | auto (policy : AutoPad)
  deriving DecidableEq

instance : Describe Padding where
  describe
    | .explicit p => describeVariant "Explicit" (describe p)
    | .auto p => describeVariant "Auto" (describe p)

/-- The order of the axes of an activation. -/
inductive ActivationLayout where
  /-- Batches, channels, height, width. -/
  | nchw
  /-- Batches, height, width, channels. -/
  | nhwc
  deriving DecidableEq

instance : Tagged ActivationLayout where
  all := [.nchw, .nhwc]
  tag
    | .nchw => "nchw"
    | .nhwc => "nhwc"
  title
    | .nchw => "Nchw"
    | .nhwc => "Nhwc"

/-- The order of the axes of a convolution's filter. -/
inductive FilterLayout where
  /-- Output channels, input channels of a group, height, width. -/
  | oihw
  /-- Height, width, input channels of a group, output channels. -/
  | hwio
  /-- Output channels, height, width, input channels of a group. -/
  | ohwi
  /-- Input channels of a group, height, width, output channels. -/
  | ihwo
  deriving DecidableEq

instance : Tagged FilterLayout where
  all := [.oihw, .hwio, .ohwi, .ihwo]
  tag
    | .oihw => "oihw"
    | .hwio => "hwio"
    | .ohwi => "ohwi"
    | .ihwo => "ihwo"
  title
    | .oihw => "Oihw"
    | .hwio => "Hwio"
    | .ohwi => "Ohwi"
    | .ihwo => "Ihwo"

/-- The order of the axes of a transposed convolution's filter. -/
inductive TransposedFilterLayout where
  /-- Input channels, output channels of a group, height, width. -/
  | iohw
  /-- Height, width, output channels of a group, input channels. -/
  | hwoi
  /-- Output channels of a group, height, width, input channels. -/
  | ohwi
  deriving DecidableEq

instance : Tagged TransposedFilterLayout where
  all := [.iohw, .hwoi, .ohwi]
  tag
    | .iohw => "iohw"
    | .hwoi => "hwoi"
    | .ohwi => "ohwi"
  title
    | .iohw => "Iohw"
    | .hwoi => "Hwoi"
    | .ohwi => "Ohwi"

end TensorTyping
