import TensorTyping.Layout
import TensorTyping.Rule

/-!
# Normalization

A normalization keeps the type and shape of its input. Its rules are about the operands beside the
input: mean, variance, scale and bias.

* `BatchNormalization` — statistics are given for each entry of one axis.
* `InstanceNormalization` — scale and bias for each channel.
* `LayerNormalization` — scale and bias for the entries along several axes.
-/

namespace TensorTyping

/-- The operand beside the input has one entry for each feature. -/
def Operand.requireFeature (x : Operand) (dataType : DataType) (feature : Dim)
    (subject : String) : Infer Unit := do
  x.requireType dataType subject
  x.requireRank 1 subject
  let length ← x.shape.dim 0
  require (length = feature) (.featureLength subject length feature)

/-- The same of an operand that need not be given. -/
def requireOptionalFeature (x : Option Operand) (dataType : DataType) (feature : Dim)
    (subject : String) : Infer Unit :=
  match x with
  | none => return
  | some x => x.requireFeature dataType feature subject

/-- The attributes of a batch normalization. -/
structure BatchNormalization where
  scale : Option Operand
  bias : Option Operand
  /-- The axis of the features. -/
  axis : Dim
  deriving DecidableEq

def BatchNormalization.infer (n : BatchNormalization) (input mean variance : Operand) :
    Infer Operand := do
  input.requireFloatingPoint "BatchNormalization input"
  requireAxis "BatchNormalization" n.axis input.rank
  let feature ← input.shape.dim n.axis.toNat
  mean.requireFeature input.dataType feature "BatchNormalization mean"
  variance.requireFeature input.dataType feature "BatchNormalization variance"
  requireOptionalFeature n.scale input.dataType feature "BatchNormalization scale"
  requireOptionalFeature n.bias input.dataType feature "BatchNormalization bias"
  return input

/-- The attributes of an instance normalization. -/
structure InstanceNormalization where
  scale : Option Operand
  bias : Option Operand
  /-- Says which axis is that of the channels. -/
  layout : ActivationLayout
  deriving DecidableEq

def InstanceNormalization.infer (n : InstanceNormalization) (input : Operand) :
    Infer Operand := do
  input.requireRank 4 "InstanceNormalization input"
  input.requireFloatingPoint "InstanceNormalization input"
  let feature ← input.shape.dim n.layout.channelAxis
  requireOptionalFeature n.scale input.dataType feature "InstanceNormalization scale"
  requireOptionalFeature n.bias input.dataType feature "InstanceNormalization bias"
  return input

/-- The attributes of a layer normalization. -/
structure LayerNormalization where
  scale : Option Operand
  bias : Option Operand
  axes : List Dim
  deriving DecidableEq

namespace LayerNormalization

/-- An operand beside the input has the sizes of the input along the axes, in the order of the
axes. -/
def requireShape (axes : List Dim) (dataType : DataType) (expected : Shape) (subject : String)
    (x : Option Operand) : Infer Unit := do
  match x with
  | none => return
  | some x =>
    x.requireType dataType subject
    require (x.shape = expected) (.normalizedShape subject x.shape expected axes)

def infer (n : LayerNormalization) (input : Operand) : Infer Operand := do
  input.requireFloatingPoint "LayerNormalization input"
  requireAxes "LayerNormalization" n.axes input.rank
  let expected ← n.axes.mapM fun axis => input.shape.dim axis.toNat
  requireShape n.axes input.dataType expected "LayerNormalization scale" n.scale
  requireShape n.axes input.dataType expected "LayerNormalization bias" n.bias
  return input

end LayerNormalization

end TensorTyping
