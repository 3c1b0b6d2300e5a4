import TensorTyping.Number.Double
import TensorTyping.Attribute.Kind

/-!
# Causes of rejection

A request that breaks a rule is rejected for one cause. The causes carry what their messages show;
all wording is in this module.

* `Category` — the six categories of causes, and the heading of each in messages.
* `BroadcastFailure`, `Overflow` — why two shapes do not broadcast, and which magnitude left its
  range.
* `Cause` — the rule that was broken; `Cause.category`, `Cause.reason`, `Cause.message`.
-/

namespace TensorTyping

/-- The category of a cause. -/
inductive Category where
  | rankMismatch
  | typeMismatch
  | incompatibleShape
  | invalidAttribute
  | outOfBounds
  | overflow
  deriving DecidableEq

namespace Category

/-- The words with which messages of the category begin. -/
def heading : Category → String
  | rankMismatch => "rank mismatch"
  | typeMismatch => "type mismatch"
  | incompatibleShape => "incompatible shape"
  | invalidAttribute => "invalid attribute"
  | outOfBounds => "out of bounds"
  | overflow => "arithmetic overflow"

/-- A reason under the heading of its category. -/
def message (category : Category) (reason : String) : String :=
  category.heading ++ ": " ++ reason

end Category

/-! ## Broadcasting -/

/-- Which of two shapes may stretch its axes of size 1. -/
inductive Direction where
  /-- Either shape may stretch. -/
  | bidirectional
  /-- Only the first shape may stretch into the second. -/
  | unidirectional
  deriving DecidableEq

/-- The word for the direction in messages. -/
def Direction.adverb : Direction → String
  | .bidirectional => "bidirectionally"
  | .unidirectional => "unidirectionally"

/-- Why two shapes do not broadcast. -/
inductive BroadcastFailure where
  /-- The first shape has more axes than the second, into which it should stretch. -/
  | lowerRank (lhs rhs : Shape)
  /-- Two aligned dimensions differ and none may stretch; `place` counts axes from the end. -/
  | clash (direction : Direction) (lhs rhs : Shape) (place : Nat) (left right : Dim)
  deriving DecidableEq

def BroadcastFailure.reason : BroadcastFailure → String
  | .lowerRank lhs rhs =>
    s!"Shape {describe lhs} cannot be broadcast to lower-rank shape {describe rhs}"
  | .clash direction lhs rhs place left right =>
    s!"Shape {describe lhs} is not {direction.adverb} broadcastable with {describe rhs} " ++
      s!"(axis -{place} incompatible: {left} vs {right})"

/-- For what two shapes are broadcast. -/
inductive BroadcastUse where
  | plain
  | matmulBatch
  | gemmAddend
  | preluSlope
  | expansion (input target : Shape)
  deriving DecidableEq

/-- The words that the use puts before the reason of a failure. -/
def BroadcastUse.introduction : BroadcastUse → String
  | .plain => ""
  | .matmulBatch => "Matmul batch dimensions are not broadcastable: "
  | .gemmAddend => "Gemm C operand is not unidirectionally broadcastable to the output: "
  | .preluSlope => "PReLU slope is not broadcastable to input: "
  | .expansion input target =>
    s!"Expand input shape {describe input} cannot expand to {describe target}: "

/-! ## Magnitudes out of range -/

/-- The magnitude that left its range. -/
inductive Overflow where
  | operandBytes (dataType : DataType) (shape : Shape)
  | effectiveWindow (operator : String) (window dilation : Dim)
  | positions (operator : String) (positions : Rat)
  | samePadding (input window stride dilation : Dim)
  | transposedPadding (input window stride dilation outputPadding : Dim)
  | transposedSize (input window stride dilation : Dim) (padding : AxisPadding)
  | transposedBound (axis : String) (computed stride : Dim)
  | transposedChannels (channels groups : Dim)
  | concatAxis (axis : Dim)
  | splitSizes (sizes : List Dim)
  | sliceEnd (start size : Dim) (axis : Nat)
  | paddedSize (axis : Nat) (dim beginning ending : Dim)
  | tiledSize (dim repetitions : Dim)
  | reshapeInput (shape : Shape)
  | reshapeTarget (shape : Shape)
  | scaledSize (axis size : Dim) (scale : Single)
  /-- A magnitude that only its context names. -/
  | context (text : String)
  deriving DecidableEq

def Overflow.reason : Overflow → String
  | operandBytes dataType shape =>
    s!"operand {describe dataType} {describe shape} has a byte length that overflows"
  | effectiveWindow operator window dilation =>
    s!"{operator} effective window size is too large (window {window}, dilation {dilation})"
  | positions operator size =>
    s!"{operator}: output size {Double.text size} does not fit in 32 bits"
  | samePadding input window stride dilation =>
    s!"Padding for input size {input} with filter size {window}, stride {stride} and " ++
      s!"dilation {dilation} overflows"
  | transposedPadding input window stride dilation outputPadding =>
    s!"Transposed padding for input size {input} with filter size {window}, stride {stride}, " ++
      s!"dilation {dilation} and output padding {outputPadding} overflows"
  | transposedSize input window stride dilation padding =>
    s!"ConvTranspose2d output size for input size {input} with filter size {window}, " ++
      s!"stride {stride}, dilation {dilation} and padding " ++
      s!"[{padding.beginning}, {padding.ending}] is invalid"
  | transposedBound axis computed stride =>
    s!"ConvTranspose2d output {axis} bound {computed} + {stride} overflows"
  | transposedChannels channels groups =>
    s!"ConvTranspose2d output channels {channels} * groups {groups} overflows"
  | concatAxis axis =>
    s!"Concat size along axis {axis} overflows"
  | splitSizes sizes =>
    s!"Split sizes {describe sizes} sum overflows"
  | sliceEnd start size axis =>
    s!"Slice end (start {start} + size {size}) for dimension {axis} overflows"
  | paddedSize axis dim beginning ending =>
    s!"Pad dimension {axis} size {dim} + {beginning} + {ending} overflows"
  | tiledSize dim repetitions =>
    s!"Tile dimension {dim} x {repetitions} overflows"
  | reshapeInput shape =>
    s!"Reshape input shape {describe shape} element count overflows"
  | reshapeTarget shape =>
    s!"Reshape new shape {describe shape} element count overflows"
  | scaledSize axis size scale =>
    s!"Resample2d axis {axis} of size {size} scaled by {scale.text} exceeds u32::MAX"
  | context text => text

/-! ## Causes -/

/-- The rule that a request broke. -/
inductive Cause where
  -- operands
  | rank (subject : String) (expected : Nat) (shape : Shape)
  | notFloatingPoint (subject : String) (found : DataType)
  | typeDiffers (subject : String) (found expected : DataType)
  | indexType (found : DataType)
  | overflow (magnitude : Overflow)
  -- axes and shapes
  | axisOutOfRange (operator : String) (axis : Dim) (rank : Nat)
  | axisRepeated (operator : String) (axes : List Dim) (axis : Dim)
  | broadcast (use : BroadcastUse) (failure : BroadcastFailure)
  | attributeLength (operator list : String) (length : Nat) (shape : Shape)
  -- windows
  | notPositive (subject : String) (size : Size2d Dim)
  | windowTooLarge (operator : String) (padded : Rat) (window : Dim)
  | zeroGroups (operator : String)
  | indivisibleChannels (operator : String) (channels groups : Dim)
  | filterChannels (found channels groups : Dim)
  | transposedFilterChannels (found channels : Dim)
  | biasLength (operator : String) (length channels : Dim)
  | outputPadding (padding strides : Size2d Dim)
  | zeroOutput (axis : String)
  | outputOutOfRange (axis : String) (requested computed bound : Dim)
  | poolSizes (kind : PoolKind) (requested floor ceil : Size2d Dim)
  -- matrices
  | matmulRank (a b : Shape)
  | matmulInner (columns rows : Dim) (a b : Shape)
  | gemmInner (aTranspose : Bool) (m kA : Dim) (bTranspose : Bool) (kB n : Dim)
  -- normalization
  | featureLength (subject : String) (length feature : Dim)
  | normalizedShape (subject : String) (found expected : Shape) (axes : List Dim)
  -- structure
  | noInputs
  | concatRank (index found expected : Nat)
  | concatDim (index axis : Nat) (found expected : Dim)
  | splitZeroCount
  | splitCount (count size : Dim) (shape : Shape)
  | splitUneven (count size : Dim) (shape : Shape)
  | splitEmptyPart (sizes : List Dim)
  | splitSum (sizes : List Dim) (total size : Dim) (shape : Shape)
  | sliceStart (start : Dim) (axis : Nat) (dim : Dim)
  | sliceEnd (stop start size : Dim) (axis : Nat) (dim : Dim)
  | padTooLarge (mode : PadMode) (beginning ending : Dim) (axis : Nat) (dim : Dim)
  | elementCounts (shape : Shape) (count : Nat) (target : Shape) (targetCount : Nat)
  | zeroRepetition (repetitions : List Dim)
  -- resampling
  | resampleAxes (axes : List Dim)
  | scale (factor : Single) (axis : Dim)
  | emptyScaled (axis size : Dim) (factor : Single)
  deriving DecidableEq

namespace Cause

/-- The category of a cause. -/
def category : Cause → Category
  | rank .. | matmulRank .. | concatRank .. => .rankMismatch
  | notFloatingPoint .. | typeDiffers .. | indexType .. => .typeMismatch
  | overflow .. => .overflow
  | sliceStart .. | sliceEnd .. => .outOfBounds
  | broadcast .. | windowTooLarge .. | indivisibleChannels .. | filterChannels ..
  | transposedFilterChannels .. | biasLength .. | matmulInner .. | gemmInner .. | featureLength ..
  | normalizedShape .. | concatDim .. | splitUneven .. | splitSum .. | elementCounts .. =>
    .incompatibleShape
  | axisOutOfRange .. | axisRepeated .. | attributeLength .. | notPositive .. | zeroGroups ..
  | outputPadding .. | zeroOutput .. | outputOutOfRange .. | poolSizes .. | noInputs
  | splitZeroCount | splitCount .. | splitEmptyPart .. | padTooLarge .. | zeroRepetition ..
  | resampleAxes .. | scale .. | emptyScaled .. => .invalidAttribute

/-- The mark of a transposed matrix in messages. -/
def transposeMark (transposed : Bool) : String :=
  if transposed then "^T" else ""

/-- The text of a cause, without the heading of its category. -/
def reason : Cause → String
  | rank subject expected shape =>
    s!"{subject} must be {expected}-D, got shape {describe shape}"
  | notFloatingPoint subject found =>
    s!"{subject} must be a floating point type, got {describe found}"
  | typeDiffers subject found expected =>
    s!"{subject} type {describe found} doesn't match {describe expected}"
  | indexType found =>
    s!"Gather indices must be int32, uint32 or int64, got {describe found}"
  | overflow magnitude => magnitude.reason
  | axisOutOfRange operator axis axes =>
    s!"{operator} axis {axis} out of bounds for rank {axes}"
  | axisRepeated operator axes axis =>
    s!"{operator} axes {describe axes} contain duplicate axis {axis}"
  | broadcast use failure => use.introduction ++ failure.reason
  | attributeLength operator list length shape =>
    s!"{operator} {list} length {length} must match input rank {shape.length}, " ++
      s!"input shape: {describe shape}"
  | notPositive subject size =>
    s!"{subject} must be > 0, got {size.bracketed}"
  | windowTooLarge operator padded window =>
    s!"{operator}: padded input size {Double.text padded} is smaller than effective window " ++
      s!"size {window}"
  | zeroGroups operator =>
    s!"{operator} groups must be > 0"
  | indivisibleChannels operator channels groups =>
    s!"{operator} input channels {channels} must be divisible by groups {groups}"
  | filterChannels found channels groups =>
    s!"Conv2d filter input channels {found} must equal input channels {channels} / " ++
      s!"groups {groups}"
  | transposedFilterChannels found channels =>
    s!"ConvTranspose2d filter input channels {found} must equal input channels {channels}"
  | biasLength operator length channels =>
    s!"{operator} bias length {length} must equal output channels {channels}"
  | outputPadding padding strides =>
    s!"ConvTranspose2d output padding {padding.bracketed} must be smaller than strides " ++
      strides.bracketed
  | zeroOutput axis =>
    s!"ConvTranspose2d output {axis} must be > 0"
  | outputOutOfRange axis requested computed bound =>
    s!"ConvTranspose2d output {axis} {requested} must be in [{computed}, {bound})"
  | poolSizes kind requested floor ceil =>
    let lead := s!"{kind.operator} output sizes {requested.bracketed} must be "
    if floor = ceil then lead ++ floor.bracketed
    else lead ++ s!"either {floor.bracketed} or {ceil.bracketed}"
  | matmulRank a b =>
    s!"Matmul requires at least 2D tensors, got shapes {describe a} and {describe b}"
  | matmulInner columns rows a b =>
    s!"Matmul columns of first input ({columns}) must equal rows of second input ({rows}), " ++
      s!"shapes {describe a} and {describe b}"
  | gemmInner aTranspose m kA bTranspose kB n =>
    s!"Gemm inner dimensions must match: A{transposeMark aTranspose}[M={m}, K={kA}] x " ++
      s!"B{transposeMark bTranspose}[K={kB}, N={n}]"
  | featureLength subject length feature =>
    s!"{subject} length {length} must equal the input's feature size {feature}"
  | normalizedShape subject found expected axes =>
    s!"{subject} shape {describe found} must equal the input's sizes {describe expected} " ++
      s!"along axes {describe axes}"
  | noInputs => "Concat requires at least one input"
  | concatRank index found expected =>
    s!"Concat input {index} has rank {found} but expected rank {expected}"
  | concatDim index axis found expected =>
    s!"Concat input {index} dimension {axis} is {found} but expected {expected} " ++
      "(all non-concat dimensions must match)"
  | splitZeroCount => "Split count must be > 0"
  | splitCount count size shape =>
    s!"Split count {count} exceeds axis size {size}, input shape: {describe shape}"
  | splitUneven count size shape =>
    s!"Split count {count} does not evenly divide axis size {size}, " ++
      s!"input shape: {describe shape}"
  | splitEmptyPart sizes =>
    s!"Split sizes {describe sizes} must be non-empty and each > 0"
  | splitSum sizes total size shape =>
    s!"Split sizes {describe sizes} sum to {total} but axis size is {size}, " ++
      s!"input shape: {describe shape}"
  | sliceStart start axis dim =>
    s!"Slice start {start} for dimension {axis} exceeds input dimension size {dim}"
  | sliceEnd stop start size axis dim =>
    s!"Slice end {stop} (start {start} + size {size}) for dimension {axis} exceeds input " ++
      s!"dimension size {dim}"
  | padTooLarge mode beginning ending axis dim =>
    s!"Pad {describe mode} padding [{beginning}, {ending}] for dimension {axis} is too large " ++
      s!"for size {dim}"
  | elementCounts shape count target targetCount =>
    s!"Reshape element count mismatch: input shape {describe shape} has {count} elements, " ++
      s!"new shape {describe target} has {targetCount}"
  | zeroRepetition repetitions =>
    s!"Tile repetitions {describe repetitions} must each be > 0"
  | resampleAxes axes =>
    s!"Resample2d axes {describe axes} must be one of [[0, 1], [1, 2], [2, 3]]"
  | scale factor axis =>
    s!"Resample2d scale {factor.text} for axis {axis} must be finite and > 0"
  | emptyScaled axis size factor =>
    s!"Resample2d axis {axis} of size {size} scaled by {factor.text} is empty"

/-- The text of a cause under the heading of its category. -/
def message (cause : Cause) : String :=
  cause.category.message cause.reason

end Cause

end TensorTyping
