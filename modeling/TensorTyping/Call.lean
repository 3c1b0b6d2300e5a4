import TensorTyping.Operator.TransposedConvolution
import TensorTyping.Operator.Pooling
import TensorTyping.Operator.Matrix
import TensorTyping.Operator.Elementwise
import TensorTyping.Operator.Normalization
import TensorTyping.Operator.Reduction
import TensorTyping.Operator.Joining
import TensorTyping.Operator.Region
import TensorTyping.Operator.Arrangement
import TensorTyping.Operator.Resampling

/-!
# Operator calls

A call is an operator with its attributes and operands.

* `Call` — one constructor for each operator.
* `Call.operands` — every operand that a call is given.
* `Call.infer` — the outputs, with the events on the way.
-/

namespace TensorTyping

/-- An operator with its attributes and operands. -/
inductive Call where
  | convolution (attributes : Convolution) (input filter : Operand)
  | transposedConvolution (attributes : TransposedConvolution) (input filter : Operand)
  | pooling (attributes : Pooling) (input : Operand)
  | globalPooling (kind : PoolKind) (layout : ActivationLayout) (input : Operand)
  | matmul (a b : Operand)
  | gemm (attributes : Gemm) (a b : Operand)
  | batchNormalization (attributes : BatchNormalization) (input mean variance : Operand)
  | instanceNormalization (attributes : InstanceNormalization) (input : Operand)
  | layerNormalization (attributes : LayerNormalization) (input : Operand)
  | reduction (attributes : Reduction) (input : Operand)
  | argReduction (attributes : ArgReduction) (input : Operand)
  | binary (kind : BinaryKind) (a b : Operand)
  | select (condition trueValue falseValue : Operand)
  | prelu (input slope : Operand)
  | softmax (input : Operand)
  | concat (inputs : List Operand) (axis : Dim)
  | split (partition : Partition) (axis : Dim) (input : Operand)
  | slice (starts sizes : List Dim) (input : Operand)
  | pad (attributes : Pad) (input : Operand)
  | transpose (permutation : List Dim) (input : Operand)
  | gather (axis : Dim) (input indices : Operand)
  | reshape (target : Shape) (input : Operand)
  | expand (target : Shape) (input : Operand)
  | tile (repetitions : List Dim) (input : Operand)
  | resampling (attributes : Resampling) (input : Operand)
  deriving DecidableEq

namespace Call

/-- Every operand that a call is given, also inside its attributes. -/
def operands : Call → List Operand
  | convolution c input filter => [input, filter] ++ c.bias.toList
  | transposedConvolution c input filter => [input, filter] ++ c.bias.toList
  | matmul a b | binary _ a b => [a, b]
  | gemm g a b => [a, b] ++ g.addend.toList
  | batchNormalization n input mean variance =>
    [input, mean, variance] ++ n.scale.toList ++ n.bias.toList
  | instanceNormalization n input => input :: n.scale.toList ++ n.bias.toList
  | layerNormalization n input => input :: n.scale.toList ++ n.bias.toList
  | select condition trueValue falseValue => [condition, trueValue, falseValue]
  | prelu input slope => [input, slope]
  | concat inputs _ => inputs
  | gather _ input indices => [input, indices]
  | pooling _ input | globalPooling _ _ input | reduction _ input | argReduction _ input
  | softmax input | split _ _ input | slice _ _ input | pad _ input | transpose _ input
  | reshape _ input | expand _ input | tile _ input | resampling _ input => [input]

/-- An inference of one output. -/
private def single (x : Traced Operand) : Traced (List Operand) :=
  (fun output => [output]) <$> x

/-- The outputs of a call, in order. -/
def infer : Call → Traced (List Operand)
  | convolution c input filter => single (c.infer input filter)
  | transposedConvolution c input filter => single (c.infer input filter)
  | pooling p input => single (p.infer input)
  | globalPooling kind layout input => single (TensorTyping.globalPooling kind layout input)
  | matmul a b => single (TensorTyping.matmul a b)
  | gemm g a b => single (g.infer a b)
  | batchNormalization n input mean variance => single (n.infer input mean variance)
  | instanceNormalization n input => single (n.infer input)
  | layerNormalization n input => single (n.infer input)
  | reduction r input => single (r.infer input)
  | argReduction r input => single (r.infer input)
  | binary kind a b => single (kind.infer a b)
  | select condition trueValue falseValue =>
    single (TensorTyping.select condition trueValue falseValue)
  | prelu input slope => single (TensorTyping.prelu input slope)
  | softmax input => single (TensorTyping.softmax input)
  | concat inputs axis => single (TensorTyping.concat inputs axis)
  | split partition axis input => TensorTyping.split partition axis input
  | slice starts sizes input => single (TensorTyping.slice starts sizes input)
  | pad p input => single (p.infer input)
  | transpose permutation input => single (TensorTyping.transpose permutation input)
  | gather axis input indices => single (TensorTyping.gather axis input indices)
  | reshape target input => single (TensorTyping.reshape target input)
  | expand target input => single (TensorTyping.expand target input)
  | tile repetitions input => single (TensorTyping.tile repetitions input)
  | resampling r input => single (r.infer input)

end Call

end TensorTyping
