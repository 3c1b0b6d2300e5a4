import TensorTyping.Describe
import TensorTyping.Magnitude
import TensorTyping.Number.Rounding
import TensorTyping.Number.Decimal
import TensorTyping.Number.Double
import TensorTyping.Number.Single
import TensorTyping.DataType
import TensorTyping.Operand
import TensorTyping.Attribute.Spatial
import TensorTyping.Attribute.Kind
import TensorTyping.Cause
import TensorTyping.Infer
import TensorTyping.Magnitude.Steps
import TensorTyping.Event
import TensorTyping.Rule
import TensorTyping.Broadcast
import TensorTyping.Layout
import TensorTyping.Window
import TensorTyping.SamePadding
import TensorTyping.Operator.Convolution
import TensorTyping.Operator.TransposedConvolution
import TensorTyping.Operator.Pooling
import TensorTyping.Operator.Matrix
import TensorTyping.Operator.Elementwise
import TensorTyping.Operator.Normalization
import TensorTyping.Operator.Reduction
import TensorTyping.Operator.Joining
import TensorTyping.Operator.Region
import TensorTyping.Operator.Arrangement
import TensorTyping.Operator.Resampling
import TensorTyping.Call
import TensorTyping.Graph
import TensorTyping.Json.Value
import TensorTyping.Json.Reader
import TensorTyping.Json.Form
import TensorTyping.Proofs.Forms
import TensorTyping.Proofs.Inference
import TensorTyping.Proofs.Axes
import TensorTyping.Proofs.Rounding
import TensorTyping.Proofs.Magnitude
import TensorTyping.Proofs.ExactSteps
import TensorTyping.Proofs.Window
import TensorTyping.Proofs.Layout
import TensorTyping.Proofs.Convolution
import TensorTyping.Proofs.SamePadding
import TensorTyping.Proofs.TransposedConvolution
import TensorTyping.Proofs.TransposedSizes
import TensorTyping.Proofs.ConvolutionRecovery
import TensorTyping.Proofs.Broadcast
import TensorTyping.Proofs.OperandSize
import TensorTyping.Proofs.Joining
import TensorTyping.Proofs.SizeInvariant
import TensorTyping.Proofs.Faultless
import TensorTyping.Proofs.PositionCounts
import TensorTyping.Proofs.FaultlessCalls
import TensorTyping.Proofs.Agreement
import TensorTyping.Proofs.LayoutIndependence
import TensorTyping.Proofs.MatrixProduct
import TensorTyping.Proofs.GeneralProduct
import TensorTyping.Proofs.Selection
import TensorTyping.Proofs.PoolingSizes
import TensorTyping.Proofs.Slices
import TensorTyping.Proofs.JoiningOrder
import TensorTyping.Proofs.Regions
import TensorTyping.Proofs.Reductions
import TensorTyping.Proofs.Transposition
import TensorTyping.Proofs.Gathering
import TensorTyping.Proofs.GlobalPooling
import TensorTyping.Proofs.Reshaping
import TensorTyping.Proofs.Normalization
import TensorTyping.Proofs.Events
import TensorTyping.Proofs.Resampling
