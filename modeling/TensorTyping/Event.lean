import TensorTyping.Infer

/-!
# Events of an inference

The operators over two spatial axes leave a trace of what they computed, and of an explicit request
that they turned down.

* `Event` — what happened; `Event.level`, `Event.message`, `Event.fields` are its record.
* `Traced` — an inference together with its events, in order.
-/

namespace TensorTyping

/-- The two directions in which a window operator maps sizes. -/
inductive WindowKind where
  | convolution
  | transposedConvolution
  deriving DecidableEq

/-- How much attention an event asks for. -/
inductive Level where
  | trace
  | debug
  deriving DecidableEq

/-- One step of an inference that is put on record. -/
inductive Event where
  /-- The padding of one axis was computed. -/
  | paddingResolved (kind : WindowKind) (policy : AutoPad) (input total : Dim)
      (padding : AxisPadding)
  /-- The numbers of window positions of a convolution were computed. -/
  | convolutionSizes (positions : Size2d Rat) (padding : Padding2d)
  /-- The numbers of window positions of a pooling were computed. -/
  | poolingSizes (kind : PoolKind) (positions : Size2d Rat) (padding : Padding2d)
  /-- The size of an axis was scaled. -/
  | scaledSize (axis size : Dim) (scale : Single) (output : Rat)
  /-- The requested output sizes were turned down. -/
  | sizesRejected (operator : String) (cause : Cause)
  /-- The requested scales were turned down. -/
  | scalesRejected (operator : String) (cause : Cause)
  deriving DecidableEq

namespace Event

def level : Event → Level
  | paddingResolved .. | convolutionSizes .. | poolingSizes .. | scaledSize .. => .trace
  | sizesRejected .. | scalesRejected .. => .debug

def message : Event → String
  | paddingResolved .convolution .. => "resolved conv2d padding"
  | paddingResolved .transposedConvolution .. => "resolved convTranspose2d padding"
  | convolutionSizes .. => "conv2d output sizes"
  | poolingSizes kind .. => kind.operator ++ " output sizes"
  | scaledSize .. => "resample2d scaled size"
  | sizesRejected .. => "rejected explicit output sizes"
  | scalesRejected .. => "rejected scales"

/-- The record of an event: a text for each field. -/
def fields : Event → List (String × String)
  | paddingResolved _ policy input total padding =>
    [("auto_pad", describe policy), ("input_size", describe input),
      ("total_padding", describe total), ("padding", describe padding)]
  | convolutionSizes positions padding =>
    [("output_height", Double.image positions.height),
      ("output_width", Double.image positions.width), ("padding", describe padding)]
  | poolingSizes _ positions padding =>
    [("float_height", Double.image positions.height),
      ("float_width", Double.image positions.width), ("padding", describe padding)]
  | scaledSize axis size scale output =>
    [("axis", describe axis), ("size", describe size), ("scale", Double.image scale.value),
      ("output", Double.image output)]
  | sizesRejected operator cause | scalesRejected operator cause =>
    [("operator", operator), ("reason", cause.reason)]

end Event

/-- An inference with the events that it put on record. -/
structure Traced (α : Type) where
  events : List Event
  result : Infer α

namespace Traced

variable {α β : Type}

/-- A value without events. -/
protected def pure (a : α) : Traced α :=
  ⟨[], .ok a⟩

/-- Runs `f` on the value of `x`; the events of both are kept, those of `x` first. -/
protected def bind (x : Traced α) (f : α → Traced β) : Traced β :=
  match x.result with
  | .ok a =>
    let y := f a
    ⟨x.events ++ y.events, y.result⟩
  | .error failure => ⟨x.events, .error failure⟩

instance : Monad Traced where
  pure := Traced.pure
  bind := Traced.bind

/-- An inference that puts nothing on record. -/
def silent (x : Infer α) : Traced α :=
  ⟨[], x⟩

instance : MonadLift Infer Traced where
  monadLift := silent

/-- Puts one event on record. -/
def emit (event : Event) : Traced Unit :=
  ⟨[event], .ok ()⟩

/-! ## Result and events of a sequence -/

@[simp] theorem result_pure (a : α) : (pure a : Traced α).result = .ok a := rfl

@[simp] theorem events_pure (a : α) : (pure a : Traced α).events = [] := rfl

@[simp] theorem result_emit (event : Event) : (emit event).result = .ok () := rfl

@[simp] theorem events_emit (event : Event) : (emit event).events = [event] := rfl

@[simp] theorem result_silent (x : Infer α) : (silent x).result = x := rfl

@[simp] theorem events_silent (x : Infer α) : (silent x).events = [] := rfl

@[simp] theorem result_liftM (x : Infer α) : (liftM x : Traced α).result = x := rfl

@[simp] theorem events_liftM (x : Infer α) : (liftM x : Traced α).events = [] := rfl

/-- The result of a sequence does not depend on the events. -/
@[simp] theorem result_bind (x : Traced α) (f : α → Traced β) :
    (x >>= f).result = x.result >>= fun a => (f a).result := by
  show (Traced.bind x f).result = _
  unfold Traced.bind
  cases x.result <;> rfl

/-- The events of a sequence are those of its steps, as far as they are taken. -/
theorem events_bind (x : Traced α) (f : α → Traced β) :
    (x >>= f).events = x.events ++
      match x.result with
      | .ok a => (f a).events
      | .error _ => [] := by
  show (Traced.bind x f).events = _
  unfold Traced.bind
  cases x.result <;> simp

end Traced

end TensorTyping
