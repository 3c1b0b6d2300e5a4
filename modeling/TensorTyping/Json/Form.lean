import TensorTyping.Attribute.Kind
import TensorTyping.Json.Value

/-!
# JSON forms of operands and attributes

Each attribute type has a form in which it is written and forms from which it is read. A choice is
written as its word and also read from an object of that one word and `null`. A record is written as
an object and also read from the array of its fields.

* `Form` — the class of types with a JSON form.
-/

namespace TensorTyping

/-- Types with a JSON form. -/
class Form (α : Type) where
  encode : α → Json
  decode : Json → Option α

namespace Form

variable {α : Type}

instance [Tagged α] : Form α where
  encode a := .string (Tagged.tag a)
  decode
    | .string word => Tagged.ofTag? word
    | .object [(word, .null)] => Tagged.ofTag? word
    | _ => none

instance : Form Bool where
  encode := .bool
  decode
    | .bool b => some b
    | _ => none

instance : Form String where
  encode := .string
  decode
    | .string s => some s
    | _ => none

instance : Form UInt32 where
  encode n := .ofNat n.toNat
  decode value := do
    let n ← value.toNat?
    if n < UInt32.size then some (.ofNat n) else none

/-- Infinities are written as `null`, which is not read. -/
instance : Form Single where
  encode s :=
    if s.isFinite then .number (.decimal s.isNegative (s.digits Json.style.tie)) else .null
  decode
    | .number n => some n.toSingle
    | _ => none

instance [Form α] : Form (List α) where
  encode items := .array (items.map encode)
  decode
    | .array items => items.mapM decode
    | _ => none

end Form

open Form (encode decode)

instance {α : Type} [Form α] : Form (Size2d α) where
  encode s := .object [("height", encode s.height), ("width", encode s.width)]
  decode value := do
    let (height, width) ← value.pair? "height" "width"
    return ⟨← decode (← height), ← decode (← width)⟩

instance : Form AxisPadding where
  encode p := .object [("beginning", encode p.beginning), ("ending", encode p.ending)]
  decode value := do
    let (beginning, ending) ← value.pair? "beginning" "ending"
    return ⟨← decode (← beginning), ← decode (← ending)⟩

instance : Form Padding2d where
  encode p := .object [("beginning", encode p.beginning), ("ending", encode p.ending)]
  decode value := do
    let (beginning, ending) ← value.pair? "beginning" "ending"
    return ⟨← decode (← beginning), ← decode (← ending)⟩

/-- A shape that is not given is that of a scalar. -/
instance : Form Operand where
  encode x := .object [("data_type", encode x.dataType), ("shape", encode x.shape)]
  decode value := do
    let (dataType, shape) ← value.pair? "data_type" "shape"
    let dataType ← decode (← dataType)
    match shape with
    | some shape => return ⟨dataType, ← decode shape⟩
    | none => return ⟨dataType, []⟩

instance : Form Padding where
  encode
    | .explicit p => .object [("explicit", encode p)]
    | .auto p => .object [("auto", encode p)]
  decode value :=
    match value.variant? with
    | some ("explicit", content) => .explicit <$> decode content
    | some ("auto", content) => .auto <$> decode content
    | _ => none

instance : Form Partition where
  encode
    | .count parts => .object [("count", encode parts)]
    | .sizes sizes => .object [("sizes", encode sizes)]
  decode value :=
    match value.variant? with
    | some ("count", content) => .count <$> decode content
    | some ("sizes", content) => .sizes <$> decode content
    | _ => none

instance : Form ResampleTarget where
  encode
    | .scales scales => .object [("scales", encode scales)]
    | .sizes sizes => .object [("sizes", encode sizes)]
  decode value :=
    match value.variant? with
    | some ("scales", content) => .scales <$> decode content
    | some ("sizes", content) => .sizes <$> decode content
    | _ => none

end TensorTyping
