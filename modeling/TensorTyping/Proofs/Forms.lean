import Mathlib
import TensorTyping.Json.Form

/-!
# What is written is read back

Operands and attributes are written in one form each, and read from several: a choice as a word or
as an object of that word, a record by name or by place. This module says which JSON values stand
for a value, without regard to how they are read, and shows that reading accepts these and no
others. The written form is among them, so it is read back as the value it was written for, and
different values are written differently.

* `LawfulTagged` — choices whose words tell their values apart.
* `Json.Fields` — the fields of a record, by name or by place.
* `Spelling` — the JSON values that stand for a value of a type.
* `LawfulForm` — reading accepts the spellings of a value, and writing gives one.
* `forms_roundTrip` — this holds of all operands and attributes without fractions.
-/

namespace TensorTyping

/-! ## Words -/

/-- A choice that lists all its values, with different words for different ones. -/
class LawfulTagged (α : Type) [Tagged α] : Prop where
  mem_all (a : α) : a ∈ (Tagged.all : List α)
  nodup_tags : ((Tagged.all : List α).map Tagged.tag).Nodup

namespace LawfulTagged

variable {α : Type} [Tagged α] [LawfulTagged α]

theorem tag_injective : Function.Injective (Tagged.tag : α → String) := by
  intro a b h
  exact List.inj_on_of_nodup_map nodup_tags (mem_all a) (mem_all b) h

theorem ofTag?_eq_some {word : String} {a : α} :
    Tagged.ofTag? word = some a ↔ word = Tagged.tag a := by
  constructor
  · intro h
    have htag := List.find?_some h
    exact (beq_iff_eq.mp htag).symm
  · rintro rfl
    -- some value has the word, and no other one than `a` does
    have hfound : (Tagged.ofTag? (Tagged.tag a) : Option α).isSome :=
      List.find?_isSome.mpr ⟨a, mem_all a, beq_iff_eq.mpr rfl⟩
    obtain ⟨b, hb⟩ := Option.isSome_iff_exists.mp hfound
    have htag := List.find?_some hb
    rw [hb, tag_injective (beq_iff_eq.mp htag)]

end LawfulTagged

instance : LawfulTagged DataType := ⟨fun a => by cases a <;> decide, by decide⟩

instance : LawfulTagged AutoPad := ⟨fun a => by cases a <;> decide, by decide⟩

instance : LawfulTagged ActivationLayout := ⟨fun a => by cases a <;> decide, by decide⟩

instance : LawfulTagged FilterLayout := ⟨fun a => by cases a <;> decide, by decide⟩

instance : LawfulTagged TransposedFilterLayout := ⟨fun a => by cases a <;> decide, by decide⟩

instance : LawfulTagged PoolKind := ⟨fun a => by cases a <;> decide, by decide⟩

instance : LawfulTagged RoundingMode := ⟨fun a => by cases a <;> decide, by decide⟩

instance : LawfulTagged ReduceKind := ⟨fun a => by cases a <;> decide, by decide⟩

instance : LawfulTagged ArgKind := ⟨fun a => by cases a <;> decide, by decide⟩

instance : LawfulTagged BinaryKind := ⟨fun a => by cases a <;> decide, by decide⟩

instance : LawfulTagged PadMode := ⟨fun a => by cases a <;> decide, by decide⟩

instance : LawfulTagged Interpolation := ⟨fun a => by cases a <;> decide, by decide⟩

/-! ## Records -/

namespace Json

variable {first second : String} {j f : Json} {s : Option Json}

/-- The value is a record whose first field is `f` and whose second one is `s`, if it is given: an
object with these fields and any others, or an array of them. -/
inductive Fields (first second : String) : Json → Json → Option Json → Prop where
  | named {fields : List (String × Json)} {f : Json} (h : fields.lookup first = some f) :
    Fields first second (.object fields) f (fields.lookup second)
  | placed {f s : Json} : Fields first second (.array [f, s]) f (some s)
  | short {f : Json} : Fields first second (.array [f]) f none

theorem pair?_eq_some : j.pair? first second = some (some f, s) ↔ j.Fields first second f s := by
  constructor
  · intro h
    match j, h with
    | .object fields, h =>
      obtain ⟨hfirst, rfl⟩ := Prod.mk.inj (Option.some.inj h)
      exact .named hfirst
    | .array [a], h =>
      cases h
      exact .short
    | .array [a, b], h =>
      cases h
      exact .placed
  · rintro (h | _ | _)
    · rw [pair?, h]
    · rfl
    · rfl

/-- The form in which records are written. -/
theorem fields_object {s : Json} (h : first ≠ second) :
    (object [(first, f), (second, s)]).Fields first second f (some s) := by
  have hfirst : [(first, f), (second, s)].lookup first = some f := by simp
  have hsecond : [(first, f), (second, s)].lookup second = some s := by
    simp [List.lookup, beq_false_of_ne h.symm]
  rw [← hsecond]
  exact .named hfirst

end Json

/-! ## Spellings -/

/-- The JSON values that stand for a value of the type. -/
class Spelling (α : Type) where
  Spells : Json → α → Prop

open Form (encode decode)
open Spelling (Spells)

/-- Reading accepts the spellings of a value and nothing else, and what is written is one of
them. -/
class LawfulForm (α : Type) [Form α] [Spelling α] : Prop where
  decode_eq_some {j : Json} {a : α} : decode j = some a ↔ Spells j a
  spells_encode (a : α) : Spells (encode a) a

open LawfulForm (decode_eq_some spells_encode)

section Choice

variable {α : Type} [Tagged α]

/-- A choice is spelled by its word, alone or as the name of a field without content. -/
instance : Spelling α where
  Spells j a := j = .string (Tagged.tag a) ∨ j = .object [(Tagged.tag a, .null)]

instance [LawfulTagged α] : LawfulForm α where
  decode_eq_some {j a} := by
    constructor
    · intro h
      match j, h with
      | .string word, h => exact .inl (congrArg _ (LawfulTagged.ofTag?_eq_some.mp h))
      | .object [(word, .null)], h =>
        have hword : word = Tagged.tag a := LawfulTagged.ofTag?_eq_some.mp h
        exact .inr (by rw [hword])
    · rintro (rfl | rfl)
      · exact LawfulTagged.ofTag?_eq_some.mpr rfl
      · exact LawfulTagged.ofTag?_eq_some.mpr rfl
  spells_encode a := .inl rfl

end Choice

section Dimension

/-- A dimension is spelled as an integer. -/
instance : Spelling Dim where
  Spells j d := j = .ofNat d.toNat

theorem Json.toNat?_eq_some {j : Json} {n : Nat} : j.toNat? = some n ↔ j = .ofNat n := by
  constructor
  · intro h
    match j, h with
    | .number (.integer k), h =>
      obtain ⟨hk, h⟩ := Option.ite_none_right_eq_some.mp h
      cases h
      rw [Json.ofNat, Int.toNat_of_nonneg hk]
  · rintro rfl
    rfl

instance : LawfulForm Dim where
  decode_eq_some {j d} := by
    constructor
    · intro h
      obtain ⟨n, hn, h⟩ := Option.bind_eq_some_iff.mp h
      obtain ⟨hsize, h⟩ := Option.ite_none_right_eq_some.mp h
      cases h
      have hj := Json.toNat?_eq_some.mp hn
      rwa [← UInt32.toNat_ofNat_of_lt' hsize] at hj
    · rintro rfl
      refine Option.bind_eq_some_iff.mpr ⟨d.toNat, Json.toNat?_eq_some.mpr rfl, ?_⟩
      rw [if_pos d.toNat_lt_size, UInt32.ofNat_toNat]
  spells_encode d := rfl

end Dimension

section Items

variable {α : Type} [Form α] [Spelling α]

/-- A list is spelled as an array of spellings of its items. -/
instance : Spelling (List α) where
  Spells j as := ∃ items, j = .array items ∧ List.Forall₂ Spells items as

theorem mapM_decode_eq_some [LawfulForm α] {items : List Json} {as : List α} :
    items.mapM decode = some as ↔ List.Forall₂ Spells items as := by
  induction items generalizing as with
  | nil =>
    rw [List.mapM_nil, List.forall₂_nil_left_iff]
    exact Option.some_inj.trans eq_comm
  | cons item items ih =>
    rw [List.mapM_cons, List.forall₂_cons_left_iff]
    constructor
    · intro h
      obtain ⟨a, ha, h⟩ := Option.bind_eq_some_iff.mp h
      obtain ⟨rest, hrest, h⟩ := Option.bind_eq_some_iff.mp h
      exact ⟨a, rest, decode_eq_some.mp ha, ih.mp hrest, (Option.some.inj h).symm⟩
    · rintro ⟨a, rest, ha, hrest, rfl⟩
      exact Option.bind_eq_some_iff.mpr ⟨a, decode_eq_some.mpr ha,
        Option.bind_eq_some_iff.mpr ⟨rest, ih.mpr hrest, rfl⟩⟩

instance [LawfulForm α] : LawfulForm (List α) where
  decode_eq_some {j as} := by
    constructor
    · intro h
      match j, h with
      | .array items, h => exact ⟨items, rfl, mapM_decode_eq_some.mp h⟩
    · rintro ⟨items, rfl, h⟩
      exact mapM_decode_eq_some.mpr h
  spells_encode as :=
    ⟨as.map encode, rfl, List.forall₂_map_left_iff.mpr (List.forall₂_same.mpr fun a _ =>
      spells_encode a)⟩

end Items

section Record

variable {α β γ : Type} [Form α] [Spelling α] [Form β] [Spelling β]

/-- A record of two is spelled by spellings of both its fields. -/
def SpellsRecord (first second : String) (j : Json) (a : α) (b : β) : Prop :=
  ∃ f s, j.Fields first second f (some s) ∧ Spells f a ∧ Spells s b

variable [LawfulForm α] [LawfulForm β] {first second : String} {j : Json}

/-- A record that is made of its two fields is read from the spellings of both. -/
theorem readRecord_eq_some {make : α → β → γ} {left : γ → α} {right : γ → β} {c : γ}
    (hmake : ∀ c, make (left c) (right c) = c) (hleft : ∀ a b, left (make a b) = a)
    (hright : ∀ a b, right (make a b) = b) :
    ((j.pair? first second).bind fun fields => fields.1.bind fun f => (decode f).bind fun a =>
      fields.2.bind fun s => (decode s).bind fun b => some (make a b)) = some c ↔
      SpellsRecord first second j (left c) (right c) := by
  simp only [Option.bind_eq_some_iff, Option.some_inj]
  constructor
  · rintro ⟨⟨f?, s?⟩, hfields, f, rfl, a, ha, s, rfl, b, hb, rfl⟩
    rw [hleft, hright]
    exact ⟨f, s, Json.pair?_eq_some.mp hfields, decode_eq_some.mp ha, decode_eq_some.mp hb⟩
  · rintro ⟨f, s, hfields, ha, hb⟩
    exact ⟨(some f, some s), Json.pair?_eq_some.mpr hfields, f, rfl, left c, decode_eq_some.mpr ha,
      s, rfl, right c, decode_eq_some.mpr hb, hmake c⟩

theorem spellsRecord_object (h : first ≠ second) (a : α) (b : β) :
    SpellsRecord first second (.object [(first, encode a), (second, encode b)]) a b :=
  ⟨encode a, encode b, Json.fields_object h, spells_encode a, spells_encode b⟩

instance : Spelling (Size2d α) where
  Spells j s := SpellsRecord "height" "width" j s.height s.width

instance : LawfulForm (Size2d α) where
  decode_eq_some := readRecord_eq_some (fun _ => rfl) (fun _ _ => rfl) (fun _ _ => rfl)
  spells_encode s := spellsRecord_object (by decide) s.height s.width

instance : Spelling AxisPadding where
  Spells j p := SpellsRecord "beginning" "ending" j p.beginning p.ending

instance : LawfulForm AxisPadding where
  decode_eq_some := readRecord_eq_some (fun _ => rfl) (fun _ _ => rfl) (fun _ _ => rfl)
  spells_encode p := spellsRecord_object (by decide) p.beginning p.ending

instance : Spelling Padding2d where
  Spells j p := SpellsRecord "beginning" "ending" j p.beginning p.ending

instance : LawfulForm Padding2d where
  decode_eq_some := readRecord_eq_some (fun _ => rfl) (fun _ _ => rfl) (fun _ _ => rfl)
  spells_encode p := spellsRecord_object (by decide) p.beginning p.ending

end Record

section Operands

/-- The shape of an operand is spelled by the second field, or is that of a scalar without one. -/
def SpellsShape : Option Json → Shape → Prop
  | some j, shape => Spells j shape
  | none, shape => shape = []

instance : Spelling Operand where
  Spells j x :=
    ∃ f s, j.Fields "data_type" "shape" f s ∧ Spells f x.dataType ∧ SpellsShape s x.shape

instance : LawfulForm Operand where
  decode_eq_some {j x} := by
    constructor
    · intro h
      obtain ⟨⟨f?, s⟩, hfields, hread⟩ := Option.bind_eq_some_iff.mp h
      obtain ⟨f, rfl, htype⟩ := Option.bind_eq_some_iff.mp hread
      obtain ⟨dataType, hdataType, hrest⟩ := Option.bind_eq_some_iff.mp htype
      refine ⟨f, s, Json.pair?_eq_some.mp hfields, ?_⟩
      cases s with
      | none =>
        cases hrest
        exact ⟨decode_eq_some.mp hdataType, rfl⟩
      | some s =>
        obtain ⟨shape, hshape, hx⟩ := Option.bind_eq_some_iff.mp hrest
        cases hx
        exact ⟨decode_eq_some.mp hdataType, decode_eq_some.mp hshape⟩
    · rintro ⟨f, s, hfields, hdataType, hshape⟩
      refine Option.bind_eq_some_iff.mpr ⟨(some f, s), Json.pair?_eq_some.mpr hfields, ?_⟩
      refine Option.bind_eq_some_iff.mpr ⟨f, rfl, ?_⟩
      refine Option.bind_eq_some_iff.mpr ⟨x.dataType, decode_eq_some.mpr hdataType, ?_⟩
      cases s with
      | none => exact congrArg (fun shape => some (Operand.mk x.dataType shape)) hshape.symm
      | some s => exact Option.bind_eq_some_iff.mpr ⟨x.shape, decode_eq_some.mpr hshape, rfl⟩
  spells_encode x :=
    ⟨encode x.dataType, some (encode x.shape), Json.fields_object (by decide),
      spells_encode x.dataType, spells_encode x.shape⟩

end Operands

section Variant

theorem Json.variant?_eq_some {j content : Json} {name : String} :
    j.variant? = some (name, content) ↔ j = .object [(name, content)] := by
  constructor
  · intro h
    match j, h with
    | .object [(_, _)], h =>
      cases h
      rfl
  · rintro rfl
    rfl

variable {α γ : Type} [Form α] [Spelling α]

/-- A variant with content is spelled as an object of its name and a spelling of the content. -/
def SpellsVariant (name : String) (j : Json) (a : α) : Prop :=
  ∃ content, j = .object [(name, content)] ∧ Spells content a

variable [LawfulForm α] {make : α → γ} {name : String} {j content : Json} {a : α} {c : γ}

/-- What is read from the content of a variant makes a value that the variant spells. -/
theorem exists_spellsVariant (hvariant : j.variant? = some (name, content))
    (h : make <$> decode content = some c) : ∃ a, make a = c ∧ SpellsVariant name j a := by
  obtain ⟨a, ha, hc⟩ := Option.map_eq_some_iff.mp h
  exact ⟨a, hc, content, Json.variant?_eq_some.mp hvariant, decode_eq_some.mp ha⟩

theorem map_decode_eq_some (h : Spells content a) : make <$> decode content = some (make a) :=
  Option.map_eq_some_iff.mpr ⟨a, decode_eq_some.mpr h, rfl⟩

theorem spellsVariant_object (name : String) (a : α) :
    SpellsVariant name (.object [(name, encode a)]) a :=
  ⟨encode a, rfl, spells_encode a⟩

instance : Spelling Padding where
  Spells j
    | .explicit given => SpellsVariant "explicit" j given
    | .auto policy => SpellsVariant "auto" j policy

instance : LawfulForm Padding where
  decode_eq_some {j p} := by
    constructor
    · intro h
      simp only [decode] at h
      split at h
      next content hvariant =>
        obtain ⟨given, rfl, hgiven⟩ := exists_spellsVariant hvariant h
        exact hgiven
      next content hvariant =>
        obtain ⟨policy, rfl, hpolicy⟩ := exists_spellsVariant hvariant h
        exact hpolicy
      next => cases h
    · intro h
      cases p with
      | explicit given =>
        obtain ⟨content, rfl, h⟩ := h
        exact map_decode_eq_some h
      | auto policy =>
        obtain ⟨content, rfl, h⟩ := h
        exact map_decode_eq_some h
  spells_encode p := by
    cases p with
    | explicit given => exact spellsVariant_object "explicit" given
    | auto policy => exact spellsVariant_object "auto" policy

instance : Spelling Partition where
  Spells j
    | .count parts => SpellsVariant "count" j parts
    | .sizes sizes => SpellsVariant "sizes" j sizes

instance : LawfulForm Partition where
  decode_eq_some {j p} := by
    constructor
    · intro h
      simp only [decode] at h
      split at h
      next content hvariant =>
        obtain ⟨parts, rfl, hparts⟩ := exists_spellsVariant hvariant h
        exact hparts
      next content hvariant =>
        obtain ⟨sizes, rfl, hsizes⟩ := exists_spellsVariant hvariant h
        exact hsizes
      next => cases h
    · intro h
      cases p with
      | count parts =>
        obtain ⟨content, rfl, h⟩ := h
        exact map_decode_eq_some h
      | sizes sizes =>
        obtain ⟨content, rfl, h⟩ := h
        exact map_decode_eq_some h
  spells_encode p := by
    cases p with
    | count parts => exact spellsVariant_object "count" parts
    | sizes sizes => exact spellsVariant_object "sizes" sizes

end Variant

/-! ## Round trips -/

/-- Values of the type are read from their spellings and nothing else, are read back from what is
written for them, are told apart by what is written, and are the same when what was read is written
and read again. -/
structure RoundTrips (α : Type) [Form α] [Spelling α] : Prop where
  decode_iff (j : Json) (a : α) : decode j = some a ↔ Spells j a
  decode_encode (a : α) : decode (encode a) = some a
  encode_injective : Function.Injective (encode : α → Json)
  decode_again (j : Json) :
    ((decode j : Option α).bind fun a => decode (encode a)) = (decode j : Option α)

theorem RoundTrips.of_lawful {α : Type} [Form α] [Spelling α] [LawfulForm α] : RoundTrips α := by
  have hback : ∀ a : α, decode (encode a) = some a := fun a => decode_eq_some.mpr (spells_encode a)
  refine ⟨fun j a => decode_eq_some, hback, ?_, ?_⟩
  · intro a b h
    have hb := hback b
    rw [← h, hback] at hb
    exact Option.some.inj hb
  · intro j
    cases (decode j : Option α) with
    | none => rfl
    | some a => exact hback a

/-- **Forms round-trip.** All operands, and all attributes without fractions, are read back from
what is written for them, whatever the length of a shape or of a list of sizes, and each is read
from its spellings only. -/
theorem forms_roundTrip :
    RoundTrips Operand ∧ RoundTrips DataType ∧ RoundTrips (Size2d Dim) ∧ RoundTrips AxisPadding ∧
      RoundTrips Padding2d ∧ RoundTrips ActivationLayout ∧ RoundTrips FilterLayout ∧
      RoundTrips TransposedFilterLayout ∧ RoundTrips AutoPad ∧ RoundTrips Padding ∧
      RoundTrips PoolKind ∧ RoundTrips RoundingMode ∧ RoundTrips ReduceKind ∧ RoundTrips ArgKind ∧
      RoundTrips BinaryKind ∧ RoundTrips PadMode ∧ RoundTrips Interpolation ∧
      RoundTrips Partition :=
  ⟨.of_lawful, .of_lawful, .of_lawful, .of_lawful, .of_lawful, .of_lawful, .of_lawful, .of_lawful,
    .of_lawful, .of_lawful, .of_lawful, .of_lawful, .of_lawful, .of_lawful, .of_lawful, .of_lawful,
    .of_lawful, .of_lawful⟩

-- the type as an object, a shape that is left out, and a field that no operand has
example : decode (.object [("note", .null), ("data_type", .object [("int8", .null)])]) =
    some (⟨.int8, []⟩ : Operand) := rfl

-- a record by place in one by name
example : decode (.object [("ending", .array [.ofNat 3, .ofNat 4]),
      ("beginning", .object [("width", .ofNat 2), ("height", .ofNat 1)])]) =
    some (⟨⟨1, 2⟩, ⟨3, 4⟩⟩ : Padding2d) := rfl

end TensorTyping
