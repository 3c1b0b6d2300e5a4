import Mathlib
import TensorTyping.Graph
import TensorTyping.Proofs.Joining
import TensorTyping.Proofs.TransposedConvolution

/-!
# Operands that can be counted stay so

Nothing keeps an operand that cannot be counted out of a call. Most operators create their output and
check its size there, whatever they were given. Five hand on their input unchanged, and with them a
size that cannot be counted is neither made nor mended. Along a sequence of calls this is an
invariant: from operands that can be counted no call leads to one that cannot.

* `Infer.Ensures` — what the value of an inference satisfies, if there is one.
* `Call.passed?` — the input that a call hands on.
* `Call.infer_passed`, `Call.infer_sized` — what a call gives, in either case.
* `Graph.Admits`, `Graph.performAll` — sequences of calls on the operands of a graph.
* `Graph.perform_allSized`, `Graph.performAll_allSized` — what one call preserves, and what a
  sequence does.
* `Graph.sized_invariant` — the whole.
-/

namespace TensorTyping

namespace Infer

variable {α β : Type} {P : β → Prop}

/-- The value of the inference, if it has one, satisfies `P`. -/
def Ensures (P : α → Prop) (x : Infer α) : Prop :=
  ∀ a, x = .ok a → P a

/-- What the last step of a sequence ensures, the sequence ensures. -/
theorem Ensures.bind {x : Infer α} {f : α → Infer β} (h : ∀ a, Ensures P (f a)) :
    Ensures P (x >>= f) := by
  intro b hb
  obtain ⟨a, -, ha⟩ := bind_eq_ok.mp hb
  exact h a b ha

theorem Ensures.pure {b : β} (h : P b) : Ensures P (pure b) := by
  intro b' hb
  exact pure_eq_ok.mp hb ▸ h

theorem Ensures.traced_bind {x : Traced α} {f : α → Traced β}
    (h : ∀ a, Ensures P (f a).result) : Ensures P (x >>= f).result := by
  rw [Traced.result_bind]
  exact .bind h

end Infer

open Infer (Ensures)

/-! ## Outputs that are created -/

/-- What is created can be counted. -/
theorem Operand.create_ensures {dataType : DataType} {shape : Shape} :
    Ensures Sized (create dataType shape) :=
  fun _ h => (create_eq_ok.mp h).2

theorem Convolution.infer_ensures (c : Convolution) {input filter : Operand} :
    Ensures Operand.Sized (c.infer input filter).result := by
  intro y h
  obtain ⟨_, _, _, -, _, _, -, -, hy⟩ := infer_eq_ok.mp h
  exact Operand.create_ensures y hy

theorem TransposedConvolution.infer_ensures (c : TransposedConvolution) {input filter : Operand} :
    Ensures Operand.Sized (c.infer input filter).result := by
  intro y h
  obtain ⟨_, _, _, _, -, hy⟩ := infer_eq_ok.mp h
  exact Operand.create_ensures y hy

theorem concat_ensures {inputs : List Operand} {axis : Dim} :
    Ensures Operand.Sized (concat inputs axis) :=
  fun _ h => (concat_eq_ok.mp h).2

theorem split_ensures {p : Partition} {axis : Dim} {input : Operand} :
    Ensures (fun parts => ∀ y ∈ parts, y.Sized) (split p axis input) :=
  fun _ h => (split_eq_ok.mp h).2.2

/-! ## Calls -/

namespace Call

variable {call : Call} {outputs : List Operand} {x : Operand}

/-- The input that a call hands on as its output, for the operators that do. -/
def passed? : Call → Option Operand
  | batchNormalization _ input _ _ | instanceNormalization _ input | layerNormalization _ input
  | prelu input _ | softmax input => some input
  | _ => none

/-- What is handed on is one of the operands given. -/
theorem mem_operands_of_passed (h : call.passed? = some x) : x ∈ call.operands := by
  cases call with
  | batchNormalization | instanceNormalization | layerNormalization | prelu | softmax =>
    cases h
    exact List.mem_cons_self
  | _ => cases h

/-- What an operator ensures of its one output holds of all outputs of the call. -/
theorem ensures_single {P : Operand → Prop} {y : Traced Operand} (h : Ensures P y.result) :
    Ensures (fun outputs => ∃ output, outputs = [output] ∧ P output)
      ((fun output => [output]) <$> y).result := by
  intro outputs houtputs
  have hbind : (y.result >>= fun output => .ok [output]) = .ok outputs :=
    (Traced.result_bind y _).symm.trans houtputs
  obtain ⟨output, houtput, hsingle⟩ := Infer.bind_eq_ok.mp hbind
  exact ⟨output, (Except.ok.inj hsingle).symm, h output houtput⟩

theorem sized_single {y : Traced Operand} (h : Ensures Operand.Sized y.result) :
    Ensures (fun outputs => ∀ y ∈ outputs, y.Sized) ((fun output => [output]) <$> y).result := by
  intro outputs houtputs
  obtain ⟨output, rfl, hsized⟩ := ensures_single h outputs houtputs
  exact List.forall_mem_singleton.mpr hsized

theorem passed_single {y : Traced Operand} (h : Ensures (· = x) y.result) :
    Ensures (· = [x]) ((fun output => [output]) <$> y).result := by
  intro outputs houtputs
  obtain ⟨output, rfl, rfl⟩ := ensures_single h outputs houtputs
  rfl

/-- A call that hands on its input has it as its only output. -/
theorem infer_passed (h : call.passed? = some x) : Ensures (· = [x]) call.infer.result := by
  cases call with
  | batchNormalization | instanceNormalization | layerNormalization | prelu | softmax =>
    cases h
    refine passed_single ?_
    simp only [Traced.result_liftM, BatchNormalization.infer, InstanceNormalization.infer,
      LayerNormalization.infer, TensorTyping.prelu, TensorTyping.softmax]
    repeat with_reducible refine .bind fun _ => ?_
    exact .pure rfl
  | _ => cases h

/-- Every other call has outputs that can be counted, whatever it was given. -/
theorem infer_sized (h : call.passed? = none) :
    Ensures (fun outputs => ∀ y ∈ outputs, y.Sized) call.infer.result := by
  cases call with
  | convolution c => exact sized_single c.infer_ensures
  | transposedConvolution c => exact sized_single c.infer_ensures
  | concat => exact sized_single concat_ensures
  | split => exact split_ensures
  -- in the other operators the last step creates the output
  | pooling | resampling =>
    refine sized_single ?_
    simp only [Pooling.infer, Resampling.infer]
    repeat with_reducible refine .traced_bind fun _ => ?_
    exact Operand.create_ensures
  | globalPooling | matmul | gemm | argReduction | select | slice | pad | transpose | gather
  | reshape | expand | tile =>
    refine sized_single ?_
    simp only [Traced.result_liftM, TensorTyping.globalPooling, TensorTyping.matmul, Gemm.infer,
      ArgReduction.infer, TensorTyping.select, TensorTyping.slice, Pad.infer,
      TensorTyping.transpose, TensorTyping.gather, TensorTyping.reshape, TensorTyping.expand,
      TensorTyping.tile]
    repeat with_reducible refine .bind fun _ => ?_
    exact Operand.create_ensures
  | binary kind =>
    refine sized_single ?_
    simp only [Traced.result_liftM, BinaryKind.infer]
    refine .bind fun _ => ?_
    split_ifs
    · exact .bind fun _ => .bind fun _ => Operand.create_ensures
    · exact .bind fun _ => Operand.create_ensures
  | reduction r =>
    refine sized_single ?_
    simp only [Traced.result_liftM, Reduction.infer]
    split_ifs
    · exact .bind fun _ => .bind fun _ => Operand.create_ensures
    · exact .bind fun _ => Operand.create_ensures
  | batchNormalization | instanceNormalization | layerNormalization | prelu | softmax => cases h

/-- A call has outputs that can be counted when the input it hands on can be. -/
theorem infer_sized_of_passed (h : ∀ x, call.passed? = some x → x.Sized) :
    Ensures (fun outputs => ∀ y ∈ outputs, y.Sized) call.infer.result := by
  cases hpassed : call.passed? with
  | none => exact infer_sized hpassed
  | some x =>
    intro outputs houtputs
    obtain rfl := infer_passed hpassed outputs houtputs
    exact List.forall_mem_singleton.mpr (h x hpassed)

end Call

/-! ## Sequences of calls -/

namespace Graph

variable {g : Graph} {call : Call} {calls : List Call}

/-- Every operand of the graph can be counted. -/
def AllSized (g : Graph) : Prop :=
  ∀ x ∈ g.operands, x.Sized

/-- The graph after a sequence of calls. -/
def performAll (g : Graph) (calls : List Call) : Graph :=
  calls.foldl perform g

/-- Each call of the sequence is given operands that the graph has by then: initial ones, or outputs
of earlier calls. -/
def Admits (g : Graph) : List Call → Prop
  | [] => True
  | call :: calls => (∀ x ∈ call.operands, x ∈ g.operands) ∧ (g.perform call).Admits calls

/-- One call on operands of the graph keeps all of them countable. -/
theorem perform_allSized (h : g.AllSized) (hcall : ∀ x ∈ call.operands, x ∈ g.operands) :
    (g.perform call).AllSized := by
  unfold perform
  split
  · next outputs houtputs =>
    have hpassed : ∀ x, call.passed? = some x → x.Sized := fun x hx =>
      h x (hcall x (Call.mem_operands_of_passed hx))
    intro y hy
    rcases List.mem_append.mp hy with hold | hnew
    · exact h y hold
    · exact Call.infer_sized_of_passed hpassed outputs houtputs y hnew
  · exact h

/-- So does every sequence of calls, and each of its calls is given countable operands. -/
theorem performAll_allSized (h : g.AllSized) (hcalls : g.Admits calls) :
    (g.performAll calls).AllSized ∧ ∀ call ∈ calls, ∀ x ∈ call.operands, x.Sized := by
  induction calls generalizing g with
  | nil => exact ⟨h, List.forall_mem_nil _⟩
  | cons call calls ih =>
    obtain ⟨hcall, hrest⟩ := hcalls
    obtain ⟨hgraph, hoperands⟩ := ih (perform_allSized h hcall) hrest
    exact ⟨hgraph, List.forall_mem_cons.mpr ⟨fun x hx => h x (hcall x hx), hoperands⟩⟩

/-- **Sizes that can be counted are never lost.** A call hands on an input, which is then its only
output, or all its outputs can be counted, whatever it was given. A sequence of calls that starts
from operands that can be counted meets no others. -/
theorem sized_invariant :
    (∀ (call : Call) (outputs : List Operand), call.infer.result = .ok outputs →
      (∀ x, call.passed? = some x → outputs = [x]) ∧
      (call.passed? = none → ∀ y ∈ outputs, y.Sized) ∧
      ((∀ x, call.passed? = some x → x.Sized) → ∀ y ∈ outputs, y.Sized)) ∧
    ∀ (g : Graph) (calls : List Call), g.AllSized → g.Admits calls →
      (g.performAll calls).AllSized ∧ ∀ call ∈ calls, ∀ x ∈ call.operands, x.Sized := by
  refine ⟨fun call outputs h => ⟨fun x hx => ?_, fun hnone => ?_, fun hpassed => ?_⟩,
    fun g calls hg hcalls => performAll_allSized hg hcalls⟩
  · exact Call.infer_passed hx outputs h
  · exact Call.infer_sized hnone outputs h
  · exact Call.infer_sized_of_passed hpassed outputs h

/-- A matrix whose bytes cannot be counted passes through softmax. From one that can be counted, its
double and the softmax of that can be counted. -/
theorem sized_invariant_softmax :
    (¬ (⟨.float32, [4294967295, 4294967295]⟩ : Operand).Sized ∧
      ∃ outputs, (Call.softmax ⟨.float32, [4294967295, 4294967295]⟩).infer.result = .ok outputs ∧
        outputs = [⟨.float32, [4294967295, 4294967295]⟩]) ∧
    AllSized ⟨[⟨.float32, [2, 3]⟩]⟩ ∧
    Admits ⟨[⟨.float32, [2, 3]⟩]⟩
      [.concat [⟨.float32, [2, 3]⟩, ⟨.float32, [2, 3]⟩] 0, .softmax ⟨.float32, [4, 3]⟩] ∧
    (performAll ⟨[⟨.float32, [2, 3]⟩]⟩
      [.concat [⟨.float32, [2, 3]⟩, ⟨.float32, [2, 3]⟩] 0, .softmax ⟨.float32, [4, 3]⟩]).AllSized := by
  have hok : (Call.softmax ⟨.float32, [4294967295, 4294967295]⟩).infer.result =
      .ok [⟨.float32, [4294967295, 4294967295]⟩] := by decide
  have hsized : AllSized ⟨[⟨.float32, [2, 3]⟩]⟩ := by
    unfold AllSized
    decide
  have hadmits : Admits ⟨[⟨.float32, [2, 3]⟩]⟩
      [.concat [⟨.float32, [2, 3]⟩, ⟨.float32, [2, 3]⟩] 0, .softmax ⟨.float32, [4, 3]⟩] := by
    unfold Admits Admits Admits
    decide
  exact ⟨⟨by decide, _, hok, (sized_invariant.1 _ _ hok).1 _ rfl⟩, hsized, hadmits,
    (sized_invariant.2 _ _ hsized hadmits).1⟩

end Graph

end TensorTyping
