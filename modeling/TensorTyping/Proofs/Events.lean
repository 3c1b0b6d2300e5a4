import Mathlib
import TensorTyping.Proofs.PoolingSizes
import TensorTyping.Proofs.Resampling

/-!
# What the events of a call tell

An operator over two spatial axes records what it computes, from helpers that it calls once for each
axis and that may end the call in between. Its record is described by a script, the list of what a
call with an output records. A call that ends early records a beginning of its script, and after
that at most the reason why a request was turned down.

* `Entry` — one line of a script: the message of an event and what the event tells.
* `Traced.Accounts` — the record of a call follows a script, with rules for sequences.
* `Traced.Reports` — the record ends with a request that was turned down.
* `Convolution.script`, … — the scripts of the operators.
* `events_account_for_calls` — every call follows its script; when a pooling or a resampling
  reports.
-/

namespace TensorTyping

/-- One line of a script: the message of an event, and what the event tells. -/
structure Entry where
  message : String
  tells : Event → Prop

/-- The event is recorded for the entry. -/
structure Entry.Records (entry : Entry) (event : Event) : Prop where
  level : event.level = .trace
  message : event.message = entry.message
  tells : entry.tells event

/-! ## Records that follow a script -/

namespace Traced

variable {α β : Type}

/-- The events of an inference follow the script. -/
structure Accounts (script : List Entry) (x : Traced α) : Prop where
  /-- Traces come first, and after them at most one report. -/
  ordered : ∃ traces reports, x.events = traces ++ reports ∧
    (∀ event ∈ traces, event.level = .trace) ∧ (∀ event ∈ reports, event.level = .debug) ∧
      reports.length ≤ 1
  /-- A report gives the reason for which the inference was rejected, an invalid attribute. -/
  reported : ∀ event ∈ x.events, event.level = .debug → ∃ cause,
    x.result = .error (.rejected cause) ∧ cause.category = .invalidAttribute ∧
      event.fields.lookup "reason" = some cause.reason
  /-- The traces are a beginning of the script. -/
  traced : ∃ reached, reached <+: script ∧
    List.Forall₂ Entry.Records reached (x.events.filter fun event => event.level = .trace)
  /-- An inference with a value has recorded the whole script and nothing else. -/
  complete : ∀ a, x.result = .ok a → List.Forall₂ Entry.Records script x.events

/-- The record ends with a request that was turned down. -/
def Reports (x : Traced α) : Prop :=
  ∃ event ∈ x.events, event.level = .debug

variable {script rest : List Entry} {entry : Entry} {event : Event} {x : Traced α}
  {f : α → Traced β}

theorem level_of_records {events : List Event} (h : List.Forall₂ Entry.Records script events) :
    ∀ event ∈ events, event.level = .trace := by
  induction h with
  | nil => exact List.forall_mem_nil _
  | cons hfirst _ ih => exact List.forall_mem_cons.mpr ⟨hfirst.level, ih⟩

/-- Events of a script are all kept when the traces are selected. -/
theorem filter_of_records {events : List Event} (h : List.Forall₂ Entry.Records script events) :
    (events.filter fun event => event.level = .trace) = events :=
  List.filter_eq_self.mpr fun event hevent => decide_eq_true (level_of_records h event hevent)

namespace Accounts

/-- A sequence follows the scripts of its steps, one after the other. -/
theorem bind (hx : Accounts script x) (hf : ∀ a, x.result = .ok a → Accounts rest (f a)) :
    Accounts (script ++ rest) (x >>= f) := by
  cases hresult : x.result with
  | error failure =>
    -- the sequence ends with its first step, and so does its record
    have hevents : (x >>= f).events = x.events := by rw [events_bind, hresult, List.append_nil]
    have hfailure : (x >>= f).result = .error failure := by rw [result_bind, hresult]; rfl
    refine ⟨?_, ?_, ?_, fun b hb => ?_⟩
    · rw [hevents]
      exact hx.ordered
    · intro event hmem hlevel
      rw [hevents] at hmem
      obtain ⟨cause, hcause, hreason⟩ := hx.reported event hmem hlevel
      rw [hresult] at hcause
      cases hcause
      exact ⟨cause, hfailure, hreason⟩
    · rw [hevents]
      obtain ⟨reached, hreached, hrecords⟩ := hx.traced
      exact ⟨reached, hreached.trans (List.prefix_append _ _), hrecords⟩
    · rw [hfailure] at hb
      cases hb
  | ok a =>
    have hrest := hf a hresult
    have hfirst := hx.complete a hresult
    have hevents : (x >>= f).events = x.events ++ (f a).events := by rw [events_bind, hresult]
    have hvalue : (x >>= f).result = (f a).result := by rw [result_bind, hresult]; rfl
    refine ⟨?_, ?_, ?_, fun b hb => ?_⟩
    · obtain ⟨traces, reports, hsplit, htraces, hreports, hlength⟩ := hrest.ordered
      refine ⟨x.events ++ traces, reports, ?_, ?_, hreports, hlength⟩
      · rw [hevents, hsplit, List.append_assoc]
      · exact List.forall_mem_append.mpr ⟨level_of_records hfirst, htraces⟩
    · intro event hmem hlevel
      rw [hevents, List.mem_append] at hmem
      rw [hvalue]
      rcases hmem with hmem | hmem
      · rw [level_of_records hfirst event hmem] at hlevel
        cases hlevel
      · exact hrest.reported event hmem hlevel
    · obtain ⟨reached, hreached, hrecords⟩ := hrest.traced
      refine ⟨script ++ reached, (List.prefix_append_right_inj script).mpr hreached, ?_⟩
      rw [hevents, List.filter_append, filter_of_records hfirst]
      exact List.rel_append hfirst hrecords
    · rw [hevents]
      rw [hvalue] at hb
      exact List.rel_append hfirst (hrest.complete b hb)

/-- An inference that puts nothing on record. -/
theorem of_events_eq_nil (h : x.events = []) : Accounts [] x := by
  refine ⟨⟨[], [], h, List.forall_mem_nil _, List.forall_mem_nil _, Nat.zero_le 1⟩, ?_, ?_, ?_⟩
  · intro event hmem
    rw [h] at hmem
    cases hmem
  · rw [h]
    exact ⟨[], List.nil_prefix, .nil⟩
  · intro _ _
    rw [h]
    exact .nil

theorem pure (a : α) : Accounts [] (Pure.pure a : Traced α) :=
  of_events_eq_nil rfl

theorem silent (i : Infer α) : Accounts [] (liftM i : Traced α) :=
  of_events_eq_nil rfl

/-- An event of the script. -/
theorem emit (h : entry.Records event) : Accounts [entry] (Traced.emit event) := by
  have hrecords : List.Forall₂ Entry.Records [entry] (Traced.emit event).events := .cons h .nil
  refine ⟨⟨[event], [], rfl, level_of_records hrecords, List.forall_mem_nil _, Nat.zero_le 1⟩,
    ?_, ?_, fun _ _ => hrecords⟩
  · intro event' hmem hlevel
    rw [level_of_records hrecords event' hmem] at hlevel
    cases hlevel
  · rw [filter_of_records hrecords]
    exact ⟨[entry], List.prefix_rfl, hrecords⟩

/-- A request that is turned down, for the cause that the report names. -/
theorem report {cause : Cause} (hlevel : event.level = .debug)
    (hcategory : cause.category = .invalidAttribute)
    (hreason : event.fields.lookup "reason" = some cause.reason) :
    Accounts [] (do Traced.emit event; liftM (reject cause : Infer α) : Traced α) := by
  have hevents : (do Traced.emit event; liftM (reject cause : Infer α) : Traced α).events =
      [event] := rfl
  refine ⟨⟨[], [event], hevents, List.forall_mem_nil _, ?_, le_rfl⟩, ?_, ?_, nofun⟩
  · exact List.forall_mem_singleton.mpr hlevel
  · intro event' hmem _
    rw [hevents, List.mem_singleton] at hmem
    rw [hmem]
    exact ⟨cause, rfl, hcategory, hreason⟩
  · rw [hevents, List.filter_cons_of_neg (by rw [hlevel]; decide)]
    exact ⟨[], List.nil_prefix, .nil⟩

/-- A step without events leaves the script to the rest. -/
theorem silent_bind {i : Infer α} (hf : ∀ a, i = .ok a → Accounts script (f a)) :
    Accounts script (liftM i >>= f) :=
  bind (silent i) hf

theorem emit_bind {f : Unit → Traced β} (h : entry.Records event) (hf : Accounts script (f ())) :
    Accounts (entry :: script) (Traced.emit event >>= f) :=
  bind (emit h) fun _ _ => hf

end Accounts

/-! ## Reports of a sequence -/

/-- A sequence reports in one of its steps. -/
theorem reports_bind : (x >>= f).Reports ↔ x.Reports ∨ ∃ a, x.result = .ok a ∧ (f a).Reports := by
  unfold Reports
  simp only [mem_events_bind]
  constructor
  · rintro ⟨event, hmem | ⟨a, ha, hmem⟩, hlevel⟩
    · exact .inl ⟨event, hmem, hlevel⟩
    · exact .inr ⟨a, ha, event, hmem, hlevel⟩
  · rintro (⟨event, hmem, hlevel⟩ | ⟨a, ha, event, hmem, hlevel⟩)
    · exact ⟨event, .inl hmem, hlevel⟩
    · exact ⟨event, .inr ⟨a, ha, hmem⟩, hlevel⟩

@[simp] theorem not_reports_pure (a : α) : ¬ (Pure.pure a : Traced α).Reports := by
  rintro ⟨event, hmem, -⟩
  cases hmem

@[simp] theorem not_reports_liftM (i : Infer α) : ¬ (liftM i : Traced α).Reports := by
  rintro ⟨event, hmem, -⟩
  cases hmem

@[simp] theorem reports_emit : (Traced.emit event).Reports ↔ event.level = .debug := by
  simp [Reports]

end Traced

open Traced (Accounts)

/-! ## Automatic paddings -/

/-- The padding of one axis was computed for the window of the call, under the policy. -/
def Entry.paddingResolved (kind : WindowKind) (policy : AutoPad) (IsWindow : Window2d → Prop)
    (axis : Window2d → Window) (compute : Window → Traced AxisPadding) : Entry where
  message := match kind with
    | .convolution => "resolved conv2d padding"
    | .transposedConvolution => "resolved convTranspose2d padding"
  tells event := ∃ w total padding, IsWindow w ∧ (compute (axis w)).result = .ok padding ∧
    policy.Shares total.toNat padding ∧
      event = .paddingResolved kind policy (axis w).input total padding

/-- What is recorded of a padding: nothing when it is given; when it is computed, the height and
then the width. -/
def Padding.script (padding : Padding) (kind : WindowKind) (IsWindow : Window2d → Prop)
    (height width : AutoPad → Window → Traced AxisPadding) : List Entry :=
  match padding with
  | explicit _ => []
  | auto policy =>
    [.paddingResolved kind policy IsWindow Window2d.height (height policy),
      .paddingResolved kind policy IsWindow Window2d.width (width policy)]

section

variable {kind : WindowKind} {policy : AutoPad} {IsWindow : Window2d → Prop} {w : Window2d}
  {axis : Window2d → Window} {compute : Window → Traced AxisPadding}

/-- A computation of a padding shares a total and records that as its last step. -/
theorem Entry.accounts_paddingResolved {needed : Infer Dim} {total : Dim → Dim} (hw : IsWindow w)
    (hcompute : compute (axis w) = (do
      let needed ← needed
      let padding ← policy.distribute (total needed)
      Traced.emit (.paddingResolved kind policy (axis w).input (total needed) padding)
      return padding)) :
    Accounts [.paddingResolved kind policy IsWindow axis compute] (compute (axis w)) := by
  have hresult : ∀ d padding, needed = .ok d → policy.distribute (total d) = .ok padding →
      (compute (axis w)).result = .ok padding := by
    intro d padding hd hpadding
    rw [hcompute]
    simp only [Traced.result_bind, Traced.result_liftM, hd, hpadding, Infer.ok_bind]
    rfl
  rw [hcompute]
  refine .silent_bind fun d hd => .silent_bind fun padding hpadding => ?_
  refine .emit_bind ⟨rfl, ?_, ?_⟩ (.pure padding)
  · cases kind <;> rfl
  · exact ⟨w, total d, padding, hw, hresult d padding hd hpadding,
      AutoPad.distribute_eq_ok.mp hpadding, rfl⟩

theorem Padding.accounts_resolve (padding : Padding) (hw : IsWindow w) :
    Accounts (padding.script .convolution IsWindow (fun policy w => w.samePadding policy)
      fun policy w => w.samePadding policy) (padding.resolve w) := by
  cases padding with
  | explicit given => exact .pure given
  | auto policy =>
    exact .bind (Entry.accounts_paddingResolved hw rfl) fun height _ =>
      .bind (Entry.accounts_paddingResolved hw rfl) fun width _ => .pure _

theorem Padding.accounts_resolveTransposed (padding : Padding) (outputPadding : Size2d Dim)
    (hw : IsWindow w) :
    Accounts (padding.script .transposedConvolution IsWindow
      (fun policy w => w.transposedSamePadding policy outputPadding.height)
      fun policy w => w.transposedSamePadding policy outputPadding.width)
      (padding.resolveTransposed w outputPadding) := by
  cases padding with
  | explicit given => exact .pure given
  | auto policy =>
    exact .bind (Entry.accounts_paddingResolved hw rfl) fun height _ =>
      .bind (Entry.accounts_paddingResolved hw rfl) fun width _ => .pure _

end

/-! ## Scripts of the operators -/

namespace Convolution

/-- The window of a call. -/
def IsWindow (c : Convolution) (input filter : Operand) (w : Window2d) : Prop :=
  ∃ x f, c.operands input filter = .ok (x, f) ∧ w = c.window x f

/-- The positions of the window were computed on both axes, with the padding of the call. -/
def sizesEntry (c : Convolution) (input filter : Operand) : Entry where
  message := "conv2d output sizes"
  tells event := ∃ w padding v, c.IsWindow input filter w ∧
    (c.padding.resolve w).result = .ok padding ∧
    w.height.positions "Conv2d" padding.height = .ok v.height ∧
    w.width.positions "Conv2d" padding.width = .ok v.width ∧
      event = .convolutionSizes v padding

/-- A convolution records its padding and then its sizes. -/
def script (c : Convolution) (input filter : Operand) : List Entry :=
  c.padding.script .convolution (c.IsWindow input filter) (fun policy w => w.samePadding policy)
    (fun policy w => w.samePadding policy) ++ [c.sizesEntry input filter]

theorem accounts_infer (c : Convolution) (input filter : Operand) :
    Accounts (c.script input filter) (c.infer input filter) := by
  refine .silent_bind fun ⟨x, f⟩ hoperands => ?_
  have hw : c.IsWindow input filter (c.window x f) := ⟨x, f, hoperands, rfl⟩
  refine .bind (c.padding.accounts_resolve hw) fun padding hpadding => ?_
  refine .silent_bind fun height hheight => .silent_bind fun width hwidth => ?_
  refine .emit_bind ⟨rfl, rfl, _, padding, ⟨height, width⟩, hw, hpadding, hheight, hwidth, rfl⟩ ?_
  exact .silent_bind fun _ _ => .silent_bind fun _ _ => .silent_bind fun _ _ => .silent _

end Convolution

namespace TransposedConvolution

/-- The window of a call. -/
def IsWindow (c : TransposedConvolution) (input filter : Operand) (w : Window2d) : Prop :=
  ∃ x f, c.operands input filter = .ok (x, f) ∧ w = c.window x f

/-- A transposed convolution records its padding. -/
def script (c : TransposedConvolution) (input filter : Operand) : List Entry :=
  c.padding.script .transposedConvolution (c.IsWindow input filter)
    (fun policy w => w.transposedSamePadding policy c.outputPadding.height)
    (fun policy w => w.transposedSamePadding policy c.outputPadding.width)

/-- A size that is requested is turned down with a report, unless it is zero or its bound cannot be
counted. -/
theorem accounts_requireRequested (axis : String) (requested computed stride : Dim) :
    Accounts [] (requireRequested axis requested computed stride) := by
  refine .silent_bind fun _ _ => .silent_bind fun bound _ => ?_
  split_ifs
  · exact .pure ()
  · exact .report rfl rfl rfl

theorem accounts_outputSize (c : TransposedConvolution) (w : Window2d) (padding : Padding2d) :
    Accounts [] (c.outputSize w padding) := by
  unfold outputSize
  cases c.outputSizes with
  | none => exact .silent_bind fun _ _ => .silent_bind fun _ _ => .pure _
  | some requested =>
    refine .silent_bind fun height _ => .silent_bind fun width _ => ?_
    exact .bind (accounts_requireRequested _ _ _ _) fun _ _ =>
      .bind (accounts_requireRequested _ _ _ _) fun _ _ => .pure requested

theorem accounts_infer (c : TransposedConvolution) (input filter : Operand) :
    Accounts (c.script input filter) (c.infer input filter) := by
  refine .silent_bind fun ⟨x, f⟩ hoperands => ?_
  have hw : c.IsWindow input filter (c.window x f) := ⟨x, f, hoperands, rfl⟩
  rw [← List.append_nil (c.script input filter)]
  refine .bind (c.padding.accounts_resolveTransposed c.outputPadding hw) fun padding _ => ?_
  refine .bind (c.accounts_outputSize _ padding) fun _ _ => ?_
  exact .silent_bind fun _ _ => .silent_bind fun _ _ => .silent _

end TransposedConvolution

namespace Pooling

variable {p : Pooling} {input : Operand}

/-- The window of a call. -/
def IsWindow (p : Pooling) (input : Operand) (w : Window2d) : Prop :=
  ∃ x, p.operand input = .ok x ∧ w = p.slidingWindow x

/-- The positions of the window were computed on both axes, with the padding of the call. -/
def sizesEntry (p : Pooling) (input : Operand) : Entry where
  message := p.kind.operator ++ " output sizes"
  tells event := ∃ x padding v, p.Reaches input x padding v ∧ event = .poolingSizes p.kind v padding

/-- A pooling records its padding and then its sizes. -/
def script (p : Pooling) (input : Operand) : List Entry :=
  p.padding.script .convolution (p.IsWindow input) (fun policy w => w.samePadding policy)
    (fun policy w => w.samePadding policy) ++ [p.sizesEntry input]

/-- The call came to its sizes, and the request names those of neither rounding. -/
def TurnsDown (p : Pooling) (input : Operand) : Prop :=
  ∃ x padding v requested floor ceil, p.Reaches input x padding v ∧
    p.outputSizes = some requested ∧ Size2d.IsRounding .floor v floor ∧
      Size2d.IsRounding .ceil v ceil ∧ requested ≠ floor ∧ requested ≠ ceil

theorem accounts_choose (p : Pooling) (floor ceil : Size2d Dim) :
    Accounts [] (p.choose floor ceil) := by
  unfold choose
  cases p.outputSizes with
  | none => cases p.rounding <;> exact .pure _
  | some requested =>
    dsimp only
    split_ifs
    · exact .pure requested
    · exact .report rfl rfl rfl

theorem accounts_infer (p : Pooling) (input : Operand) :
    Accounts (p.script input) (p.infer input) := by
  refine .silent_bind fun x hoperand => ?_
  have hw : p.IsWindow input (p.slidingWindow x) := ⟨x, hoperand, rfl⟩
  refine .bind (p.padding.accounts_resolve hw) fun padding hpadding => ?_
  refine .silent_bind fun height hheight => .silent_bind fun width hwidth => ?_
  have hreaches : p.Reaches input x padding ⟨height, width⟩ :=
    ⟨hoperand, hpadding, hheight, hwidth⟩
  refine .emit_bind ⟨rfl, rfl, x, padding, ⟨height, width⟩, hreaches, rfl⟩ ?_
  refine .silent_bind fun _ _ => .silent_bind fun _ _ => .silent_bind fun _ _ =>
    .silent_bind fun _ _ => ?_
  exact .bind (p.accounts_choose _ _) fun _ _ => .silent _

end Pooling

namespace Resampling

variable {r : Resampling} {input : Operand}

/-- An axis of the input was scaled. -/
def scaledEntry (input : Operand) (axis : Dim) (scale : Single) : Entry where
  message := "resample2d scaled size"
  tells event := ∃ n, input.shape[axis.toNat]? = some n ∧
    event = .scaledSize axis n scale (Double.mul n.toNat scale.value).floor

/-- A resampling by factors records the size of each axis; one to given sizes records nothing. -/
def script (r : Resampling) (input : Operand) : List Entry :=
  match r.target with
  | .sizes _ => []
  | .scales scales =>
    [scaledEntry input r.axes.1 scales.height, scaledEntry input r.axes.2 scales.width]

theorem accounts_scaledSize {axis n : Dim} {scale : Single}
    (hn : input.shape[axis.toNat]? = some n) :
    Accounts [scaledEntry input axis scale] (scaledSize axis n scale) := by
  refine .silent_bind fun _ _ => .emit_bind ⟨rfl, rfl, n, hn, rfl⟩ ?_
  split_ifs
  · exact .report rfl rfl rfl
  · exact .silent_bind fun _ _ => .silent _

theorem accounts_sizes (r : Resampling) (input : Operand) :
    Accounts (r.script input) (r.sizes input.shape) := by
  unfold script sizes
  cases r.target with
  | sizes sizes => exact .silent_bind fun _ _ => .pure _
  | scales scales =>
    refine .silent_bind fun n hn => ?_
    refine .bind (accounts_scaledSize (Shape.dim_eq_ok.mp hn)) fun _ _ => ?_
    refine .silent_bind fun m hm => ?_
    exact .bind (accounts_scaledSize (Shape.dim_eq_ok.mp hm)) fun _ _ => .pure _

theorem accounts_infer (r : Resampling) (input : Operand) :
    Accounts (r.script input) (r.infer input) := by
  refine .silent_bind fun _ _ => .silent_bind fun _ _ => .silent_bind fun _ _ => ?_
  rw [← List.append_nil (r.script input)]
  refine .bind (r.accounts_sizes input) fun ⟨first, second⟩ _ => ?_
  exact .silent_bind fun _ _ => .silent_bind fun _ _ => .silent _

end Resampling

/-! ## Requests that are turned down -/

theorem Window.not_reports_samePadding (w : Window) (policy : AutoPad) :
    ¬ (w.samePadding policy).Reports := by
  simp [samePadding, Traced.reports_bind, Event.level]

theorem Padding.not_reports_resolve (padding : Padding) (w : Window2d) :
    ¬ (padding.resolve w).Reports := by
  cases padding with
  | explicit given => exact Traced.not_reports_pure given
  | auto policy => simp [resolve, Traced.reports_bind, Window.not_reports_samePadding]

namespace Pooling

variable {p : Pooling} {input : Operand}

theorem reports_choose {floor ceil : Size2d Dim} :
    (p.choose floor ceil).Reports ↔
      ∃ requested, p.outputSizes = some requested ∧ requested ≠ floor ∧ requested ≠ ceil := by
  unfold choose
  cases p.outputSizes with
  | none => cases p.rounding <;> simp
  | some requested =>
    simp only [Option.some.injEq, exists_eq_left', ne_eq, ← not_or]
    by_cases hchosen : requested = floor ∨ requested = ceil
    · simp [hchosen]
    · simp [hchosen, Traced.reports_bind, Event.level]

/-- A pooling reports exactly the requests that it turns down for its sizes. -/
theorem reports_infer : (p.infer input).Reports ↔ p.TurnsDown input := by
  unfold infer
  simp only [Traced.reports_bind, Traced.not_reports_liftM, Traced.result_liftM,
    Traced.reports_emit, Traced.result_emit, Padding.not_reports_resolve, reports_choose,
    Dim.ofInt_eq_ok, Event.level, reduceCtorEq, false_or, or_false, and_false, exists_false]
  constructor
  · rintro ⟨x, hoperand, padding, hpadding, height, hheight, width, hwidth, _, -, floor₁, hfloor₁,
      floor₂, hfloor₂, ceil₁, hceil₁, ceil₂, hceil₂, requested, hrequested, hfloor, hceil⟩
    exact ⟨x, padding, ⟨height, width⟩, requested, ⟨floor₁, floor₂⟩, ⟨ceil₁, ceil₂⟩,
      ⟨hoperand, hpadding, hheight, hwidth⟩, hrequested, ⟨hfloor₁, hfloor₂⟩, ⟨hceil₁, hceil₂⟩,
      hfloor, hceil⟩
  · rintro ⟨x, padding, v, requested, floor, ceil, h, hrequested, hfloor, hceil, hne, hne'⟩
    exact ⟨x, h.operand, padding, h.resolves, v.height, h.height, v.width, h.width, (), trivial,
      floor.height, hfloor.1, floor.width, hfloor.2, ceil.height, hceil.1, ceil.width, hceil.2,
      requested, hrequested, hne, hne'⟩

end Pooling

namespace Resampling

variable {r : Resampling} {input : Operand} {axis n : Dim} {s : Single}

/-- The scaling of an axis reports exactly the products of a factor that are below 1. -/
theorem reports_scaledSize :
    (scaledSize axis n s).Reports ↔ s.IsFactor ∧ Double.round (s.scaled n) < 1 := by
  have hproduct : (Double.mul n.toNat s.value).floor < 1 ↔ Double.round (s.scaled n) < 1 := by
    show ⌊Double.round (s.scaled n)⌋ < 1 ↔ _
    rw [Int.floor_lt, Int.cast_one]
  have hfactor : s.isFinite ∧ 0 < s.value ↔ s.IsFactor :=
    ⟨fun h => ⟨h.1, h.2⟩, fun h => ⟨h.finite, h.positive⟩⟩
  unfold scaledSize
  simp only [Traced.reports_bind, Traced.not_reports_liftM, Traced.result_liftM,
    Traced.reports_emit, Traced.result_emit, require_eq_ok, hfactor, hproduct, Event.level,
    reduceCtorEq, false_or, exists_const]
  refine and_congr_right fun _ => ?_
  by_cases hempty : Double.round (s.scaled n) < 1
  · simp [hempty, Traced.reports_bind, Event.level]
  · simp [hempty, Traced.reports_bind]

/-- The call came to scale an axis by a factor, and the product is below 1. The second axis is
scaled only when the first one has its size. -/
def TurnsDown (r : Resampling) (input : Operand) : Prop :=
  input.rank = 4 ∧ input.dataType.isFloatingPoint ∧ r.axes ∈ allowedAxes ∧
    ∃ scales n, r.target = .scales scales ∧ input.shape[r.axes.1.toNat]? = some n ∧
      (scales.height.IsFactor ∧ Double.round (scales.height.scaled n) < 1 ∨
        ∃ first m, (scaledSize r.axes.1 n scales.height).result = .ok first ∧
          input.shape[r.axes.2.toNat]? = some m ∧
            scales.width.IsFactor ∧ Double.round (scales.width.scaled m) < 1)

theorem reports_sizes {shape : Shape} :
    (r.sizes shape).Reports ↔
      ∃ scales n, r.target = .scales scales ∧ shape[r.axes.1.toNat]? = some n ∧
        ((scaledSize r.axes.1 n scales.height).Reports ∨
          ∃ first m, (scaledSize r.axes.1 n scales.height).result = .ok first ∧
            shape[r.axes.2.toNat]? = some m ∧ (scaledSize r.axes.2 m scales.width).Reports) := by
  unfold sizes
  cases r.target with
  | sizes sizes => simp [Traced.reports_bind]
  | scales scales => simp [Traced.reports_bind]

/-- A resampling reports exactly the axes that it turns down as empty. -/
theorem reports_infer : (r.infer input).Reports ↔ r.TurnsDown input := by
  unfold infer
  simp only [Operand.requireRank, Operand.requireFloatingPoint, Traced.reports_bind,
    Traced.not_reports_liftM, Traced.result_liftM, require_eq_ok, reports_sizes,
    reports_scaledSize, false_or, exists_const, and_false, or_false]
  rfl

end Resampling

/-- **The events of a call tell the truth about it.** Every call of the four operators follows its
script: traces come first and are a beginning of the script, the whole of it when the call has an
output; after them stands at most one report, which gives the reason for which the call was
rejected, an invalid attribute. A pooling reports exactly when it has come to its sizes and the
request names those of neither rounding, a resampling when it has come to scale an axis and the
product is below 1. -/
theorem events_account_for_calls :
    (∀ (c : Convolution) (input filter : Operand),
      Accounts (c.script input filter) (c.infer input filter)) ∧
    (∀ (c : TransposedConvolution) (input filter : Operand),
      Accounts (c.script input filter) (c.infer input filter)) ∧
    (∀ (p : Pooling) (input : Operand),
      Accounts (p.script input) (p.infer input) ∧ ((p.infer input).Reports ↔ p.TurnsDown input)) ∧
    ∀ (r : Resampling) (input : Operand),
      Accounts (r.script input) (r.infer input) ∧ ((r.infer input).Reports ↔ r.TurnsDown input) :=
  ⟨Convolution.accounts_infer, TransposedConvolution.accounts_infer,
    fun p input => ⟨p.accounts_infer input, Pooling.reports_infer⟩,
    fun r input => ⟨r.accounts_infer input, Resampling.reports_infer⟩⟩

/-- The window has 3 positions and a third on each axis. A request that rounds them down for the
height and up for the width is turned down, after two paddings and the positions. -/
example :
    ((⟨.max, ⟨1, 1⟩, .auto .sameUpper, ⟨3, 3⟩, ⟨1, 1⟩, .nchw, .floor, some ⟨3, 4⟩⟩ : Pooling).infer
      ⟨.float32, [1, 1, 8, 8]⟩).events.map Event.message =
        ["resolved conv2d padding", "resolved conv2d padding", "MaxPool2d output sizes",
          "rejected explicit output sizes"] := by
  decide +kernel

end TensorTyping
