import Mathlib.Data.List.Forall2
import LedgerEvm.Error
import LedgerEvm.Machine.Trace
import LedgerEvm.Proofs.Actions

namespace LedgerEvm

/-!
# Two runs side by side

The same is done in two states that lie side by side: they differ only in what is looked up
beneath them, and the lookups of the first may fail where those of the second answer.  What
is done is steady when it ends alike on both sides, unless an excused failure has ended it
on the first.
-/

/-- The failures of a layer, as the machine sees them. -/
class Failure (ε : Type) where
  inMachine : ε → VmError

instance : Failure VmError :=
  ⟨id⟩

instance : Failure StateError :=
  ⟨.state⟩

instance : Failure PrecompileError :=
  ⟨.ofPrecompile⟩

/-- Prices are looked up for calls of system contracts. -/
instance : Failure PricingError :=
  ⟨fun error => .ofPrecompile (.ofPricing error)⟩

/-- A failed lookup stays what it is on its way through a system contract. -/
@[simp] theorem Failure.inMachine_ofState
    (error : StateError) :
    inMachine (PrecompileError.ofState error) = inMachine error := by
  cases error <;> rfl

/-- So it does on its way through the pricing of a call. -/
@[simp] theorem Failure.inMachine_state
    (error : StateError) :
    inMachine (PricingError.state error) = inMachine error :=
  inMachine_ofState error

/--
The failures in which the first side may end alone, and those in which both sides may end
together.  Only a failed lookup is excused; a failure that ends no more than a frame is
shared in any case.
-/
structure Tolerance where
  excused : VmError → Prop
  shared : VmError → Prop
  isLookup : ∀ {error : VmError}, excused error → ∃ what, error = .state (.snapshot what)
  shares : ∀ {error : VmError}, error.isAbort = false → shared error

namespace Tolerance

variable {ε σ α β : Type} [Failure ε]

theorem isAbort
    (tolerance : Tolerance)
    {error : VmError}
    (excuse : tolerance.excused error) :
    error.isAbort = true := by
  obtain ⟨what, rfl⟩ := tolerance.isLookup excuse
  rfl

/-! ## Results -/

/-- Two results are alike, or the first is an excused failure. -/
inductive Matches (tolerance : Tolerance) (alike : α → α → Prop) :
    Except ε α → Except ε α → Prop where
  | ok
      {first second : α}
      (holds : alike first second) :
      Matches tolerance alike (.ok first) (.ok second)
  | error
      {error : ε}
      (shares : tolerance.shared (Failure.inMachine error)) :
      Matches tolerance alike (.error error) (.error error)
  | excused
      {error : ε} {second : Except ε α}
      (excuse : tolerance.excused (Failure.inMachine error)) :
      Matches tolerance alike (.error error) second

/--
Two actions have ended alike, in states that lie side by side, or the first has ended in an
excused failure.
-/
inductive Follows (tolerance : Tolerance) (beside : σ → σ → Prop) :
    EStateM.Result ε σ α → EStateM.Result ε σ α → Prop where
  | ok
      {answer : α} {first second : σ}
      (besides : beside first second) :
      Follows tolerance beside (.ok answer first) (.ok answer second)
  | error
      {error : ε} {first second : σ}
      (shares : tolerance.shared (Failure.inMachine error))
      (besides : beside first second) :
      Follows tolerance beside (.error error first) (.error error second)
  | excused
      {error : ε} {first : σ} {second : EStateM.Result ε σ α}
      (excuse : tolerance.excused (Failure.inMachine error)) :
      Follows tolerance beside (.error error first) second

/-- Begun in states that lie side by side, the action ends alike. -/
def Steady
    (tolerance : Tolerance)
    (beside : σ → σ → Prop)
    (action : EStateM ε σ α) : Prop :=
  ∀ first second, beside first second → tolerance.Follows beside (action first) (action second)

variable {tolerance : Tolerance}

namespace Matches

variable {alike : α → α → Prop} {alike' : β → β → Prop}

/-- An answer that does not depend on the side. -/
theorem same
    {result : Except ε α}
    (shares : ∀ error, result = .error error → tolerance.shared (Failure.inMachine error)) :
    tolerance.Matches Eq result result := by
  cases result with
  | ok answer => exact .ok rfl
  | error error => exact .error (shares error rfl)

theorem bind
    {first second : Except ε α}
    {next next' : α → Except ε β}
    (begins : tolerance.Matches alike first second)
    (goesOn : ∀ answer answer',
      alike answer answer' → tolerance.Matches alike' (next answer) (next' answer')) :
    tolerance.Matches alike' (first >>= next) (second >>= next') := by
  cases begins with
  | ok holds => exact goesOn _ _ holds
  | error shares => exact .error shares
  | excused excuse => exact .excused excuse

/-- After one answer both sides go on. -/
theorem bind_eq
    {first second : Except ε α}
    {next next' : α → Except ε β}
    (begins : tolerance.Matches Eq first second)
    (goesOn : ∀ answer, tolerance.Matches alike' (next answer) (next' answer)) :
    tolerance.Matches alike' (first >>= next) (second >>= next') :=
  begins.bind fun answer _ same => same ▸ goesOn answer

/-- A failure of another layer is taken for what it is in the machine. -/
theorem mapError
    {ε' : Type}
    [Failure ε']
    {first second : Except ε α}
    {change : ε → ε'}
    (begins : tolerance.Matches alike first second)
    (stays : ∀ error, Failure.inMachine (change error) = Failure.inMachine error) :
    tolerance.Matches alike (first.mapError change) (second.mapError change) := by
  cases begins with
  | ok holds => exact .ok holds
  | @error error shares => exact .error (stays error ▸ shares)
  | @excused error _ excuse => exact .excused (stays error ▸ excuse)

end Matches

namespace Follows

variable {beside : σ → σ → Prop}

/-- How the actions go on has to be known only where they do go on. -/
theorem bind
    {action action' : EStateM ε σ α}
    {next next' : α → EStateM ε σ β}
    {first second : σ}
    (begins : tolerance.Follows beside (action first) (action' second))
    (goesOn : ∀ answer first' second',
      action' second = .ok answer second' →
      beside first' second' →
      tolerance.Follows beside (next answer first') (next' answer second')) :
    tolerance.Follows beside ((action >>= next) first) ((action' >>= next') second) := by
  cases result : action first with
  | ok answer first' =>
      cases result' : action' second with
      | ok answer' second' =>
          rw [result, result'] at begins
          cases begins with
          | ok besides =>
              rw [bind_eq_of_ok result, bind_eq_of_ok result']
              exact goesOn answer first' second' result' besides
      | error error second' =>
          rw [result, result'] at begins
          cases begins
  | error error first' =>
      rw [bind_eq_of_error result]
      rw [result] at begins
      cases result' : action' second with
      | ok answer second' =>
          rw [result'] at begins
          cases begins with
          | excused excuse => exact .excused excuse
      | error error' second' =>
          rw [result'] at begins
          rw [bind_eq_of_error result']
          cases begins with
          | error shares besides => exact .error shares besides
          | excused excuse => exact .excused excuse

end Follows

/-! ## Actions -/

namespace Steady

variable {beside : σ → σ → Prop}

theorem pure
    (answer : α) :
    tolerance.Steady beside (Pure.pure answer : EStateM ε σ α) :=
  fun _ _ besides => .ok besides

theorem throw
    {error : ε}
    (shares : tolerance.shared (Failure.inMachine error)) :
    tolerance.Steady beside (throwThe ε error : EStateM ε σ α) :=
  fun _ _ besides => .error shares besides

theorem bind
    {action : EStateM ε σ α}
    {next : α → EStateM ε σ β}
    (begins : tolerance.Steady beside action)
    (goesOn : ∀ answer, tolerance.Steady beside (next answer)) :
    tolerance.Steady beside (action >>= next) :=
  fun first second besides =>
    (begins first second besides).bind fun answer first' second' _ =>
      goesOn answer first' second'

/-- An action that is only taken under a condition, and then what follows in any case. -/
theorem guarded
    {condition : Prop}
    [Decidable condition]
    {action : EStateM ε σ α}
    {rest : EStateM ε σ β}
    (begins : tolerance.Steady beside action)
    (goesOn : tolerance.Steady beside rest) :
    tolerance.Steady beside (if condition then action >>= fun _ => rest else rest) := by
  split
  · exact begins.bind fun _ => goesOn
  · exact goesOn

/-- A loop of steady rounds. -/
theorem forM
    {round : β → EStateM ε σ PUnit}
    (steady : ∀ item, tolerance.Steady beside (round item))
    (items : List β) :
    tolerance.Steady beside (items.forM round) := by
  induction items with
  | nil => exact Steady.pure _
  | cons item rest inductionHypothesis =>
      exact (steady item).bind fun _ => inductionHypothesis

theorem mapM
    {question : β → EStateM ε σ α}
    (steady : ∀ item, tolerance.Steady beside (question item))
    (items : List β) :
    tolerance.Steady beside (items.mapM question) := by
  induction items with
  | nil => exact Steady.pure _
  | cons item rest inductionHypothesis =>
      rw [List.mapM_cons]
      refine (steady item).bind fun answer => ?_
      exact inductionHypothesis.bind fun answers => Steady.pure _

end Steady

end Tolerance

/-!
## Traces of two runs

Two runs of one program may be traced differently: one of them not at all, or each with
its own options.  What a run does with its trace keeps the two traces alike.
-/

/-- What two option sets both show of an instruction is the same. -/
structure TraceStep.Agrees (options options' : TraceOptions) (step step' : TraceStep) : Prop where
  position : step.position = step'.position
  name : step.name = step'.name
  gas : step.gas = step'.gas
  gasCost : step.gasCost = step'.gasCost
  depth : step.depth = step'.depth
  stack : options.stack = true → options'.stack = true → step.stack = step'.stack
  memory : options.memory = true → options'.memory = true → step.memory = step'.memory
  storage : options.storage = true → options'.storage = true → step.storage = step'.storage
  reason : step.reason = step'.reason

/-- How the traces of two runs may differ, and where the runs may have recorded a step. -/
structure TraceComparison where
  alike : Trace → Trace → Prop
  places : Option Nat → Option Nat → Prop
  samePlace : ∀ place, places place place
  record :
    ∀ {first second : Trace},
      alike first second →
      ∀ position name gas gasCost depth stack memory,
        let recorded := first.record position name gas gasCost depth stack memory
        let recorded' := second.record position name gas gasCost depth stack memory
        places recorded.1 recorded'.1 ∧ alike recorded.2 recorded'.2
  amendCost :
    ∀ {first second : Trace} {place place' : Option Nat},
      alike first second →
      places place place' →
      ∀ gasCost, alike (first.amendCost place gasCost) (second.amendCost place' gasCost)
  recordStorage :
    ∀ {first second : Trace},
      alike first second →
      ∀ key value, alike (first.recordStorage key value) (second.recordStorage key value)
  recordReason :
    ∀ {first second : Trace},
      alike first second →
      ∀ reason, alike (first.recordReason reason) (second.recordReason reason)

/-- Both runs keep the same trace. -/
def TraceComparison.same : TraceComparison where
  alike := Eq
  places := Eq
  samePlace _ := rfl
  record := by
    rintro first _ rfl _ _ _ _ _ _ _
    exact ⟨rfl, rfl⟩
  amendCost := by
    rintro first _ place _ rfl rfl _
    rfl
  recordStorage := by
    rintro first _ rfl _ _
    rfl
  recordReason := by
    rintro first _ rfl _
    rfl

/-! ### Traces with options of their own -/

/-- Related lists stay so when the items at one place are changed alike. -/
theorem forall₂_modify
    {α β : Type}
    {related : α → β → Prop}
    {change : α → α}
    {change' : β → β}
    (keeps : ∀ item item', related item item' → related (change item) (change' item'))
    {items : List α}
    {items' : List β}
    (all : List.Forall₂ related items items')
    (index : Nat) :
    List.Forall₂ related (items.modify index change) (items'.modify index change') := by
  induction all generalizing index with
  | nil => simp
  | @cons item item' _ _ head tail inductionHypothesis =>
      cases index with
      | zero => exact .cons (keeps item item' head) tail
      | succ index => exact .cons head (inductionHypothesis index)

namespace Trace

/-! #### One trace -/

/-- The trace is on or off as the other one, and has its options. -/
structure KeepsSettings (begun trace : Trace) : Prop where
  enabled : trace.enabled = begun.enabled
  options : trace.options = begun.options

namespace KeepsSettings

variable {begun trace : Trace} (keeps : begun.KeepsSettings trace)
include keeps

theorem record
    (position : Nat)
    (name : String)
    (gas gasCost : UInt64)
    (depth : UInt16)
    (stack : OperandStack)
    (memory : Memory) :
    begun.KeepsSettings (trace.record position name gas gasCost depth stack memory).2 := by
  unfold Trace.record
  split
  · exact ⟨keeps.enabled, keeps.options⟩
  · exact keeps

theorem amendCost
    (place : Option Nat)
    (gasCost : UInt64) :
    begun.KeepsSettings (trace.amendCost place gasCost) := by
  cases place with
  | none => exact keeps
  | some index => exact ⟨keeps.enabled, keeps.options⟩

theorem recordStorage
    (key value : Word) :
    begun.KeepsSettings (trace.recordStorage key value) := by
  unfold Trace.recordStorage
  split
  · exact ⟨keeps.enabled, keeps.options⟩
  · exact keeps

theorem recordReason
    (reason : String) :
    begun.KeepsSettings (trace.recordReason reason) := by
  unfold Trace.recordReason
  split
  · exact ⟨keeps.enabled, keeps.options⟩
  · exact keeps

end KeepsSettings

theorem toList_steps_changeLast
    (trace : Trace)
    (change : TraceStep → TraceStep) :
    (trace.changeLast change).steps.toList =
      trace.steps.toList.modify (trace.steps.size - 1) change :=
  Array.toList_modify ..

/-- A trace that does not show storage leaves its last step as it is. -/
theorem toList_steps_recordStorage
    {trace : Trace}
    (on : trace.enabled = true)
    (key value : Word) :
    (trace.recordStorage key value).steps.toList =
      trace.steps.toList.modify (trace.steps.size - 1) fun step =>
        if trace.options.storage then { step with storage := step.storage ++ [(key, value)] }
        else step := by
  cases shown : trace.options.storage with
  | true =>
      simp only [recordStorage, on, shown, Bool.and_self, if_true]
      exact toList_steps_changeLast trace _
  | false =>
      simp only [recordStorage, shown, Bool.and_false, Bool.false_eq_true, if_false]
      exact (List.modify_id ..).symm

/-! #### Two traces -/

/--
The traces of two runs that began with the given ones: each has kept its settings, and if
both are on, what both show of each instruction is the same.
-/
structure KeptAlike (begun begun' first second : Trace) : Prop where
  settings : begun.KeepsSettings first
  settings' : begun'.KeepsSettings second
  steps :
    begun.enabled = true →
    begun'.enabled = true →
    List.Forall₂ (TraceStep.Agrees begun.options begun'.options) first.steps.toList
      second.steps.toList

namespace KeptAlike

variable
  {begun begun' first second : Trace}
  (alike : KeptAlike begun begun' first second)
include alike

theorem size_eq
    (on : begun.enabled = true)
    (on' : begun'.enabled = true) :
    first.steps.size = second.steps.size :=
  (alike.steps on on').length_eq

/-- A step is recorded at the same place of two traces that are on. -/
theorem place_record
    (on : begun.enabled = true)
    (on' : begun'.enabled = true)
    (position : Nat)
    (name : String)
    (gas gasCost : UInt64)
    (depth : UInt16)
    (stack : OperandStack)
    (memory : Memory) :
    (first.record position name gas gasCost depth stack memory).1 =
      (second.record position name gas gasCost depth stack memory).1 := by
  simp only [Trace.record, alike.settings.enabled, alike.settings'.enabled, on, on', if_true,
    alike.size_eq on on']

theorem record
    (position : Nat)
    (name : String)
    (gas gasCost : UInt64)
    (depth : UInt16)
    (stack : OperandStack)
    (memory : Memory) :
    KeptAlike begun begun' (first.record position name gas gasCost depth stack memory).2
      (second.record position name gas gasCost depth stack memory).2 where
  settings := alike.settings.record ..
  settings' := alike.settings'.record ..
  steps on on' := by
    simp only [Trace.record, alike.settings.enabled, alike.settings'.enabled, on, on', if_true,
      alike.settings.options, alike.settings'.options, Array.toList_push]
    refine List.rel_append (alike.steps on on') (.cons ?_ .nil)
    exact
      { position := rfl, name := rfl, gas := rfl, gasCost := rfl, depth := rfl
        stack := fun shown shown' => by simp only [shown, shown']
        memory := fun shown shown' => by simp only [shown, shown']
        storage := fun _ _ => rfl
        reason := rfl }

theorem amendCost
    {place place' : Option Nat}
    (samePlace : begun.enabled = true → begun'.enabled = true → place = place')
    (gasCost : UInt64) :
    KeptAlike begun begun' (first.amendCost place gasCost)
      (second.amendCost place' gasCost) where
  settings := alike.settings.amendCost ..
  settings' := alike.settings'.amendCost ..
  steps on on' := by
    obtain rfl := samePlace on on'
    cases place with
    | none => exact alike.steps on on'
    | some index =>
        simp only [Trace.amendCost, Array.toList_modify]
        exact forall₂_modify (fun _ _ agrees => { agrees with gasCost := rfl })
          (alike.steps on on') index

theorem recordStorage
    (key value : Word) :
    KeptAlike begun begun' (first.recordStorage key value)
      (second.recordStorage key value) where
  settings := alike.settings.recordStorage ..
  settings' := alike.settings'.recordStorage ..
  steps on on' := by
    rw [toList_steps_recordStorage (alike.settings.enabled.trans on),
      toList_steps_recordStorage (alike.settings'.enabled.trans on'), alike.size_eq on on',
      alike.settings.options, alike.settings'.options]
    refine forall₂_modify (fun step step' agrees => ?_) (alike.steps on on') _
    -- what only one of the traces shows is not compared
    by_cases shown : begun.options.storage = true <;>
      by_cases shown' : begun'.options.storage = true <;>
      simp only [shown, shown', if_true]
    · exact { agrees with storage := fun _ _ => by rw [agrees.storage shown shown'] }
    · exact { agrees with storage := fun _ shows' => absurd shows' shown' }
    · exact { agrees with storage := fun shows _ => absurd shows shown }
    · exact agrees

theorem recordReason
    (reason : String) :
    KeptAlike begun begun' (first.recordReason reason) (second.recordReason reason) where
  settings := alike.settings.recordReason ..
  settings' := alike.settings'.recordReason ..
  steps on on' := by
    simp only [Trace.recordReason, alike.settings.enabled, alike.settings'.enabled, on, on',
      if_true, toList_steps_changeLast, alike.size_eq on on']
    exact forall₂_modify (fun _ _ agrees => { agrees with reason := rfl })
      (alike.steps on on') _

end KeptAlike

end Trace

/-- Each run keeps a trace with settings of its own. -/
def TraceComparison.ofSettings (begun begun' : Trace) : TraceComparison where
  alike := Trace.KeptAlike begun begun'
  places place place' := begun.enabled = true → begun'.enabled = true → place = place'
  samePlace _ _ _ := rfl
  record alike _ _ _ _ _ _ _ := ⟨fun on on' => alike.place_record on on' .., alike.record ..⟩
  amendCost alike samePlace _ := alike.amendCost samePlace _
  recordStorage alike _ _ := alike.recordStorage ..
  recordReason alike _ := alike.recordReason _

end LedgerEvm
