import LayerGraph.Failure.Fault
import LayerGraph.Graph.Defect
import LayerGraph.Layer.Defect
import LayerGraph.Lowering.Defect
import LayerGraph.Program.Defect
import LayerGraph.Tensor.Defect

/-! Failures: a conversion error with its context, a fault, or a record whose fields were refused.

A conversion error is a cause with the operator and the subject, a variable, that it concerns. Its
text is the message of the cause followed by the context that is not empty. Effects on a state may fail as
attempts do, and a failure keeps the state that it was reached in.
-/

set_option autoImplicit false

namespace LayerGraph

open Text

/-- Why a conversion fails. -/
inductive Cause where
  | payload (defect : PayloadDefect)
  | layer (defect : LayerDefect)
  | graph (defect : GraphDefect)
  | program (defect : ProgramDefect)
  | lowering (defect : LoweringDefect)
  | reported (errorClass : ErrorClass) (message : String)
  deriving DecidableEq, Repr

namespace Cause

def errorClass : Cause → ErrorClass
  | .payload defect => defect.errorClass
  | .layer _ | .graph _ => .portConnection
  | .program defect => defect.errorClass
  | .lowering defect => defect.errorClass
  | .reported c _ => c

def message : Cause → String
  | .payload defect => defect.message
  | .layer defect => defect.message
  | .graph defect => defect.message
  | .program defect => defect.message
  | .lowering defect => defect.message
  | .reported _ message => message

/-- The issues of a refused document. -/
def issues : Cause → List Issue
  | .program (.invalid _ issues) => issues
  | _ => []

end Cause

structure ConversionError where
  cause : Cause
  operator : Option String := none
  subject : Option String := none
  deriving DecidableEq, Repr

namespace ConversionError

def errorClass (error : ConversionError) : ErrorClass := error.cause.errorClass

def kind (error : ConversionError) : ErrorKind := error.errorClass.kind

def message (error : ConversionError) : String := error.cause.message

private def contextPart (label : String) : Option String → List String
  | none => []
  | some "" => []
  | some value => [label ++ value]

/-- The message with its context. -/
def text (error : ConversionError) : String :=
  join " | " (error.message :: contextPart "op=" error.operator ++ contextPart "var=" error.subject)

/-- The record of an error: its class, message and context. -/
def record (error : ConversionError) : String :=
  error.errorClass.name ++ "(" ++ quoted error.message ++ ", op_type="
    ++ quotedOption error.operator ++ ", variable=" ++ quotedOption error.subject ++ ")"

/-- Name the operator, unless one is named already. -/
def withOperator (error : ConversionError) (tag : String) : ConversionError :=
  match error.operator with
  | none => { error with operator := some tag }
  | some _ => error

@[simp] theorem withOperator_cause (error : ConversionError) (tag : String) :
    (error.withOperator tag).cause = error.cause := by
  unfold withOperator; split <;> rfl

@[simp] theorem withOperator_subject (error : ConversionError) (tag : String) :
    (error.withOperator tag).subject = error.subject := by
  unfold withOperator; split <;> rfl

/-- The first operator named stays. -/
theorem withOperator_withOperator (error : ConversionError) (first second : String) :
    (error.withOperator first).withOperator second = error.withOperator first := by
  cases error with
  | mk cause operator subject => cases operator <;> rfl

end ConversionError

inductive Failure where
  | conversion (error : ConversionError)
  | fault (fault : Fault)
  | refused (issues : List Issue)
  deriving DecidableEq, Repr

namespace Failure

/-- Name the operator of a conversion error; other failures pass unchanged. -/
def withOperator (failure : Failure) (tag : String) : Failure :=
  match failure with
  | .conversion error => .conversion (error.withOperator tag)
  | failure => failure

end Failure

abbrev Attempt := Except Failure

namespace Attempt

variable {α : Type}

/-- Fail for a cause. -/
def fail (cause : Cause) (operator subject : Option String := none) : Attempt α :=
  .error (.conversion ⟨cause, operator, subject⟩)

def fault (fault : Fault) : Attempt α := .error (.fault fault)

/-- Fail for what is wrong with a layer, as long as its integers can be shown. -/
def layer (defect : LayerDefect) : Attempt α :=
  if showsNumerals defect.message then fail (.layer defect) else fault .shownInteger

def graph (defect : GraphDefect) (subject : Option String := none) : Attempt α :=
  fail (.graph defect) none subject

end Attempt

abbrev Run (σ : Type) := ExceptT Failure (StateM σ)

namespace Run

variable {σ τ α : Type}

/-- An attempt that leaves the state alone. -/
def ofAttempt (attempt : Attempt α) : Run σ α := ExceptT.mk (pure attempt)

/-- An effect on a part of the state. -/
def onPart (view : σ → τ) (update : σ → τ → σ) (run : Run τ α) : Run σ α :=
  fun state =>
    let (result, part) := run (view state)
    (result, update state part)

/-- An effect with the state that it leaves, the failure beside the value. -/
def perform (run : Run σ α) (state : σ) : Attempt α × σ := run state

@[simp] theorem perform_ofAttempt (attempt : Attempt α) (state : σ) :
    (ofAttempt attempt).perform state = (attempt, state) := rfl

end Run

end LayerGraph
