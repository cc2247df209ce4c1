import LayerGraph.Failure.Basic

/-! A journal of what a conversion reports, with a threshold below which nothing is kept.

A record is kept before its markup is looked at, so that a record with broken markup is still there
when the report fails.
-/

set_option autoImplicit false

namespace LayerGraph

inductive Severity where
  | debug
  | info
  | success
  | warning
  | error
  | critical
  deriving DecidableEq, Repr

namespace Severity

/-- All severities, mildest first. -/
def all : List Severity := [.debug, .info, .success, .warning, .error, .critical]

def number : Severity → Int
  | .debug => 10
  | .info => 20
  | .success => 25
  | .warning => 30
  | .error => 40
  | .critical => 50

def name : Severity → String
  | .debug => "DEBUG"
  | .info => "INFO"
  | .success => "SUCCESS"
  | .warning => "WARNING"
  | .error => "ERROR"
  | .critical => "CRITICAL"

/-- The severity of a name. -/
def ofName? (name : String) : Option Severity := all.find? fun severity => severity.name = name

/-- The mark that opens a message. -/
def mark : Severity → String
  | .debug | .critical => ""
  | .info => "ℹ️  "
  | .success => "✅ "
  | .warning => "⚠️  "
  | .error => "❌ "

end Severity

structure Record where
  severity : Severity
  message : String
  deriving DecidableEq, Repr

structure Journal where
  threshold : Int := 20
  records : List Record := []
  deriving DecidableEq, Repr

namespace Journal

/-- Whether records of a severity are kept. -/
def keeps (journal : Journal) (severity : Severity) : Bool := journal.threshold ≤ severity.number

/-- Add a record. -/
def keep (journal : Journal) (record : Record) : Journal :=
  { journal with records := journal.records ++ [record] }

/-- Keep a record, then show its markup. -/
def emit (severity : Severity) (message : String) : Run Journal Unit :=
  fun journal =>
    if journal.keeps severity then
      let kept := journal.keep ⟨severity, message⟩
      match Markup.read message with
      | .ok _ => (.ok (), kept)
      | .error defect => (.error (.fault (.markup defect)), kept)
    else (.ok (), journal)

/-- Report a message under the mark of its severity. -/
def report (severity : Severity) (message : String) : Run Journal Unit :=
  emit severity (severity.mark ++ message)

end Journal

end LayerGraph
