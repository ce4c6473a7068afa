/-!
# The journal

What the process reports about itself besides its answers: log lines that ask for attention, and
counters.  A journal only grows, so the lines of one step are those past the length it had before.
-/

namespace EventIntake

inductive Severity where
  | error
  | warn
  | debug
  deriving DecidableEq, Repr

def Severity.label : Severity → String
  | .error => "ERROR"
  | .warn => "WARN"
  | .debug => "DEBUG"

/-- A log line with its named values, all of them as text. -/
structure LogLine where
  severity : Severity
  message : String
  fields : List (String × String)
  deriving DecidableEq, Repr

/-- How the start of an optional capability ended. -/
inductive Outcome where
  | available
  | permissionDenied
  | unavailable
  | timedOut
  deriving DecidableEq, Repr

def Outcome.label : Outcome → String
  | .available => "available"
  | .permissionDenied => "permission_denied"
  | .unavailable => "unavailable"
  | .timedOut => "timed_out"

def Outcome.all : List Outcome := [.available, .permissionDenied, .unavailable, .timedOut]

structure Metrics where
  contractsPublished : Nat := 0
  contractBytes : Nat := 0
  teardownErrors : Nat := 0
  outcomes : List Outcome := []
  deriving DecidableEq, Repr

namespace Metrics

def published (m : Metrics) (size : Nat) : Metrics :=
  { m with contractsPublished := m.contractsPublished + 1, contractBytes := m.contractBytes + size }

def teardownError (m : Metrics) : Metrics :=
  { m with teardownErrors := m.teardownErrors + 1 }

def outcome (m : Metrics) (o : Outcome) : Metrics :=
  { m with outcomes := o :: m.outcomes }

/-- The counters that moved, each with its name. -/
def samples (m : Metrics) : List (String × Nat) :=
  let labelled (o : Outcome) : String :=
    "receiver_capability_outcome_total\x7boutcome=" ++ o.label ++ "\x7d"
  let all :=
    [("receiver_contract_publish_total", m.contractsPublished),
      ("receiver_contract_publish_bytes_total", m.contractBytes),
      ("receiver_teardown_errors_total", m.teardownErrors)]
    ++ Outcome.all.map fun o => (labelled o, m.outcomes.count o)
  all.filter fun sample => sample.2 != 0

end Metrics

structure Journal where
  lines : List LogLine := []
  metrics : Metrics := {}
  deriving Repr

namespace Journal

def log (j : Journal) (line : LogLine) : Journal := { j with lines := j.lines ++ [line] }

def warn (j : Journal) (message : String) (fields : List (String × String)) : Journal :=
  j.log ⟨.warn, message, fields⟩

def error (j : Journal) (message : String) (fields : List (String × String)) : Journal :=
  j.log ⟨.error, message, fields⟩

def count (j : Journal) (change : Metrics → Metrics) : Journal :=
  { j with metrics := change j.metrics }

@[simp] theorem lines_log (j : Journal) (line : LogLine) :
    (j.log line).lines = j.lines ++ [line] := rfl

@[simp] theorem metrics_log (j : Journal) (line : LogLine) : (j.log line).metrics = j.metrics := rfl

@[simp] theorem lines_count (j : Journal) (change : Metrics → Metrics) :
    (j.count change).lines = j.lines := rfl

/-- Lines may have been added to `j`, but no outcome was counted. -/
structure Grows (j j' : Journal) : Prop where
  lines : j.lines <+: j'.lines
  outcomes : j'.metrics.outcomes = j.metrics.outcomes

namespace Grows

variable {j j' j'' : Journal}

theorem refl (j : Journal) : j.Grows j := ⟨List.prefix_rfl, rfl⟩

theorem trans (h : j.Grows j') (h' : j'.Grows j'') : j.Grows j'' :=
  ⟨h.lines.trans h'.lines, h'.outcomes.trans h.outcomes⟩

theorem log (j : Journal) (line : LogLine) : j.Grows (j.log line) := ⟨List.prefix_append _ _, rfl⟩

theorem warn (j : Journal) (message : String) (fields : List (String × String)) :
    j.Grows (j.warn message fields) := log ..

theorem foldl_log (j : Journal) (lines : List LogLine) : j.Grows (lines.foldl Journal.log j) := by
  induction lines generalizing j with
  | nil => exact .refl j
  | cons line rest ih => exact (log j line).trans (ih _)

theorem teardownError (j : Journal) : j.Grows (j.count Metrics.teardownError) :=
  ⟨List.prefix_rfl, rfl⟩

end Grows

end Journal

end EventIntake
