/-!
# Validation reports

A report collects the findings of a validation.  An error marks a directive that
will not work as written; a warning marks something suspicious that still has an
effect.  Every finding names the directive it belongs to.
-/

namespace ContentSecurity

/-- Errors and warnings in the order in which they were found. -/
structure Report where
  errors : List String := []
  warnings : List String := []
deriving DecidableEq, Repr

namespace Report

/-- The line of an error. -/
def errorLine
    (directive message : String) :
    String :=
  directive ++ " reports a validation error: " ++ message

/-- The line of a warning. -/
def warningLine
    (directive message : String) :
    String :=
  directive ++ " reports a validation warning: " ++ message

/-- Adds an error of a directive. -/
def addError
    (report : Report)
    (directive message : String) :
    Report :=
  { report with errors := report.errors ++ [errorLine directive message] }

/-- Adds a warning of a directive. -/
def addWarning
    (report : Report)
    (directive message : String) :
    Report :=
  { report with warnings := report.warnings ++ [warningLine directive message] }

/-- A report without errors may still hold warnings. -/
def hasNoErrors
    (report : Report) :
    Bool :=
  report.errors.isEmpty

/-- A report without warnings may still hold errors. -/
def hasNoWarnings
    (report : Report) :
    Bool :=
  report.warnings.isEmpty

/-- All findings, one a line, the errors first. -/
def display
    (report : Report) :
    String :=
  String.join ((report.errors ++ report.warnings).map (· ++ "\n"))

end Report
end ContentSecurity
