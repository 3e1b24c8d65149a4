import Formwork.Failure
import Formwork.Html

/-!
# Diagnostics

A problem never keeps a page from being shown: it is reported here, and what it concerns is left
out. Reports have a level, and all but those of the lowest level may be shown to the user. Problems
with what was put into a form are kept apart, by the scope of the form.
-/

namespace Formwork

/-- How serious a report is. -/
inductive Level where
  /-- For developers only. -/
  | debug
  /-- A remark. -/
  | info
  /-- Something was done as asked. -/
  | success
  /-- Something to look at. -/
  | warning
  /-- Something failed. -/
  | error
  /-- The database or the session store failed. -/
  | high
deriving DecidableEq, Repr

namespace Level

/-- Every level. -/
def all : List Level := [.debug, .info, .success, .warning, .error, .high]

/-- The place of the level among the others. -/
def rank : Level → Nat
  | .debug => 10
  | .info => 20
  | .success => 25
  | .warning => 30
  | .error => 40
  | .high => 50

/-- The name of the level. -/
def name : Level → String
  | .debug => "debug"
  | .info => "info"
  | .success => "success"
  | .warning => "warning"
  | .error => "error"
  | .high => "high"

/-- The level with exactly the given name. -/
def ofName? (name : String) : Option Level := all.find? fun level => level.name = name

/-- The name of the level in saved reports. -/
def savedName : Level → String
  | .debug => "Debug"
  | .info => "Info"
  | .success => "Success"
  | .warning => "Warning"
  | .error => "Error"
  | .high => "High"

/-- The style class of shown reports. -/
def styleClass : Level → String
  | .debug | .info => ""
  | .success => "successMessage"
  | .warning => "warningMessage"
  | .error | .high => "errorMessage"

/-- Reports of the level may be shown to the user. -/
def isUserFacing (level : Level) : Bool := level ≠ .debug

end Level

/-- One report. -/
structure Report where
  /-- How serious it is. -/
  level : Level
  /-- What it says. -/
  message : String
deriving DecidableEq, Repr

/-- The report as a JSON document. -/
def Report.toJson (report : Report) : Json :=
  .object [("level", .string report.level.savedName), ("message", .string report.message)]

/-- The reports of one request. -/
structure Diagnostics where
  /-- The reports, in order. -/
  reports : List Report := []
  /-- What is wrong with the input of forms, in order, by scope. -/
  inputErrors : TextMap (List String) := .empty

namespace Diagnostics

/-- Nothing was reported. -/
def empty : Diagnostics := {}

/-- The diagnostics with one more report. -/
def report (diagnostics : Diagnostics) (level : Level) (message : String) : Diagnostics :=
  { diagnostics with reports := diagnostics.reports ++ [⟨level, message⟩] }

/-- The diagnostics with a failure, at the level of its cause. -/
def reportFailure (diagnostics : Diagnostics) (failure : Failure) : Diagnostics :=
  match failure with
  | .session _ | .io _ | .serialization _ => diagnostics.report .high failure.message
  | _ => diagnostics.report .debug failure.message

/-- What is wrong with the input of the form with the given scope. -/
def errorsIn (diagnostics : Diagnostics) (scope : String) : List String :=
  (diagnostics.inputErrors.get? scope).getD []

/-- The diagnostics with one more problem in a scope. -/
def addError (diagnostics : Diagnostics) (scope message : String) : Diagnostics :=
  { diagnostics with
    inputErrors := diagnostics.inputErrors.insert scope (diagnostics.errorsIn scope ++ [message]) }

/-- The reports that may be shown to the user. -/
def userFacing (diagnostics : Diagnostics) : List Report :=
  diagnostics.reports.filter (·.level.isUserFacing)

/-- Some report is at least as serious as the given level. -/
def hasAtLeast (diagnostics : Diagnostics) (level : Level) : Bool :=
  diagnostics.reports.any fun report => level.rank ≤ report.level.rank

/-- Some report says the given words. -/
def mentions (diagnostics : Diagnostics) (words : String) : Bool :=
  diagnostics.reports.any fun report => Text.occursIn words report.message

/-! ## HTML -/

/-- One shown message. -/
def itemHtml (level : Level) (message : String) : String :=
  "<li><span class=\"" ++ level.styleClass ++ "\">" ++ Html.escape message ++ "</span></li>"

/-- A list of shown messages; nothing for no message. -/
def listHtml (items : List String) : String :=
  if items.isEmpty then "" else "<ul class=\"errorPrettyPrint\">" ++ String.join items ++ "</ul>"

/-- What is wrong with the input of a form, as a list. -/
def errorsHtml (diagnostics : Diagnostics) (scope : String) : String :=
  listHtml ((diagnostics.errorsIn scope).map (itemHtml .error))

/-- The reports that may be shown to the user, as a list. -/
def html (diagnostics : Diagnostics) : String :=
  listHtml (diagnostics.userFacing.map fun report => itemHtml report.level report.message)

end Diagnostics

end Formwork
