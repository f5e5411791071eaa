import ElementSync.ElementId

/-!
# Findings

A finding tells the user something about one element. Errors block the change of
the element; warnings and information do not.
-/
namespace ElementSync

inductive Severity where
  | info
  | warning
  | error
deriving DecidableEq

def Severity.label : Severity → String
  | info => "Info"
  | warning => "Warning"
  | error => "Error"

structure Finding where
  id : ElementId
  severity : Severity
  message : String
  detail : String
deriving DecidableEq

namespace Finding

def error (id : ElementId) (message detail : String) : Finding := ⟨id, .error, message, detail⟩

def warning (id : ElementId) (message detail : String) : Finding :=
  ⟨id, .warning, message, detail⟩

def isBlocking (f : Finding) : Bool := f.severity = .error

def display (f : Finding) : String :=
  "[" ++ f.severity.label ++ "] " ++ f.id.fullName ++ ": " ++ f.message

end Finding

end ElementSync
