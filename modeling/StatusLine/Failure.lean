/-!
# Reported failures

What the user is told when something goes wrong: whose fault it is, a code from a closed set, the
message, whether the message is shown prominently, and the text of an underlying cause.
Which situations lead to which failure is the business of `Fault`.
-/
namespace StatusLine

inductive Scope
  | user
  | internal
  | debug
  deriving DecidableEq, Repr

namespace Scope

def all : List Scope := [user, internal, debug]

def name : Scope → String
  | user => "user"
  | internal => "internal"
  | debug => "debug"

def ofName? (s : String) : Option Scope := all.find? (·.name == s)

end Scope

inductive Code
  | configurationNotAccessible
  | gitExtensionError
  | gitExtensionNotAvailable
  | invalidDynamicValue
  | invalidTemplateString
  | notConfigured
  | notImplemented
  | parseInvalidTimeRange
  | unknownError
  deriving DecidableEq, Repr

namespace Code

def all : List Code :=
  [configurationNotAccessible, gitExtensionError, gitExtensionNotAvailable, invalidDynamicValue,
   invalidTemplateString, notConfigured, notImplemented, parseInvalidTimeRange, unknownError]

def name : Code → String
  | configurationNotAccessible => "ConfigurationNotAccessible"
  | gitExtensionError => "GitExtensionError"
  | gitExtensionNotAvailable => "GitExtensionNotAvailable"
  | invalidDynamicValue => "InvalidDynamicValue"
  | invalidTemplateString => "InvalidTemplateString"
  | notConfigured => "NotConfigured"
  | notImplemented => "NotImplemented"
  | parseInvalidTimeRange => "ParseInvalidTimeRange"
  | unknownError => "UnknownError"

def ofName? (s : String) : Option Code := all.find? (·.name == s)

end Code

structure Failure where
  scope : Scope
  code : Option Code
  message : String
  shown : Bool
  cause : Option String
  deriving DecidableEq, Repr

namespace Failure

/-- A missing message is the name of the code; internal failures are shown unless told otherwise. -/
def make (scope : Scope) (code : Option Code) (message : Option String) (shown : Option Bool) :
    Failure where
  scope := scope
  code := code
  message := (message.or (code.map Code.name)).getD ""
  shown := shown.getD (scope == .internal)
  cause := none

def user (code : Code) (message : String) : Failure :=
  make .user (some code) (some message) (some true)

def internal (code : Code) (message : String) : Failure :=
  make .internal (some code) (some message) (some true)

def withCause (f : Failure) (cause : String) : Failure := { f with cause := some cause }

def hasCode (f : Failure) (code : Code) : Bool := f.code == some code

def unknown (context cause : String) : Failure :=
  (make .internal (some .unknownError) (some (context ++ ": " ++ cause)) none).withCause cause

def invalidDynamicValue (message : String) : Failure := user .invalidDynamicValue message

def modifierAlreadyDefined (identifier : String) : Failure :=
  invalidDynamicValue ("\"" ++ identifier ++ "\" modifier already defined")

def invalidModifierIdentifier (identifier : String) : Failure :=
  invalidDynamicValue ("Invalid modifier identifier: " ++ identifier)

def invalidModifierValue (modifier : String) (valid : List String) : Failure :=
  invalidDynamicValue ("Invalid modifier value: \"" ++ modifier ++ "\". Valid values: " ++
    ",".intercalate (valid.map fun v => "\"" ++ v ++ "\""))

def invalidTemplateString (template reason : String) : Failure :=
  user .invalidTemplateString ("Template string \"" ++ template ++ "\" " ++ reason)

def notConfigured (message : String) : Failure := user .notConfigured message

end Failure
end StatusLine
