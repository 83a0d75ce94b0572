import StatusLine.Calendar.Rounding
import StatusLine.Failure

/-!
# Faults

Every situation in which the program gives up, as one constructor with what the report needs to
name. `report` says whose fault each is and words it. Faults of a template are the user's, faults
of rendering are internal; a placeholder of unknown type counts as internal too.
-/
namespace StatusLine

inductive Unresolved
  | unexplained
  /-- Nothing is found under the name, or nothing of the kind that is asked for. -/
  | notFound
  | packedDamaged
  deriving DecidableEq, Repr

def Unresolved.text? : Unresolved → Option String
  | unexplained => none
  | notFound => some "nothing found under this name"
  | packedDamaged => some "the packed references cannot be read"

inductive Fault
  | modifierRepeated (identifier : String)
  | modifierUnknown (identifier : String)
  | modifierConflict (identifier other : String)
  | modifierValueUnknown (modifier : String) (valid : List String)
  | directoryOffsetMalformed (modifier : String)
  | referenceTypeMissing
  | placeholderUnknown (letter : String)
  | timeSpanMalformed (text : String)
  | timeOffsetTooLarge (modifier : String)
  /-- A rounding without exactly one unit, or with a count that no rounding can have. -/
  | roundingMalformed (text : String)
  | roundingUneven (text : String) (perParent : Nat)
  | braceNested (template : String)
  | braceStray (template : String)
  | braceUnclosed (template : String)
  | directoryOffsetUnsafe (offset : Int)
  | directoryUnresolved (levels : Int) (path : String)
  | branchMissing (reference : String)
  | inputUnsupported
  | timeOffsetInvalid (offset : Int)
  | roundingInvalid (rounding : Rounding)
  | gitUnavailable (reason : String)
  | repositoryMissing (path cause : String)
  | branchUnresolved (reference : String) (why : Unresolved)
  | commitUnresolved (reference : String) (why : Unresolved)
  | inputOutput (cause : String)
  | homeUnknown
  | configurationUnreadable (path cause : String)
  | templateMissing (index count : Nat)
  | noTemplates
  | noBookmarks
  | noHistory
  | nothingToBookmark
  deriving DecidableEq, Repr

namespace Fault

open Failure in
def report : Fault → Failure
  | modifierRepeated identifier => modifierAlreadyDefined identifier
  | modifierUnknown identifier => invalidModifierIdentifier identifier
  | modifierConflict identifier other =>
    invalidDynamicValue ("Cannot use \"" ++ identifier ++ "\" when \"" ++ other ++
      "\" modifier is already defined")
  | modifierValueUnknown modifier valid => invalidModifierValue modifier valid
  | directoryOffsetMalformed modifier =>
    invalidDynamicValue ("Invalid modifier value: \"" ++ modifier ++
      "\". Modifier value has to be a non-negative integer.")
  | referenceTypeMissing => invalidDynamicValue "Reference type modifier in dynamic value required"
  | placeholderUnknown letter =>
    internal .invalidDynamicValue ("Invalid dynamic value type: " ++ letter)
  | timeSpanMalformed text => user .parseInvalidTimeRange ("Invalid time range: " ++ text)
  | timeOffsetTooLarge modifier =>
    invalidDynamicValue ("Time offset out of range: \"" ++ modifier ++ "\"")
  | roundingMalformed text => invalidDynamicValue ("Invalid time range: " ++ text)
  | roundingUneven text perParent =>
    invalidDynamicValue ("Invalid round increment: \"" ++ text ++
      "\". The increment has to divide " ++ toString perParent ++ " evenly and be smaller.")
  | braceNested template => invalidTemplateString template "contains a nested opening brace"
  | braceStray template =>
    invalidTemplateString template "contains a closing brace without a matching opening brace"
  | braceUnclosed template =>
    invalidTemplateString template "contains an unterminated dynamic value"
  | directoryOffsetUnsafe offset =>
    internal .invalidDynamicValue
      ("The directory offset must be a safe non-negative integer, got " ++ toString offset)
  | directoryUnresolved levels path =>
    internal .invalidDynamicValue
      ("Could not resolve the directory " ++ toString levels ++ " level(s) above " ++ path)
  | branchMissing reference =>
    internal .gitExtensionError ("Could not get branch name of " ++ reference)
  | inputUnsupported => internal .notImplemented "Input dynamic values are not implemented"
  | timeOffsetInvalid offset =>
    internal .invalidDynamicValue ("Invalid time offset: " ++ toString offset)
  | roundingInvalid r =>
    internal .invalidDynamicValue
      ("Invalid time round: " ++ toString r.increment ++ " " ++ r.unit.title ++ " " ++
        r.direction.title)
  | gitUnavailable reason => internal .gitExtensionNotAvailable reason
  | repositoryMissing path cause =>
    (internal .gitExtensionNotAvailable ("No git repository found at " ++ path)).withCause cause
  | branchUnresolved reference why =>
    { internal .gitExtensionError ("Could not resolve branch of " ++ reference) with
      cause := why.text? }
  | commitUnresolved reference why =>
    { internal .gitExtensionError ("Could not resolve commit of " ++ reference) with
      cause := why.text? }
  | inputOutput cause => unknown "IO error" cause
  | homeUnknown =>
    internal .configurationNotAccessible "Could not determine the home directory"
  | configurationUnreadable path cause =>
    (internal .configurationNotAccessible
      ("Could not read configuration at " ++ path ++ ": " ++ cause)).withCause cause
  | templateMissing index count =>
    notConfigured ("No template at index " ++ toString index ++ " (" ++ toString count ++
      " configured)")
  | noTemplates => notConfigured "No status message templates configured"
  | noBookmarks => notConfigured "No bookmarked statuses"
  | noHistory => notConfigured "No status history recorded"
  | nothingToBookmark => notConfigured "No status history recorded, use a template first"

theorem report_shown (f : Fault) : f.report.shown = true := by cases f <;> rfl

end Fault
end StatusLine
