import ArityLadder.Section
import ArityLadder.Settings.Mismatch

/-!
# Rejections

Every reason for which the program refuses to print, or fails to, with the
message, the advice and the exit code that belong to it.
-/

namespace ArityLadder

/-- What is wrong with a setting, on the command line or in a file. -/
inductive SettingFault where
  /-- A value lies outside its bounds. -/
  | outOfRange (field value least greatest : String)
  /-- A list of sections is empty. -/
  | noSections (field : String)
  /-- A list of sections names one twice. -/
  | repeatedSection (field : String) (kind : Section)
  /-- A settings file cannot be read. -/
  | unreadable (path reason : String)
  /-- A fault in words of its own. -/
  | stated (message : String)
deriving DecidableEq

/-- The wording of a fault. -/
def SettingFault.message : SettingFault → String
  | outOfRange field value least greatest =>
    field ++ " = " ++ value ++ ": value must be between " ++ least ++ " and " ++ greatest
  | noSections field => field ++ ": at least one fragment kind is required"
  | repeatedSection field kind => field ++ ": '" ++ kind.label ++ "' is listed more than once"
  | unreadable path reason => "cannot read '" ++ path ++ "': " ++ reason
  | stated message => message

/-- What is wrong with the text of a settings file. -/
inductive DocumentFault where
  /-- The text is not TOML. -/
  | malformed
  /-- The text is TOML, but not settings. -/
  | mismatch (cause : Mismatch)
deriving DecidableEq

/-- How the reader of documents words the faults of a text.  Its words tell where in the text a fault
is, and may take several lines. -/
abbrev FaultWords := DocumentFault → String

/-- Why nothing is printed, or not everything. -/
inductive Rejection where
  /-- A field count below one. -/
  | arity (value : Int)
  /-- A first arity that does not lie between one and the last. -/
  | range (first last : Int)
  /-- A setting at fault. -/
  | setting (fault : SettingFault)
  /-- A settings file that cannot be understood. -/
  | document (fault : DocumentFault)
  /-- An output that does not take what is written to it. -/
  | output (reason : String)
deriving DecidableEq

namespace Rejection

/-- The message of a rejection; that of a document ends in the words of its reader. -/
def message (words : FaultWords) : Rejection → String
  | arity value => "fieldCount cannot be less than 1 (got " ++ toString value ++ ")"
  | range first last =>
    "Invalid ladder range: --from " ++ toString first ++ " must lie between 1 and " ++
      toString last
  | setting fault => "Configuration error: " ++ fault.message
  | document fault => "TOML parsing error: " ++ words fault
  | output reason => "IO error: " ++ reason

/-- The exit code of the program after a rejection. -/
def exitCode : Rejection → Nat
  | arity _ | range _ _ | setting _ | document _ => 1
  | output _ => 3

/-- No rejection ends the program as if nothing had happened. -/
theorem exitCode_ne_zero (fault : Rejection) : fault.exitCode ≠ 0 := by
  cases fault <;> simp [exitCode]

/-- What the user can do about a rejection. -/
def advice : Rejection → String
  | arity _ => "Pass a field count of 1 or more"
  | range _ _ => "Lower --from so it does not exceed the field count"
  | setting _ | document _ => "Check the generator configuration file"
  | output _ => "Check that standard output is writable"

end Rejection

end ArityLadder
