import Inspector.Description.Read
import Inspector.Files.Tree
import Inspector.Generation

/-!
# Complaints

Why a command gives up. A complaint names what was attempted and after that the
cause; its status is what the program leaves behind for whoever called it.
-/

namespace Inspector.Command

open Files

/-- Why a command gives up. -/
inductive Complaint where
  /-- The description file cannot be read. -/
  | unreadable (path : String) (fault : FileFault)
  /-- The description file holds no text. -/
  | undecodable (path : String)
  /-- The description gives no target. -/
  | unusable (fault : LoadFault)
  /-- There is no editor for the target. -/
  | failed (failure : Failure)
  /-- The previous source cannot be removed. -/
  | notRemoved (path : String) (fault : FileFault)
  /-- The directory of the source cannot be made. -/
  | notMade (path : String) (fault : FileFault)
  /-- The source cannot be written. -/
  | notWritten (path : String) (fault : FileFault)
deriving DecidableEq

namespace Complaint

/-- An attempt on a path, and the cause of its failure. -/
def attempt (what path cause : String) : String :=
  what ++ ": " ++ Text.quoted path ++ ": " ++ cause

/-- The complaint in words. -/
def message : Complaint → String
  | unreadable path fault => attempt "Failed to read description" path fault.message
  | undecodable path =>
    attempt "Failed to read description" path "stream did not contain valid UTF-8"
  | unusable fault => fault.message
  | failed (.refused refusal) => refusal.message
  | failed (.malformed role) => role.missingMessage
  | notRemoved path fault => attempt "Failed to remove stale file" path fault.message
  | notMade path fault => attempt "Failed to create directory" path fault.message
  | notWritten path fault => attempt "Failed to write editor source" path fault.message

/-- The exit status: a refusal has its own, a malformed editor is a defect of the
program, and everything else is an ordinary failure. -/
def status : Complaint → Nat
  | failed (.refused refusal) => refusal.code
  | failed (.malformed _) => 101
  | _ => 1

end Complaint

end Inspector.Command
