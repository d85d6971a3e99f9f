/-!
# Why a file cannot be used

The faults that the file system reports, with the numbers it gives them, and the two
that are found before or after it is asked.
-/

namespace DesignGraph.Files

/-- Why a file cannot be used. -/
inductive Fault where
  | notFound
  | notExecutable
  | permissionDenied
  | busy
  | alreadyExists
  | notDirectory
  | isDirectory
  | invalidArgument
  | nameTooLong
  | notEmpty
  /-- A path with a zero character, which no file can have. -/
  | zeroInPath
  /-- A zero character in the name or an argument of a program. -/
  | zeroInArgument
  /-- A file that is read as text and is not UTF-8. -/
  | notText
  /-- A fault in the words of whoever reports it. -/
  | reported (text : String)
  deriving DecidableEq, Repr

/-- A fault of the system, in words and with its number. -/
def systemFault (text : String) (number : Nat) : String :=
  text ++ " (os error " ++ toString number ++ ")"

def Fault.message : Fault → String
  | .notFound => systemFault "No such file or directory" 2
  | .notExecutable => systemFault "Exec format error" 8
  | .permissionDenied => systemFault "Permission denied" 13
  | .busy => systemFault "Device or resource busy" 16
  | .alreadyExists => systemFault "File exists" 17
  | .notDirectory => systemFault "Not a directory" 20
  | .isDirectory => systemFault "Is a directory" 21
  | .invalidArgument => systemFault "Invalid argument" 22
  | .nameTooLong => systemFault "File name too long" 36
  | .notEmpty => systemFault "Directory not empty" 39
  | .zeroInPath => "file name contained an unexpected NUL byte"
  | .zeroInArgument => "nul byte found in provided data"
  | .notText => "stream did not contain valid UTF-8"
  | .reported text => text

end DesignGraph.Files
