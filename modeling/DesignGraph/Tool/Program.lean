import DesignGraph.Files.FileTree
import DesignGraph.Tool.ExitStatus

/-!
# Running a program

What a program does is given from outside, as a function of its arguments, its input and
the files it finds. It may fail to start, and then no file has changed; or it ends with
a complaint for whoever started it and the files it leaves. Its status is learned by
waiting for it, which can fail too.
-/

namespace DesignGraph.Tool

open Files

/-- What a program leaves when it ends. The status is what waiting for it gives. -/
structure Ending where
  status : Except Fault ExitStatus
  complaint : Text.Bytes
  files : FileTree

/-- What happens when a program is run: by name, arguments, input and files. -/
abbrev Programs := String → List String → String → FileTree → Except Fault Ending

/-- A program is run; a zero character in its name or an argument keeps it from starting. -/
def run (programs : Programs) (program : String) (arguments : List String) (input : String)
    (files : FileTree) : Except Fault Ending :=
  if (program :: arguments).any fun text => text.toList.contains '\x00' then
    .error .zeroInArgument
  else programs program arguments input files

end DesignGraph.Tool
