/-!
# How a program ended

A program ends with a status of its own or is ended by a signal. Only the status zero is
a success.
-/

namespace DesignGraph.Tool

/-- How a program ended. -/
inductive ExitStatus where
  | status (code : Nat)
  | signal (number : Nat)
  deriving DecidableEq, Repr

namespace ExitStatus

/-- The program did what it was asked to do. -/
def isSuccess : ExitStatus → Bool
  | .status 0 => true
  | _ => false

theorem isSuccess_iff {status : ExitStatus} : status.isSuccess = true ↔ status = .status 0 := by
  cases status with
  | signal number => simp [isSuccess]
  | status code => cases code <;> simp [isSuccess]

/-- The names of the signals from the first one on. -/
def signalNames : List String :=
  ["SIGHUP", "SIGINT", "SIGQUIT", "SIGILL", "SIGTRAP", "SIGABRT", "SIGBUS", "SIGFPE", "SIGKILL",
    "SIGUSR1", "SIGSEGV", "SIGUSR2", "SIGPIPE", "SIGALRM", "SIGTERM", "SIGSTKFLT", "SIGCHLD",
    "SIGCONT", "SIGSTOP", "SIGTSTP", "SIGTTIN", "SIGTTOU", "SIGURG", "SIGXCPU", "SIGXFSZ",
    "SIGVTALRM", "SIGPROF", "SIGWINCH", "SIGIO", "SIGPWR", "SIGSYS"]

def describe : ExitStatus → String
  | .status code => "exit status: " ++ toString code
  | .signal number =>
    "signal: " ++ toString number ++
      match signalNames[number - 1]? with
      | some name => " (" ++ name ++ ")"
      | none => ""

end ExitStatus

end DesignGraph.Tool
