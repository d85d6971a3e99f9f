import DesignGraph.Diagram.Kind
import DesignGraph.Files.Fault
import DesignGraph.Json.Tree
import DesignGraph.Tool.ExitStatus

/-!
# Failures

Extraction never fails; what can fail is the work around it. A failure says what could
not be done and why. Each has one text, which is what the caller is shown, and a fixed
code for logs.
-/

namespace DesignGraph

/-- Why the layout program, or the client of the wiki, cannot be used. -/
inductive BackendFault where
  /-- It did not answer the question for its version. -/
  | exited (program : String) (status : Tool.ExitStatus)
  | cannotRun (program : String) (fault : Files.Fault)
  | notFound (program : String)
  /-- The client of the wiki cannot be set up. -/
  | noClient (reason : String)
  | reported (text : String)
  deriving DecidableEq, Repr

/-- Why no picture was made. -/
inductive RenderFault where
  | cannotStart (program : String) (fault : Files.Fault)
  /-- How the program ended cannot be learned. -/
  | cannotWait (program : String) (fault : Files.Fault)
  | exited (program : String) (status : Tool.ExitStatus) (complaint : String)
  | cannotMove (target : String) (fault : Files.Fault)
  | reported (text : String)
  deriving DecidableEq, Repr

/-- Why the wiki did not take a file. -/
inductive RemoteFault where
  /-- The base of the address is no address. -/
  | notAnAddress
  /-- The address is of a service that cannot be asked. -/
  | unsupportedAddress (url : String)
  | noAnswer (url : String)
  | answerCutShort
  | refused (status : Nat) (body : String)
  | unreadableLookup (fault : Json.Fault)
  | reported (text : String)
  deriving DecidableEq, Repr

/-- Why there are no credentials. -/
inductive ConfigFault where
  | noHome
  | cannotRead (path : String) (fault : Files.Fault)
  | invalid (fault : Json.Fault)
  | unknownServer (name : String) (known : List String)
  | missing (keys : List String)
  | reported (text : String)
  deriving DecidableEq, Repr

/-- What could not be done. -/
inductive Failure where
  | inputNotFound (path : String)
  | unsupportedKind (text : String)
  | backendUnavailable (cause : BackendFault)
  | renderFailed (cause : RenderFault)
  | remoteCallFailed (cause : RemoteFault)
  | configUnusable (cause : ConfigFault)
  | io (cause : Files.Fault)
  deriving DecidableEq, Repr

def inCodeQuotes (text : String) : String := "`" ++ text ++ "`"

def BackendFault.message : BackendFault → String
  | .exited program status =>
    "graphviz " ++ inCodeQuotes program ++ " exited with " ++ status.describe
  | .cannotRun program fault =>
    "graphviz " ++ inCodeQuotes program ++ " could not be run (" ++ fault.message ++
      "); install graphviz or pass --dot"
  | .notFound program => "graphviz " ++ inCodeQuotes program ++ " not found"
  | .noClient reason => "http client: " ++ reason
  | .reported text => text

def RenderFault.message : RenderFault → String
  | .cannotStart program fault =>
    "could not start " ++ inCodeQuotes program ++ ": " ++ fault.message
  | .cannotWait program fault =>
    "waiting for " ++ inCodeQuotes program ++ " failed: " ++ fault.message
  | .exited program status complaint =>
    inCodeQuotes program ++ " exited with " ++ status.describe ++ ": " ++ complaint
  | .cannotMove target fault => "could not move image to " ++ target ++ ": " ++ fault.message
  | .reported text => text

def RemoteFault.message : RemoteFault → String
  | .notAnAddress => "builder error"
  | .unsupportedAddress url => "builder error for url (" ++ url ++ ")"
  | .noAnswer url => "error sending request for url (" ++ url ++ ")"
  | .answerCutShort => "error decoding response body"
  | .refused status body => "status " ++ toString status ++ ": " ++ body
  | .unreadableLookup fault => "unreadable attachment lookup: " ++ fault.message
  | .reported text => text

def ConfigFault.message : ConfigFault → String
  | .noHome => "HOME is not set; pass --config"
  | .cannotRead path fault => "cannot read " ++ path ++ ": " ++ fault.message
  | .invalid fault => "invalid host config: " ++ fault.message
  | .unknownServer name known =>
    "server " ++ inCodeQuotes name ++ " not configured (available: " ++
      (if known.isEmpty then "none" else ", ".intercalate known) ++ ")"
  | .missing keys => "missing credentials: " ++ ", ".intercalate keys
  | .reported text => text

namespace Failure

def message : Failure → String
  | .inputNotFound path => "input file not found: " ++ path
  | .unsupportedKind text =>
    "unsupported diagram type: " ++ text ++ " (expected one of " ++
      ", ".intercalate (Diagram.Kind.all.map Diagram.Kind.name) ++ ")"
  | .backendUnavailable cause => "backend unavailable: " ++ cause.message
  | .renderFailed cause => "render failed: " ++ cause.message
  | .remoteCallFailed cause => "remote call failed: " ++ cause.message
  | .configUnusable cause => "config error: " ++ cause.message
  | .io cause => "io error: " ++ cause.message

def code : Failure → String
  | .inputNotFound _ => "E_INPUT_NOT_FOUND"
  | .unsupportedKind _ => "E_UNSUPPORTED_KIND"
  | .backendUnavailable _ => "E_BACKEND_UNAVAILABLE"
  | .renderFailed _ => "E_RENDER_FAILURE"
  | .remoteCallFailed _ => "E_REMOTE_CALL_FAILURE"
  | .configUnusable _ => "E_CONFIG"
  | .io _ => "E_IO"

end Failure

end DesignGraph
