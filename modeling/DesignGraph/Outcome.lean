import DesignGraph.Attachment.Upload
import DesignGraph.Diagram.Kind
import DesignGraph.Graph.Basic
import DesignGraph.Json.Writer

/-!
# Outcomes

What a run has come to, as the one line of JSON it prints, and whether it is a success.
-/

namespace DesignGraph

open Json

def Entity.toJson (e : Entity) : Value :=
  .object [("name", .string e.name), ("fields", .ofStrings e.fields)]

def Relation.toJson (r : Relation) : Value :=
  .object [("source", .string r.source), ("target", .string r.target)]

def Graph.toJson (g : Graph) : Value :=
  .object [("components", .ofStrings g.components),
    ("entities", .array (g.entities.toList.map Entity.toJson)),
    ("relations", .array (g.relations.toList.map Relation.toJson))]

/-- The value of a report; the rejected files are left out when there are none. -/
def Attachment.Report.toJson (report : Report) : Value :=
  .object ([("page_id", .string report.pageId),
      ("uploaded", .array (report.uploaded.map fun u =>
        .object [("file", .string u.file), ("filename", .string u.name)]))] ++
    if report.rejected.isEmpty then []
    else [("errors", .array (report.rejected.map fun r =>
      .object [("file", .string r.file), ("error", .string r.error)]))])

def errorJson (text : String) : Value := .object [("error", .string text)]

/-- The line of a result. A result without a JSON form gives the line of an error. -/
def resultLine : Except String Value → String
  | .ok value => value.line
  | .error text => (errorJson ("could not encode result: " ++ text)).line

/-- What a run has come to. -/
inductive Outcome where
  | diagram (output : String) (kind : Diagram.Kind)
  | graph (graph : Graph)
  | report (report : Attachment.Report)
  | failed (failure : Failure)
  deriving DecidableEq, Repr

namespace Outcome

/-- What an upload comes to: its report, or why there is none. -/
def ofUpload : Except Failure Attachment.Report → Outcome
  | .ok r => .report r
  | .error f => .failed f

def toJson : Outcome → Value
  | .diagram output kind => .object [("output", .string output), ("type", .string kind.name)]
  | .graph g => g.toJson
  | .report r => r.toJson
  | .failed f => errorJson f.message

def line (outcome : Outcome) : String := resultLine (.ok outcome.toJson)

/-- The run is a success. Attaching is one unless every file was refused. -/
def isSuccess : Outcome → Bool
  | .diagram .. => true
  | .graph _ => true
  | .report r => !r.allFailed
  | .failed _ => false

end Outcome

end DesignGraph
