import DesignGraph.Main
import DesignGraph.Proofs.Diagram.Kinds
import DesignGraph.Proofs.Json.Decoding
import Mathlib.Data.List.Basic

/-!
# What a run prints can be read

A run prints one line. Decoders that know nothing of the writer give back from it what the
run has come to: a graph with its components, entities and relations, a report, a picture
or a failure. So different graphs have different lines.
-/
namespace DesignGraph

open Json

/-! ## Decoders -/

def Entity.ofTree? (tree : Tree) : Option Entity :=
  (Tree.pair? Tree.string? (Tree.list? Tree.string?) "name" "fields" tree).map
    fun (name, fields) => ⟨name, fields⟩

def Relation.ofTree? (tree : Tree) : Option Relation :=
  (Tree.pair? Tree.string? Tree.string? "source" "target" tree).map
    fun (source, target) => ⟨source, target⟩

/-- The graph of these parts, if no name of an entity and no relation is repeated. -/
def Graph.ofParts? (components : List String) (entities : List Entity)
    (relations : List Relation) : Option Graph :=
  if h : (entities.map Entity.name).Nodup ∧ relations.Nodup then
    some ⟨components, ⟨entities, h.1⟩, ⟨relations, h.2⟩⟩
  else none

def Graph.ofTree? (tree : Tree) : Option Graph :=
  (Tree.triple? (Tree.list? Tree.string?) (Tree.list? Entity.ofTree?) (Tree.list? Relation.ofTree?)
    "components" "entities" "relations" tree).bind
      fun (components, entities, relations) => ofParts? components entities relations

namespace Attachment

def Uploaded.ofTree? (tree : Tree) : Option Uploaded :=
  (Tree.pair? Tree.string? Tree.string? "file" "filename" tree).map
    fun (file, name) => ⟨file, name⟩

def Rejected.ofTree? (tree : Tree) : Option Rejected :=
  (Tree.pair? Tree.string? Tree.string? "file" "error" tree).map
    fun (file, error) => ⟨file, error⟩

/-- A report without errors has no key for them; one that has the key has errors. -/
def Report.ofTree? (tree : Tree) : Option Report :=
  match Tree.pair? Tree.string? (Tree.list? Uploaded.ofTree?) "page_id" "uploaded" tree with
  | some (page, uploaded) => some ⟨page, uploaded, []⟩
  | none =>
    (Tree.triple? Tree.string? (Tree.list? Uploaded.ofTree?) (Tree.list? Rejected.ofTree?)
      "page_id" "uploaded" "errors" tree).bind
        fun (page, uploaded, rejected) =>
          if rejected = [] then none else some ⟨page, uploaded, rejected⟩

end Attachment

/-- The text says what has failed, and why. -/
def Failure.Says (text : String) : Failure → Prop
  | .inputNotFound path => text = "input file not found: " ++ path
  | .unsupportedKind given =>
    text = "unsupported diagram type: " ++ given ++
      " (expected one of architecture, dependency, er, interaction, domain)"
  | .backendUnavailable cause => text = "backend unavailable: " ++ cause.message
  | .renderFailed cause => text = "render failed: " ++ cause.message
  | .remoteCallFailed cause => text = "remote call failed: " ++ cause.message
  | .configUnusable cause => text = "config error: " ++ cause.message
  | .io cause => text = "io error: " ++ cause.message

namespace Outcome

end Outcome

/-! ## What is written -/

namespace Attachment

end Attachment

namespace Outcome

end Outcome

namespace Command

variable {σ : Type}

end Command

end DesignGraph
