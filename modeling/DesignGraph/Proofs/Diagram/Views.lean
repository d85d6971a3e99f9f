import DesignGraph.Diagram.Iconic
import DesignGraph.Proofs.Dot.Shown
import Mathlib.Data.List.Nodup

/-!
# What the views of a graph show

Views of components or entities leave out relations with an end that is not drawn. None is
left out that could be drawn, and none is drawn whose end the layout program would have to
make up; read from the source, the views show nothing else.
-/
namespace DesignGraph

/-- The relations between these names, in their order. -/
def Graph.relationsAmong (graph : Graph) (names : List String) : List Relation :=
  graph.relations.toList.filter fun r => decide (r.source ∈ names ∧ r.target ∈ names)

namespace Diagram

open Dot

def edgeOf (r : Relation) : Shown := .edge r.source r.target

theorem edgeOf_injective : Function.Injective edgeOf := by
  rintro ⟨source, target⟩ ⟨source', target'⟩ h
  simpa [edgeOf] using h

/-- A relation between names that are shown is drawn once. -/
theorem nodup_relationsAmong (graph : Graph) (names : List String) :
    ((graph.relationsAmong names).map edgeOf).Nodup :=
  List.Nodup.map edgeOf_injective (graph.relations.nodup.filter _)

theorem relationsAmong_eq_toList {graph : Graph} {names : List String}
    (h : ∀ r ∈ graph.relations, r.source ∈ names ∧ r.target ∈ names) :
    graph.relationsAmong names = graph.relations.toList :=
  List.filter_eq_self.mpr fun r hr => decide_eq_true (h r hr)

theorem edgesAmong_eq (shown : String → Bool) {names : List String}
    (h : ∀ name, shown name = decide (name ∈ names)) (graph : Graph) :
    edgesAmong shown graph.relations =
      (graph.relationsAmong names).map fun r => .edge r.source r.target := by
  simp [edgesAmong, Graph.relationsAmong, h, Bool.decide_and]

/-! ## Statements and what they show -/

/-- The statements can be read, and show this. -/
structure Draws (statements : List Statement) (shown : List Shown) : Prop where
  readable : ∀ s ∈ statements, s.Readable
  shows : statements.flatMap Statement.shows = shown

/-- The names of the attributes that drawings have. -/
def attributeNames : List String :=
  ["label", "labelloc", "rankdir", "pad", "bgcolor", "fontname", "fontsize", "shape", "style",
    "fillcolor", "color", "image", "imagescale", "fixedsize", "width", "height"]

theorem isWord_of_mem_attributeNames {name : String} (h : name ∈ attributeNames) :
    ∀ c ∈ name.toList, Text.isWord c = true := by
  have hall : (attributeNames.all fun name => name.toList.all Text.isWord) = true := by
    decide +kernel
  exact List.all_eq_true.mp (List.all_eq_true.mp hall name h)

theorem readable_node (id : String) : (Statement.node id []).Readable where
  attributeNames _ ha := absurd ha List.not_mem_nil
  recordLabels _ _ he := nomatch he
  bareNodes _ _ he := by
    cases he
    rfl

theorem readable_recordNode (id entity : String) (fields : List String) :
    (Statement.recordNode id (recordLabel entity fields)).Readable where
  attributeNames _ ha := absurd ha List.not_mem_nil
  recordLabels _ _ he := by
    cases he
    exact ⟨entity, fields, rfl⟩
  bareNodes _ _ he := nomatch he

theorem readable_edge (source target : String) : (Statement.edge source target).Readable where
  attributeNames _ ha := absurd ha List.not_mem_nil
  recordLabels _ _ he := nomatch he
  bareNodes _ _ he := nomatch he

/-- A statement that shows nothing can be read if it has attributes of these names only. -/
theorem readable_of_shows_nil {s : Statement} (hs : s.shows = [])
    (h : ∀ a ∈ s.attributes, a.1 ∈ attributeNames) : s.Readable where
  attributeNames a ha := isWord_of_mem_attributeNames (h a ha)
  recordLabels id label he := by
    rw [he] at hs
    exact absurd hs (List.cons_ne_nil _ _)
  bareNodes id attributes he := by
    rw [he] at hs
    exact absurd hs (List.cons_ne_nil _ _)

namespace Draws

theorem append {ss ts : List Statement} {as bs : List Shown} (hs : Draws ss as)
    (ht : Draws ts bs) : Draws (ss ++ ts) (as ++ bs) where
  readable := List.forall_mem_append.mpr ⟨hs.readable, ht.readable⟩
  shows := by rw [List.flatMap_append, hs.shows, ht.shows]

theorem heads {statements : List Statement} (hs : ∀ s ∈ statements, s.shows = [])
    (h : ∀ s ∈ statements, ∀ a ∈ s.attributes, a.1 ∈ attributeNames) : Draws statements [] where
  readable s hm := readable_of_shows_nil (hs s hm) (h s hm)
  shows := List.flatMap_eq_nil_iff.mpr hs

theorem map {α : Type} {statement : α → Statement} {shown : α → Shown}
    (h : ∀ a, (statement a).Readable) (hs : ∀ a, (statement a).shows = [shown a]) (as : List α) :
    Draws (as.map statement) (as.map shown) where
  readable := List.forall_mem_map.mpr fun a _ => h a
  shows := by
    rw [List.flatMap_map, List.map_eq_flatMap]
    exact List.flatMap_congr fun a _ => hs a

theorem after_heads {statements rest : List Statement} {shown : List Shown}
    (hs : ∀ s ∈ statements, s.shows = [])
    (h : ∀ s ∈ statements, ∀ a ∈ s.attributes, a.1 ∈ attributeNames) (hrest : Draws rest shown) :
    Draws (statements ++ rest) shown :=
  (heads hs h).append hrest

theorem nodes (names : List String) :
    Draws (names.map fun name => .node name []) (names.map .node) :=
  map readable_node (fun _ => rfl) names

theorem edges (relations : List Relation) :
    Draws (relations.map fun r => .edge r.source r.target) (relations.map edgeOf) :=
  map (fun r => readable_edge r.source r.target) (fun _ => rfl) relations

/-- What is shown is read back from the source. -/
theorem shown?_eq {statements : List Statement} {shown : List Shown} (h : Draws statements shown) :
    shown? (source statements).toList = some shown := by
  rw [shown?_source h.readable, h.shows]

end Draws

theorem draws_entityDrawing (graph : Graph) (title : String) :
    Draws (entityDrawing graph title)
      (graph.entities.toList.map (fun e => .record e.name (recordTexts e.name e.fields)) ++
        (graph.relationsAmong graph.entities.names).map edgeOf) := by
  have hrecords : Draws _ _ := .map (fun e : Entity => readable_recordNode e.name e.name e.fields)
    (fun e => Statement.shows_recordNode e.name e.name e.fields) graph.entities.toList
  rw [entityDrawing, edgesAmong_eq graph.isEntity (fun _ => rfl)]
  refine (hrecords.after_heads ?_ ?_).append (.edges _)
  · simp [drawingAttributes, Statement.shows]
  · simp [-Prod.forall, drawingAttributes, Statement.attributes, attributeNames]

/-- Boxes show every component and every relation. -/
theorem draws_componentDrawing (graph : Graph)
    (title direction shape filling fill edgeColor : String) :
    Draws (componentDrawing graph title (.boxes direction shape filling fill edgeColor))
      (graph.components.map .node ++ graph.relations.toList.map edgeOf) := by
  rw [componentDrawing]
  refine ((Draws.nodes graph.components).after_heads ?_ ?_).append (.edges graph.relations.toList)
  · simp [drawingAttributes, Style.boxes, Statement.shows]
  · simp [-Prod.forall, drawingAttributes, Style.boxes, Statement.attributes, attributeNames]

/-- A cluster around nodes changes nothing of what they show. -/
theorem draws_clustered (kind : Kind) (title : String) (names : List String) :
    Draws (clustered kind title (names.map fun name => .node name [])) (names.map .node) := by
  cases kind with
  | domain =>
    have hopen : Draws [.openCluster "domain"
        [("label", title), ("style", "filled"), ("bgcolor", "#E5F5FD")]] [] :=
      .heads (by simp [Statement.shows])
        (by simp [-Prod.forall, Statement.attributes, attributeNames])
    have hclose : Draws [.closeCluster] [] :=
      .heads (by simp [Statement.shows]) (by simp [Statement.attributes])
    have hall := hopen.append ((Draws.nodes names).append hclose)
    rwa [List.append_nil] at hall
  | _ => exact .nodes names

theorem draws_iconicDrawing (graph : Graph) (kind : Kind) (title icon : String) :
    Draws (iconicDrawing graph kind title icon)
      ((drawnComponents graph).map .node ++
        (graph.relationsAmong (drawnComponents graph)).map edgeOf) := by
  rw [iconicDrawing,
    edgesAmong_eq (fun name => decide (name ∈ drawnComponents graph)) (fun _ => rfl)]
  refine ((draws_clustered kind title (drawnComponents graph)).after_heads ?_ ?_).append (.edges _)
  · simp [iconDefaults, Statement.shows]
  · simp [-Prod.forall, iconDefaults, Statement.attributes, attributeNames]

/-- Records show the entities in their order and the relations between entities. Icons show,
clustered or not, the first components, fifteen if there are more, and the relations between
these. Each relation is shown once and in its place. Of a graph with no more components than
that and no relation that leaves them, icons and boxes show the same. -/
theorem views_show_drawable (graph : Graph) (title : String) :
    shown? (source (plainDrawing graph .er title)).toList =
      some (graph.entities.toList.map (fun e => .record e.name (recordTexts e.name e.fields)) ++
        (graph.relationsAmong graph.entities.names).map edgeOf) ∧
    (∀ kind icon, shown? (source (iconicDrawing graph kind title icon)).toList =
      some ((graph.components.take (min 15 graph.components.length)).map .node ++
        (graph.relationsAmong (graph.components.take (min 15 graph.components.length))).map
          edgeOf)) ∧
    (∀ names, ((graph.relationsAmong names).map edgeOf).Nodup) ∧
    (graph.components.length ≤ 15 →
      (∀ r ∈ graph.relations, r.source ∈ graph.components ∧ r.target ∈ graph.components) →
      ∀ kind, kind = .architecture ∨ kind = .domain → ∀ icon, ∃ shown,
        shown? (source (iconicDrawing graph kind title icon)).toList = some shown ∧
        shown? (source (plainDrawing graph kind title)).toList = some shown) := by
  have hicons : ∀ kind icon, shown? (source (iconicDrawing graph kind title icon)).toList =
      some ((drawnComponents graph).map .node ++
        (graph.relationsAmong (drawnComponents graph)).map edgeOf) :=
    fun kind icon => (draws_iconicDrawing graph kind title icon).shown?_eq
  refine ⟨(draws_entityDrawing graph title).shown?_eq, ?_, nodup_relationsAmong graph, ?_⟩
  · intro kind icon
    rw [← List.take_eq_take_min]
    exact hicons kind icon
  · intro hfew hinside kind hkind icon
    have hall : drawnComponents graph = graph.components := List.take_of_length_le hfew
    have hboxes := draws_componentDrawing graph title
    refine ⟨_, hicons kind icon, ?_⟩
    rw [hall, relationsAmong_eq_toList hinside]
    rcases hkind with rfl | rfl
    · exact (hboxes _ _ _ _ _).shown?_eq
    · exact (hboxes _ _ _ _ _).shown?_eq

/-- A component that is mentioned twice, and a relation from a component to an entity. -/
def orderDesk : Graph where
  components := ["desk", "orders", "desk"]
  entities := ⟨[⟨"orders", ["id"]⟩, ⟨"users", []⟩], by decide⟩
  relations := ⟨[⟨"desk", "orders"⟩, ⟨"orders", "orders"⟩], by decide⟩

theorem views_show_drawable_orderDesk :
    shown? (source (plainDrawing orderDesk .er "Desk")).toList =
      some [.record "orders" ["orders", "id"], .record "users" ["users", ""],
        .edge "orders" "orders"] ∧
    (orderDesk.components.length ≤ 15 ∧ ∀ r ∈ orderDesk.relations,
      r.source ∈ orderDesk.components ∧ r.target ∈ orderDesk.components) ∧
    shown? (source (iconicDrawing orderDesk .domain "Desk" "rack.png")).toList =
      some [.node "desk", .node "orders", .node "desk", .edge "desk" "orders",
        .edge "orders" "orders"] ∧
    shown? (source (plainDrawing orderDesk .domain "Desk")).toList =
      some [.node "desk", .node "orders", .node "desk", .edge "desk" "orders",
        .edge "orders" "orders"] := by
  have hinside : ∀ r ∈ orderDesk.relations.toList,
      r.source ∈ orderDesk.components ∧ r.target ∈ orderDesk.components := by decide
  obtain ⟨hrecords, hicons, -, hsame⟩ := views_show_drawable orderDesk "Desk"
  obtain ⟨shown, hdomain, hboxes⟩ := hsame (by decide) hinside .domain (.inr rfl) "rack.png"
  have hshown := hdomain.symm.trans (hicons .domain "rack.png")
  rw [hshown] at hboxes
  exact ⟨hrecords, ⟨by decide, hinside⟩, hicons .domain "rack.png", hboxes⟩

end Diagram

end DesignGraph
