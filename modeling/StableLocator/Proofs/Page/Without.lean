import StableLocator.Proofs.Page.Attributes
import StableLocator.Proofs.Page.Walk

/-!
# Pages without an attribute

An attribute that is erased everywhere takes nothing else with it: every walk among the spots of a page
leads to the same spots, each of them without the attribute.

* `Spot.without` — a spot of the page without the attribute, with all that is around it;
* `Spot.children_without`, `Spot.descendants_without`, `Spot.enclosing_without` and their kind — the
  walks;
* `Page.elements_without`, `Page.find?_without` — the elements of the page.
-/

namespace StableLocator

variable {name : String}

/-! ## Nodes -/

def Node.without (name : String) (node : Node) : Node :=
  node.mapAttrs (fun _ attrs => attrs.erase name) []

/-- A rule that does not look at places may be applied to the nodes of a row one by one. -/
theorem mapAttrsFrom_erase (name : String) (nodes : List Node) (outer : Place) (start : Nat) :
    mapAttrsFrom (fun _ attrs => attrs.erase name) outer start nodes =
      nodes.map (Node.without name) := by
  induction nodes using forest_induction generalizing outer start with
  | nil => rfl
  | text kind content rest ih =>
    rw [mapAttrsFrom, ih]
    rfl
  | element t a children rest ihChildren ihRest =>
    rw [mapAttrsFrom, ihRest, List.map_cons, Node.without, Node.mapAttrs, Node.mapAttrs, ihChildren,
      ihChildren]

@[simp] theorem Node.without_text (name : String) (kind : TextKind) (content : String) :
    (Node.text kind content).without name = .text kind content := rfl

/-- An element without an attribute: its own is erased, and its children are without it. -/
@[simp] theorem Node.without_element (name tag : String) (attrs : Attributes)
    (children : List Node) :
    (Node.element tag attrs children).without name =
      .element tag (attrs.erase name) (children.map (Node.without name)) := by
  rw [Node.without, Node.mapAttrs, mapAttrsFrom_erase]

/-! ## Spots -/

def Context.without (name : String) : Context → Context
  | .document => .document
  | .detached => .detached
  | .inside tag attrs left right outer =>
    .inside tag (attrs.erase name) (left.map (Node.without name)) (right.map (Node.without name))
      (outer.without name)

/-- Places do not depend on attributes. -/
@[simp] theorem Context.place_without (name : String) (context : Context) :
    (context.without name).place = context.place := by
  induction context with
  | inside tag attrs left right outer ih => simp [Context.without, Context.place, ih]
  | _ => rfl

namespace Spot

def without (name : String) (s : Spot) : Spot :=
  ⟨s.tag, s.attrs.erase name, s.nodes.map (Node.without name), s.context.without name⟩

@[simp] theorem tag_without (name : String) (s : Spot) : (s.without name).tag = s.tag := rfl

@[simp] theorem name_without (name : String) (s : Spot) : (s.without name).name = s.name := rfl

@[simp] theorem nodes_without (name : String) (s : Spot) :
    (s.without name).nodes = s.nodes.map (Node.without name) := rfl

@[simp] theorem attrs_without (name : String) (s : Spot) :
    (s.without name).attrs = s.attrs.erase name := rfl

@[simp] theorem place_without (name : String) (s : Spot) : (s.without name).place = s.place :=
  s.context.place_without name

@[simp] theorem same_without (name : String) (s t : Spot) :
    (s.without name).same (t.without name) = s.same t := by
  rw [same, place_without, place_without, same]

theorem node_without (name : String) (s : Spot) : (s.without name).node = s.node.without name :=
  (Node.without_element name s.tag s.attrs s.nodes).symm

@[simp] theorem isDocument_without (name : String) (s : Spot) :
    (s.without name).isDocument = s.isDocument := by
  unfold isDocument without
  cases s.context <;> rfl

end Spot

/-! ## Rows -/

section Rows

variable (name tag : String) (attrs : Attributes) (outer : Context)

/-- The elements of a row without an attribute are those of the row, without it. -/
theorem rowSpots_without (left nodes : List Node) :
    rowSpots tag (attrs.erase name) (outer.without name) (left.map (Node.without name))
        (nodes.map (Node.without name)) =
      (rowSpots tag attrs outer left nodes).map (Spot.without name) := by
  induction nodes generalizing left with
  | nil => rfl
  | cons node rest ih =>
    cases node with
    | text kind content => exact ih (.text kind content :: left)
    | element t a children =>
      have hRest := ih (.element t a children :: left)
      rw [List.map_cons, Node.without_element] at hRest ⊢
      rw [rowSpots, rowSpots, List.map_cons, hRest]
      rfl

theorem rowSpotsBack_without (right nodes : List Node) :
    rowSpotsBack tag (attrs.erase name) (outer.without name) (right.map (Node.without name))
        (nodes.map (Node.without name)) =
      (rowSpotsBack tag attrs outer right nodes).map (Spot.without name) := by
  induction nodes generalizing right with
  | nil => rfl
  | cons node rest ih =>
    cases node with
    | text kind content => exact ih (.text kind content :: right)
    | element t a children =>
      have hRest := ih (.element t a children :: right)
      rw [List.map_cons, Node.without_element] at hRest ⊢
      rw [rowSpotsBack, rowSpotsBack, List.map_cons, hRest]
      rfl

end Rows

namespace Spot

/-! ## Walks -/

@[simp] theorem children_without (name : String) (s : Spot) :
    (s.without name).children = s.children.map (without name) :=
  rowSpots_without name s.tag s.attrs s.context [] s.nodes

@[simp] theorem descendants_without (name : String) (s : Spot) :
    (s.without name).descendants = s.descendants.map (without name) := by
  induction s using induct with
  | step s ih =>
    rw [descendants_eq_flatMap, descendants_eq_flatMap, children_without, List.flatMap_map,
      List.map_flatMap]
    refine List.flatMap_congr fun c hc => ?_
    rw [List.map_cons, ih c hc]

@[simp] theorem parent?_without (name : String) (s : Spot) :
    (s.without name).parent? = s.parent?.map (without name) := by
  have hNode := node_without name s
  unfold parent?
  rw [hNode]
  cases hContext : s.context with
  | inside tag attrs left right outer =>
    simp [without, hContext, Context.without, List.reverseAux_eq]
  | _ => simp [without, hContext, Context.without]

/-- The walk up goes by the context, of which each step leaves the outer part. -/
theorem enclosingIn_without (name : String) (inner : Node) (context : Context) :
    enclosingIn (inner.without name) (context.without name) =
      (enclosingIn inner context).map (without name) := by
  induction context generalizing inner with
  | inside tag attrs left right outer ih =>
    have hOuter := ih (Node.element tag attrs (left.reverseAux (inner :: right)))
    rw [Node.without_element] at hOuter
    rw [Context.without, enclosingIn, enclosingIn, List.map_cons]
    simp only [node]
    rw [← hOuter]
    simp [without, List.reverseAux_eq]
  | _ => rfl

@[simp] theorem enclosing_without (name : String) (s : Spot) :
    (s.without name).enclosing = s.enclosing.map (without name) := by
  rw [enclosing, node_without]
  exact enclosingIn_without name s.node s.context

@[simp] theorem parentElement?_without (name : String) (s : Spot) :
    (s.without name).parentElement? = s.parentElement?.map (without name) := by
  rw [parentElement?, parent?_without, parentElement?]
  cases s.parent? with
  | none => rfl
  | some p =>
    cases hDocument : p.isDocument <;> simp [Option.filter, hDocument]

@[simp] theorem ancestors_without (name : String) (s : Spot) :
    (s.without name).ancestors = s.ancestors.map (without name) := by
  rw [ancestors, enclosing_without, List.filter_map, ancestors]
  simp only [Function.comp_def, isDocument_without]

@[simp] theorem outermost_without (name : String) (s : Spot) :
    (s.without name).outermost = s.outermost.without name := by
  rw [outermost, enclosing_without, List.getLast?_map, outermost]
  cases s.enclosing.getLast? <;> rfl

@[simp] theorem document?_without (name : String) (s : Spot) :
    (s.without name).document? = s.document?.map (without name) := by
  rw [document?, outermost_without, isDocument_without, document?]
  split <;> rfl

@[simp] theorem earlier_without (name : String) (s : Spot) :
    (s.without name).earlier = s.earlier.map (without name) := by
  have hNode := node_without name s
  unfold earlier
  rw [hNode]
  cases hContext : s.context with
  | inside tag attrs left right outer =>
    have hRow := rowSpotsBack_without name tag attrs outer (s.node :: right) left
    simpa [without, hContext, Context.without] using hRow
  | _ => simp [without, hContext, Context.without]

@[simp] theorem later_without (name : String) (s : Spot) :
    (s.without name).later = s.later.map (without name) := by
  have hNode := node_without name s
  unfold later
  rw [hNode]
  cases hContext : s.context with
  | inside tag attrs left right outer =>
    have hRow := rowSpots_without name tag attrs outer (s.node :: left) right
    simpa [without, hContext, Context.without] using hRow
  | _ => simp [without, hContext, Context.without]

end Spot

/-! ## Pages -/

namespace Page

/-- The page without an attribute, wherever it stands. -/
def without (name : String) (page : Page) : Page := page.mapAttrs fun _ attrs => attrs.erase name

@[simp] theorem root_without (name : String) (page : Page) :
    (page.without name).root = page.root.without name := by
  rw [root, without, mapAttrs, mapAttrsFrom_erase]
  rfl

@[simp] theorem elements_without (name : String) (page : Page) :
    (page.without name).elements = page.elements.map (Spot.without name) := by
  rw [elements, root_without, Spot.descendants_without, elements]

@[simp] theorem find?_without (name : String) (page : Page) (place : Place) :
    (page.without name).find? place = (page.find? place).map (Spot.without name) := by
  rw [find?, elements_without, List.find?_map, find?]
  simp only [Function.comp_def, Spot.place_without]

end Page
end StableLocator
