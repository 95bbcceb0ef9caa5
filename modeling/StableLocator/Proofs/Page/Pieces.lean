import StableLocator.Proofs.Page.Attributes
import StableLocator.Proofs.Page.Order

/-!
# What shows, piece by piece

The visible text of an element is gathered on the way down, and whatever is below a hidden element is
left out in one go. Visibility is told on the way up. Here the two are compared piece by piece: what is
inside an element is listed in the order of the source, and each piece shows or does not show by itself.

* `Spot.pieces` — the starts and ends of the elements inside an element, and the texts between them;
* `Spot.textSeen` — the pieces that show when it is given which elements are seen;
* `Spot.HandsDown` — an element is seen if the one around it is and it does not hide itself;
* `Spot.textSeen_eq` — the way down gathers the pieces that show by what is handed down;
* `visibleText_unstamped` — on a page without stamps visibility is handed down.
-/

namespace StableLocator

/-- A piece of what is inside an element: a text with the element that holds it, or the start or the
end of an element. -/
inductive Piece
  | start (s : Spot)
  | text (holder : Spot) (kind : TextKind) (content : String)
  | finish (s : Spot)

mutual
def Node.pieces (holder : Spot) (context : Context) : Node → List Piece
  | .text kind content => [.text holder kind content]
  | .element tag attrs children =>
    .start ⟨tag, attrs, children, context⟩ ::
      rowPieces ⟨tag, attrs, children, context⟩ [] children ++
        [.finish ⟨tag, attrs, children, context⟩]

/-- The pieces of a row directly inside `holder`, given the nodes to the left of the row. -/
def rowPieces (holder : Spot) (left : List Node) : List Node → List Piece
  | [] => []
  | node :: rest =>
    node.pieces holder (.inside holder.tag holder.attrs left rest holder.context) ++
      rowPieces holder (node :: left) rest
end

namespace Piece

def start? : Piece → Option Spot
  | .start s => some s
  | _ => none

/-- What shows of the piece when it is given which elements are seen: running text of an element that
is seen, and a space at either end of a block that is seen. -/
def shown (sees : Spot → Bool) : Piece → String
  | .text holder kind content => if sees holder && kind == .plain then content else ""
  | .start s | .finish s => if sees s && Visibility.isBlock s.tag then " " else ""

end Piece

/-- An element of a row is a child of the element that holds the row. -/
theorem mem_children_of_row {holder : Spot} {left rest : List Node} {tag : String} {attrs : Attributes}
    {children : List Node} (h : holder.nodes = left.reverse ++ .element tag attrs children :: rest) :
    ⟨tag, attrs, children, .inside holder.tag holder.attrs left rest holder.context⟩ ∈
      holder.children := by
  apply Spot.mem_children_iff.mpr
  exact ⟨left.reverse, rest, h, by simp⟩

/-! ## Pieces and elements -/

/-- The elements that start among the pieces are the elements in document order. -/
theorem starts_rowPieces (nodes : List Node) (holder : Spot) (left : List Node) :
    (rowPieces holder left nodes).filterMap Piece.start? =
      rowTreeSpots holder.tag holder.attrs holder.context left nodes := by
  induction nodes using forest_induction generalizing holder left with
  | nil => rfl
  | text kind content rest ih =>
    simpa [rowPieces, Node.pieces, rowTreeSpots, Node.spots, Piece.start?, List.filterMap_cons]
      using ih holder _
  | element t a children rest ihChildren ihRest =>
    simp [rowPieces, Node.pieces, rowTreeSpots, Node.spots, Piece.start?, List.filterMap_cons,
      ihChildren, ihRest]

/-- The texts among the pieces are those of the row itself and those of the elements below it. -/
theorem text_mem_rowPieces_iff {nodes : List Node} {holder p : Spot} {left : List Node}
    {kind : TextKind} {content : String} :
    .text p kind content ∈ rowPieces holder left nodes ↔
      (p = holder ∧ .text kind content ∈ nodes) ∨
        (p ∈ rowTreeSpots holder.tag holder.attrs holder.context left nodes ∧
          .text kind content ∈ p.nodes) := by
  induction nodes using forest_induction generalizing holder left with
  | nil => simp [rowPieces, rowTreeSpots]
  | text k c rest ih =>
    simp only [rowPieces, Node.pieces, rowTreeSpots, Node.spots, List.cons_append, List.nil_append,
      List.mem_cons, ih, Piece.text.injEq, Node.text.injEq]
    tauto
  | element t a children rest ihChildren ihRest =>
    simp only [rowPieces, Node.pieces, rowTreeSpots, Node.spots, List.cons_append, List.mem_append,
      List.mem_cons, List.not_mem_nil, ihChildren, ihRest, reduceCtorEq, false_or, or_false]
    constructor
    · rintro ((⟨rfl, hText⟩ | ⟨hMem, hText⟩) | ⟨rfl, hText⟩ | ⟨hMem, hText⟩)
      · exact .inr ⟨.inl rfl, hText⟩
      · exact .inr ⟨.inr (.inl hMem), hText⟩
      · exact .inl ⟨rfl, hText⟩
      · exact .inr ⟨.inr (.inr hMem), hText⟩
    · rintro (⟨rfl, hText⟩ | ⟨rfl | hMem | hMem, hText⟩)
      · exact .inr (.inl ⟨rfl, hText⟩)
      · exact .inl (.inl ⟨rfl, hText⟩)
      · exact .inl (.inr ⟨hMem, hText⟩)
      · exact .inr (.inr ⟨hMem, hText⟩)

namespace Spot

variable {s t : Spot} {sees : Spot → Bool}

/-- The pieces of what is inside an element, in the order of the source. -/
def pieces (s : Spot) : List Piece := rowPieces s [] s.nodes

/-- The starts among the pieces are the elements below, in document order. -/
theorem starts_pieces (s : Spot) : s.pieces.filterMap Piece.start? = s.descendants :=
  starts_rowPieces s.nodes s []

/-- Each text that an element below holds is a piece, and nothing else is. -/
theorem text_mem_pieces_iff {p : Spot} {kind : TextKind} {content : String} :
    .text p kind content ∈ s.pieces ↔ p ∈ s :: s.descendants ∧ .text kind content ∈ p.nodes := by
  rw [pieces, text_mem_rowPieces_iff, List.mem_cons]
  constructor
  · rintro (⟨rfl, hText⟩ | ⟨hMem, hText⟩)
    · exact ⟨.inl rfl, hText⟩
    · exact ⟨.inr hMem, hText⟩
  · rintro ⟨rfl | hMem, hText⟩
    · exact .inl ⟨rfl, hText⟩
    · exact .inr ⟨hMem, hText⟩

/-! ## Handing down -/

/-- The text inside an element as far as it shows when it is given which elements are seen. -/
def textSeen (sees : Spot → Bool) (s : Spot) : String :=
  String.join (s.pieces.map (Piece.shown sees))

/-- Below the element, an element is seen if the one around it is and it does not hide itself. -/
def HandsDown (sees : Spot → Bool) (s : Spot) : Prop :=
  ∀ p ∈ s :: s.descendants, ∀ c ∈ p.children, sees c = (sees p && !c.hidesSelf)

/-- Below an element that is not seen nothing is seen. -/
theorem HandsDown.eq_false (h : s.HandsDown sees) (hUnseen : sees s = false)
    (ht : t ∈ s.descendants) : sees t = false := by
  have hBelow : Below s t := mem_descendants_iff.mp ht
  induction hBelow with
  | child hc => rw [h s List.mem_cons_self _ hc, hUnseen, Bool.false_and]
  | deeper hp hc ih =>
    have hMem := mem_descendants_iff.mpr hp
    rw [h _ (List.mem_cons_of_mem s hMem) _ hc, ih hMem, Bool.false_and]

/-- What hands down is told by the element and those below it. -/
theorem HandsDown.congr {sees' : Spot → Bool} (h : s.HandsDown sees)
    (hSame : ∀ p ∈ s :: s.descendants, sees' p = sees p) : s.HandsDown sees' := by
  intro p hp c hc
  have hChild : c ∈ s :: s.descendants :=
    List.mem_cons_of_mem s (mem_descendants_of_mem_children hp hc)
  rw [hSame c hChild, hSame p hp, h p hp c hc]

/-- The pieces of a row that show are the text that the way down gathers, if the element that holds the
row is seen, and nothing if it is not. -/
theorem HandsDown.join_rowPieces (h : s.HandsDown sees) (nodes : List Node) {holder : Spot}
    {left : List Node} (hHolder : holder ∈ s :: s.descendants)
    (hNodes : holder.nodes = left.reverse ++ nodes) :
    String.join ((rowPieces holder left nodes).map (Piece.shown sees)) =
      if sees holder then Visibility.shownInRow nodes else "" := by
  induction nodes using forest_induction generalizing holder left with
  | nil => simp [rowPieces, Visibility.shownInRow]
  | text kind content rest ih =>
    have hLeft : holder.nodes = (Node.text kind content :: left).reverse ++ rest := by simp [hNodes]
    have hRest := ih hHolder hLeft
    simp only [rowPieces, Node.pieces, List.cons_append, List.nil_append, List.map_cons,
      String.join_cons, hRest, Piece.shown, Visibility.shownInRow, Visibility.shownIn]
    cases sees holder <;> simp
  | element tag attrs children rest ihChildren ihRest =>
    have hLeft : holder.nodes = (Node.element tag attrs children :: left).reverse ++ rest := by
      simp [hNodes]
    have hRest := ihRest hHolder hLeft
    have hChild := mem_children_of_row hNodes
    have hBelow := List.mem_cons_of_mem s (mem_descendants_of_mem_children hHolder hChild)
    have hInside := @ihChildren _ [] hBelow rfl
    have hSees := h holder hHolder _ hChild
    -- An element that is not seen adds nothing, and neither does anything in it.
    have hNode : String.join (((Node.element tag attrs children).pieces holder
        (.inside holder.tag holder.attrs left rest holder.context)).map (Piece.shown sees)) =
          if sees holder then Visibility.shownIn (.element tag attrs children) else "" := by
      simp only [Node.pieces, List.cons_append, List.map_cons, List.map_append, List.map_nil,
        String.join_cons, String.join_append, hInside, Piece.shown, hSees, hidesSelf,
        Visibility.shownIn]
      cases sees holder <;> cases Visibility.hidesSelf tag attrs <;>
        cases Visibility.isBlock tag <;> simp [String.append_assoc]
    rw [rowPieces, List.map_append, String.join_append, hNode, hRest, Visibility.shownInRow]
    cases sees holder <;> simp

/-- The way down from an element that is seen gathers the pieces that show. -/
theorem HandsDown.textSeen_eq (h : s.HandsDown sees) (hSees : sees s = true) :
    s.textSeen sees = Visibility.shownInRow s.nodes := by
  rw [textSeen, pieces, h.join_rowPieces s.nodes List.mem_cons_self rfl, if_pos hSees]

/-- Where being seen is handed down, the visible text is the text that is seen. -/
theorem HandsDown.visibleText_eq (h : s.HandsDown sees) (hSees : sees s = true)
    (hVisible : s.isVisible = true) : s.visibleText = Text.collapse (s.textSeen sees) := by
  rw [visibleText, if_pos hVisible, h.textSeen_eq hSees]

/-! ## Pages without stamps -/

theorem attr?_eq_none_of_has {name : String} (h : s.attrs.has name = false) : s.attr? name = none := by
  rw [attr?, Attributes.text?, Option.map_eq_none_iff]
  simpa [Attributes.has] using h

/-- An element without a stamp is visible if neither it nor an element around it hides itself. -/
theorem isVisible_of_unstamped (hElement : s.isDocument = false)
    (hStamp : s.attrs.has Visibility.stampName = false) :
    s.isVisible = (s :: s.ancestors).all fun a => !a.hidesSelf := by
  have hShown : s.hidesSelf = false → Visibility.isUnrendered s.tag = false := by
    intro h
    rw [hidesSelf, Visibility.hidesSelf, Bool.or_eq_false_iff] at h
    exact h.1
  rw [isVisible, attr?_eq_none_of_has hStamp, hElement, List.all_cons]
  cases hSelf : s.hidesSelf with
  | true => simp
  | false => simp [hShown hSelf]

end Spot

variable {page : Page} {s : Spot}

/-- Without stamps visibility is handed down. -/
theorem handsDown_isVisible (hStamps : page.Lacks Visibility.stampName) (hs : s ∈ page.elements) :
    s.HandsDown Spot.isVisible := by
  intro p hp c hc
  have hPage : p ∈ page.elements := (Spot.descendants_infix hs).subset hp
  have hChild : c ∈ page.elements :=
    Page.mem_elements_of_mem_descendants hs (Spot.mem_descendants_of_mem_children hp hc)
  have hElement : p.isDocument = false := Spot.isDocument_eq_false_of_mem hPage
  have hAround : c.ancestors = p :: p.ancestors := Spot.ancestors_of_mem_children hElement hc
  rw [Spot.isVisible_of_unstamped (Spot.isDocument_eq_false_of_mem hChild) (hStamps c hChild),
    Spot.isVisible_of_unstamped hElement (hStamps p hPage), List.all_cons, hAround, Bool.and_comm]

/-- On a page without stamps nothing is visible below an element that is not, and the visible text of an
element that is consists, in the order of the source and with white space collapsed, of the running
texts of the visible elements among it and those below it, and of a space at either end of each visible
block below it. -/
theorem visibleText_unstamped (hStamps : page.Lacks Visibility.stampName) (hs : s ∈ page.elements) :
    (s.isVisible = false → (∀ t ∈ s.descendants, t.isVisible = false) ∧ s.visibleText = "") ∧
      (s.isVisible = true → s.visibleText = Text.collapse (s.textSeen Spot.isVisible)) ∧
      s.pieces.filterMap Piece.start? = s.descendants ∧
      ∀ p kind content, .text p kind content ∈ s.pieces ↔
        p ∈ s :: s.descendants ∧ .text kind content ∈ p.nodes := by
  have hDown : s.HandsDown Spot.isVisible := handsDown_isVisible hStamps hs
  refine ⟨?_, ?_, s.starts_pieces, fun _ _ _ => Spot.text_mem_pieces_iff⟩
  · intro hHidden
    refine ⟨fun t ht => hDown.eq_false hHidden ht, ?_⟩
    rw [Spot.visibleText, hHidden, if_neg Bool.false_ne_true]
  · intro hVisible
    exact hDown.visibleText_eq hVisible hVisible

/-- A note with a block in it, and with much that does not show. -/
def mixedNote : Page where
  nodes :=
    [.element "div" []
      [.text .plain "Seen", .text .comment "not", .element "p" [] [.text .plain "by all"],
        .element "span" [("hidden", .single "")] [.element "b" [] [.text .plain "but"]],
        .element "script" [] [.text .script "this()"], .text .plain "."]]

/-- The note is read without what does not show, and with its block apart. The bold part of it does not
show since the part around it is hidden. -/
theorem visibleText_unstamped_mixedNote :
    mixedNote.Lacks Visibility.stampName ∧
      ∃ s ∈ mixedNote.elements, s.isVisible = true ∧
        s.textSeen Spot.isVisible = "Seen by all ." ∧ s.visibleText = "Seen by all ." ∧
        ∃ h ∈ s.descendants, h.isVisible = false ∧ h.descendants.length = 1 ∧
          (∀ t ∈ h.descendants, t.isVisible = false) ∧ h.visibleText = "" := by
  have hStamps : mixedNote.Lacks Visibility.stampName := by decide
  have hNote : ∃ s ∈ mixedNote.elements, s.isVisible = true ∧
      s.textSeen Spot.isVisible = "Seen by all ." ∧
      ∃ h ∈ s.descendants, h.isVisible = false ∧ h.descendants.length = 1 := by decide +kernel
  rcases hNote with ⟨s, hs, hVisible, hSeen, h, hBelow, hHidden, hOne⟩
  have hText : s.visibleText = "Seen by all ." := by
    rw [(visibleText_unstamped hStamps hs).2.1 hVisible, hSeen]
    decide +kernel
  rcases (visibleText_unstamped hStamps (Page.mem_elements_of_mem_descendants hs hBelow)).1 hHidden with
    ⟨hInside, hNone⟩
  exact ⟨hStamps, s, hs, hVisible, hSeen, hText, h, hBelow, hHidden, hOne, hInside, hNone⟩

end StableLocator
