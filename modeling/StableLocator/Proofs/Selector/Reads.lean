import StableLocator.Proofs.Naming.Unread
import StableLocator.Selector.Parser

/-!
# What a formula reads

A formula reads the attributes that its tests name. On the page without another attribute it holds at the
same spots, and asking it takes the same notes.

* `Selector.Formula.reads` — the names of the attributes, in lower case;
* `Selector.Ignores` — a selector that reads everything but one attribute, if anything at all;
  `Selector.Spares` — it can be read as well;
* `Selector.Formula.holds_without`, `Selector.Formula.ask_without` — evaluation without an attribute that
  is not read;
* `Spot.select?_without` — a selector selects the same spots.
-/

namespace StableLocator
namespace Selector

/-- The names of the attributes that a formula tests, in lower case. -/
def Formula.reads : Formula → List String
  | .id _ => ["id"]
  | .token _ => ["class"]
  | .attribute test => [Text.lowerAscii test.name]
  | .nth _ _ _ among => among.reads
  | .both f g => f.reads ++ g.reads
  | .either f g => f.reads ++ g.reads
  | .negate f => f.reads
  | .look _ f => f.reads
  | _ => []

/-- As far as the selector can be read, it tests no attribute of this name, in any case of its letters. -/
def Ignores (name selector : String) : Prop :=
  ∀ f ∈ Formula.read? selector, Text.lowerAscii name ∉ f.reads

/-- The selector can be read and tests no attribute of this name. -/
def Spares (name selector : String) : Prop :=
  ∃ f, Formula.read? selector = some f ∧ Text.lowerAscii name ∉ f.reads

/-- What can be read and tests no such attribute ignores it. -/
theorem Spares.ignores {name selector : String} (h : Spares name selector) :
    Ignores name selector := by
  obtain ⟨f, hRead, hNot⟩ := h
  intro g hg
  rw [hRead] at hg
  cases hg
  exact hNot

variable {name : String}

/-! ## Attributes -/

/-- Other attributes are found by name as before. -/
theorem attrNamed?_erase {n : String} (h : Text.lowerAscii n ≠ Text.lowerAscii name)
    (attrs : Attributes) : attrNamed? (attrs.erase name) n = attrNamed? attrs n := by
  rw [attrNamed?, Attributes.erase, List.find?_filter, attrNamed?]
  refine congrArg (Option.map Prod.snd) (congrArg (List.find? · attrs) (funext fun attr => ?_))
  -- An attribute of the wanted name is none of those that are erased.
  by_cases hName : attr.1 = name
  · simp [hName, h.symm]
  · simp [hName, beq_eq_decide]

theorem passes_erase {test : AttrTest} (h : Text.lowerAscii test.name ≠ Text.lowerAscii name)
    (attrs : Attributes) : test.passes (attrs.erase name) = test.passes attrs := by
  rw [AttrTest.passes, attrNamed?_erase h, AttrTest.passes]

theorem classTokens_erase (h : "class" ≠ Text.lowerAscii name) (attrs : Attributes) :
    classTokens (attrs.erase name) = classTokens attrs := by
  rw [classTokens, attrNamed?_erase (n := "class") h, classTokens]

/-! ## Surroundings -/

/-- The spots on an axis are the same, without the attribute. -/
theorem spots_without (name : String) (axis : Axis) (s : Spot) :
    axis.spots (s.without name) = (axis.spots s).map (Spot.without name) := by
  cases axis with
  | parent => cases h : s.parent? <;> simp [Axis.spots, h]
  | frameAncestor => simp [Axis.spots, List.takeWhile_map, Function.comp_def]
  | previous => cases h : s.earlier <;> simp [Axis.spots, h]
  | next => cases h : s.later <;> simp [Axis.spots, h]
  | _ => simp [Axis.spots]

/-- The siblings that are counted are the same, without the attribute. -/
theorem counted_without (name : String) (fromEnd ofType : Bool) (s : Spot) :
    counted fromEnd ofType (s.without name) =
      (counted fromEnd ofType s).map (Spot.without name) := by
  cases fromEnd <;> simp [counted, List.filter_map, Function.comp_def]

theorem besides_without (name : String) (s : Spot) :
    besides (s.without name) = (besides s).map (Node.without name) := by
  unfold besides Spot.without
  cases s.context <;> simp [Context.without]

/-- Whether a node takes the root's rank away does not depend on attributes. -/
theorem disputesRoot_without (name : String) (node : Node) :
    disputesRoot (node.without name) = disputesRoot node := by
  cases node with
  | text kind content => rfl
  | element t a children => rw [Node.without_element, disputesRoot, disputesRoot]

theorem leavesEmpty_without (name : String) (node : Node) :
    leavesEmpty (node.without name) = leavesEmpty node := by
  cases node with
  | text kind content => rfl
  | element t a children => rw [Node.without_element, leavesEmpty, leavesEmpty]

theorem isTop_without (name : String) (v : Vantage) (s : Spot) :
    v.isTop (s.without name) = v.isTop s := by
  rw [Vantage.isTop, Spot.place_without, Spot.parent?_without, Vantage.isTop]
  cases s.parent? <;> rfl

/-- The vantage point does not depend on attributes. -/
theorem vantage_without (name : String) (s : Spot) :
    Vantage.of (s.without name) = Vantage.of s := by
  have hHead : (s.outermost.without name).children.head?.map Spot.place =
      s.outermost.children.head?.map Spot.place := by
    cases h : s.outermost.children <;> simp [h]
  simp only [Vantage.of, Spot.outermost_without, hHead, Spot.isDocument_without, Spot.place_without]

/-! ## Evaluation -/

/-- A formula holds at the same spots of the page without an attribute that it does not read. -/
theorem Formula.holds_without {f : Formula} (h : Text.lowerAscii name ∉ f.reads) (v : Vantage)
    (s : Spot) : f.holds v (s.without name) = f.holds v s := by
  induction f generalizing s with
  | id value =>
    have hId : "id" ≠ Text.lowerAscii name := fun hSame => h (by simp [reads, ← hSame])
    rw [holds, Spot.attrs_without, attrNamed?_erase (n := "id") hId, holds]
  | token value =>
    have hClass : "class" ≠ Text.lowerAscii name := fun hSame => h (by simp [reads, ← hSame])
    rw [holds, Spot.attrs_without, classTokens_erase hClass, holds]
  | «attribute» test =>
    have hTest : Text.lowerAscii test.name ≠ Text.lowerAscii name :=
      fun hSame => h (by simp [reads, ← hSame])
    rw [holds, Spot.attrs_without, passes_erase hTest, holds]
  | nth fromEnd ofType places among ih =>
    have hAmong := ih h
    simp only [holds, hAmong, counted_without, List.filter_map, Function.comp_def, List.length_map]
  | root =>
    simp only [holds, isTop_without, Spot.isDocument_without, besides_without, List.any_map,
      Function.comp_def, disputesRoot_without]
  | scope => simp only [holds, Spot.place_without, Spot.isDocument_without]
  | empty => simp only [holds, Spot.nodes_without, List.all_map, Function.comp_def, leavesEmpty_without]
  | both f g ihf ihg =>
    simp only [reads, List.mem_append, not_or] at h
    rw [holds, ihf h.1, ihg h.2, holds]
  | either f g ihf ihg =>
    simp only [reads, List.mem_append, not_or] at h
    rw [holds, ihf h.1, ihg h.2, holds]
  | negate f ih => rw [holds, ih h, holds]
  | look axis f ih =>
    have hSpots := ih h
    simp only [holds, spots_without, List.any_map, Function.comp_def, hSpots]
  | _ => rfl

namespace Inquiry

/-- Selecting from changed spots is selecting by the property of the changed ones. -/
theorem select_map (property : Spot → Inquiry Bool) (g : Spot → Spot) (spots : List Spot) :
    select property (spots.map g) =
      (List.map g) <$> select (fun s => property (g s)) spots := by
  induction spots with
  | nil => rfl
  | cons s spots ih =>
    simp only [List.map_cons, select, ih, map_bind, bind_map_left]
    refine bind_congr fun found => bind_congr fun more => ?_
    cases found <;> rfl

/-- Asking changed spots is asking for the property of the changed ones. -/
theorem any_map (property : Spot → Inquiry Bool) (g : Spot → Spot) (spots : List Spot) :
    any property (spots.map g) = any (fun s => property (g s)) spots := by
  induction spots with
  | nil => rfl
  | cons s spots ih => simp only [List.map_cons, any, ih]

end Inquiry

theorem rowPosition_without (name : String) (s : Spot) :
    rowPosition (s.without name) = rowPosition s := by
  unfold rowPosition Spot.without
  cases s.context <;> simp [Context.without]

theorem isBeforeNoted_without (name : String) (s : Spot) (last : Option Nat) :
    isBeforeNoted (s.without name) last = isBeforeNoted s last := by
  unfold isBeforeNoted Spot.without
  cases s.context <;> simp [Context.without]

/-- A question put to later siblings is answered alike. -/
theorem askLater_without {ask : Spot → Inquiry Bool}
    (hAsk : ∀ t, ask (t.without name) = ask t) (f : Formula) (s : Spot) :
    askLater f ask (s.without name) = askLater f ask s := by
  have hLast (found : List Spot) :
      (found.map (Spot.without name)).getLast?.map (fun t => (rowPosition t).2) =
        found.getLast?.map fun t => (rowPosition t).2 := by
    rw [List.getLast?_map, Option.map_map]
    exact congrArg (Option.map · found.getLast?)
      (funext fun t => congrArg Prod.snd (rowPosition_without name t))
  simp only [askLater, rowPosition_without, isBeforeNoted_without, Spot.later_without,
    Inquiry.select_map, hAsk, bind_map_left, hLast]

/-- Asking a formula goes the same way on the page without an attribute that it does not read. -/
theorem Formula.ask_without {f : Formula} (h : Text.lowerAscii name ∉ f.reads) (v : Vantage)
    (s : Spot) : f.ask v (s.without name) = f.ask v s := by
  induction f generalizing s with
  | nth fromEnd ofType places among ih =>
    have hAmong := ih h
    simp only [ask, hAmong, rowPosition_without, counted_without, Inquiry.select_map, bind_map_left,
      List.length_map]
  | both f g ihf ihg =>
    simp only [reads, List.mem_append, not_or] at h
    rw [ask, ihf h.1, ihg h.2, ask]
  | either f g ihf ihg =>
    simp only [reads, List.mem_append, not_or] at h
    rw [ask, ihf h.1, ihg h.2, ask]
  | negate f ih => rw [ask, ih h, ask]
  | look axis f ih =>
    have hSpots := ih h
    rw [ask, askLater_without hSpots, spots_without, Inquiry.any_map, ask]
    simp only [hSpots]
  | _ => exact congrArg pure (holds_without h v s)

end Selector

namespace Spot

variable {name : String}

/-- A formula that tests no such attribute holds at the same elements. -/
theorem matching?_without {f : Selector.Formula} (h : Text.lowerAscii name ∉ f.reads) (s : Spot) :
    (s.without name).matching? f = (s.matching? f).map (List.map (without name)) := by
  rw [matching?, matching?]
  split
  · have hHolds := Selector.Formula.holds_without h (Selector.Vantage.of s)
    simp only [matching, descendants_without, Selector.vantage_without, List.filter_map,
      Function.comp_def, hHolds, Option.map_some]
  · have hAsk := Selector.Formula.ask_without h (Selector.Vantage.of s)
    rw [Selector.vantage_without, descendants_without, Selector.Inquiry.select_map]
    simp only [hAsk, StateT.run'_eq, StateT.run_map, Option.map_eq_map, Option.map_map,
      Function.comp_def]

/-- A selector selects the same spots of the page without an attribute that it does not read. -/
theorem select?_without {selector : String} (h : Selector.Ignores name selector) (s : Spot) :
    (s.without name).select? selector = (s.select? selector).map (List.map (without name)) := by
  rw [select?, select?]
  cases hRead : Selector.Formula.read? selector with
  | none => rfl
  | some f => exact matching?_without (h f hRead) s

end Spot
end StableLocator
