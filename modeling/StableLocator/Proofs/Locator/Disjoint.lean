import StableLocator.Locator.Resolve
import StableLocator.Markup.Builder
import StableLocator.Proofs.Locator.Grammar
import StableLocator.Proofs.Selector.Obstacle
import StableLocator.Proofs.Text.Blank

/-!
# Locator texts are no selectors

A locator text comes to the bracket of its first call with nothing but words, points and white space
before it. No selector does, so trying a text as a selector first never takes a locator away.

* `OpensCall` — words and points, and then an opening bracket;
* `exists_bracket_of_readFrom` — such lexemes are spelled without signs of selectors;
* `read?_eq_none_of_readQueries` — a locator text is no selector;
* `resolve_of_readQueries` — it resolves to what its queries find.
-/

namespace StableLocator

open Lexeme Selector

/-- Words and points lead to an opening bracket. -/
inductive OpensCall : List Saying → Prop
  | bracket (said : List Saying) : OpensCall ((.mark, "(") :: said)
  | point {said : List Saying} (h : OpensCall said) : OpensCall ((.mark, ".") :: said)
  | word {said : List Saying} (name : String) (h : OpensCall said) : OpensCall ((.word, name) :: said)

namespace Grammar

/-- A call opens with words and points up to its bracket. -/
theorem MethodCall.opensCall {said : List Saying} {q : Query} (h : MethodCall said q)
    (more : List Saying) : OpensCall (said ++ more) := by
  cases h with
  | ofMethod => exact .word _ (.bracket _)

/-- A chain opens with the words and points of its first call. -/
theorem Chain.opensCall {said : List Saying} {queries : List Query} (h : Chain said queries) :
    OpensCall said := by
  induction h with
  | calls hCalls =>
    cases hCalls with
    | last hCall =>
      have hAlone := hCall.opensCall []
      rwa [List.append_nil] at hAlone
    | more hCall _ => exact hCall.opensCall _
  | receiver name _ ih => exact .word name (.point ih)

theorem opensCall_of_withoutAwait {said : List Saying} (h : OpensCall (withoutAwait said)) :
    OpensCall said := by
  unfold withoutAwait at h
  split at h
  · exact .word "await" h
  · exact h

end Grammar

namespace Lexeme

theorem isBare_of_isBlank {c : Char} (h : Text.isBlank c = true) : IsBare c :=
  isBare_of (by decide) (by decide) h

theorem isBare_of_isWordStart {c : Char} (h : isWordStart c = true) : IsBare c :=
  isBare_of (by decide) (by decide) h

theorem isBare_of_isWordPart {c : Char} (h : isWordPart c = true) : IsBare c :=
  isBare_of (by decide) (by decide) h

/-- Words, points and what stands between them are spelled without signs of selectors, up to the
bracket. -/
theorem exists_bracket_of_readFrom {position : Nat} {cs : List Char} {lexemes : List Lexeme}
    (h : readFrom position cs = .ok lexemes) (hOpens : OpensCall (lexemes.map saying)) :
    ∃ front rest, cs = front ++ '(' :: rest ∧ ∀ c ∈ front, IsBare c := by
  fun_induction readFrom position cs generalizing lexemes with
  | case1 =>
    cases h
    cases hOpens
  | case2 position c rest hBlank ih =>
    obtain ⟨front, after, rfl, hFront⟩ := ih h hOpens
    exact ⟨c :: front, after, rfl, List.forall_mem_cons.mpr ⟨isBare_of_isBlank hBlank, hFront⟩⟩
  | case3 =>
    -- A comment ends the text, with no bracket to come.
    cases h
    cases hOpens
  | case4 => cases h
  | case5 =>
    obtain ⟨others, _, rfl⟩ := map_eq_ok.mp h
    cases hOpens
  | case6 =>
    obtain ⟨others, _, rfl⟩ := map_eq_ok.mp h
    cases hOpens
  | case7 position c rest _ _ _ _ _ ih =>
    obtain ⟨others, hOthers, rfl⟩ := map_eq_ok.mp h
    rw [List.map_cons, saying] at hOpens
    generalize hMark : String.singleton c = mark at hOpens
    have hChar : [c] = mark.toList := by rw [← hMark, String.toList_singleton]
    cases hOpens with
    | bracket =>
      cases hChar
      exact ⟨[], rest, rfl, fun _ hc => absurd hc List.not_mem_nil⟩
    | point hMore =>
      cases hChar
      obtain ⟨front, after, rfl, hFront⟩ := ih hOthers hMore
      have hPoint : IsBare '.' := by
        unfold IsBare
        decide
      exact ⟨'.' :: front, after, rfl, List.forall_mem_cons.mpr ⟨hPoint, hFront⟩⟩
  | case8 position c rest _ _ _ _ _ hStart =>
    rename_i ih
    obtain ⟨others, hOthers, rfl⟩ := map_eq_ok.mp h
    cases hOpens with
    | word name hMore =>
      obtain ⟨front, after, hRest, hFront⟩ := ih hOthers hMore
      refine ⟨c :: (rest.takeWhile isWordPart ++ front), after, ?_, ?_⟩
      · rw [List.cons_append, List.append_assoc, ← hRest, List.takeWhile_append_dropWhile]
      · intro d hd
        rcases List.mem_cons.mp hd with rfl | hd
        · exact isBare_of_isWordStart hStart
        · rcases List.mem_append.mp hd with hd | hd
          · exact isBare_of_isWordPart (List.all_eq_true.mp List.all_takeWhile d hd)
          · exact hFront d hd
  | case9 => cases h

end Lexeme

/-- A locator text is no selector, with the white space at its ends or without it. -/
theorem read?_eq_none_of_readQueries {text : String} {queries : List Query}
    (h : readQueries text = .ok queries) : Formula.read? (Text.trim text) = none := by
  obtain ⟨lexemes, hRead, hQueries⟩ := bind_eq_ok.mp h
  have hChain := Read.queries_eq_ok_iff.mp hQueries
  have hOpens : OpensCall (lexemes.map saying) :=
    Grammar.opensCall_of_withoutAwait hChain.opensCall
  obtain ⟨front, rest, hText, hFront⟩ := exists_bracket_of_readFrom hRead hOpens
  exact read?_eq_none_of_bracket hText hFront

/-- A locator text resolves as a locator, to what its queries find: no selector takes it away, whether
it looks like a call or not. -/
theorem resolve_of_readQueries {text : String} {queries : List Query}
    (h : readQueries text = .ok queries) (page : Page) (limit : Int) (faults : Faults) :
    Formula.read? (Text.trim text) = none ∧ page.root.select? (Text.trim text) = none ∧
      (resolve text page limit faults).understanding.mode = "locator" ∧
      (resolve text page limit faults).spots =
        chainMatches queries (Lens.ofPage page limit faults) page := by
  have hUnread : Formula.read? (Text.trim text) = none := read?_eq_none_of_readQueries h
  have hNoSelector : page.root.select? (Text.trim text) = none := by
    rw [Spot.select?, hUnread]
    rfl
  have hTrimmed : readQueries (Text.trim text) = .ok queries := by
    rwa [readQueries, Text.trim_trim]
  have hText : Text.trim text ≠ "" := by
    intro hEmpty
    have hNothing : (readQueries "").toOption = none := by decide +kernel
    rw [← hEmpty, hTrimmed] at hNothing
    cases hNothing
  -- What can be read as a locator is no selector, so that nothing is selected first.
  have hNothing : resolveSelector (Text.trim text) page = [] := by
    unfold resolveSelector
    split
    · rfl
    · rw [hNoSelector, Option.getD_none]
  have hResolve : resolve text page limit faults =
      ⟨.locator, chainMatches queries (Lens.ofPage page limit faults) page⟩ := by
    simp only [resolve, if_neg hText, hNothing, resolveLocator, hTrimmed]
  rw [hResolve]
  exact ⟨hUnread, hNoSelector, rfl, rfl⟩

/-- A call whose method is spelled with an underscore too many, so that it does not look like one. -/
def oddCall : String := " page.g_et_By_Text(\"Go\") "

theorem resolve_of_readQueries_oddCall :
    looksLikeCall oddCall = false ∧ ∃ page, Page.read "<p>Stay</p><p>Go</p>" = .ok page ∧
      readQueries oddCall = .ok [⟨.text, "Go", none, false, .page⟩] ∧
      (chainMatches [⟨.text, "Go", none, false, .page⟩] (Lens.ofPage page 120 []) page).length = 1 ∧
      Formula.read? (Text.trim oddCall) = none ∧
      page.root.select? (Text.trim oddCall) = none ∧
      (resolve oddCall page 120).understanding.mode = "locator" ∧
      (resolve oddCall page 120).spots =
        chainMatches [⟨.text, "Go", none, false, .page⟩] (Lens.ofPage page 120 []) page := by
  have hRead : readQueries oddCall = .ok [⟨.text, "Go", none, false, .page⟩] :=
    toOption_eq_some.mp (by decide +kernel)
  have hFound : (match Page.read "<p>Stay</p><p>Go</p>" with
      | .ok page => decide ((chainMatches [⟨.text, "Go", none, false, .page⟩]
          (Lens.ofPage page 120 []) page).length = 1)
      | .error _ => false) = true := by decide +kernel
  refine ⟨by decide +kernel, ?_⟩
  split at hFound
  · rename_i page hPage
    exact ⟨page, hPage, hRead, of_decide_eq_true hFound,
      resolve_of_readQueries hRead page 120 []⟩
  · cases hFound

end StableLocator
