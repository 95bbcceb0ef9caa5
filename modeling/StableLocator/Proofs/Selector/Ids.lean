import StableLocator.Proofs.Markup.Tidy
import StableLocator.Proofs.Selector.Brackets

/-!
# Selectors of ids

An id is written behind `#` where it is a plain name, and as a quoted value in brackets otherwise. In
both forms it is read back as it was, whatever marks of selectors, quotes or backslashes it holds.

* `takeQuoted?_of_escaped` and `unescapeQuoted?_escaped` — quoted texts are read back;
* `readToken?_sharp` and `readToken?_quotedId` — the two forms are read as tests of the id;
* `select?_single` — a selector of one test selects the elements that pass it;
* `select?_ofId` — what the selector of an id selects.
-/

namespace StableLocator
namespace Selector

/-! ## Quoted texts -/

/-- The character may stand in a quoted text: it ends no line. -/
def IsInline (c : Char) : Prop := c ≠ '\n' ∧ c ≠ '\r' ∧ c ≠ '\x0c'

/-- A quoted text with its escapes is taken up to the closing quote. -/
theorem takeQuoted?_of_escaped {cs : List Char} (h : ∀ c ∈ cs, IsInline c) (tail : List Char) :
    takeQuoted? '"' (cs.flatMap escapedQuotedChar ++ '"' :: tail) =
      some (cs.flatMap escapedQuotedChar, tail) := by
  induction cs with
  | nil =>
    rw [List.flatMap_nil, List.nil_append, takeQuoted?, if_pos rfl]
    · simp
    · simp
  | cons c cs ih =>
    obtain ⟨hc, hcs⟩ := List.forall_mem_cons.mp h
    rw [List.flatMap_cons, List.append_assoc]
    by_cases hMark : c = '\\' ∨ c = '"'
    · -- A backslash stands before the character and takes it along.
      rw [escapedQuotedChar, if_pos hMark]
      simp only [List.cons_append, List.nil_append]
      rw [takeQuoted?, ih hcs]
      · rfl
      · rintro _ rfl
        exact absurd rfl hc.2.1
    · rw [escapedQuotedChar, if_neg hMark, List.singleton_append, List.singleton_append]
      rw [not_or] at hMark
      rw [takeQuoted?, if_neg hMark.2, if_neg, ih hcs]
      · rfl
      · simp [hMark.1, hc.1, hc.2.1, hc.2.2]
      · intro _ hSlash
        exact absurd hSlash hMark.1
      · intro _ _ hSlash
        exact absurd hSlash hMark.1

/-- The escapes of a quoted text are undone. Each step takes a character at least, so the fuel lasts. -/
theorem unescapeQuoted?_escaped {cs : List Char} (h : ∀ c ∈ cs, IsInline c) {fuel : Nat}
    (hFuel : (cs.flatMap escapedQuotedChar).length ≤ fuel) :
    unescapeQuoted? fuel (cs.flatMap escapedQuotedChar) = some (cs.map some) := by
  induction cs generalizing fuel with
  | nil => cases fuel <;> rfl
  | cons c cs ih =>
    obtain ⟨hc, hcs⟩ := List.forall_mem_cons.mp h
    rw [List.flatMap_cons] at hFuel ⊢
    -- The fuel counts the escaped characters, of which a mark takes two.
    by_cases hMark : c = '\\' ∨ c = '"'
    · rw [escapedQuotedChar, if_pos hMark] at hFuel ⊢
      obtain ⟨fuel, rfl⟩ : ∃ n, fuel = n + 1 := ⟨fuel - 1, by simp at hFuel; omega⟩
      have hShorter : (cs.flatMap escapedQuotedChar).length ≤ fuel := by
        simp at hFuel ⊢
        omega
      have hRest := ih hcs hShorter
      have hDigits : escapeDigits (c :: cs.flatMap escapedQuotedChar) = [] := by
        have hHex : isHex c = false := by rcases hMark with rfl | rfl <;> decide
        simp [escapeDigits, hHex]
      simp only [List.cons_append, List.nil_append]
      rw [unescapeQuoted?, hDigits]
      · simp [hc.1, hc.2.1, hc.2.2, hRest]
      · intro _ hReturn
        exact absurd hReturn hc.2.1
      · intro hLine
        exact absurd hLine hc.1
    · rw [escapedQuotedChar, if_neg hMark, List.singleton_append] at hFuel ⊢
      rw [not_or] at hMark
      obtain ⟨fuel, rfl⟩ : ∃ n, fuel = n + 1 := ⟨fuel - 1, by simp at hFuel; omega⟩
      have hShorter : (cs.flatMap escapedQuotedChar).length ≤ fuel := by
        simp at hFuel ⊢
        omega
      have hRest := ih hcs hShorter
      rw [unescapeQuoted?, hRest]
      · rfl
      · intro hSlash
        exact absurd hSlash hMark.1

/-- A quoted value is read back. -/
theorem readValue?_of_escaped {id : String} (h : ∀ c ∈ id.toList, IsInline c) (tail : List Char) :
    readValue? ('"' :: (id.toList.flatMap escapedQuotedChar ++ '"' :: tail)) =
      some (.text id, tail) := by
  have hText := unescapeQuoted?_escaped h (Nat.le_refl _)
  simp only [readValue?, takeQuoted?_of_escaped h, hText, Option.bind_eq_bind, Option.bind_some,
    ofChars_some, String.ofList_toList]
  rfl

/-! ## The two forms -/

/-- A test of an id in brackets, as it is written. -/
def quotedIdChars (id : String) : List Char :=
  '[' :: 'i' :: 'd' :: '=' :: '"' :: (id.toList.flatMap escapedQuotedChar ++ ['"', ']'])

/-- An id in brackets is read as a test of the attribute. -/
theorem readToken?_quotedId {id : String} (h : ∀ c ∈ id.toList, IsInline c) :
    readToken? (quotedIdChars id) = some (.attribute (some ⟨"id", .equals, id, false⟩) false, []) := by
  have hBlank (body : List Char) : skipBlanks ('=' :: body) = '=' :: body :=
    skipBlanks_cons (by simp) body
  have hQuote (body : List Char) : skipBlanks ('"' :: body) = '"' :: body :=
    skipBlanks_cons (by simp) body
  have hValue := readValue?_of_escaped h [']']
  have hTest : attrTest? (.text "id") (.text id) .equals none = some ⟨"id", .equals, id, false⟩ := by
    have hType : (Text.lowerAscii "id" == "type") = false := by decide
    simp [attrTest?, Spelling.text?, hType]
  rw [quotedIdChars, readToken?, skipBlanks_cons (by simp)]
  simp only [readAttribute?, skipBlanks_cons (c := 'i') (by simp), readAttrName?_id,
    Option.bind_eq_bind, Option.bind_some, hBlank, readComparison?, hQuote, hValue,
    readCaseMark?_close, hTest]
  rfl

/-- A plain name begins like a name. -/
theorem beginsName_of_isPlainName {id : String} (h : isPlainName id = true) :
    BeginsName id.toList := by
  have hStart {c : Char} {rest : List Char} (hc : isPlainStart c = true) :
      startsName (c :: rest) = true := by
    have hSlash : c ≠ '\\' := by
      rintro rfl
      exact absurd hc (by decide)
    rw [startsName, if_neg hSlash, isNameStart, Bool.or_eq_true]
    exact .inl hc
  unfold isPlainName at h
  split at h
  · rename_i rest hChars
    dsimp only at h
    split at h
    · cases h
    · rw [hChars]
      exact .inr (hStart (Bool.and_eq_true_iff.mp h).1)
  · dsimp only at h
    split at h
    · cases h
    · rename_i hNoDash _ c rest hChars
      rw [hChars, BeginsName]
      · exact hStart (Bool.and_eq_true_iff.mp h).1
      · exact fun rest hDash => hNoDash rest (hChars.trans hDash)

/-- An id behind the sign is read as the test of the id. -/
theorem readToken?_sharp {id : String} (h : isPlainName id = true) :
    readToken? ('#' :: id.toList) = some (.id (.text id), []) := by
  have hTail : nameTail id.toList = (id.toList.map some, []) := by
    have hNil : nameTail [] = ([], []) := nameTail_of_endsPart (by simp [EndsPart])
    have hAll := nameTail_append
      (fun c hc => isNameChar_of_isPlainChar (plain_of_isPlainName h c hc)) []
    rw [hNil, List.append_nil, List.append_nil] at hAll
    exact hAll
  have hName : readName? id.toList = some (.text id, []) := by
    rw [readName?_of_beginsName (beginsName_of_isPlainName h), hTail, ofChars_some,
      String.ofList_toList]
  rw [readToken?, skipBlanks_cons (by simp)]
  simp only [hName]
  rfl

/-! ## Selectors of one test -/

/-- The character is neither blank nor could it open or close a comment. -/
def IsInk (c : Char) : Prop := ∀ d ∈ [' ', '\t', '\n', '\x0c', '\r', '/'], c ≠ d

instance (c : Char) : Decidable (IsInk c) :=
  List.decidableBAll (fun d => c ≠ d) [' ', '\t', '\n', '\x0c', '\r', '/']

/-- A selector that is one token has no margin. -/
theorem readAll?_single {cs : List Char} (hSeen : ∀ c ∈ cs, c.toNat ≠ 0) {c d : Char}
    (hFirst : cs.head? = some c) (hLast : cs.getLast? = some d) (hc : IsInk c) (hd : IsInk d)
    {t : Token} (hRead : readToken? cs = some (t, [])) :
    Token.readAll? (String.ofList cs) = some [t] := by
  obtain ⟨rest, rfl⟩ := List.head?_eq_some_iff.mp hFirst
  obtain ⟨before, hEnd⟩ := List.getLast?_eq_some_iff.mp hLast
  have hMap : (c :: rest).map seenChar = c :: rest :=
    (List.map_congr_left fun e he => if_neg (hSeen e he)).trans (List.map_id' _)
  have hMargin : marginLength (c :: rest) = 0 := by
    rw [marginLength, hEnd, List.reverse_append, List.reverse_singleton, List.singleton_append,
      skipBlanks_cons hd]
    simp
  rw [Token.readAll?, String.toList_ofList, hMap, hMargin, skipBlanks_cons hc, readTokens?,
    if_neg (by simp), hRead]
  simp [readTokens?]

/-- A selector of one test selects the elements that pass it. -/
theorem select?_single {selector : String} {t : Token} {f : Formula}
    (hRead : Token.readAll? selector = some [t]) (hSize : t.size ≤ sizeLimit)
    (hStep : ∀ g : Group, stepGroups [g] t = some [g.test f]) (hDirect : f.isDirect = true)
    (root : Spot) :
    root.select? selector = some (root.descendants.filter (f.holds (Vantage.of root))) := by
  have hFormula : formulaOf? [t] = some (.either (.both (.both f .always) .always) .never) := by
    simp [formulaOf?, hStep, Group.test, Formula.insertInto, Group.finish?, Group.started,
      Group.result, Group.alternative, Group.tested, Formula.any, Formula.all]
  have hFits : ¬sizeLimit < size [t] := Nat.not_lt.mpr hSize
  have hAll : (Formula.either (.both (.both f .always) .always) .never).isDirect = true := by
    simp [Formula.isDirect, hDirect]
  have hHolds : (Formula.either (.both (.both f .always) .always) .never).holds (Vantage.of root) =
      f.holds (Vantage.of root) := by
    funext x
    simp [Formula.holds]
  simp only [Spot.select?, Formula.read?, hRead, Option.bind_eq_bind, Option.bind_some, if_neg hFits,
    hFormula, Spot.matching?_of_isDirect hAll, Spot.matching, hHolds]

/-! ## What the selector of an id selects -/

/-- A selector sees the id of a tidy element. -/
theorem attrNamed?_id {s : Spot} (h : s.attrs.Tidy) :
    (attrNamed? s.attrs "id").map AttrValue.text = s.attr? "id" := by
  have hId : Text.NoCapitals "id" := by
    have hAll : "id".toList.all (fun c => !c.isUpper) = true := by decide
    intro c hc
    simpa using List.all_eq_true.mp hAll c hc
  rw [h.attrNamed? hId]
  rfl

/-- Agreeing in every character is being equal. -/
theorem agrees_eq_iff {ps cs : List Char} : agrees (fun a b => a == b) ps cs = true ↔ ps = cs := by
  induction ps generalizing cs with
  | nil => cases cs <;> simp [agrees, beginsWith]
  | cons p ps ih =>
    cases cs with
    | nil => simp [agrees]
    | cons c cs =>
      have hRest := @ih cs
      simp only [agrees, beginsWith, List.length_cons, Bool.and_eq_true, beq_iff_eq] at hRest ⊢
      rw [List.cons.injEq, ← hRest]
      constructor
      · rintro ⟨hLength, hFirst, hMore⟩
        exact ⟨hFirst, by omega, hMore⟩
      · rintro ⟨hFirst, hLength, hMore⟩
        exact ⟨by omega, hFirst, hMore⟩

/-- Apart from a last line feed, a value compares as equal only if it is the same. -/
theorem compare_equals_iff {value actual : List Char} :
    compare (fun a b => a == b) value actual .equals = true ↔
      actual = value ∨ actual = value ++ ['\n'] := by
  rw [compare, lineForms]
  split
  · rename_i hLast
    obtain ⟨before, rfl⟩ := List.getLast?_eq_some_iff.mp hLast
    rw [List.any_cons, List.any_cons, List.any_nil, Bool.or_false, Bool.or_eq_true, agrees_eq_iff,
      agrees_eq_iff, List.dropLast_concat, List.append_left_inj, eq_comm, @eq_comm _ value before]
  · rename_i hLast
    have hNot : actual ≠ value ++ ['\n'] := by
      rintro rfl
      simp at hLast
    rw [List.any_cons, List.any_nil, Bool.or_false, agrees_eq_iff, eq_comm, or_iff_left hNot]

/-- The selector of an id selects the elements with this id; where the id is no plain name, a line
feed behind it does not count. -/
theorem select?_ofId {root : Spot} (hTidy : ∀ t ∈ root.descendants, t.attrs.Tidy) {id : String}
    (hNull : ∀ c ∈ id.toList, c.toNat ≠ 0) (hInline : ∀ c ∈ id.toList, IsInline c) :
    root.select? (ofId id) = some (root.descendants.filter fun t =>
      t.attr? "id" = some id ∨ isPlainName id = false ∧ t.attr? "id" = some (id ++ "\n")) := by
  cases hPlain : isPlainName id with
  | true =>
    -- A plain id is written behind `#`, so that no blank or comment can be trimmed away.
    have hChars : ofId id = String.ofList ('#' :: id.toList) := by
      apply String.toList_inj.mp
      simp [ofId, hPlain]
    have hInk : ∀ c ∈ '#' :: id.toList, IsInk c := by
      have hPart {c : Char} (hc : isPlainChar c = true) : IsInk c := by
        have hNone : [' ', '\t', '\n', '\x0c', '\r', '/'].all (fun d => !isPlainChar d) = true := by
          decide
        rintro d hd rfl
        have hNot := List.all_eq_true.mp hNone c hd
        rw [hc] at hNot
        cases hNot
      exact List.forall_mem_cons.mpr
        ⟨by decide, fun c hc => hPart (plain_of_isPlainName hPlain c hc)⟩
    obtain ⟨d, hLast⟩ : ∃ d, ('#' :: id.toList).getLast? = some d :=
      ⟨_, List.getLast?_eq_some_getLast (List.cons_ne_nil _ _)⟩
    have hRead := readAll?_single (List.forall_mem_cons.mpr ⟨by decide, hNull⟩) rfl hLast
      (hInk _ List.mem_cons_self) (hInk d (List.mem_of_getLast? hLast)) (readToken?_sharp hPlain)
    rw [hChars, select?_single hRead (Nat.le_of_ble_eq_true rfl) (f := .id id) (fun _ => rfl) rfl]
    refine congrArg some (List.filter_congr fun t ht => ?_)
    rw [Bool.eq_iff_iff, decide_eq_true_iff, Formula.holds, ← attrNamed?_id (hTidy t ht)]
    cases attrNamed? t.attrs "id" with
    | none => simp
    | some actual => simp
  | false =>
    -- Any other id is compared in brackets, where a last line feed of the attribute does not count.
    have hChars : ofId id = String.ofList (quotedIdChars id) := by
      apply String.toList_inj.mp
      simp [ofId, hPlain, escapeQuoted, quotedIdChars]
    have hSeen : ∀ c ∈ quotedIdChars id, c.toNat ≠ 0 := by
      have hEscaped : ∀ c ∈ id.toList.flatMap escapedQuotedChar, c.toNat ≠ 0 := by
        intro c hc
        obtain ⟨d, hd, hc⟩ := List.mem_flatMap.mp hc
        unfold escapedQuotedChar at hc
        split at hc
        · rcases List.mem_cons.mp hc with rfl | hc
          · decide
          · rw [List.mem_singleton.mp hc]
            exact hNull d hd
        · rw [List.mem_singleton.mp hc]
          exact hNull d hd
      have hOpen : ∀ c ∈ ['[', 'i', 'd', '=', '"'], c.toNat ≠ 0 := by simp
      have hClose : ∀ c ∈ ['"', ']'], c.toNat ≠ 0 := by simp
      exact List.forall_mem_append.mpr ⟨hOpen, List.forall_mem_append.mpr ⟨hEscaped, hClose⟩⟩
    have hLast : (quotedIdChars id).getLast? = some ']' := by
      simp [quotedIdChars, List.getLast?_cons, List.getLast?_append]
    have hRead := readAll?_single hSeen rfl hLast (by decide) (by decide) (readToken?_quotedId hInline)
    rw [hChars, select?_single hRead (Nat.le_of_ble_eq_true rfl)
      (f := .attribute ⟨"id", .equals, id, false⟩) (fun _ => rfl) rfl]
    refine congrArg some (List.filter_congr fun t ht => ?_)
    rw [Bool.eq_iff_iff, decide_eq_true_iff, Formula.holds, AttrTest.passes,
      ← attrNamed?_id (hTidy t ht)]
    cases attrNamed? t.attrs "id" with
    | none => simp
    | some actual =>
      have hEquals := @compare_equals_iff id.toList actual.text.toList
      have hLine : actual.text.toList = id.toList ++ ['\n'] ↔ actual.text = id ++ "\n" := by
        rw [← String.toList_inj, String.toList_append]
        rfl
      rw [String.toList_inj, hLine] at hEquals
      simpa using hEquals

end Selector
end StableLocator
