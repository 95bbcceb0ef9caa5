import Mathlib.Data.List.TakeDrop
import StableLocator.Markup.Builder

/-!
# A paragraph with one attribute

The markup of one empty paragraph is read as this paragraph with its attribute, as long as no quote ends
the attribute early and no reference stands in it. The words of a class attribute are the classes of the
paragraph.

* `decodeFrom_of_plain` and `longNumeral?_of_plain` — a text without `&` has no references;
* `takeValue?_quoted` — a value in double quotes is taken up to the closing one;
* `readFrom_paragraphWith` — the tokens of the markup;
* `Page.read_paragraphWith` and `Page.read_paragraph` — the page that the markup spells out.
-/

namespace StableLocator
namespace Markup

/-! ## Quoted values -/

theorem splitAtChar?_append {c : Char} {before : List Char} (h : c ∉ before) (after : List Char) :
    splitAtChar? c (before ++ c :: after) = some (before, after) := by
  induction before with
  | nil => rw [List.nil_append, splitAtChar?, if_pos rfl]
  | cons d before ih =>
    have hOther : d ≠ c := fun hSame => h (hSame ▸ List.mem_cons_self)
    rw [List.cons_append, splitAtChar?, if_neg hOther,
      ih fun hMem => h (List.mem_cons_of_mem _ hMem)]
    rfl

/-- A quoted value is taken up to its quote. -/
theorem takeValue?_quoted {value : List Char} (h : '"' ∉ value) (rest : List Char) :
    takeValue? ('=' :: '"' :: (value ++ '"' :: rest)) = some (value, rest) := by
  have hSplit := splitAtChar?_append h rest
  have hTrim : Text.trimStart ('=' :: '"' :: (value ++ '"' :: rest)) =
      '=' :: '"' :: (value ++ '"' :: rest) := rfl
  simp [takeValue?, hTrim, List.span_eq_takeWhile_dropWhile, hSplit, Text.isBlank]

/-! ## References -/

theorem decodeFrom_of_plain {cs : List Char} (h : '&' ∉ cs) (fuel : Nat) :
    decodeFrom fuel cs = cs := by
  induction fuel generalizing cs with
  | zero => rw [decodeFrom]
  | succ fuel ih =>
    cases cs with
    | nil =>
      rw [decodeFrom]
      exact Nat.succ_ne_zero fuel
    | cons c cs =>
      have hFirst : c ≠ '&' := fun hSame => h (hSame ▸ List.mem_cons_self)
      rw [decodeFrom, ih fun hMem => h (List.mem_cons_of_mem _ hMem)]
      · exact fun _ hSame _ => hFirst hSame
      · exact hFirst

/-- Without references no numeral is too long. -/
theorem longNumeral?_of_plain {cs : List Char} (h : '&' ∉ cs) : longNumeral? cs = none := by
  induction cs with
  | nil => rfl
  | cons c cs ih =>
    have hFirst : c ≠ '&' := fun hSame => h (hSame ▸ List.mem_cons_self)
    rw [longNumeral?, ih fun hMem => h (List.mem_cons_of_mem _ hMem)]
    exact fun _ hSame _ => hFirst hSame

/-! ## The start tag -/

/-- The characters of a name that an attribute may have, in lower case. -/
structure IsAttrName (name : List Char) : Prop where
  chars : ∃ c more, name = c :: more ∧ isAttrStart c = true ∧ more.all isAttrChar = true
  lower : Text.lower (String.ofList name) = String.ofList name

variable {name value : List Char}

/-- No gap stands before the name of an attribute. -/
theorem IsAttrName.skipGap (h : IsAttrName name) (rest : List Char) :
    skipGap (name ++ rest) = name ++ rest := by
  obtain ⟨c, more, rfl, hStart, _⟩ := h.chars
  have hOther : ¬(Text.isBlank c || c == '/') = true := by
    rw [isAttrStart, Bool.not_eq_true'] at hStart
    rw [(Bool.or_eq_false_iff.mp hStart).1]
    exact Bool.false_ne_true
  rw [List.cons_append]
  unfold Markup.skipGap
  split
  · rename_i hNone
    cases hNone
  · rename_i hSlash
    rw [(List.cons.inj hSlash).1] at hOther
    exact absurd rfl hOther
  · rename_i hSame
    obtain ⟨rfl, rfl⟩ := List.cons.inj hSame
    rw [if_neg hOther]

/-- The attribute of the start tag, up to its end. -/
theorem takeAttributes_quoted (hName : IsAttrName name) (hQuote : '"' ∉ value) (fuel : Nat)
    (rest : List Char) :
    takeAttributes (fuel + 2) ' ' (name ++ '=' :: '"' :: (value ++ '"' :: '>' :: rest)) =
      ([(String.ofList name, value)], '>' :: rest) := by
  have hLower := hName.lower
  obtain ⟨c, more, rfl, hStart, hMore⟩ := hName.chars
  have hSpan : (more ++ '=' :: '"' :: (value ++ '"' :: '>' :: rest)).span isAttrChar =
      (more, '=' :: '"' :: (value ++ '"' :: '>' :: rest)) := by
    rw [List.span_eq_takeWhile_dropWhile, List.takeWhile_append_of_pos (List.all_eq_true.mp hMore),
      List.dropWhile_append_of_pos (List.all_eq_true.mp hMore)]
    simp [isAttrChar]
  have hGap : Markup.skipGap ('>' :: rest) = '>' :: rest := rfl
  -- The closing bracket begins no attribute, whatever stands before it.
  have hEnd (before : Char) : takeAttributes (fuel + 1) before ('>' :: rest) = ([], '>' :: rest) := by
    rw [takeAttributes]
    simp [isAttrStart]
  have hBegins : (endsValue ' ' && isAttrStart c) = true := by
    rw [hStart]
    decide
  rw [List.cons_append, takeAttributes, if_pos hBegins, hSpan]
  simp only [takeValue?_quoted hQuote, Option.getD_some, hGap, hEnd, hLower]

/-- The start tag of a paragraph is read with its attribute. -/
theorem readOpenTag_paragraph (hName : IsAttrName name) (hQuote : '"' ∉ value) (hPlain : '&' ∉ value)
    (rest : List Char) :
    readOpenTag ('p' :: ' ' :: (name ++ '=' :: '"' :: (value ++ '"' :: '>' :: rest))) =
      .tokens [.openTag "p" [(String.ofList name, String.ofList value)] false] rest := by
  have hTaken := @takeAttributes_quoted name value hName hQuote
  have hGap := hName.skipGap ('=' :: '"' :: (value ++ '"' :: '>' :: rest))
  -- The attribute as one name, so that nothing below opens it but `takeAttributes_quoted`.
  generalize hLeft : name ++ '=' :: '"' :: (value ++ '"' :: '>' :: rest) = left at hGap ⊢
  have hTag : ('p' :: ' ' :: left).span isTagChar = (['p'], ' ' :: left) := rfl
  have hSpace : Markup.skipGap (' ' :: left) = left := hGap
  have hBefore : ((('p' :: ' ' :: left).take (('p' :: ' ' :: left).length - left.length)).getLast?).getD
      '<' = ' ' := by
    have hTwo : ('p' :: ' ' :: left).length - left.length = 2 := by
      simp only [List.length_cons]
      omega
    rw [hTwo]
    rfl
  have hAttributes : takeAttributes ('p' :: ' ' :: left).length ' ' left =
      ([(String.ofList name, value)], '>' :: rest) := by
    rw [← hLeft]
    exact hTaken _ rest
  have hLower : Text.lower (String.ofList ['p']) = "p" := by decide
  have hRaw : rawTags.contains "p" = false := by decide
  rw [readOpenTag, hTag]
  simp only [hSpace, hBefore, hAttributes, hLower, hRaw, checkNumerals, List.findSome?_cons,
    List.findSome?_nil, longNumeral?_of_plain hPlain, decodeAttributes, List.map_cons, List.map_nil,
    decodeAll, decodeFrom_of_plain hPlain]
  rfl

/-! ## The whole paragraph -/

def paragraphWith (name value : List Char) : List Char :=
  '<' :: 'p' :: ' ' :: (name ++ '=' :: '"' :: (value ++ '"' :: '>' :: "</p>".toList))

/-- The markup of an empty paragraph with a class attribute. -/
def paragraph (value : List Char) : List Char :=
  '<' :: ("p class=\"".toList ++ (value ++ '"' :: '>' :: "</p>".toList))

theorem paragraph_eq (value : List Char) : paragraph value = paragraphWith "class".toList value := rfl

/-- The tokens of the paragraph are its two tags. -/
theorem readFrom_paragraphWith (hName : IsAttrName name) (hQuote : '"' ∉ value) (hPlain : '&' ∉ value)
    (fuel : Nat) :
    readFrom (fuel + 3) ⟨false, none⟩ (paragraphWith name value) =
      .ok [.openTag "p" [(String.ofList name, String.ofList value)] false, .closeTag "p"] := by
  have hClose : readFrom (fuel + 2) ⟨false, none⟩ "</p>".toList = .ok [.closeTag "p"] := rfl
  have hConstruct := readOpenTag_paragraph hName hQuote hPlain "</p>".toList
  -- No text stands before the tag.
  have hSpan (cs : List Char) :
      ('<' :: cs).span (fun c => c != '<' && c != '&') = ([], '<' :: cs) := rfl
  have hTag (cs : List Char) : readConstruct ('p' :: cs) = readOpenTag ('p' :: cs) := rfl
  rw [paragraphWith, readFrom]
  · simp only [hSpan, hTag, hConstruct, hClose]
    rfl
  · exact List.cons_ne_nil _ _

theorem nodesOf_paragraph (name text : String) :
    nodesOf [.openTag "p" [(name, text)] false, .closeTag "p"] =
      [.element "p" [(name, attrValue "p" name text)] []] := rfl

end Markup

namespace Page

/-- The markup of a paragraph spells out the paragraph alone. -/
theorem read_paragraphWith {name value : List Char} (hName : Markup.IsAttrName name)
    (hQuote : '"' ∉ value) (hPlain : '&' ∉ value) (url : String) :
    Page.read (String.ofList (Markup.paragraphWith name value)) url =
      .ok ⟨[.element "p" [(String.ofList name,
        Markup.attrValue "p" (String.ofList name) (String.ofList value))] []], url, ""⟩ := by
  have hTokens : Markup.Token.readAll (String.ofList (Markup.paragraphWith name value)) =
      .ok [.openTag "p" [(String.ofList name, String.ofList value)] false, .closeTag "p"] := by
    simp only [Markup.Token.readAll, String.toList_ofList]
    exact Markup.readFrom_paragraphWith hName hQuote hPlain _
  rw [Page.read, hTokens]
  simp only [bind, Except.bind, Markup.nodesOf_paragraph]
  rfl

/-- The words of its class attribute are the classes of a paragraph. -/
theorem read_paragraph {value : List Char} (hQuote : '"' ∉ value) (hPlain : '&' ∉ value)
    (url : String) :
    Page.read (String.ofList (Markup.paragraph value)) url =
      .ok ⟨[.element "p" [("class", .tokens (Text.splitWords (String.ofList value)))] []],
        url, ""⟩ := by
  have hName : Markup.IsAttrName "class".toList :=
    ⟨⟨'c', "lass".toList, rfl, by decide, by decide⟩, by decide⟩
  rw [Markup.paragraph_eq, read_paragraphWith hName hQuote hPlain]
  rfl

end Page
end StableLocator
