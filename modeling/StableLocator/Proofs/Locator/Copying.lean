import Mathlib.Data.List.TakeWhile
import StableLocator.Proofs.Locator.Reading

/-!
# Copying locators

The text for the clipboard ends where the first comment for a severity begins. In front of the comment
that was added there is the whole locator, unless one of the texts that it quotes reads like such a
comment: then the locator is cut off in the middle of that text.

* `CommentOpening` — how a comment for a severity begins; `Commented` — characters with one in them;
* `infix_append_cons_iff` — no comment begins across a character that stands in none;
* `Quotes` — quoted texts and other characters in turn, as which a locator is written;
* `Locator.oneLine` — a locator with its comment is on one line;
* `Remarks` — a text that is taken for a comment where it is quoted;
* `copyable_annotate_render_iff` — which locators are copied whole.
-/

namespace StableLocator

/-! ## Comments -/

def commentSigns : List (List Char) := ["#".toList, "//".toList]

def severityWords : List (List Char) := ["WARNING:".toList, "CRITICAL:".toList]

/-- How a comment for a severity begins: white space, a sign, perhaps white space again, and the word
for the severity. -/
def CommentOpening (cs : List Char) : Prop :=
  ∃ blanks, ∃ sign ∈ commentSigns, ∃ gap, ∃ word ∈ severityWords,
    cs = blanks ++ (sign ++ (gap ++ word)) ∧ blanks ≠ [] ∧
      ∀ c ∈ blanks ++ gap, Text.isBlank c = true

/-- A comment for a severity begins somewhere in the characters. -/
def Commented (cs : List Char) : Prop := ∃ opening, CommentOpening opening ∧ opening <:+: cs

def opensComment (c : Char) : Bool := Text.isBlank c || "#/WARNINGCRITICAL:".toList.contains c

/-- A character that opens no comment does not stand in the opening of one. -/
theorem not_mem_of_opensComment {cs : List Char} {stop : Char}
    (hOpens : ∀ c ∈ cs, opensComment c = true) (hStop : opensComment stop = false) : stop ∉ cs := by
  intro hMem
  rw [hOpens stop hMem] at hStop
  cases hStop

namespace CommentOpening

variable {cs : List Char}

/-- The opening of a comment has characters. -/
theorem ne_nil (h : CommentOpening cs) : cs ≠ [] := by
  obtain ⟨blanks, sign, _, gap, word, _, rfl, hSome, _⟩ := h
  simp [hSome]

/-- Only certain characters stand in the opening of a comment. -/
theorem opensComment_of_mem (h : CommentOpening cs) {c : Char} (hc : c ∈ cs) :
    opensComment c = true := by
  obtain ⟨blanks, sign, hSign, gap, word, hWord, rfl, _, hBlank⟩ := h
  have hMarks : (commentSigns ++ severityWords).all (fun mark => mark.all opensComment) = true := by
    decide
  simp only [List.mem_append, List.all_eq_true] at hc hBlank hMarks
  rcases hc with hc | hc | hc | hc
  · rw [opensComment, hBlank c (.inl hc), Bool.true_or]
  · exact hMarks sign (.inl hSign) c hc
  · rw [opensComment, hBlank c (.inr hc), Bool.true_or]
  · exact hMarks word (.inr hWord) c hc

theorem not_mem (h : CommentOpening cs) {stop : Char} (hStop : opensComment stop = false) :
    stop ∉ cs :=
  not_mem_of_opensComment (fun _ => h.opensComment_of_mem) hStop

/-- Every comment begins with a sign of one of two kinds. -/
theorem sign_mem (h : CommentOpening cs) : '#' ∈ cs ∨ '/' ∈ cs := by
  obtain ⟨blanks, sign, hSign, gap, word, _, rfl, _⟩ := h
  have hMarks : ∀ mark ∈ commentSigns, '#' ∈ mark ∨ '/' ∈ mark := by decide
  simp only [List.mem_append]
  exact (hMarks sign hSign).imp (fun h => .inr (.inl h)) (fun h => .inr (.inl h))

end CommentOpening

/-! ## Looking for comments -/

/-- A list that begins with a character that is not blank. -/
theorem inked_append {word : List Char} (hWord : word ∈ commentSigns ++ severityWords)
    (more : List Char) : (word ++ more).head?.any fun c => !Text.isBlank c := by
  have hInked : ∀ mark ∈ commentSigns ++ severityWords,
      mark.head?.any fun c => !Text.isBlank c := by decide
  have hFirst := hInked word hWord
  cases word with
  | nil => simp at hFirst
  | cons c word => exact hFirst

/-- What begins with a character that is not blank stands behind the blanks at the start. -/
theorem prefix_trimStart_iff {word cs : List Char} (hFirst : word.head?.any fun c => !Text.isBlank c) :
    word <+: Text.trimStart cs ↔
      ∃ blanks, (∀ c ∈ blanks, Text.isBlank c = true) ∧ blanks ++ word <+: cs := by
  constructor
  · intro h
    refine ⟨cs.takeWhile Text.isBlank, fun c hc => List.mem_takeWhile_imp hc, ?_⟩
    have hParts : cs.takeWhile Text.isBlank ++ Text.trimStart cs = cs := List.takeWhile_append_dropWhile
    have hBehind := (List.prefix_append_right_inj (cs.takeWhile Text.isBlank)).mpr h
    rwa [hParts] at hBehind
  · rintro ⟨blanks, hBlank, after, rfl⟩
    rw [Text.trimStart, List.append_assoc, List.dropWhile_append_of_pos hBlank]
    cases word with
    | nil => simp at hFirst
    | cons c word =>
      have hInk : Text.isBlank c = false := by simpa using hFirst
      rw [List.cons_append, List.dropWhile_cons, if_neg (by simp [hInk])]
      exact ⟨after, rfl⟩

/-- A word for a severity stands behind the blanks at the start. -/
theorem namesSeverity_iff {cs : List Char} :
    ("WARNING:".toList.isPrefixOf (Text.trimStart cs) ||
        "CRITICAL:".toList.isPrefixOf (Text.trimStart cs)) = true ↔
      ∃ gap, (∀ c ∈ gap, Text.isBlank c = true) ∧ ∃ word ∈ severityWords, gap ++ word <+: cs := by
  have hBehind (word : List Char) (hWord : word ∈ severityWords) : word <+: Text.trimStart cs ↔
      ∃ gap, (∀ c ∈ gap, Text.isBlank c = true) ∧ gap ++ word <+: cs := by
    have hFirst := inked_append (List.mem_append_right _ hWord) []
    rw [List.append_nil] at hFirst
    exact prefix_trimStart_iff hFirst
  rw [Bool.or_eq_true, List.isPrefixOf_iff_prefix, List.isPrefixOf_iff_prefix,
    hBehind _ (by decide), hBehind _ (by decide)]
  constructor
  · rintro (⟨gap, hGap, hThere⟩ | ⟨gap, hGap, hThere⟩)
    · exact ⟨gap, hGap, _, by decide, hThere⟩
    · exact ⟨gap, hGap, _, by decide, hThere⟩
  · rintro ⟨gap, hGap, word, hWord, hThere⟩
    simp only [severityWords, List.mem_cons, List.not_mem_nil, or_false] at hWord
    rcases hWord with rfl | rfl
    · exact .inl ⟨gap, hGap, hThere⟩
    · exact .inr ⟨gap, hGap, hThere⟩

/-- A comment begins at the first character if that is a blank and a sign with a word for a severity
stands behind the blanks. -/
theorem beginsComment_eq_true_iff {cs : List Char} :
    beginsComment cs = true ↔ cs.head?.any Text.isBlank = true ∧
      ∃ sign ∈ commentSigns, ∃ gap, (∀ c ∈ gap, Text.isBlank c = true) ∧
        ∃ word ∈ severityWords, sign ++ (gap ++ word) <+: Text.trimStart cs := by
  unfold beginsComment
  rw [Bool.and_eq_true]
  refine and_congr_right fun _ => ?_
  split
  · rename_i rest hTrimmed
    rw [hTrimmed, namesSeverity_iff]
    simp [commentSigns]
  · rename_i rest hTrimmed
    rw [hTrimmed, namesSeverity_iff]
    simp [commentSigns]
  · rename_i hNoHash hNoSlashes
    refine iff_of_false (by simp) ?_
    rintro ⟨sign, hSign, gap, _, word, _, after, hThere⟩
    simp only [commentSigns, List.mem_cons, List.not_mem_nil, or_false] at hSign
    rcases hSign with rfl | rfl
    · exact hNoHash _ hThere.symm
    · exact hNoSlashes _ hThere.symm

/-- A comment begins at the first character exactly if an opening stands there. -/
theorem beginsComment_iff {cs : List Char} :
    beginsComment cs = true ↔ ∃ opening, CommentOpening opening ∧ opening <+: cs := by
  -- The opening is the blanks that are trimmed away, with the sign, the gap and the word behind them.
  rw [beginsComment_eq_true_iff]
  constructor
  · rintro ⟨hBlank, sign, hSign, gap, hGap, word, hWord, hThere⟩
    have hInked := inked_append (List.mem_append_left _ hSign) (gap ++ word)
    obtain ⟨blanks, hBlanks, hThere⟩ := (prefix_trimStart_iff hInked).mp hThere
    refine ⟨_, ⟨blanks, sign, hSign, gap, word, hWord, rfl, ?_, ?_⟩, hThere⟩
    · -- Without blanks the sign would be the first character, which is blank.
      rintro rfl
      obtain ⟨after, rfl⟩ := hThere
      rw [List.nil_append, List.head?_append, Option.any_eq_true] at hBlank
      obtain ⟨c, hc, hBlank⟩ := hBlank
      cases hFirst : (sign ++ (gap ++ word)).head? with
      | none => simp [hFirst] at hInked
      | some d =>
        rw [hFirst, Option.some_or, Option.some_inj] at hc
        simp [hFirst, hc, hBlank] at hInked
    · intro c hc
      exact (List.mem_append.mp hc).elim (hBlanks c) (hGap c)
  · rintro ⟨_, ⟨blanks, sign, hSign, gap, word, hWord, rfl, hSome, hBlank⟩, hThere⟩
    have hInked := inked_append (List.mem_append_left _ hSign) (gap ++ word)
    have hBlanks : ∀ c ∈ blanks, Text.isBlank c = true := fun c hc =>
      hBlank c (List.mem_append_left _ hc)
    refine ⟨?_, sign, hSign, gap, fun c hc => hBlank c (List.mem_append_right _ hc), word, hWord,
      (prefix_trimStart_iff hInked).mpr ⟨blanks, hBlanks, hThere⟩⟩
    obtain ⟨after, rfl⟩ := hThere
    cases blanks with
    | nil => exact absurd rfl hSome
    | cons c blanks => simpa using hBlanks c List.mem_cons_self

/-- What is cut off begins with the first comment, and nothing is if there is none. -/
theorem beforeComment_eq_self_iff {cs : List Char} : beforeComment cs = cs ↔ ¬ Commented cs := by
  induction cs with
  | nil =>
    refine iff_of_true rfl ?_
    rintro ⟨opening, hOpening, hThere⟩
    exact hOpening.ne_nil (List.infix_nil.mp hThere)
  | cons c cs ih =>
    rw [beforeComment]
    cases hBegins : beginsComment (c :: cs) with
    | true =>
      obtain ⟨opening, hOpening, hThere⟩ := beginsComment_iff.mp hBegins
      simp only [if_true, List.nil_eq, reduceCtorEq, false_iff, not_not]
      exact ⟨opening, hOpening, hThere.isInfix⟩
    | false =>
      rw [if_neg Bool.false_ne_true, List.cons.injEq, ih]
      refine (and_iff_right rfl).trans (not_congr ⟨?_, ?_⟩)
      · rintro ⟨opening, hOpening, hThere⟩
        exact ⟨opening, hOpening, List.infix_cons_iff.mpr (.inr hThere)⟩
      · rintro ⟨opening, hOpening, hThere⟩
        rcases List.infix_cons_iff.mp hThere with hFirst | hLater
        · exact absurd (beginsComment_iff.mpr ⟨opening, hOpening, hFirst⟩) (by simp [hBegins])
        · exact ⟨opening, hOpening, hLater⟩

/-- What stands before a comment is a beginning of the text. -/
theorem beforeComment_isPrefix (cs : List Char) : beforeComment cs <+: cs := by
  induction cs with
  | nil => exact List.prefix_rfl
  | cons c cs ih =>
    rw [beforeComment]
    split
    · exact List.nil_prefix
    · exact List.cons_prefix_cons.mpr ⟨rfl, ih⟩

/-! ## Characters that stand in no comment -/

variable {before after opening : List Char} {stop : Char}

/-- An opening without the stop stands at the beginning just if it stands before the stop. -/
theorem prefix_append_cons_iff (h : stop ∉ opening) :
    opening <+: before ++ stop :: after ↔ opening <+: before := by
  refine ⟨fun hThere => ?_, fun hThere => hThere.trans (List.prefix_append _ _)⟩
  rcases List.prefix_or_prefix_of_prefix hThere (List.prefix_append _ _) with hInside | ⟨more, rfl⟩
  · exact hInside
  · rw [List.prefix_append_right_inj, List.prefix_cons_iff] at hThere
    rcases hThere with rfl | ⟨rest, rfl, _⟩
    · exact (List.append_nil before).symm ▸ List.prefix_rfl
    · exact absurd (by simp) h

/-- An opening without the stop stands on one side of it. -/
theorem infix_append_cons_iff (h : stop ∉ opening) (hSome : opening ≠ []) :
    opening <:+: before ++ stop :: after ↔ opening <:+: before ∨ opening <:+: after := by
  induction before with
  | nil =>
    have hFirst : ¬ opening <+: stop :: after := by
      rw [← List.nil_append (stop :: after), prefix_append_cons_iff h, List.prefix_nil]
      exact hSome
    rw [List.nil_append, List.infix_cons_iff, List.infix_nil]
    exact or_congr (iff_of_false hFirst hSome) Iff.rfl
  | cons c before ih =>
    rw [List.cons_append, List.infix_cons_iff, ih, List.infix_cons_iff, ← List.cons_append,
      prefix_append_cons_iff h, or_assoc]

/-- Comments begin before such a character or behind it. -/
theorem commented_append_cons_iff (h : opensComment stop = false) :
    Commented (before ++ stop :: after) ↔ Commented before ∨ Commented after := by
  have hParts {opening : List Char} (hOpening : CommentOpening opening) :
      opening <:+: before ++ stop :: after ↔ opening <:+: before ∨ opening <:+: after :=
    infix_append_cons_iff (hOpening.not_mem h) hOpening.ne_nil
  constructor
  · rintro ⟨opening, hOpening, hThere⟩
    exact ((hParts hOpening).mp hThere).imp (⟨opening, hOpening, ·⟩) (⟨opening, hOpening, ·⟩)
  · rintro (⟨opening, hOpening, hThere⟩ | ⟨opening, hOpening, hThere⟩)
    · exact ⟨opening, hOpening, (hParts hOpening).mpr (.inl hThere)⟩
    · exact ⟨opening, hOpening, (hParts hOpening).mpr (.inr hThere)⟩

/-- What comes behind such a character has no part in a comment that begins before it. -/
theorem beginsComment_append_cons (h : opensComment stop = false) :
    beginsComment (before ++ stop :: after) = beginsComment before := by
  rw [Bool.eq_iff_iff, beginsComment_iff, beginsComment_iff]
  exact exists_congr fun opening => and_congr_right fun hOpening =>
    prefix_append_cons_iff (hOpening.not_mem h)

/-- A comment that is added behind such a character is cut off again, and nothing else because of it. -/
theorem beforeComment_append_comment (h : opensComment stop = false)
    (hComment : beginsComment after = true) :
    beforeComment (before ++ stop :: after) = beforeComment (before ++ [stop]) := by
  induction before with
  | nil =>
    have hCut : beforeComment after = [] := by
      cases after with
      | nil => rfl
      | cons c after => rw [beforeComment, if_pos hComment]
    have hNone (more : List Char) : ¬ beginsComment (stop :: more) = true := by
      rw [← List.nil_append (stop :: more), beginsComment_append_cons h]
      decide
    rw [List.nil_append, List.nil_append, beforeComment, if_neg (hNone _), beforeComment,
      if_neg (hNone _), hCut, beforeComment]
  | cons c before ih =>
    rw [List.cons_append, List.cons_append, beforeComment, beforeComment, ih, ← List.cons_append,
      ← List.cons_append, beginsComment_append_cons h, beginsComment_append_cons h]

/-! ## Quoted texts -/

/-- No sign of a comment begins with the character, and no line ends with it. -/
def isQuiet (c : Char) : Bool := c != '#' && c != '/' && c != '\n'

/-- Quoted texts, first to last, with quiet characters before, between and behind them. -/
inductive Quotes : List Char → List String → Prop
  | plain {cs : List Char} (h : cs.all isQuiet = true) : Quotes cs []
  | quoted {cs rest : List Char} {texts : List String} (h : cs.all isQuiet = true) (s : String)
      (hRest : Quotes rest texts) : Quotes (cs ++ (quoteText s).toList ++ rest) (s :: texts)

namespace Quotes

variable {cs ds : List Char} {ss ts : List String}

theorem append (h : Quotes cs ss) (h' : Quotes ds ts) : Quotes (cs ++ ds) (ss ++ ts) := by
  induction h with
  | plain hQuiet =>
    cases h' with
    | plain hMore => exact .plain (by rw [List.all_append, hQuiet, hMore]; rfl)
    | quoted hMore s hRest =>
      rw [← List.append_assoc, ← List.append_assoc]
      exact .quoted (by rw [List.all_append, hQuiet, hMore]; rfl) s hRest
  | quoted hQuiet s _ ih =>
    rw [List.append_assoc]
    exact .quoted hQuiet s ih

/-- A text in quotes quotes this text. -/
theorem text (s : String) : Quotes (quoteText s).toList [s] := by
  have hText : Quotes ([] ++ (quoteText s).toList ++ []) [s] := .quoted rfl s (.plain rfl)
  rwa [List.nil_append, List.append_nil] at hText

/-- Quiet characters hold no comment. -/
theorem not_commented (h : cs.all isQuiet = true) : ¬ Commented cs := by
  rintro ⟨opening, hOpening, hThere⟩
  rw [List.all_eq_true] at h
  rcases hOpening.sign_mem with hSign | hSign
  · exact absurd (h _ (hThere.subset hSign)) (by decide)
  · exact absurd (h _ (hThere.subset hSign)) (by decide)

/-- A comment begins only inside a quoted text. -/
theorem commented_iff (h : Quotes cs ss) :
    Commented cs ↔ ∃ s ∈ ss, Commented (s.toList.flatMap escapedChar) := by
  induction h with
  | plain hQuiet => simp [not_commented hQuiet]
  | @quoted cs rest texts hQuiet s _ ih =>
    have hQuote : opensComment '"' = false := by decide
    rw [toList_quoteText, List.append_assoc, List.cons_append, List.append_assoc, List.cons_append,
      List.nil_append, commented_append_cons_iff hQuote, commented_append_cons_iff hQuote, ih]
    simp [not_commented hQuiet]

/-- A quoted text is on one line, as its line ends are escaped. -/
theorem not_mem_escapedChar (c : Char) : '\n' ∉ escapedChar c := by
  unfold escapedChar
  split_ifs with _ _ hLine
  · decide
  · decide
  · decide
  · decide
  · decide
  · rw [List.mem_singleton]
    exact fun hc => hLine hc.symm

/-- What quotes texts stands on one line. -/
theorem oneLine (h : Quotes cs ss) : '\n' ∉ cs := by
  have quiet {plain : List Char} (hQuiet : plain.all isQuiet = true) : '\n' ∉ plain :=
    fun hMem => absurd (List.all_eq_true.mp hQuiet _ hMem) (by decide)
  induction h with
  | plain hQuiet => exact quiet hQuiet
  | @quoted plain rest texts hQuiet s _ ih =>
    have hText : '\n' ∉ s.toList.flatMap escapedChar := by
      intro hMem
      obtain ⟨c, _, hc⟩ := List.mem_flatMap.mp hMem
      exact not_mem_escapedChar c hc
    simp only [toList_quoteText, List.mem_append, List.mem_cons]
    simp [quiet hQuiet, hText, ih]

end Quotes

def OptionValue.text? : OptionValue → Option String
  | .text s => some s
  | .flag _ => none

theorem all_isQuiet_of_isPlainWord {cs : List Char} (h : Lexeme.isPlainWord cs = true) :
    cs.all isQuiet = true := by
  have hPlain : ∀ c : Char, (c.isAlpha || c == '_') = true → isQuiet c = true := by
    intro c hc
    simp only [isQuiet, Bool.and_eq_true, bne_iff_ne]
    refine ⟨⟨?_, ?_⟩, ?_⟩
    all_goals
      rintro rfl
      revert hc
      decide
  cases cs with
  | nil => rfl
  | cons c cs =>
    simp only [Lexeme.isPlainWord, Bool.and_eq_true, List.all_eq_true] at h
    rw [List.all_cons, hPlain c (by rw [h.1, Bool.true_or]), Bool.true_and, List.all_eq_true]
    exact fun d hd => hPlain d (h.2 d hd)

/-- The value of an option quotes its text, if it has one. -/
theorem OptionValue.quotes_render (d : Dialect) (v : OptionValue) :
    Quotes (v.render d).toList v.text?.toList := by
  cases v with
  | text s => exact .text s
  | flag b => exact .plain (all_isQuiet_of_isPlainWord (OptionValue.isPlainWord_flag d b))

namespace Query

/-- The texts that the call quotes: the value, and the name if the query asks for one. -/
def quoted (q : Query) : List String :=
  q.value :: if q.strategy = .roleName then q.name?.toList else []

/-- The only option with a text is the name that goes with a role. -/
theorem filterMap_text?_options (q : Query) :
    q.options.filterMap (fun pair => pair.2.text?) =
      if q.strategy = .roleName then q.name?.toList else [] := by
  obtain ⟨strategy, value, name?, exact, scope⟩ := q
  have hExact : (if exact then [("exact", OptionValue.flag true)] else []).filterMap
      (fun pair => pair.2.text?) = [] := by
    cases exact <;> rfl
  cases strategy with
  | testId | path | role => rfl
  | label | placeholder | altText | title | text => cases name? <;> exact hExact
  | roleName =>
    cases name? with
    | none => exact hExact
    | some name => exact congrArg (name :: ·) hExact

/-- Options joined by commas, with quiet characters between a name and its value. -/
theorem quotes_pairs (d : Dialect) (between : String) (hBetween : between.toList.all isQuiet = true)
    {options : List (String × OptionValue)} (hKeys : PlainKeys options) :
    Quotes (", ".intercalate (options.map fun (key, v) => key ++ between ++ v.render d)).toList
      (options.filterMap fun pair => pair.2.text?) := by
  have one {key : String} (v : OptionValue) (hKey : Lexeme.isPlainWord key.toList = true) :
      Quotes (key ++ between ++ v.render d).toList v.text?.toList := by
    rw [String.toList_append, String.toList_append]
    refine Quotes.append (.plain ?_) (v.quotes_render d)
    rw [List.all_append, all_isQuiet_of_isPlainWord hKey, hBetween]
    rfl
  induction options with
  | nil => exact .plain rfl
  | cons pair rest ih =>
    obtain ⟨key, v⟩ := pair
    have hFirst := one v (hKeys (key, v) List.mem_cons_self)
    have hTexts : List.filterMap (fun pair => pair.2.text?) ((key, v) :: rest) =
        v.text?.toList ++ rest.filterMap fun pair => pair.2.text? := by
      cases v <;> rfl
    rw [hTexts]
    cases rest with
    | nil => simpa using hFirst
    | cons next rest =>
      have hRest := ih fun pair hp => hKeys pair (List.mem_cons_of_mem _ hp)
      have hComma : Quotes ", ".toList [] := .plain (by decide)
      have hPair := hFirst.append (hComma.append hRest)
      simpa using hPair

/-- Options quote the texts of their values. -/
theorem quotes_renderOptions (d : Dialect) {options : List (String × OptionValue)}
    (hKeys : PlainKeys options) :
    Quotes (renderOptions d options).toList (options.filterMap fun pair => pair.2.text?) := by
  unfold renderOptions
  split
  · exact quotes_pairs d "=" (by decide) hKeys
  · have hOpen : Quotes "\x7b ".toList [] := .plain (by decide)
    have hClose : Quotes " \x7d".toList [] := .plain (by decide)
    have hObject := (hOpen.append (quotes_pairs d ": " (by decide) hKeys)).append hClose
    rw [List.nil_append, List.append_nil] at hObject
    rwa [String.toList_append, String.toList_append]

/-- A call quotes the texts of its query and nothing else. -/
theorem quotes_render (q : Query) (d : Dialect) : Quotes (q.render d).toList q.quoted := by
  have hMethod : Quotes (q.method d ++ "(").toList [] := by
    refine .plain ?_
    rw [String.toList_append, List.all_append, all_isQuiet_of_isPlainWord (isPlainWord_method q d)]
    decide
  have hOptions : Quotes (if q.options.isEmpty then "" else ", " ++ renderOptions d q.options).toList
      (q.options.filterMap fun pair => pair.2.text?) := by
    split
    · rename_i hNone
      rw [List.isEmpty_iff.mp hNone]
      exact .plain rfl
    · have hComma : Quotes ", ".toList [] := .plain (by decide)
      rw [String.toList_append]
      exact hComma.append (quotes_renderOptions d (plainKeys_options q))
  have hClose : Quotes ")".toList [] := .plain (by decide)
  have hCall := ((hMethod.append (.text q.value)).append hOptions).append hClose
  rw [List.append_nil, List.nil_append, List.singleton_append, filterMap_text?_options,
    String.toList_append] at hCall
  simpa only [render, quoted, String.toList_append] using hCall

end Query

/-- A locator quotes the texts of its queries, and there is no sign of a comment outside of them. -/
theorem Locator.quotes_render (l : Locator) (d : Dialect) :
    Quotes (l.render d).toList (l.queries.flatMap Query.quoted) := by
  have hCalls (queries : List Query) :
      Quotes (queries.flatMap fun q => '.' :: (q.render d).toList)
        (queries.flatMap Query.quoted) := by
    induction queries with
    | nil => exact .plain rfl
    | cons q queries ih =>
      have hPoint : Quotes ['.'] [] := .plain (by decide)
      exact (hPoint.append (q.quotes_render d)).append ih
  have hPage : Quotes "page".toList [] := .plain (by decide)
  rw [Locator.toList_render]
  exact hPage.append (hCalls l.queries)

/-- A locator with the comment for a severity is on one line, whatever it quotes. -/
theorem Locator.oneLine (l : Locator) (severity : Severity) (d : Dialect) :
    '\n' ∉ (annotate (l.render d) severity d).toList := by
  have hCall : '\n' ∉ (l.render d).toList := (l.quotes_render d).oneLine
  have hSign : '\n' ∉ d.commentSign.toList := by
    unfold Dialect.commentSign
    split <;> decide
  cases hComment : severity.comment? with
  | none => rwa [annotate, hComment]
  | some comment =>
    have hWords : '\n' ∉ comment.toList := by
      cases severity with
      | none => cases hComment
      | warning | critical =>
        cases hComment
        decide
    simp only [annotate, hComment, String.toList_append, List.mem_append]
    simp [hCall, hSign, hWords]

/-! ## Texts that are taken for comments -/

/-- The text reads like a comment for a severity somewhere, apart from line ends and tabs, which are
not quoted as such. -/
def Remarks (s : String) : Prop :=
  ∃ opening, CommentOpening opening ∧ opening <:+: s.toList ∧
    ∀ c ∈ opening, c ≠ '\n' ∧ c ≠ '\r' ∧ c ≠ '\t'

/-- A character is quoted as itself, or behind a stroke as one that stands in no comment. -/
theorem escapedChar_cases (c : Char) :
    escapedChar c = [c] ∨ ∃ d, escapedChar c = ['\\', d] ∧ opensComment d = false := by
  unfold escapedChar
  split_ifs
  · exact .inr ⟨_, rfl, by decide⟩
  · exact .inr ⟨_, rfl, by decide⟩
  · exact .inr ⟨_, rfl, by decide⟩
  · exact .inr ⟨_, rfl, by decide⟩
  · exact .inr ⟨_, rfl, by decide⟩
  · exact .inl rfl

/-- Of the characters in an opening, line ends and tabs alone are escaped. -/
theorem escapedChar_eq_self_iff {c : Char} (h : opensComment c = true) :
    escapedChar c = [c] ↔ c ≠ '\n' ∧ c ≠ '\r' ∧ c ≠ '\t' := by
  have hSlash : c ≠ '\\' := by
    rintro rfl
    exact absurd h (by decide)
  have hQuote : c ≠ '"' := by
    rintro rfl
    exact absurd h (by decide)
  simp only [escapedChar, if_neg hSlash, if_neg hQuote]
  split_ifs <;> simp_all

section Escaped

variable {opening cs : List Char} (hOpens : ∀ c ∈ opening, opensComment c = true)
include hOpens

/-- An escaped text begins with an opening just if the text does and nothing in the opening is escaped.
-/
theorem prefix_escaped_iff :
    opening <+: cs.flatMap escapedChar ↔
      opening <+: cs ∧ ∀ c ∈ opening, escapedChar c = [c] := by
  induction opening generalizing cs with
  | nil => simp
  | cons a opening ih =>
    cases cs with
    | nil => simp
    | cons c cs =>
      have hLater : opening <+: cs.flatMap escapedChar ↔
          opening <+: cs ∧ ∀ d ∈ opening, escapedChar d = [d] :=
        ih fun d hd => hOpens d (List.mem_cons_of_mem _ hd)
      rw [List.flatMap_cons, List.cons_prefix_cons, List.forall_mem_cons]
      rcases escapedChar_cases c with hSame | ⟨d, hPair, _⟩
      · rw [hSame, List.singleton_append, List.cons_prefix_cons, hLater]
        constructor
        · rintro ⟨rfl, hThere, hAll⟩
          exact ⟨⟨rfl, hThere⟩, hSame, hAll⟩
        · rintro ⟨⟨rfl, hThere⟩, _, hAll⟩
          exact ⟨rfl, hThere, hAll⟩
      · -- The stroke stands in no comment, and the character is not quoted as itself.
        rw [hPair, List.cons_append, List.cons_prefix_cons]
        refine iff_of_false ?_ ?_
        · rintro ⟨rfl, _⟩
          exact absurd (hOpens _ List.mem_cons_self) (by decide)
        · rintro ⟨⟨rfl, _⟩, hSame, _⟩
          simp [hPair] at hSame

/-- An escaped text has an opening in it just if the text does and nothing in the opening is escaped. -/
theorem infix_escaped_iff (hSome : opening ≠ []) :
    opening <:+: cs.flatMap escapedChar ↔
      opening <:+: cs ∧ ∀ c ∈ opening, escapedChar c = [c] := by
  induction cs with
  | nil => simp [hSome]
  | cons c cs ih =>
    have hParts : (opening <:+: c :: cs ∧ ∀ d ∈ opening, escapedChar d = [d]) ↔
        opening <+: (c :: cs).flatMap escapedChar ∨ opening <:+: cs.flatMap escapedChar := by
      rw [List.infix_cons_iff, or_and_right, prefix_escaped_iff hOpens]
      exact or_congr Iff.rfl ih.symm
    rw [hParts, List.flatMap_cons]
    rcases escapedChar_cases c with hSame | ⟨d, hPair, hStop⟩
    · rw [hSame, List.singleton_append, List.infix_cons_iff]
    · rw [hPair, List.cons_append, List.cons_append, List.nil_append, List.infix_cons_iff]
      refine or_congr Iff.rfl ?_
      rw [← List.nil_append (d :: _),
        infix_append_cons_iff (not_mem_of_opensComment hOpens hStop) hSome, List.infix_nil,
        or_iff_right hSome]

end Escaped

/-- A comment begins inside the quoted text exactly if the text is taken for one. -/
theorem commented_escaped_iff (s : String) :
    Commented (s.toList.flatMap escapedChar) ↔ Remarks s := by
  refine exists_congr fun opening => and_congr_right fun hOpening => ?_
  have hOpens : ∀ c ∈ opening, opensComment c = true := fun _ => hOpening.opensComment_of_mem
  rw [infix_escaped_iff hOpens hOpening.ne_nil]
  exact and_congr_right fun _ => forall₂_congr fun c hc => escapedChar_eq_self_iff (hOpens c hc)

/-! ## What is copied -/

/-- What is added for a severity, if anything, is a comment. -/
theorem annotate_eq_append (text : String) (severity : Severity) (d : Dialect) :
    annotate text severity d = text ∨
      ∃ comment, beginsComment comment = true ∧
        (annotate text severity d).toList = text.toList ++ comment := by
  have hBegins {comment : String} (hSome : severity.comment? = some comment) :
      beginsComment (" " ++ d.commentSign ++ " " ++ comment).toList = true := by
    unfold Dialect.commentSign
    cases severity with
    | none => cases hSome
    | warning | critical => split <;> cases hSome <;> decide
  cases hComment : severity.comment? with
  | none => exact .inl (by rw [annotate, hComment])
  | some comment =>
    refine .inr ⟨_, hBegins hComment, ?_⟩
    simp only [annotate, hComment, String.toList_append, List.append_assoc]

/-- The comment for a severity makes no difference to what is copied. -/
theorem copyable_annotate_render (l : Locator) (severity : Severity) (d : Dialect) :
    copyable (annotate (l.render d) severity d) = copyable (l.render d) := by
  rcases annotate_eq_append (l.render d) severity d with hText | ⟨comment, hComment, hText⟩
  · rw [hText]
  · obtain ⟨call, hCall⟩ := List.getLast?_eq_some_iff.mp (getLast?_render l d)
    rw [hCall, List.append_assoc, List.singleton_append] at hText
    rw [copyable, copyable, hText, beforeComment_append_comment (by decide) hComment, hCall]

/-- A text with no white space at its ends is copied whole if no comment begins in it. -/
theorem copyable_eq_self_iff {text : String} (hTrim : Text.trim text = text) :
    copyable text = text ↔ ¬ Commented text.toList := by
  rw [← beforeComment_eq_self_iff]
  constructor
  · intro hWhole
    -- Trimming adds nothing, so a text that is cut off would come out shorter.
    have hTrimmed : Text.trimBoth (beforeComment text.toList) = text.toList := by
      rw [← String.ofList_inj, String.ofList_toList]
      rwa [copyable, Text.trim, String.toList_ofList] at hWhole
    have hLength := (Text.trimBoth_isInfix (beforeComment text.toList)).length_le
    rw [hTrimmed] at hLength
    exact (beforeComment_isPrefix text.toList).eq_of_length_le hLength
  · intro hWhole
    rw [copyable, hWhole, String.ofList_toList, hTrim]

/-- A locator is copied whole, whatever comment follows it, unless it quotes a text that is taken for a
comment. -/
theorem copyable_annotate_render_iff (l : Locator) (severity : Severity) (d : Dialect) :
    copyable (annotate (l.render d) severity d) = l.render d ↔
      ∀ q ∈ l.queries, ∀ s ∈ q.quoted, ¬ Remarks s := by
  have hTrim : Text.trim (l.render d) = l.render d := trim_annotate_render l .none d
  rw [copyable_annotate_render, copyable_eq_self_iff hTrim, (l.quotes_render d).commented_iff]
  simp only [commented_escaped_iff, List.mem_flatMap]
  constructor
  · intro hNone q hq s hs hRemarks
    exact hNone ⟨s, ⟨q, hq, hs⟩, hRemarks⟩
  · rintro hNone ⟨s, ⟨q, hq, hs⟩, hRemarks⟩
    exact hNone q hq s hs hRemarks

/-- A text on the page can be taken for a comment, without any severity. -/
theorem copyable_annotate_render_remark :
    copyable (annotate (Locator.render { first := { strategy := .text, value := "a # WARNING: b" } }
        .pytest) .none .pytest) = "page.get_by_text(\"a" ∧
      Locator.render { first := { strategy := .text, value := "a # WARNING: b" } } .pytest =
        "page.get_by_text(\"a # WARNING: b\")" := by
  decide +kernel

end StableLocator
