import StableLocator.Locator.Lexeme
import StableLocator.Locator.Printer
import StableLocator.Proofs.Text.Characters

/-!
# Spelling locators

What the writer of locators puts down is read as the lexemes that it meant, from any position on.
Positions are the one thing in which two texts of the same lexemes differ, so lexemes are compared by
what they say.

* `Lexeme.Spells cs said` — the characters are read as lexemes that say this;
* one lemma for each thing that is written: blanks, comments, marks, words and quoted texts, each in
  front of characters that spell the rest;
* `Query.spells_render` and `spells_calls` — calls, and chains of calls.
-/

namespace StableLocator

abbrev Saying := LexemeKind × String

namespace Lexeme

def saying (t : Lexeme) : Saying := (t.kind, t.value)

/-- From any position on, the characters are read as lexemes that say this. -/
def Spells (cs : List Char) (said : List Saying) : Prop :=
  ∀ position, ∃ lexemes, readFrom position cs = .ok lexemes ∧ lexemes.map saying = said

/-- A word of ASCII letters and underscores that begins with a letter. -/
def isPlainWord : List Char → Bool
  | [] => false
  | c :: rest => c.isAlpha && rest.all fun d => d.isAlpha || d == '_'

/-! ## Kinds of characters -/

/-- An ASCII letter begins a word and nothing else. -/
theorem begins_word_of_isAlpha {c : Char} (h : c.isAlpha = true) :
    Text.isBlank c = false ∧ (∀ cs, beginsNote (c :: cs) = false) ∧ isQuote c = false ∧
      Text.isDigit c = false ∧ isMark c = false ∧ isWordStart c = true := by
  have hRange := Text.isAlpha_iff.1 h
  -- The signs that begin anything else are told apart by their code points.
  have hNe : ∀ d : Char, ¬(65 ≤ d.toNat ∧ d.toNat ≤ 90 ∨ 97 ≤ d.toNat ∧ d.toNat ≤ 122) → c ≠ d := by
    rintro d hd rfl
    exact hd hRange
  have hDigit : c.isDigit = false := by
    rw [Bool.eq_false_iff, Ne, Text.isDigit_iff]
    omega
  refine ⟨?_, ?_, ?_, ?_, ?_, ?_⟩
  · simp [Text.isBlank]
    omega
  · intro cs
    unfold beginsNote
    split
    · rename_i hHead
      exact absurd (List.cons.inj hHead).1 (hNe '#' (by decide))
    · rename_i hHead
      exact absurd (List.cons.inj hHead).1 (hNe '/' (by decide))
    · rfl
  · simp [isQuote, hNe '"' (by decide), hNe '\'' (by decide), hNe '`' (by decide)]
  · rw [Text.isDigit, if_pos (by omega)]
    exact hDigit
  · simp [isMark, hNe '(' (by decide), hNe ')' (by decide), hNe '.' (by decide),
      hNe ',' (by decide), hNe '\x7b' (by decide), hNe '\x7d' (by decide), hNe ':' (by decide),
      hNe '=' (by decide)]
  · rw [isWordStart, Text.isLetter, if_pos (by omega), h]
    rfl

theorem isWordPart_of_isPlain {c : Char} (h : (c.isAlpha || c == '_') = true) :
    isWordPart c = true := by
  rw [Bool.or_eq_true] at h
  rcases h with h | h
  · have hRange := Text.isAlpha_iff.1 h
    rw [isWordPart, Text.isLetterOrNumeral, if_pos (by omega), Char.isAlphanum, h]
    rfl
  · simp [isWordPart, h]

/-! ## Quoted texts -/

/-- Where a character is neither a backslash at the end nor one before another character, it is none. -/
theorem ne_backslash {c : Char} {rest : List Char} (hEnd : c = '\\' → rest = [] → False)
    (hPair : ∀ d more, c = '\\' → rest = d :: more → False) : c ≠ '\\' := by
  intro hc
  cases rest with
  | nil => exact hEnd hc rfl
  | cons d more => exact hPair d more hc rfl

/-- A text that was written in double quotes is read back, up to its closing quote. -/
theorem takeText?_escaped (body rest : List Char) :
    takeText? '"' (body.flatMap escapedChar ++ '"' :: rest) = some (body, rest) := by
  induction body with
  | nil => simp [takeText?]
  | cons c body ih =>
    rw [List.flatMap_cons, List.append_assoc]
    -- Five characters are written in two; every other one stands for itself.
    by_cases hSlash : c = '\\'
    · subst hSlash
      simp [escapedChar, takeText?, ih, unescaped]
    by_cases hQuote : c = '"'
    · subst hQuote
      simp [escapedChar, takeText?, ih, unescaped]
    by_cases hLine : c = '\n'
    · subst hLine
      simp [escapedChar, takeText?, ih, unescaped]
    by_cases hReturn : c = '\r'
    · subst hReturn
      simp [escapedChar, takeText?, ih, unescaped]
    by_cases hTab : c = '\t'
    · subst hTab
      simp [escapedChar, takeText?, ih, unescaped]
    simp [escapedChar, hSlash, hQuote, hLine, hReturn, hTab, takeText?, ih]

namespace Spells

variable {cs : List Char} {said : List Saying}

theorem nil : Spells [] [] := fun _ => ⟨[], by rw [readFrom], rfl⟩

/-- A comment ends the text. -/
theorem note {c : Char} (hBlank : Text.isBlank c = false) (h : beginsNote (c :: cs) = true) :
    Spells (c :: cs) [] := by
  intro position
  refine ⟨[], ?_, rfl⟩
  rw [readFrom, if_neg (by simp [hBlank]), if_pos h]

theorem blank {c : Char} (hBlank : Text.isBlank c = true) (h : Spells cs said) :
    Spells (c :: cs) said := by
  intro position
  obtain ⟨lexemes, hRead, hSays⟩ := h (position + 1)
  refine ⟨lexemes, ?_, hSays⟩
  rw [readFrom, if_pos hBlank, hRead]

theorem mark {c : Char} (hMark : isMark c = true) (h : Spells cs said) :
    Spells (c :: cs) ((.mark, String.singleton c) :: said) := by
  have hKinds : Text.isBlank c = false ∧ beginsNote (c :: cs) = false ∧ isQuote c = false ∧
      Text.isDigit c = false := by
    simp [isMark] at hMark
    rcases hMark with rfl | rfl | rfl | rfl | rfl | rfl | rfl | rfl <;> exact ⟨rfl, rfl, rfl, rfl⟩
  obtain ⟨hBlank, hNote, hQuote, hDigit⟩ := hKinds
  intro position
  obtain ⟨lexemes, hRead, hSays⟩ := h (position + 1)
  refine ⟨⟨.mark, String.singleton c, position⟩ :: lexemes, ?_, by simp [saying, hSays]⟩
  rw [readFrom, if_neg (by simp [hBlank]), if_neg (by simp [hNote]), if_neg (by simp [hQuote]),
    if_neg (by simp [hDigit]), if_pos hMark, hRead]
  rfl

/-- A word ends where no character follows that may go on it. -/
theorem word {word : List Char} (hWord : isPlainWord word = true)
    (hEnd : cs.head?.all fun c => !isWordPart c) (h : Spells cs said) :
    Spells (word ++ cs) ((.word, String.ofList word) :: said) := by
  -- The first character decides that a word is read; the rest is the longest run of its parts.
  cases word with
  | nil => simp [isPlainWord] at hWord
  | cons c more =>
    simp only [isPlainWord, Bool.and_eq_true, List.all_eq_true] at hWord
    obtain ⟨hFirst, hMore⟩ := hWord
    obtain ⟨hBlank, hNote, hQuote, hDigit, hMark, hStart⟩ := begins_word_of_isAlpha hFirst
    have hParts : ∀ d ∈ more, isWordPart d = true := fun d hd => isWordPart_of_isPlain (hMore d hd)
    have hTake : (more ++ cs).takeWhile isWordPart = more := by
      rw [List.takeWhile_append_of_pos hParts]
      cases cs with
      | nil => simp
      | cons d cs => simp_all
    have hDrop : (more ++ cs).dropWhile isWordPart = cs := by
      rw [List.dropWhile_append_of_pos hParts]
      cases cs with
      | nil => simp
      | cons d cs => simp_all
    intro position
    obtain ⟨lexemes, hRead, hSays⟩ := h (position + (c :: more).length)
    refine ⟨⟨.word, String.ofList (c :: more), position⟩ :: lexemes, ?_, by simp [saying, hSays]⟩
    rw [List.cons_append, readFrom, if_neg (by simp [hBlank]), if_neg (by simp [hNote]),
      if_neg (by simp [hQuote]), if_neg (by simp [hDigit]), if_neg (by simp [hMark]),
      if_pos hStart]
    simp only [hTake, hDrop, hRead]
    rfl

/-- A quoted text in front says what was quoted. -/
theorem text (body : List Char) (h : Spells cs said) :
    Spells ('"' :: (body.flatMap escapedChar ++ '"' :: cs))
      ((.text, String.ofList body) :: said) := by
  intro position
  have hTake := takeText?_escaped body cs
  obtain ⟨lexemes, hRead, hSays⟩ := h
    (position + 1 + ((body.flatMap escapedChar ++ '"' :: cs).length - cs.length))
  refine ⟨⟨.text, String.ofList body, position⟩ :: lexemes, ?_, by simp [saying, hSays]⟩
  -- The reader matches on the text it takes, which is known.
  rw [readFrom, if_neg (by decide), if_neg (by simp [beginsNote]), if_pos (by decide)]
  split
  · rename_i hNone
    rw [hTake] at hNone
    simp at hNone
  · rename_i hSome
    rw [hTake] at hSome
    simp only [Option.some.injEq, Prod.mk.injEq] at hSome
    obtain ⟨rfl, rfl⟩ := hSome
    rw [hRead]
    rfl

end Spells
end Lexeme

open Lexeme

/-! ## Options -/

def OptionValue.saying (d : Dialect) : OptionValue → Saying
  | .text s => (.text, s)
  | .flag b => (.word, (OptionValue.flag b).render d)

def pairSayings (d : Dialect) (separator : Char) : List (String × OptionValue) → List Saying
  | [] => []
  | [(key, v)] => [(.word, key), (.mark, String.singleton separator), v.saying d]
  | (key, v) :: rest =>
    (.word, key) :: (.mark, String.singleton separator) :: v.saying d :: (.mark, ",") ::
      pairSayings d separator rest

def optionSayings (d : Dialect) (options : List (String × OptionValue)) : List Saying :=
  if d = .pytest then pairSayings d '=' options
  else (.mark, "\x7b") :: pairSayings d ':' options ++ [(.mark, "\x7d")]

/-- The names of the options are plain words. -/
def PlainKeys (options : List (String × OptionValue)) : Prop :=
  ∀ pair ∈ options, isPlainWord pair.1.toList = true

theorem toList_quoteText (s : String) :
    (quoteText s).toList = '"' :: (s.toList.flatMap escapedChar ++ ['"']) := by
  simp [quoteText, escapeText]

theorem OptionValue.isPlainWord_flag (d : Dialect) (b : Bool) :
    isPlainWord ((OptionValue.flag b).render d).toList = true := by
  unfold OptionValue.render
  by_cases hDialect : d = .pytest
  · cases b <;> simp [hDialect] <;> decide
  · cases b <;> simp [hDialect] <;> decide

/-- The value of an option is read as what it says, whatever follows that is no part of a word. -/
theorem OptionValue.spells_render (d : Dialect) (v : OptionValue) {cs : List Char}
    {said : List Saying} (hEnd : cs.head?.all fun c => !isWordPart c) (h : Spells cs said) :
    Spells ((v.render d).toList ++ cs) (v.saying d :: said) := by
  cases v with
  | text s =>
    have hText := Spells.text s.toList h
    simpa [OptionValue.render, OptionValue.saying, toList_quoteText] using hText
  | flag b =>
    have hWord := Spells.word (OptionValue.isPlainWord_flag d b) hEnd h
    rwa [String.ofList_toList] at hWord

/-- Options joined by commas, with a mark and possibly blanks between a name and its value. -/
theorem spells_pairs (d : Dialect) {separator : Char} {gap : List Char} {between : String}
    (hBetween : between.toList = separator :: gap) (hMark : isMark separator = true)
    (hPart : isWordPart separator = false) (hGap : ∀ c ∈ gap, Text.isBlank c = true)
    {options : List (String × OptionValue)} (hKeys : PlainKeys options) (hSome : options ≠ [])
    {cs : List Char} {said : List Saying} (hEnd : cs.head?.all fun c => !isWordPart c)
    (h : Spells cs said) :
    Spells ((", ".intercalate (options.map fun (key, v) => key ++ between ++ v.render d)).toList ++ cs)
      (pairSayings d separator options ++ said) := by
  -- One option in front of characters that spell what follows it.
  have one : ∀ (key : String) (v : OptionValue) {cs : List Char} {said : List Saying},
      isPlainWord key.toList = true → (cs.head?.all fun c => !isWordPart c) → Spells cs said →
      Spells ((key ++ between ++ v.render d).toList ++ cs)
        ((.word, key) :: (.mark, String.singleton separator) :: v.saying d :: said) := by
    intro key v cs said hKey hEnd h
    have hValue := OptionValue.spells_render d v hEnd h
    have hGapped : Spells (gap ++ ((v.render d).toList ++ cs)) (v.saying d :: said) := by
      clear hBetween
      induction gap with
      | nil => exact hValue
      | cons c gap ih =>
        exact Spells.blank (hGap c List.mem_cons_self)
          (ih fun d hd => hGap d (List.mem_cons_of_mem _ hd))
    have hWord : Spells (key.toList ++ separator :: (gap ++ ((v.render d).toList ++ cs))) _ :=
      Spells.word hKey (by simp [hPart]) (Spells.mark hMark hGapped)
    rw [String.ofList_toList] at hWord
    simpa [hBetween] using hWord
  induction options with
  | nil => exact absurd rfl hSome
  | cons pair rest ih =>
    obtain ⟨key, v⟩ := pair
    have hKey : isPlainWord key.toList = true := hKeys (key, v) List.mem_cons_self
    cases rest with
    | nil => simpa [pairSayings] using one key v hKey hEnd h
    | cons next rest =>
      have hRest := ih (fun pair hp => hKeys pair (List.mem_cons_of_mem _ hp)) (by simp)
      have hComma : Spells (", ".toList ++ _) _ :=
        Spells.mark (c := ',') (by decide) (Spells.blank (c := ' ') (by decide) hRest)
      -- The comma ends the value in front of it.
      have hPair := one key v hKey (by simp; decide) hComma
      simpa [pairSayings] using hPair

/-! ## Calls -/

namespace Query

/-- What the call says that asks the query. -/
def sayings (q : Query) (d : Dialect) : List Saying :=
  (.word, q.method d) :: (.mark, "(") :: (.text, q.value) ::
    ((if q.options.isEmpty then [] else (.mark, ",") :: optionSayings d q.options) ++
      [(.mark, ")")])

/-- Every method is a plain word in every dialect. -/
theorem isPlainWord_method (q : Query) (d : Dialect) :
    isPlainWord (q.method d).toList = true := by
  unfold method
  split <;> cases q.strategy <;> decide

theorem plainKeys_options (q : Query) : PlainKeys q.options := by
  obtain ⟨strategy, value, name?, exact, scope⟩ := q
  -- Only two names of options are ever written.
  have hExact : PlainKeys (if exact then [("exact", OptionValue.flag true)] else []) := by
    intro pair hPair
    cases exact with
    | false => simp at hPair
    | true =>
      rw [if_pos rfl, List.mem_singleton] at hPair
      rw [hPair]
      decide
  have hName (name : String) :
      PlainKeys (("name", .text name) :: if exact then [("exact", OptionValue.flag true)] else []) := by
    intro pair hPair
    rcases List.mem_cons.1 hPair with rfl | hPair
    · have hPlain : isPlainWord "name".toList = true := by decide
      exact hPlain
    · exact hExact pair hPair
  have hNone : PlainKeys [] := fun _ hPair => absurd hPair List.not_mem_nil
  cases strategy with
  | testId | path | role => exact hNone
  | label | placeholder | altText | title | text => cases name? <;> exact hExact
  | roleName =>
    cases name? with
    | none => exact hExact
    | some name => exact hName name

/-- Options are read as what they say. -/
theorem spells_renderOptions (d : Dialect) {options : List (String × OptionValue)}
    (hKeys : PlainKeys options) (hSome : options ≠ []) {cs : List Char} {said : List Saying}
    (hEnd : cs.head?.all fun c => !isWordPart c) (h : Spells cs said) :
    Spells ((renderOptions d options).toList ++ cs) (optionSayings d options ++ said) := by
  unfold renderOptions optionSayings
  by_cases hDialect : d = .pytest
  · rw [if_pos hDialect, if_pos hDialect]
    have hSign : "=".toList = '=' :: [] := by decide
    exact spells_pairs d hSign (by decide) (by decide) (by simp) hKeys hSome hEnd h
  · rw [if_neg hDialect, if_neg hDialect]
    have hClose : Spells (' ' :: '\x7d' :: cs) ((.mark, "\x7d") :: said) :=
      Spells.blank (by decide) (Spells.mark (by decide) h)
    have hSign : ": ".toList = ':' :: [' '] := by decide
    have hGap : ∀ c ∈ [' '], Text.isBlank c = true := by
      intro c hc
      rw [List.mem_singleton.1 hc]
      decide
    have hPairs := spells_pairs d hSign (by decide) (by decide) hGap hKeys hSome
      (by simp; decide) hClose
    have hOpen : Spells ('\x7b' :: ' ' :: _) _ :=
      Spells.mark (c := '\x7b') (by decide) (Spells.blank (c := ' ') (by decide) hPairs)
    simpa using hOpen

/-- A call is read as what it says. -/
theorem spells_render (q : Query) (d : Dialect) {cs : List Char} {said : List Saying}
    (h : Spells cs said) : Spells ((q.render d).toList ++ cs) (q.sayings d ++ said) := by
  -- From the end of the call to its beginning, as each part stands in front of what follows it.
  have hClose : Spells (')' :: cs) ((.mark, ")") :: said) := Spells.mark (by decide) h
  have hOptions :
      Spells ((if q.options.isEmpty then "" else ", " ++ renderOptions d q.options).toList ++ ')' :: cs)
        ((if q.options.isEmpty then [] else (.mark, ",") :: optionSayings d q.options) ++
          (.mark, ")") :: said) := by
    by_cases hEmpty : q.options.isEmpty = true
    · simpa [hEmpty] using hClose
    · have hSome : q.options ≠ [] := by simpa using hEmpty
      have hWritten := spells_renderOptions d (plainKeys_options q) hSome (by simp; decide) hClose
      have hComma : Spells (',' :: ' ' :: _) _ :=
        Spells.mark (c := ',') (by decide) (Spells.blank (c := ' ') (by decide) hWritten)
      simpa [hEmpty] using hComma
  have hValue := Spells.text q.value.toList hOptions
  have hMethod : Spells (_ ++ '(' :: _) _ :=
    Spells.word (isPlainWord_method q d) (by simp; decide) (Spells.mark (by decide) hValue)
  simpa [render, sayings, toList_quoteText] using hMethod

end Query

/-! ## Chains of calls -/

theorem intercalate_cons_eq_flatMap {α : Type} (separator x : List α) (xs : List (List α)) :
    separator.intercalate (x :: xs) = x ++ xs.flatMap (separator ++ ·) := by
  induction xs generalizing x with
  | nil => simp
  | cons y ys ih => simp [List.intercalate_cons_cons, ih]

/-- Calls after points. -/
theorem spells_calls (d : Dialect) (queries : List Query) {cs : List Char} {said : List Saying}
    (h : Spells cs said) :
    Spells ((queries.flatMap fun q => '.' :: (q.render d).toList) ++ cs)
      ((queries.flatMap fun q => (.mark, ".") :: q.sayings d) ++ said) := by
  induction queries with
  | nil => exact h
  | cons q queries ih =>
    have hCall : Spells ('.' :: _) _ := Spells.mark (c := '.') (by decide) (q.spells_render d ih)
    simpa using hCall

/-- A locator is `page` and its calls with points. -/
theorem Locator.toList_render (l : Locator) (d : Dialect) :
    (l.render d).toList = "page".toList ++ l.queries.flatMap fun q => '.' :: (q.render d).toList := by
  rw [Locator.render, String.toList_intercalate, List.map_cons, intercalate_cons_eq_flatMap]
  simp [List.flatMap_map]

/-- A locator is read as its receiver and its calls, whatever comment follows. -/
theorem Locator.spells_render (l : Locator) (d : Dialect) {cs : List Char} (h : Spells cs []) :
    Spells ((l.render d).toList ++ cs)
      ((.word, "page") :: l.queries.flatMap fun q => (.mark, ".") :: q.sayings d) := by
  have hCalls := spells_calls d l.queries h
  rw [List.append_nil] at hCalls
  have hPage : Spells ("page".toList ++ _) _ :=
    Spells.word (by decide) (by simp [Locator.queries]; decide) hCalls
  rw [Locator.toList_render, List.append_assoc]
  exact hPage

/-- What follows a locator for a severity: nothing, or a blank and a comment that ends in a point. -/
theorem annotate_spells_nothing (text : String) (severity : Severity) (d : Dialect) :
    ∃ tail : List Char, (annotate text severity d).toList = text.toList ++ tail ∧ Spells tail [] ∧
      (tail = [] ∨ tail.getLast? = some '.') := by
  -- In either dialect the sign of a comment is known by its first two characters at most.
  have hSign : ∃ c cs, d.commentSign.toList = c :: cs ∧ Text.isBlank c = false ∧
      ∀ more, beginsNote (c :: cs ++ more) = true := by
    unfold Dialect.commentSign
    by_cases hDialect : d = .pytest
    · rw [if_pos hDialect]
      exact ⟨'#', [], rfl, rfl, fun _ => rfl⟩
    · rw [if_neg hDialect]
      exact ⟨'/', ['/'], rfl, rfl, fun _ => rfl⟩
  obtain ⟨c, cs, hSign, hBlank, hNote⟩ := hSign
  cases hComment : severity.comment? with
  | none => exact ⟨[], by simp [annotate, hComment], Spells.nil, .inl rfl⟩
  | some comment =>
    refine ⟨' ' :: (c :: cs ++ ' ' :: comment.toList), ?_, ?_, .inr ?_⟩
    · simp [annotate, hComment, hSign]
    · exact Spells.blank (by decide) (Spells.note hBlank (hNote _))
    · have hPoint : comment.toList.getLast? = some '.' := by
        cases severity with
        | none => simp [Severity.comment?] at hComment
        | warning | critical =>
          rw [Severity.comment?, Option.some.injEq] at hComment
          rw [← hComment]
          decide
      rw [List.getLast?_cons, List.getLast?_append, List.getLast?_cons, hPoint]
      rfl

end StableLocator
