import StableLocator.Proofs.Locator.Spelling
import StableLocator.Proofs.Outcome
import StableLocator.Proofs.Text.Blank

/-!
# Margins of locator texts

Where a locator text begins does not matter for what its lexemes say, and neither does white space
before or after it.

* `readFrom_text`, `readFrom_digits`, ... — one equation for each kind of lexeme;
* `spells_of_readFrom` — what is read from one position on is read from any other;
* `readFrom_append_margin` — white space at the end makes no difference, even after a text that is
  never closed;
* `saysAll_trim` — a text says what it says without white space at its ends.
-/

namespace StableLocator
namespace Lexeme

/-! ## Branches of the reader -/

section Branches

variable {position : Nat} {c : Char} {rest : List Char}

/-- A blank moves the position by one. -/
theorem readFrom_blank (hBlank : Text.isBlank c = true) :
    readFrom position (c :: rest) = readFrom (position + 1) rest := by
  rw [readFrom, if_pos hBlank]

variable (hInk : ¬Text.isBlank c = true)
include hInk

/-- A comment ends the lexemes. -/
theorem readFrom_note (hNote : beginsNote (c :: rest) = true) :
    readFrom position (c :: rest) = .ok [] := by
  rw [readFrom, if_neg hInk, if_pos hNote]

variable (hPlain : ¬beginsNote (c :: rest) = true)
include hPlain

/-- A quote that is never closed is a fault at its position. -/
theorem readFrom_open (hQuote : isQuote c = true) (hTake : takeText? c rest = none) :
    readFrom position (c :: rest) = .error (.openText position) := by
  rw [readFrom, if_neg hInk, if_neg hPlain, if_pos hQuote]
  split
  · rfl
  · rename_i hSome
    rw [hTake] at hSome
    cases hSome

/-- A closed text is one lexeme, and reading goes on behind its quote. -/
theorem readFrom_text (hQuote : isQuote c = true) {body left : List Char}
    (hTake : takeText? c rest = some (body, left)) :
    readFrom position (c :: rest) =
      (readFrom (position + 1 + (rest.length - left.length)) left).map
        (⟨.text, String.ofList body, position⟩ :: ·) := by
  rw [readFrom, if_neg hInk, if_neg hPlain, if_pos hQuote]
  split
  · rename_i hNone
    rw [hTake] at hNone
    cases hNone
  · rename_i hSome
    rw [hTake] at hSome
    cases hSome
    rfl

variable (hUnquoted : ¬isQuote c = true)
include hUnquoted

theorem readFrom_digits (hDigit : Text.isDigit c = true) :
    readFrom position (c :: rest) =
      (readFrom (position + (c :: rest.takeWhile Text.isDigit).length)
          (rest.dropWhile Text.isDigit)).map
        (⟨.number, String.ofList (c :: rest.takeWhile Text.isDigit), position⟩ :: ·) := by
  rw [readFrom, if_neg hInk, if_neg hPlain, if_neg hUnquoted, if_pos hDigit]

variable (hOther : ¬Text.isDigit c = true)
include hOther

theorem readFrom_mark (hMark : isMark c = true) :
    readFrom position (c :: rest) =
      (readFrom (position + 1) rest).map (⟨.mark, String.singleton c, position⟩ :: ·) := by
  rw [readFrom, if_neg hInk, if_neg hPlain, if_neg hUnquoted, if_neg hOther, if_pos hMark]

variable (hUnmarked : ¬isMark c = true)
include hUnmarked

theorem readFrom_word (hStart : isWordStart c = true) :
    readFrom position (c :: rest) =
      (readFrom (position + (c :: rest.takeWhile isWordPart).length)
          (rest.dropWhile isWordPart)).map
        (⟨.word, String.ofList (c :: rest.takeWhile isWordPart), position⟩ :: ·) := by
  rw [readFrom, if_neg hInk, if_neg hPlain, if_neg hUnquoted, if_neg hOther, if_neg hUnmarked,
    if_pos hStart]

theorem readFrom_strange (hStart : ¬isWordStart c = true) :
    readFrom position (c :: rest) = .error (.strangeCharacter c position) := by
  rw [readFrom, if_neg hInk, if_neg hPlain, if_neg hUnquoted, if_neg hOther, if_neg hUnmarked,
    if_neg hStart]

end Branches

/-! ## Positions -/

/-- Characters that are read as one lexeme, wherever they stand, and then as others. -/
theorem Spells.lexeme {cs left : List Char} {said : List Saying} {kind : LexemeKind} {value : String}
    (hRead : ∀ position, ∃ next,
      readFrom position cs = (readFrom next left).map (⟨kind, value, position⟩ :: ·))
    (h : Spells left said) : Spells cs ((kind, value) :: said) := by
  intro position
  obtain ⟨next, hNext⟩ := hRead position
  obtain ⟨lexemes, hLeft, hSays⟩ := h next
  refine ⟨⟨kind, value, position⟩ :: lexemes, ?_, by simp [saying, hSays]⟩
  rw [hNext, hLeft]
  rfl

/-- What is read from one position on is read from every other, with other positions. -/
theorem spells_of_readFrom {position : Nat} {cs : List Char} {lexemes : List Lexeme}
    (h : readFrom position cs = .ok lexemes) : Spells cs (lexemes.map saying) := by
  fun_induction readFrom position cs generalizing lexemes with
  | case1 position =>
    cases h
    exact Spells.nil
  | case2 position c rest hBlank ih => exact Spells.blank hBlank (ih h)
  | case3 position c rest hInk hNote =>
    cases h
    exact Spells.note (by simpa using hInk) hNote
  | case4 => cases h
  | case5 position c rest hInk hPlain hQuote body left hTake _ ih =>
    obtain ⟨others, hOthers, rfl⟩ := map_eq_ok.mp h
    exact .lexeme (fun _ => ⟨_, readFrom_text hInk hPlain hQuote hTake⟩) (ih hOthers)
  | case6 position c rest hInk hPlain hUnquoted hDigit =>
    rename_i ih
    obtain ⟨others, hOthers, rfl⟩ := map_eq_ok.mp h
    exact .lexeme (fun _ => ⟨_, readFrom_digits hInk hPlain hUnquoted hDigit⟩) (ih hOthers)
  | case7 position c rest hInk hPlain hUnquoted hOther hMark ih =>
    obtain ⟨others, hOthers, rfl⟩ := map_eq_ok.mp h
    exact Spells.mark hMark (ih hOthers)
  | case8 position c rest hInk hPlain hUnquoted hOther hUnmarked hStart =>
    rename_i ih
    obtain ⟨others, hOthers, rfl⟩ := map_eq_ok.mp h
    exact .lexeme (fun _ => ⟨_, readFrom_word hInk hPlain hUnquoted hOther hUnmarked hStart⟩)
      (ih hOthers)
  | case9 => cases h

/-! ## White space at the end -/

/-- White space goes on neither words nor numbers, closes no text and begins no comment. -/
theorem not_part_of_isBlank {c : Char} (h : Text.isBlank c = true) :
    Text.isDigit c = false ∧ isWordPart c = false ∧ isQuote c = false ∧ c ≠ '\\' ∧ c ≠ '/' := by
  -- The tables of digits and letters are looked up for each of these characters.
  have hAll : ∀ n ∈ Text.blankCodes,
      Text.isDigit (Char.ofNat n) = false ∧ isWordPart (Char.ofNat n) = false ∧
        isQuote (Char.ofNat n) = false ∧ Char.ofNat n ≠ '\\' ∧ Char.ofNat n ≠ '/' := by
    decide +kernel
  simpa [Char.ofNat_toNat] using hAll _ (Text.toNat_mem_blankCodes h)

/-- In a quoted text, a character that is no backslash closes it or stands for itself. -/
theorem takeText?_cons {quote c : Char} (hSlash : c ≠ '\\') (rest : List Char) :
    takeText? quote (c :: rest) =
      if c = quote then some ([], rest)
      else (takeText? quote rest).map fun (body, left) => (c :: body, left) := by
  simp [takeText?, hSlash]

/-- A comment begins with its sign, which is one character or two. -/
theorem beginsNote_cons (c : Char) (rest : List Char) :
    beginsNote (c :: rest) = (c == '#' || (c == '/' && rest.head? == some '/')) := by
  unfold beginsNote
  split
  · rename_i hHead
    simp [(List.cons.inj hHead).1]
  · rename_i hHead
    obtain ⟨rfl, rfl⟩ := List.cons.inj hHead
    rfl
  · rename_i hSign hSlashes
    have hFirst : c ≠ '#' := fun h => hSign rest (by rw [h])
    have hBoth : ¬(c = '/' ∧ rest.head? = some '/') := by
      rintro ⟨rfl, hNext⟩
      obtain ⟨more, rfl⟩ := List.head?_eq_some_iff.mp hNext
      exact hSlashes more rfl
    simpa [hFirst] using hBoth

section Margin

variable {margin : List Char} (hMargin : ∀ c ∈ margin, Text.isBlank c = true)
include hMargin

/-- A margin closes no text. -/
theorem takeText?_margin {quote : Char} (hQuote : isQuote quote = true) :
    takeText? quote margin = none := by
  induction margin with
  | nil => rfl
  | cons c margin ih =>
    obtain ⟨_, _, hOther, hSlash, _⟩ := not_part_of_isBlank (hMargin c List.mem_cons_self)
    have hNe : c ≠ quote := by
      rintro rfl
      rw [hQuote] at hOther
      cases hOther
    have hRest := ih fun d hd => hMargin d (List.mem_cons_of_mem c hd)
    rw [takeText?_cons hSlash, if_neg hNe, hRest]
    rfl

/-- A text is closed by the same quote, and white space at the end is left over with the rest. -/
theorem takeText?_append_margin {quote : Char} (hQuote : isQuote quote = true) (cs : List Char) :
    takeText? quote (cs ++ margin) =
      (takeText? quote cs).map fun (body, left) => (body, left ++ margin) := by
  fun_induction takeText? quote cs with
  | case1 => exact takeText?_margin hMargin hQuote
  | case2 =>
    -- After a backslash at the end a blank may be escaped now, but no quote follows.
    cases margin with
    | nil => rfl
    | cons c margin =>
      have hRest := takeText?_margin (fun d hd => hMargin d (List.mem_cons_of_mem c hd)) hQuote
      simp [takeText?, hRest]
  | case3 c rest ih =>
    simp only [List.cons_append, takeText?, ih, Option.map_map]
    rfl
  | case4 rest hEnd hMore =>
    rw [List.cons_append, takeText?_cons (ne_backslash hEnd hMore), if_pos rfl]
    rfl
  | case5 c rest hEnd hMore hNe ih =>
    rw [List.cons_append, takeText?_cons (ne_backslash hEnd hMore), if_neg hNe, ih, Option.map_map,
      Option.map_map]
    rfl

/-- A comment begins with two characters at most, of which none is a blank. -/
theorem beginsNote_append_margin (c : Char) (rest : List Char) :
    beginsNote (c :: (rest ++ margin)) = beginsNote (c :: rest) := by
  rw [beginsNote_cons, beginsNote_cons]
  cases rest with
  | cons d rest => rfl
  | nil =>
    cases margin with
    | nil => rfl
    | cons d margin =>
      obtain ⟨_, _, _, _, hNe⟩ := not_part_of_isBlank (hMargin d List.mem_cons_self)
      simp [hNe]

/-- Where blanks do not go on a run of characters, the run ends where it did. -/
theorem takeWhile_append_margin {p : Char → Bool}
    (hp : ∀ c, Text.isBlank c = true → p c = false) (cs : List Char) :
    (cs ++ margin).takeWhile p = cs.takeWhile p ∧
      (cs ++ margin).dropWhile p = cs.dropWhile p ++ margin := by
  induction cs with
  | nil =>
    cases margin with
    | nil => exact ⟨rfl, rfl⟩
    | cons c margin => simp [hp c (hMargin c List.mem_cons_self)]
  | cons c cs ih =>
    cases hc : p c with
    | true => simp [hc, ih]
    | false => simp [hc]

/-- A margin alone holds no lexeme. -/
theorem readFrom_margin (position : Nat) : readFrom position margin = .ok [] := by
  induction margin generalizing position with
  | nil => rw [readFrom]
  | cons c margin ih =>
    rw [readFrom_blank (hMargin c List.mem_cons_self)]
    exact ih (fun d hd => hMargin d (List.mem_cons_of_mem c hd)) _

/-- A margin at the end adds no lexeme and no fault. -/
theorem readFrom_append_margin (position : Nat) (cs : List Char) :
    readFrom position (cs ++ margin) = readFrom position cs := by
  have hNote := beginsNote_append_margin hMargin
  fun_induction readFrom position cs with
  | case1 position => exact readFrom_margin hMargin position
  | case2 position c rest hBlank ih => rw [List.cons_append, readFrom_blank hBlank, ih]
  | case3 position c rest hInk hBegins =>
    rw [List.cons_append, readFrom_note hInk (by rwa [hNote])]
  | case4 position c rest hInk hPlain hQuote hTake =>
    have hMore := takeText?_append_margin hMargin hQuote rest
    rw [hTake] at hMore
    rw [List.cons_append, readFrom_open hInk (by rwa [hNote]) hQuote hMore]
  | case5 position c rest hInk hPlain hQuote body left hTake _ ih =>
    have hMore := takeText?_append_margin hMargin hQuote rest
    rw [hTake] at hMore
    have hLength : (rest ++ margin).length - (left ++ margin).length =
        rest.length - left.length := by
      rw [List.length_append, List.length_append, Nat.add_sub_add_right]
    rw [List.cons_append, readFrom_text hInk (by rwa [hNote]) hQuote hMore, hLength, ih]
  | case6 position c rest hInk hPlain hUnquoted hDigit =>
    rename_i ih
    obtain ⟨hTake, hDrop⟩ := takeWhile_append_margin hMargin
      (fun d hd => (not_part_of_isBlank hd).1) rest
    rw [List.cons_append, readFrom_digits hInk (by rwa [hNote]) hUnquoted hDigit, hTake, hDrop, ih]
  | case7 position c rest hInk hPlain hUnquoted hOther hMark ih =>
    rw [List.cons_append, readFrom_mark hInk (by rwa [hNote]) hUnquoted hOther hMark, ih]
  | case8 position c rest hInk hPlain hUnquoted hOther hUnmarked hStart =>
    rename_i ih
    obtain ⟨hTake, hDrop⟩ := takeWhile_append_margin hMargin
      (fun d hd => (not_part_of_isBlank hd).2.1) rest
    rw [List.cons_append, readFrom_word hInk (by rwa [hNote]) hUnquoted hOther hUnmarked hStart,
      hTake, hDrop, ih]
  | case9 position c rest hInk hPlain hUnquoted hOther hUnmarked hStart =>
    rw [List.cons_append,
      readFrom_strange hInk (by rwa [hNote]) hUnquoted hOther hUnmarked hStart]

end Margin

/-! ## White space at both ends -/

section Ends

variable {cs : List Char} {said : List Saying}

/-- From which position characters are read does not matter for what they say. -/
theorem spells_iff (position : Nat) :
    Spells cs said ↔ ∃ lexemes, readFrom position cs = .ok lexemes ∧ lexemes.map saying = said := by
  constructor
  · intro h
    exact h position
  · rintro ⟨lexemes, hRead, rfl⟩
    exact spells_of_readFrom hRead

/-- A margin in front changes nothing of what is said. -/
theorem spells_margin_append {margin : List Char} (hMargin : ∀ c ∈ margin, Text.isBlank c = true) :
    Spells (margin ++ cs) said ↔ Spells cs said := by
  induction margin with
  | nil => exact Iff.rfl
  | cons c margin ih =>
    rw [← ih fun d hd => hMargin d (List.mem_cons_of_mem c hd), List.cons_append, spells_iff 0,
      spells_iff 1, readFrom_blank (hMargin c List.mem_cons_self)]

theorem spells_append_margin {margin : List Char} (hMargin : ∀ c ∈ margin, Text.isBlank c = true) :
    Spells (cs ++ margin) said ↔ Spells cs said := by
  simp only [Spells, readFrom_append_margin hMargin]

theorem spells_trimBoth (cs : List Char) :
    Spells (Text.trimBoth cs) said ↔ Spells cs said := by
  obtain ⟨before, after, hText, hBefore, hAfter⟩ := Text.exists_margins cs
  calc Spells (Text.trimBoth cs) said
      ↔ Spells (Text.trimBoth cs ++ after) said := (spells_append_margin hAfter).symm
    _ ↔ Spells (before ++ (Text.trimBoth cs ++ after)) said := (spells_margin_append hBefore).symm
    _ ↔ Spells cs said := by rw [← hText]

/-- The lexemes of the text say this. -/
def SaysAll (text : String) (said : List Saying) : Prop :=
  ∃ lexemes, readAll text = .ok lexemes ∧ lexemes.map saying = said

/-- White space at its ends has no part in what a text says. -/
theorem saysAll_trim (text : String) : SaysAll (Text.trim text) said ↔ SaysAll text said := by
  have hSpells (s : String) : SaysAll s said ↔ Spells s.toList said := (spells_iff 0).symm
  rw [hSpells, hSpells, Text.trim, String.toList_ofList]
  exact spells_trimBoth text.toList

end Ends

end Lexeme
end StableLocator
