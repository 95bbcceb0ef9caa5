/-!
# White space

* `isBlank` is white space of any script, `isMarkupBlank` the five ASCII characters that markup and
  selectors know as white space.
* `words` splits at white space, `collapse` joins the words again with single spaces.
* `collapse_collapse`: a collapsed text is a fixed point of `collapse`.
-/

namespace StableLocator
namespace Text

/-- White space of any script. -/
def isBlank (c : Char) : Bool :=
  let n := c.toNat
  (9 ≤ n && n ≤ 13) || (0x1C ≤ n && n ≤ 0x20) || n == 0x85 || n == 0xA0 || n == 0x1680 ||
    (0x2000 ≤ n && n ≤ 0x200A) || n == 0x2028 || n == 0x2029 || n == 0x202F || n == 0x205F ||
    n == 0x3000

/-- Space, tab, line feed, form feed and carriage return. -/
def isMarkupBlank (c : Char) : Bool :=
  c == ' ' || c == '\t' || c == '\n' || c == '\x0c' || c == '\r'

/-! ## Trimming -/

def trimStart (cs : List Char) : List Char := cs.dropWhile isBlank

def trimEnd (cs : List Char) : List Char := (cs.reverse.dropWhile isBlank).reverse

def trimBoth (cs : List Char) : List Char := trimEnd (trimStart cs)

def trim (s : String) : String := String.ofList (trimBoth s.toList)

/-! ## Words -/

def startsWord (cs : List Char) : Bool := cs.head?.any fun c => !isBlank c

/-- A character put before the first word. -/
def joinFirst (c : Char) : List (List Char) → List (List Char)
  | [] => [[c]]
  | word :: rest => (c :: word) :: rest

/-- The longest runs of characters that are not blank. -/
def words : List Char → List (List Char)
  | [] => []
  | c :: rest =>
    if isBlank c then words rest
    else if startsWord rest then joinFirst c (words rest)
    else [c] :: words rest

def joinWords : List (List Char) → List Char
  | [] => []
  | [word] => word
  | word :: rest => word ++ ' ' :: joinWords rest

def IsWord (word : List Char) : Prop := word ≠ [] ∧ ∀ c ∈ word, isBlank c = false

/-- A blank in front begins no word. -/
theorem words_cons_blank {c : Char} (h : isBlank c = true) (cs : List Char) :
    words (c :: cs) = words cs := by
  simp [words, h]

/-- A word in front of no word is the first word. -/
theorem words_append_of_isWord {word rest : List Char} (hw : IsWord word)
    (hr : startsWord rest = false) : words (word ++ rest) = word :: words rest := by
  obtain ⟨hne, hb⟩ := hw
  induction word with
  | nil => exact absurd rfl hne
  | cons c word ih =>
    have hc : isBlank c = false := hb c (by simp)
    cases word with
    | nil => simp [words, hc, hr]
    | cons d word =>
      have hd : isBlank d = false := hb d (by simp)
      have hs : startsWord (d :: word ++ rest) = true := by simp [startsWord, hd]
      have := ih (by simp) (fun x hx => hb x (List.mem_cons_of_mem _ hx))
      rw [List.cons_append, words, if_neg (by simp [hc]), if_pos hs, this]
      rfl

/-- The words of a list are words. -/
theorem isWord_of_mem_words {cs word : List Char} (h : word ∈ words cs) : IsWord word := by
  induction cs generalizing word with
  | nil => simp [words] at h
  | cons c cs ih =>
    rw [words] at h
    by_cases hc : isBlank c = true
    · rw [if_pos hc] at h
      exact ih h
    · rw [if_neg hc] at h
      have single : IsWord [c] := ⟨by simp, by simpa using hc⟩
      split at h
      · cases hw : words cs with
        | nil =>
          rw [hw, joinFirst, List.mem_singleton] at h
          exact h ▸ single
        | cons first rest =>
          rw [hw, joinFirst, List.mem_cons] at h
          rcases h with rfl | h
          · obtain ⟨_, hb⟩ := ih (show first ∈ words cs by simp [hw])
            refine ⟨by simp, fun x hx => ?_⟩
            rcases List.mem_cons.1 hx with rfl | hx
            · simpa using hc
            · exact hb x hx
          · exact ih (by simp [hw, h])
      · rcases List.mem_cons.1 h with rfl | h
        · exact single
        · exact ih h

/-- Joined words are read back. -/
theorem words_joinWords {ws : List (List Char)} (h : ∀ word ∈ ws, IsWord word) :
    words (joinWords ws) = ws := by
  induction ws with
  | nil => rfl
  | cons word rest ih =>
    have hw := h word (by simp)
    cases rest with
    | nil =>
      have := words_append_of_isWord hw (show startsWord [] = false from rfl)
      simpa [joinWords, words] using this
    | cons next rest =>
      have hrest := ih fun x hx => h x (List.mem_cons_of_mem _ hx)
      have hspace : isBlank ' ' = true := by decide
      rw [joinWords, words_append_of_isWord hw (by simp [startsWord, hspace]),
        words_cons_blank hspace, hrest]
      simp

/-! ## Collapsing -/

def splitWords (s : String) : List String := (words s.toList).map String.ofList

/-- A text with every run of white space written as one space and none at the ends. -/
def collapse (s : String) : String := String.ofList (joinWords (words s.toList))

/-- Collapsing keeps the words. -/
theorem words_collapse (s : String) : words (collapse s).toList = words s.toList := by
  rw [collapse, String.toList_ofList]
  exact words_joinWords fun _ h => isWord_of_mem_words h

/-- Collapsing twice is collapsing once. -/
theorem collapse_collapse (s : String) : collapse (collapse s) = collapse s := by
  rw [collapse, words_collapse]
  rfl

/-! ## Cutting and searching -/

/-- The first `limit` characters; a negative limit takes as many away from the end. -/
def cut (limit : Int) (s : String) : String :=
  if 0 ≤ limit then String.ofList (s.toList.take limit.toNat)
  else String.ofList (s.toList.take (s.length - (-limit).toNat))

/-- The needle occurs in the list as one run. -/
def occursIn (needle : List Char) : List Char → Bool
  | [] => needle.isEmpty
  | c :: rest => needle.isPrefixOf (c :: rest) || occursIn needle rest

/-- A list occurs in another just if it stands between two parts of it. -/
theorem occursIn_iff {needle hay : List Char} :
    occursIn needle hay = true ↔ ∃ before after, hay = before ++ needle ++ after := by
  induction hay with
  | nil =>
    cases needle with
    | nil => simp [occursIn]
    | cons c needle => simp [occursIn]
  | cons c rest ih =>
    rw [occursIn, Bool.or_eq_true, List.isPrefixOf_iff_prefix, ih]
    constructor
    · rintro (⟨after, h⟩ | ⟨before, after, h⟩)
      · exact ⟨[], after, by simpa using h.symm⟩
      · exact ⟨c :: before, after, by simp [h]⟩
    · rintro ⟨before, after, h⟩
      cases before with
      | nil => exact Or.inl ⟨after, by simpa using h.symm⟩
      | cons d before =>
        simp only [List.cons_append, List.cons.injEq] at h
        exact Or.inr ⟨before, after, h.2⟩

def occurs (needle hay : String) : Bool := occursIn needle.toList hay.toList

end Text
end StableLocator
