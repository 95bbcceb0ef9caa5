import StableLocator.Proofs.Selector.Written
import StableLocator.Selector.Parser

/-!
# Selectors of parents and children

A segment says of an element its tag, some of its classes and possibly its position among the
elements of its type. Segments joined by `>` select an element by itself, its parent and so on:

* `Segment.chars` and `Segment.tokens` — a segment as it is written and as it is read;
* `Segment.seen` — a segment as a selector sees it: null characters are lost;
* `readAll?_chain` — written segments are read as their tokens, unless a position is too long;
* `matchesUp` — the segments hold along the way up from a spot;
* `formulaOf?_chain` — the tokens spell out the formula that says so;
* `select?_chain_seen` — what written segments select, and when no selector can hold them;
* `select?_chain` — the same without null characters.
-/

namespace StableLocator
namespace Selector

/-- Tag, classes and possibly the position of an element. -/
structure Segment where
  tag : String
  classes : List String
  position? : Option Nat := none
  deriving DecidableEq, Repr

namespace Segment

def classChars (classes : List String) : List Char :=
  classes.flatMap fun token => '.' :: (escapeName token).toList

def chars (s : Segment) : List Char :=
  s.tag.toList ++ (classChars s.classes ++ (s.position?.elim [] positionChars))

def tests (s : Segment) : List (Token × Formula) :=
  (.type s.tag, .type s.tag) ::
    (s.classes.map (fun token => (.token (.text token), .token token)) ++
      s.position?.elim [] fun k => [(.nth false true (.only k), .nth false true (.only k) .always)])

def tokens (s : Segment) : List Token := s.tests.map Prod.fst

/-- A segment is read as its tag, its classes and its position. -/
theorem tokens_eq (s : Segment) :
    s.tokens = .type s.tag :: (s.classes.map (fun token => .token (.text token)) ++
      s.position?.elim [] fun k => [.nth false true (.only k)]) := by
  cases hk : s.position? <;> simp [tokens, tests, hk, Function.comp_def]

def size (s : Segment) : Nat := 1 + s.classes.length + if s.position?.isSome then 1 else 0

/-- The segment as a selector sees it. -/
def seen (s : Segment) : Segment := { s with classes := s.classes.map seenText }

/-- The tag and the classes of the segment are read as a selector sees them. -/
structure Legible (s : Segment) : Prop where
  tag : IsBareName s.tag
  classes : ∀ token ∈ s.classes, token ≠ "" ∧ token ≠ "-"

/-- The tag and the classes of the segment can be written so that they are read back. -/
structure Writable (s : Segment) : Prop where
  tag : IsPlainTag s.tag
  classes : ∀ token ∈ s.classes, (∀ c ∈ token.toList, c.toNat ≠ 0) ∧ token ≠ "" ∧ token ≠ "-"

theorem Writable.legible {s : Segment} (h : s.Writable) : s.Legible where
  tag := h.tag.isBareName
  classes := fun token hToken => (h.classes token hToken).2

theorem Writable.seen_eq {s : Segment} (h : s.Writable) : s.seen = s := by
  rw [seen, List.map_congr_left fun token hToken => seenText_eq_self (h.classes token hToken).1,
    List.map_id']

/-- The position of the segment has no more digits than a number may. -/
def HasShortPosition (s : Segment) : Prop := ∀ k ∈ s.position?, FewDigits k

instance (s : Segment) : Decidable s.HasShortPosition :=
  inferInstanceAs (Decidable (∀ k ∈ s.position?, FewDigits k))

/-- The segment holds at a spot. -/
def holds (s : Segment) (x : Spot) : Prop :=
  Text.lowerAscii s.tag = x.name ∧ (∀ token ∈ s.classes, token ∈ Selector.classTokens x.attrs) ∧
    ∀ k ∈ s.position?, (counted false true x).length + 1 = k

end Segment

/-- Segments joined by the sign between a parent and a child, as they are written. -/
def chainChars : List Segment → List Char
  | [] => []
  | [s] => s.chars
  | s :: next :: rest => s.chars ++ ' ' :: '>' :: ' ' :: chainChars (next :: rest)

/-- Segments joined by the sign between a parent and a child, as they are read. -/
def chainTokens : List Segment → List Token
  | [] => []
  | [s] => s.tokens
  | s :: next :: rest => s.tokens ++ .combinator .child :: chainTokens (next :: rest)

def chainSize : List Segment → Nat
  | [] => 0
  | s :: rest => s.size + chainSize rest

/-- The first of the segments holds at a spot, the next one at its parent, and so on. -/
def matchesUp : List Segment → Spot → Prop
  | [], _ => True
  | [s], x => s.holds x
  | s :: next :: outer, x => s.holds x ∧ ∃ p, x.parent? = some p ∧ matchesUp (next :: outer) p

/-! ## Reading up to the margin -/

/-- A character is no blank of markup. -/
def hasInk (cs : List Char) : Bool := cs.any fun c => !Text.isMarkupBlank c

/-- The number of blanks at the end. -/
def blankTail (cs : List Char) : Nat := (cs.reverse.takeWhile Text.isMarkupBlank).length

theorem hasInk_cons {c : Char} (h : Text.isMarkupBlank c = false) (cs : List Char) :
    hasInk (c :: cs) = true := by
  rw [hasInk, List.any_cons, h]
  rfl

theorem length_takeWhile_lt {cs : List Char} (h : hasInk cs = true) :
    (cs.reverse.takeWhile Text.isMarkupBlank).length < cs.reverse.length := by
  obtain ⟨c, hc, hInk⟩ := List.any_eq_true.1 h
  have hPrefix := List.takeWhile_prefix Text.isMarkupBlank (l := cs.reverse)
  rcases Nat.lt_or_ge (cs.reverse.takeWhile Text.isMarkupBlank).length cs.reverse.length with h | h
  · exact h
  · have hAll : cs.reverse.takeWhile Text.isMarkupBlank = cs.reverse := hPrefix.eq_of_length_le h
    have hMem : c ∈ cs.reverse.takeWhile Text.isMarkupBlank := hAll.symm ▸ List.mem_reverse.2 hc
    have hBlank : Text.isMarkupBlank c = true := List.all_eq_true.1 List.all_takeWhile c hMem
    simp [hBlank] at hInk

/-- Blanks at the end leave something of a text with ink. -/
theorem blankTail_lt {cs : List Char} (h : hasInk cs = true) : blankTail cs < cs.length := by
  simpa [blankTail] using length_takeWhile_lt h

/-- The blanks at the end do not depend on what comes before ink. -/
theorem blankTail_append (before : List Char) {cs : List Char} (h : hasInk cs = true) :
    blankTail (before ++ cs) = blankTail cs := by
  have hShort := length_takeWhile_lt h
  rw [blankTail, List.reverse_append, List.takeWhile_append, if_neg (by omega), blankTail]

/-- Characters are read as tokens, or refused, wherever a margin begins that has no ink. -/
structure Writes (cs : List Char) (tokens? : Option (List Token)) : Prop where
  ink : cs = [] ∨ hasInk cs = true
  reads : ∀ margin, (cs ≠ [] → margin ≤ blankTail cs) → readTokens? margin cs = tokens?

theorem readTokens?_nil (margin : Nat) : readTokens? margin [] = some [] := by
  rw [readTokens?]
  exact if_pos (Nat.zero_le margin)

theorem Writes.nil : Writes [] (some []) := ⟨.inl rfl, fun margin _ => readTokens?_nil margin⟩

/-- There is no token at the start, or none that takes a character. -/
theorem Writes.refused {cs : List Char} (hInk : hasInk cs = true)
    (hRead : ∀ token rest, readToken? cs = some (token, rest) → cs.length ≤ rest.length) :
    Writes cs none := by
  refine ⟨.inr hInk, fun margin hMargin => ?_⟩
  have hSome : cs ≠ [] := by
    rintro rfl
    cases hInk
  have hTail : margin ≤ blankTail cs := hMargin hSome
  have hLong : ¬cs.length ≤ margin := by
    have := blankTail_lt hInk
    omega
  rw [readTokens?, if_neg hLong]
  cases hToken : readToken? cs with
  | none => rfl
  | some read => exact if_neg (Nat.not_lt.2 (hRead read.1 read.2 hToken))

/-- One more token in front. -/
theorem Writes.cons {piece rest : List Char} {token : Token} {tokens? : Option (List Token)}
    (hInk : hasInk piece = true) (hRead : readToken? (piece ++ rest) = some (token, rest))
    (h : Writes rest tokens?) : Writes (piece ++ rest) (tokens?.map (token :: ·)) := by
  have hAll : hasInk (piece ++ rest) = true := by
    rw [hasInk, List.any_append, Bool.or_eq_true]
    exact .inl hInk
  have hPiece : piece ≠ [] := by
    rintro rfl
    cases hInk
  refine ⟨.inr hAll, fun margin hMargin => ?_⟩
  have hTail : margin ≤ blankTail (piece ++ rest) := hMargin (by simp [hPiece])
  have hLong : ¬(piece ++ rest).length ≤ margin := by
    have := blankTail_lt hAll
    omega
  -- The margin is within what is left, since the token in front has ink.
  have hRest : readTokens? margin rest = tokens? := by
    refine h.reads margin fun hSome => ?_
    rwa [blankTail_append piece (h.ink.resolve_left hSome)] at hTail
  have hShorter : rest.length < (piece ++ rest).length := by
    rw [List.length_append]
    have := List.length_pos_iff.2 hPiece
    omega
  rw [readTokens?, if_neg hLong, hRead]
  simp only [if_pos hShorter, hRest]

/-! ## Written segments -/

namespace Segment

variable {rest : List Char} {tokens? : Option (List Token)}

/-- Classes, or what follows where there are none, end the tag. -/
theorem endsPart_classChars (classes : List String) (h : EndsPart rest) :
    EndsPart (classChars classes ++ rest) := by
  cases classes with
  | nil => exact h
  | cons token classes =>
    intro c hc
    simp only [classChars, List.flatMap_cons, List.cons_append, List.head?_cons,
      Option.mem_some] at hc
    exact .inl hc.symm

/-- Classes are read as tests of their names. -/
theorem writes_classes {classes : List String}
    (hClasses : ∀ token ∈ classes, token ≠ "" ∧ token ≠ "-") (hEnd : EndsPart rest)
    (h : Writes rest tokens?) :
    Writes (classChars classes ++ rest)
      (tokens?.map (classes.map (fun token => .token (.text (seenText token))) ++ ·)) := by
  induction classes with
  | nil =>
    simp only [List.map_nil, List.nil_append, Option.map_id']
    exact h
  | cons token classes ih =>
    obtain ⟨hSome, hDash⟩ := hClasses token List.mem_cons_self
    have hMore := ih fun token' h' => hClasses token' (List.mem_cons_of_mem _ h')
    have hRead := readToken?_class hSome hDash (endsPart_classChars classes hEnd)
    have hFirst := Writes.cons (hasInk_cons (by decide) _) hRead hMore
    simpa [classChars, Function.comp_def] using hFirst

/-- A position, or what follows where there is none, ends the classes. -/
theorem endsPart_position (position? : Option Nat) (hEnd : EndsPart rest) :
    EndsPart (position?.elim [] positionChars ++ rest) := by
  cases position? with
  | none => exact hEnd
  | some k => exact fun c hc => .inr (.inl (Option.some.inj hc).symm)

theorem hasInk_positionChars (k : Nat) (more : List Char) :
    hasInk (positionChars k ++ more) = true :=
  hasInk_cons (c := ':') (by decide) _

/-- A position is read as the count, and nothing is read of one that is too long. -/
theorem writes_position (s : Segment) (h : Writes rest tokens?) :
    Writes (s.position?.elim [] positionChars ++ rest)
      (if s.HasShortPosition then
        tokens?.map ((s.position?.elim [] fun k => [Token.nth false true (.only k)]) ++ ·)
      else none) := by
  cases hk : s.position? with
  | none =>
    have hShort : s.HasShortPosition := by simp [HasShortPosition, hk]
    simpa [hShort] using h
  | some k =>
    have hShort : s.HasShortPosition ↔ FewDigits k := by simp [HasShortPosition, hk]
    have hRead := readToken?_position k rest
    rw [Option.elim_some]
    by_cases hFew : FewDigits k
    · rw [if_pos hFew] at hRead
      have hInk := hasInk_positionChars k []
      rw [List.append_nil] at hInk
      simpa [hShort, hFew] using Writes.cons hInk hRead h
    · rw [if_neg hFew] at hRead
      have hRefused := Writes.refused (hasInk_positionChars k rest) (by simp [hRead])
      simpa [hShort, hFew] using hRefused

/-- What is read of a segment with what comes behind it: nothing, if its position is too long. -/
def reading? (s : Segment) (tokens? : Option (List Token)) : Option (List Token) :=
  if s.HasShortPosition then tokens?.map (s.tokens ++ ·) else none

/-- A segment is read if its position is short and the rest is read. -/
theorem reading?_ite (s : Segment) (p : Prop) [Decidable p] (tokens : List Token) :
    s.reading? (if p then some tokens else none) =
      if s.HasShortPosition ∧ p then some (s.tokens ++ tokens) else none := by
  by_cases hShort : s.HasShortPosition <;> by_cases hp : p <;> simp [reading?, hShort, hp]

/-- A segment is read as its tokens, in front of what goes on no part of it, unless its position is
too long. -/
theorem Legible.writes {s : Segment} (hs : s.Legible) (hEnd : EndsPart rest)
    (h : Writes rest tokens?) : Writes (s.chars ++ rest) (s.seen.reading? tokens?) := by
  -- From the end to the tag, each part in front of characters that do not go on it.
  have hPosition := endsPart_position s.position? hEnd
  have hClasses := writes_classes hs.classes hPosition (writes_position s h)
  have hBehind := endsPart_classChars s.classes hPosition
  have hRead := readToken?_type hs.tag (nameTail_of_endsPart hBehind)
    (hBehind.ne_cons (by decide))
  have hInk : hasInk s.tag.toList = true := by
    obtain ⟨c, more, hChars, hFirst, _⟩ := hs.tag
    rw [hChars]
    exact hasInk_cons (isMarkupBlank_of_isAlpha hFirst) more
  have hAll := Writes.cons hInk hRead hClasses
  rw [chars, List.append_assoc, List.append_assoc]
  by_cases hShort : s.HasShortPosition
  · have hSeen : s.seen.HasShortPosition := hShort
    rw [reading?, if_pos hSeen]
    simpa [hShort, tokens_eq, seen, Function.comp_def] using hAll
  · have hSeen : ¬s.seen.HasShortPosition := hShort
    rw [reading?, if_neg hSeen]
    simpa [hShort] using hAll

/-- The tag of the segment begins with an ASCII letter. -/
def Begins (s : Segment) : Prop := ∃ c more, s.tag.toList = c :: more ∧ c.isAlpha = true

theorem Legible.begins {s : Segment} (hs : s.Legible) : s.Begins := by
  obtain ⟨c, more, hChars, hFirst, _⟩ := hs.tag
  exact ⟨c, more, hChars, hFirst⟩

end Segment

/-- Written segments begin with an ASCII letter if the first of them does. -/
theorem head_chainChars {s : Segment} (hs : s.Begins) (rest : List Segment) :
    ∃ c more, chainChars (s :: rest) = c :: more ∧ c.isAlpha = true := by
  obtain ⟨c, more, hChars, hFirst⟩ := hs
  cases rest with
  | nil => exact ⟨c, _, by rw [chainChars, Segment.chars, hChars, List.cons_append], hFirst⟩
  | cons next rest =>
    exact ⟨c, _, by rw [chainChars, Segment.chars, hChars, List.cons_append, List.cons_append], hFirst⟩

/-- Written segments are read as their tokens, unless one of their positions is too long. -/
theorem writes_chain {segments : List Segment} (h : ∀ s ∈ segments, s.Legible) :
    Writes (chainChars segments)
      (if ∀ s ∈ segments, s.HasShortPosition then some (chainTokens (segments.map Segment.seen))
      else none) := by
  -- From the last segment outwards, as each is read with what is written behind it.
  induction segments with
  | nil =>
    rw [if_pos (by simp)]
    exact Writes.nil
  | cons s segments ih =>
    have hs : s.Legible := h s List.mem_cons_self
    have hSeen : s.seen.HasShortPosition ↔ s.HasShortPosition := Iff.rfl
    have hRest := ih fun t ht => h t (List.mem_cons_of_mem _ ht)
    simp only [List.forall_mem_cons]
    cases segments with
    | nil =>
      have hEnd : EndsPart [] := by simp [EndsPart]
      simpa [chainChars, chainTokens, Segment.reading?, hSeen] using hs.writes hEnd .nil
    | cons next segments =>
      obtain ⟨c, more, hChars, hFirst⟩ := head_chainChars (h next (by simp)).begins segments
      rw [hChars] at hRest
      have hChild : Writes ([' ', '>', ' '] ++ c :: more) _ :=
        Writes.cons (by decide) (readToken?_child hFirst more) hRest
      rw [apply_ite (Option.map _)] at hChild
      have hEnd : EndsPart ([' ', '>', ' '] ++ c :: more) := fun d hd =>
        .inr (.inr (Option.some.inj hd).symm)
      have hAll := hs.writes hEnd hChild
      rw [Option.map_some, Option.map_none, Segment.reading?_ite] at hAll
      rw [chainChars, hChars]
      exact hAll

/-! ## Whole selectors -/

/-- A character that is neither a null character nor could open a comment. -/
def IsPathChar (c : Char) : Prop := c ≠ '/' ∧ c.toNat ≠ 0

/-- The characters of a class that has neither of the two. -/
theorem isPathChar_of {p : Char → Bool} (hSlash : p '/' = false) (hNull : p (Char.ofNat 0) = false)
    {c : Char} (h : p c = true) : IsPathChar c := by
  refine ⟨?_, ?_⟩
  · rintro rfl
    rw [hSlash] at h
    cases h
  · intro hZero
    have hc : c = Char.ofNat 0 := by rw [← hZero, Char.ofNat_toNat]
    rw [hc, hNull] at h
    cases h

/-- What a character of a name is written with. -/
theorem mem_escapedNameChar {c d : Char} {begins : Bool} (h : d ∈ escapedNameChar begins c) :
    isNameChar d = true ∨ isHex d = true ∨ d = '\\' ∨ d = ' ' := by
  unfold escapedNameChar at h
  split at h
  · rename_i hPlain
    rw [List.mem_singleton.1 h]
    exact .inl (isNameChar_of_isLetterOrNumeral (Bool.and_eq_true_iff.1 hPlain).1)
  · split at h
    · rename_i hMark
      rw [List.mem_singleton.1 h]
      rcases hMark with rfl | rfl
      · exact .inl (by decide)
      · exact .inl (by decide)
    · rw [codeEscape, List.mem_cons, List.mem_append, List.mem_singleton] at h
      rcases h with rfl | h | rfl
      · exact .inr (.inr (.inl rfl))
      · exact .inr (.inl ((hexNumber_toDigits c.toNat).2 d h))
      · exact .inr (.inr (.inr rfl))

/-- What a name is written with. -/
theorem mem_escapeName {token : String} {c : Char} (h : c ∈ (escapeName token).toList) :
    isNameChar c = true ∨ isHex c = true ∨ c = '\\' ∨ c = ' ' := by
  rw [escapeName, String.toList_ofList] at h
  unfold escapeNameChars at h
  split at h
  · exact absurd h List.not_mem_nil
  · rw [List.cons_append, List.mem_cons, List.mem_append, List.mem_flatMap] at h
    rcases h with rfl | h | ⟨d, _, h⟩
    · exact .inl (by decide)
    · exact mem_escapedNameChar h
    · exact mem_escapedNameChar h
  · rw [List.mem_append, List.mem_flatMap] at h
    rcases h with h | ⟨d, _, h⟩
    · exact mem_escapedNameChar h
    · exact mem_escapedNameChar h

theorem isPathChar_escapeName {token : String} {c : Char} (h : c ∈ (escapeName token).toList) :
    IsPathChar c := by
  rcases mem_escapeName h with h | h | rfl | rfl
  · exact isPathChar_of (by decide) (by decide) h
  · exact isPathChar_of (by decide) (by decide) h
  · unfold IsPathChar
    decide
  · unfold IsPathChar
    decide

theorem isPathChar_of_mem {cs : List Char} (hcs : cs.all (fun c => c != '/' && c.toNat != 0) = true)
    {c : Char} (h : c ∈ cs) : IsPathChar c := by
  have hc := List.all_eq_true.1 hcs c h
  simpa [IsPathChar] using hc

/-- Neither a null character nor what could open a comment is written besides the tag. -/
theorem Segment.isPathChar {s : Segment} (hs : ∀ c ∈ s.tag.toList, IsPathChar c) {c : Char}
    (h : c ∈ s.chars) : IsPathChar c := by
  rw [Segment.chars, List.mem_append, List.mem_append] at h
  rcases h with h | h | h
  · exact hs c h
  · obtain ⟨token, _, h⟩ := List.mem_flatMap.1 h
    rcases List.mem_cons.1 h with rfl | h
    · have hPoint : ['.'].all (fun c => c != '/' && c.toNat != 0) = true := by decide
      exact isPathChar_of_mem hPoint List.mem_cons_self
    · exact isPathChar_escapeName h
  · cases hk : s.position? with
    | none =>
      rw [hk] at h
      exact absurd h List.not_mem_nil
    | some k =>
      rw [hk] at h
      rcases List.mem_append.1 h with h | h
      · exact isPathChar_of_mem (by decide) h
      · rcases List.mem_append.1 h with h | h
        · exact isPathChar_of (by decide) (by decide) (Number.isDigit_of_mem_toDigits h)
        · exact isPathChar_of_mem (by decide) h

theorem Segment.Legible.isPathChar {s : Segment} (hs : s.Legible) :
    ∀ c ∈ s.tag.toList, IsPathChar c :=
  fun c hc => isPathChar_of (by decide) (by decide) (hs.tag.isNameChar c hc)

/-- All characters of a written path may stand in one, if those of the tags may. -/
theorem isPathChar_of_mem_chainChars {segments : List Segment}
    (h : ∀ s ∈ segments, ∀ c ∈ s.tag.toList, IsPathChar c) {c : Char}
    (hc : c ∈ chainChars segments) : IsPathChar c := by
  induction segments with
  | nil => exact absurd hc List.not_mem_nil
  | cons s segments ih =>
    have hs := h s List.mem_cons_self
    have hRest := ih fun t ht => h t (List.mem_cons_of_mem _ ht)
    cases segments with
    | nil => exact Segment.isPathChar hs hc
    | cons next segments =>
      rw [chainChars, List.mem_append] at hc
      rcases hc with hc | hc
      · exact Segment.isPathChar hs hc
      · have hSign : c ∈ [' ', '>', ' '] ++ chainChars (next :: segments) := hc
        rcases List.mem_append.1 hSign with hc | hc
        · exact isPathChar_of_mem (by decide) hc
        · exact hRest hc

/-- Without slashes there are no comments, so that only blanks are skipped. -/
theorem skipBlanks_eq_dropWhile {cs : List Char} (h : ∀ c ∈ cs, c ≠ '/') :
    skipBlanks cs = cs.dropWhile Text.isMarkupBlank := by
  induction cs with
  | nil => rw [skipBlanks]; rfl
  | cons c cs ih =>
    rw [skipBlanks]
    · rw [ih fun d hd => h d (List.mem_cons_of_mem _ hd), List.dropWhile_cons]
    · intro _ hSlash
      exact absurd hSlash (h c List.mem_cons_self)

theorem marginLength_eq_blankTail {cs : List Char} (h : ∀ c ∈ cs, c ≠ '/') :
    marginLength cs = blankTail cs := by
  have hReverse : ∀ c ∈ cs.reverse, c ≠ '/' := fun c hc => h c (List.mem_reverse.1 hc)
  have hParts := congrArg List.length
    (List.takeWhile_append_dropWhile (p := Text.isMarkupBlank) (l := cs.reverse))
  rw [List.length_append, List.length_reverse] at hParts
  rw [marginLength, skipBlanks_eq_dropWhile hReverse, blankTail]
  omega

/-- Written segments are read from the first character to the last if none of them has a null
character or what could open a comment, and the first begins with a letter. -/
theorem readAll?_of_writes {segments : List Segment} {tokens? : Option (List Token)}
    (hPath : ∀ s ∈ segments, ∀ c ∈ s.tag.toList, IsPathChar c)
    (hFirst : ∀ s ∈ segments.head?, s.Begins) (h : Writes (chainChars segments) tokens?) :
    Token.readAll? (String.ofList (chainChars segments)) = tokens? := by
  have hSeen : (chainChars segments).map seenChar = chainChars segments := by
    have hKept : ∀ c ∈ chainChars segments, seenChar c = c := fun c hc =>
      seenChar_eq_self (isPathChar_of_mem_chainChars hPath hc).2
    exact (List.map_congr_left hKept).trans (List.map_id' _)
  have hStart : skipBlanks (chainChars segments) = chainChars segments := by
    cases segments with
    | nil => rw [chainChars, skipBlanks]
    | cons s segments =>
      obtain ⟨c, more, hChars, hAlpha⟩ := head_chainChars (hFirst s rfl) segments
      rw [hChars, skipBlanks_of_isAlpha hAlpha]
  have hMargin : marginLength (chainChars segments) = blankTail (chainChars segments) :=
    marginLength_eq_blankTail fun c hc => (isPathChar_of_mem_chainChars hPath hc).1
  simp only [Token.readAll?, String.toList_ofList, hSeen, hStart, hMargin]
  exact h.reads _ fun _ => Nat.le_refl _

/-- Segments that are written as a selector are read as their tokens, unless one of their positions is
too long. -/
theorem readAll?_chain {segments : List Segment} (h : ∀ s ∈ segments, s.Legible) :
    Token.readAll? (String.ofList (chainChars segments)) =
      if ∀ s ∈ segments, s.HasShortPosition then some (chainTokens (segments.map Segment.seen))
      else none :=
  readAll?_of_writes (fun s hs => (h s hs).isPathChar)
    (fun s hs => (h s (List.mem_of_mem_head? hs)).begins) (writes_chain h)

/-! ## Formulas -/

/-- A formula that is put in place joins the tests. -/
theorem Formula.mem_insertInto {f g : Formula} {tests : List Formula} :
    g ∈ f.insertInto tests ↔ g = f ∨ g ∈ tests := by
  have hParts := List.takeWhile_append_dropWhile (p := fun t => decide (t.rank ≤ f.rank)) (l := tests)
  rw [insertInto, List.mem_append, List.mem_cons, or_left_comm, ← List.mem_append, hParts]

theorem Formula.holds_all {fs : List Formula} {v : Vantage} {x : Spot} :
    (Formula.all fs).holds v x = true ↔ ∀ f ∈ fs, f.holds v x = true := by
  induction fs with
  | nil => simp [Formula.all, Formula.holds]
  | cons f fs ih =>
    have hCons : Formula.all (f :: fs) = .both f (Formula.all fs) := rfl
    rw [hCons, Formula.holds, Bool.and_eq_true, ih, List.forall_mem_cons]

theorem Formula.isDirect_all {fs : List Formula} (h : ∀ f ∈ fs, f.isDirect = true) :
    (Formula.all fs).isDirect = true := by
  induction fs with
  | nil => rfl
  | cons f fs ih =>
    have hCons : Formula.all (f :: fs) = .both f (Formula.all fs) := rfl
    rw [hCons, Formula.isDirect, h f List.mem_cons_self,
      ih fun g hg => h g (List.mem_cons_of_mem _ hg)]
    rfl

/-- Tokens that are tests leave a group with these tests besides its own. -/
theorem foldlM_tests {tests : List (Token × Formula)}
    (h : ∀ test ∈ tests, ∀ g : Group, stepGroups [g] test.1 = some [g.test test.2]) (g : Group) :
    ∃ inner, (tests.map Prod.fst).foldlM stepGroups [g] = some [{ g with tests := inner }] ∧
      ∀ f, f ∈ inner ↔ f ∈ g.tests ∨ f ∈ tests.map Prod.snd := by
  induction tests generalizing g with
  | nil => exact ⟨g.tests, rfl, fun f => by simp⟩
  | cons test tests ih =>
    obtain ⟨inner, hFold, hMem⟩ := ih (fun t ht => h t (List.mem_cons_of_mem _ ht)) (g.test test.2)
    refine ⟨inner, ?_, fun f => ?_⟩
    · rw [List.map_cons, List.foldlM_cons, h test List.mem_cons_self g]
      exact hFold
    · rw [hMem, Group.test, Formula.mem_insertInto, List.map_cons, List.mem_cons]
      tauto

namespace Segment

def formulas (s : Segment) : List Formula := s.tests.map Prod.snd

/-- Behind the tag there are tests of classes and at most one of the position. -/
theorem mem_tests_tail {s : Segment} {test : Token × Formula} (h : test ∈ s.tests.tail) :
    (∃ token ∈ s.classes, test = (.token (.text token), .token token)) ∨
      ∃ k ∈ s.position?, test = (.nth false true (.only k), .nth false true (.only k) .always) := by
  rcases List.mem_append.1 h with h | h
  · obtain ⟨token, hToken, rfl⟩ := List.mem_map.1 h
    exact .inl ⟨token, hToken, rfl⟩
  · cases hk : s.position? with
    | none =>
      rw [hk] at h
      exact absurd h List.not_mem_nil
    | some k =>
      rw [hk] at h
      exact .inr ⟨k, rfl, List.mem_singleton.1 h⟩

/-- The tokens of a segment put its formulas into a group without tests. -/
theorem foldlM_tokens (s : Segment) {g : Group} (hg : g.tests = []) :
    ∃ inner, s.tokens.foldlM stepGroups [g] = some [{ g with tests := inner }] ∧
      ∀ f, f ∈ inner ↔ f ∈ s.formulas := by
  -- A type may only come first in a group, hence the group without tests.
  have hType : stepGroups [g] (.type s.tag) = some [g.test (.type s.tag)] := by
    simp [stepGroups, testInner, Group.started, hg]
  have hRest : ∀ test ∈ s.tests.tail, ∀ g : Group, stepGroups [g] test.1 = some [g.test test.2] := by
    intro test hTest g
    rcases mem_tests_tail hTest with ⟨token, _, rfl⟩ | ⟨k, _, rfl⟩
    · rfl
    · rfl
  obtain ⟨inner, hFold, hMem⟩ := foldlM_tests hRest (g.test (.type s.tag))
  refine ⟨inner, ?_, fun f => ?_⟩
  · have hTokens : s.tokens = .type s.tag :: s.tests.tail.map Prod.fst := rfl
    rw [hTokens, List.foldlM_cons, hType]
    exact hFold
  · have hFormulas : s.formulas = .type s.tag :: s.tests.tail.map Prod.snd := rfl
    rw [hMem, Group.test, Formula.mem_insertInto, hg, hFormulas, List.mem_cons]
    simp

/-- The formulas of a segment ask nothing about rows. -/
theorem isDirect_of_mem_formulas {s : Segment} {f : Formula} (h : f ∈ s.formulas) :
    f.isDirect = true := by
  obtain ⟨test, hTest, rfl⟩ := List.mem_map.1 h
  rcases List.mem_cons.1 hTest with rfl | hTest
  · rfl
  · rcases mem_tests_tail hTest with ⟨token, _, rfl⟩ | ⟨k, _, rfl⟩
    · rfl
    · rfl

/-- The position among elements of a type is one more than the number of earlier ones. -/
theorem holds_nth {k : Nat} {v : Vantage} {x : Spot} :
    (Formula.nth false true (.only k) .always).holds v x = true ↔
      (counted false true x).length + 1 = k := by
  have hAll : (counted false true x).filter (fun t => Formula.always.holds v t) =
      counted false true x := List.filter_eq_self.2 fun _ _ => rfl
  rw [Formula.holds, hAll, Progression.contains_only, Formula.holds, Bool.true_and, beq_iff_eq]
  exact Int.ofNat_inj

/-- The formulas of a segment hold where it does. -/
theorem holds_formulas {s : Segment} (hTag : s.tag ≠ "*") {v : Vantage} {x : Spot} :
    (∀ f ∈ s.formulas, f.holds v x = true) ↔ s.holds x := by
  have hSplit : s.formulas = .type s.tag :: (s.classes.map Formula.token ++
      s.position?.elim [] fun k => [.nth false true (.only k) .always]) := by
    cases hk : s.position? <;> simp [formulas, tests, hk, Function.comp_def]
  have hType : (Formula.type s.tag).holds v x = true ↔ Text.lowerAscii s.tag = x.name := by
    simp [Formula.holds, hTag]
  have hClasses : (∀ f ∈ s.classes.map Formula.token, f.holds v x = true) ↔
      ∀ token ∈ s.classes, token ∈ Selector.classTokens x.attrs := by
    simp [Formula.holds]
  have hPosition : (∀ f ∈ s.position?.elim [] (fun k => [Formula.nth false true (.only k) .always]),
      f.holds v x = true) ↔ ∀ k ∈ s.position?, (counted false true x).length + 1 = k := by
    cases hk : s.position? with
    | none => simp
    | some k => simp [holds_nth]
  rw [hSplit, List.forall_mem_cons, List.forall_mem_append, hType, hClasses, hPosition]
  rfl

end Segment

/-- Segments match on the way up if the first holds and the others match from the parent. -/
theorem matchesUp_cons {s : Segment} {outer : List Segment} {x : Spot} :
    matchesUp (s :: outer) x ↔
      s.holds x ∧ (outer = [] ∨ ∃ p, x.parent? = some p ∧ matchesUp outer p) := by
  cases outer with
  | nil => simp [matchesUp]
  | cons next outer => simp [matchesUp]

/-- The group reads an alternative of which the combinators ask for the outer segments, from the
parent on. -/
structure Group.Joins (g : Group) (outer : List Segment) : Prop where
  purpose : g.purpose = .anyOf false
  done : g.done = []
  direct : g.left.isDirect = true
  left : ∀ v x, g.left.holds v x = true ↔
    outer = [] ∨ ∃ p, x.parent? = some p ∧ matchesUp outer p

/-- The alternative that the group has read says that the segments hold along the way up. -/
structure Group.Reads (g : Group) (segments : List Segment) : Prop where
  purpose : g.purpose = .anyOf false
  done : g.done = []
  started : g.started = true
  direct : g.alternative.isDirect = true
  holds : ∀ v x, g.alternative.holds v x = true ↔ matchesUp segments x

/-- A group with combinators for the outer segments reads one more segment. -/
theorem Group.Joins.reads {g : Group} {outer : List Segment} (h : g.Joins outer) (s : Segment)
    (hTag : s.tag ≠ "*") (hTests : g.tests = []) :
    ∃ g' : Group, s.tokens.foldlM stepGroups [g] = some [g'] ∧ g'.Reads (s :: outer) := by
  obtain ⟨inner, hFold, hMem⟩ := s.foldlM_tokens hTests
  have hAlternative : ({ g with tests := inner } : Group).alternative =
      .both (Formula.all inner) g.left := by
    rw [Group.alternative, h.purpose, if_neg (by decide)]
    rfl
  refine ⟨_, hFold, ⟨h.purpose, h.done, ?_, ?_, fun v x => ?_⟩⟩
  · have hType : .type s.tag ∈ inner := (hMem _).2 List.mem_cons_self
    cases inner with
    | nil => exact absurd hType List.not_mem_nil
    | cons f inner => rfl
  · rw [hAlternative, Formula.isDirect, h.direct, Bool.and_true]
    exact Formula.isDirect_all fun f hf => Segment.isDirect_of_mem_formulas ((hMem f).1 hf)
  · have hInner : (∀ f ∈ inner, f.holds v x = true) ↔ s.holds x := by
      rw [← Segment.holds_formulas hTag (v := v)]
      exact ⟨fun hAll f hf => hAll f ((hMem f).2 hf), fun hAll f hf => hAll f ((hMem f).1 hf)⟩
    rw [hAlternative, Formula.holds, Bool.and_eq_true, Formula.holds_all, hInner, h.left v x,
      matchesUp_cons]

/-- The sign between a parent and a child turns what was read into what is asked of the parent. -/
theorem Group.Reads.joins {g : Group} {segments : List Segment} (h : g.Reads segments)
    (hSome : segments ≠ []) :
    ∃ g' : Group, stepGroups [g] (.combinator .child) = some [g'] ∧ g'.tests = [] ∧
      g'.Joins segments := by
  refine ⟨{ g with left := .look .parent g.alternative, joined := true, tests := [] }, ?_, rfl,
    ⟨h.purpose, h.done, h.direct, fun v x => ?_⟩⟩
  · simp [stepGroups, Group.combine?, h.started, h.purpose, Group.backAxis]
  · have hParent : (Formula.look .parent g.alternative).holds v x = true ↔
        ∃ p, x.parent? = some p ∧ g.alternative.holds v p = true := by
      simp [Formula.holds, Axis.spots, List.any_eq_true]
    rw [hParent]
    simp only [h.holds, hSome, false_or]

/-- A group reads a chain of segments, one after another. -/
theorem foldlM_chain {segments : List Segment} (hSome : segments ≠ [])
    (hTags : ∀ s ∈ segments, s.tag ≠ "*") {outer : List Segment} {g : Group} (h : g.Joins outer)
    (hTests : g.tests = []) :
    ∃ g' : Group, (chainTokens segments).foldlM stepGroups [g] = some [g'] ∧
      g'.Reads (segments.reverse ++ outer) := by
  induction segments generalizing outer g with
  | nil => exact absurd rfl hSome
  | cons s segments ih =>
    -- One group throughout: it reads a segment, is joined to its parent, and reads the next one.
    obtain ⟨g₁, hFold, hReads⟩ := h.reads s (hTags s List.mem_cons_self) hTests
    cases segments with
    | nil => exact ⟨g₁, hFold, hReads⟩
    | cons next segments =>
      obtain ⟨g₂, hChild, hTests₂, hJoins⟩ := hReads.joins (by simp)
      obtain ⟨g₃, hRest, hAll⟩ := ih (by simp) (fun t ht => hTags t (List.mem_cons_of_mem _ ht))
        hJoins hTests₂
      refine ⟨g₃, ?_, ?_⟩
      · rw [chainTokens, List.foldlM_append, hFold, Option.bind_eq_bind, Option.bind_some,
          List.foldlM_cons, hChild]
        exact hRest
      · simpa using hAll

/-- The tokens of a chain of segments spell out a formula that holds where the segments hold along
the way up. -/
theorem formulaOf?_chain {segments : List Segment} (hSome : segments ≠ [])
    (hTags : ∀ s ∈ segments, s.tag ≠ "*") :
    ∃ f, formulaOf? (chainTokens segments) = some f ∧ f.isDirect = true ∧
      ∀ v x, f.holds v x = true ↔ matchesUp segments.reverse x := by
  have hStart : ({ purpose := .anyOf false } : Group).Joins [] :=
    ⟨rfl, rfl, rfl, fun v x => by simp [Formula.holds]⟩
  obtain ⟨g, hFold, hReads⟩ := foldlM_chain hSome hTags hStart rfl
  rw [List.append_nil] at hReads
  refine ⟨.either g.alternative .never, ?_, ?_, fun v x => ?_⟩
  · rw [formulaOf?, hFold]
    simp [Group.finish?, hReads.started, hReads.done, Group.result, hReads.purpose, Formula.any]
  · rw [Formula.isDirect, hReads.direct]
    rfl
  · rw [Formula.holds, Bool.or_eq_true, hReads.holds]
    simp [Formula.holds]

/-! ## Size -/

theorem size_cons {t : Token} (h : t.beginsAlternative = false) (rest : List Token) :
    size (t :: rest) = t.size + size rest := by
  cases rest with
  | nil => rfl
  | cons u rest =>
    rw [size, h]
    rfl

/-- The sizes of segments add up. -/
theorem size_tokens_append (s : Segment) (rest : List Token) :
    size (s.tokens ++ rest) = s.size + size rest := by
  have hPosition : size ((s.position?.elim [] fun k => [Token.nth false true (.only k)]) ++ rest) =
      (if s.position?.isSome then 1 else 0) + size rest := by
    cases s.position? with
    | none => simp
    | some k => exact size_cons rfl rest
  have hClasses (classes : List String) (more : List Token) :
      size (classes.map (fun token => Token.token (.text token)) ++ more) =
        classes.length + size more := by
    induction classes with
    | nil => simp
    | cons token classes ih =>
      have hFirst : (Token.token (.text token)).beginsAlternative = false := rfl
      rw [List.map_cons, List.cons_append, size_cons hFirst, ih, Token.size, List.length_cons]
      omega
  have hType : (Token.type s.tag).beginsAlternative = false := rfl
  rw [Segment.tokens_eq, List.cons_append, List.append_assoc, size_cons hType, hClasses, hPosition,
    Segment.size, Token.size]
  omega

/-- The signs between the segments are no tests. -/
theorem size_chainTokens (segments : List Segment) :
    size (chainTokens segments) = chainSize segments := by
  induction segments with
  | nil => rfl
  | cons s segments ih =>
    cases segments with
    | nil =>
      have hAlone := size_tokens_append s []
      rwa [List.append_nil] at hAlone
    | cons next segments =>
      have hSign : (Token.combinator .child).beginsAlternative = false := rfl
      rw [chainTokens, size_tokens_append, size_cons hSign, ih, Token.size, Nat.zero_add]
      rfl

/-! ## Selecting -/

theorem chainSize_map_seen (segments : List Segment) :
    chainSize (segments.map Segment.seen) = chainSize segments := by
  induction segments with
  | nil => rfl
  | cons s segments ih =>
    have hSize : s.seen.size = s.size := by
      rw [Segment.size, Segment.seen, List.length_map]
      rfl
    rw [List.map_cons, chainSize, chainSize, ih, hSize]

/-- Written segments select the elements at which they hold along the way up, as a selector sees them,
and nothing if they are too many tests or one of their positions is too long. -/
theorem select?_chain_seen {segments : List Segment} (hSome : segments ≠ [])
    (h : ∀ s ∈ segments, s.Legible) (root : Spot) :
    (¬(chainSize segments ≤ sizeLimit ∧ ∀ s ∈ segments, s.HasShortPosition) →
      root.select? (String.ofList (chainChars segments)) = none) ∧
    (chainSize segments ≤ sizeLimit → (∀ s ∈ segments, s.HasShortPosition) →
      ∃ found, root.select? (String.ofList (chainChars segments)) = some found ∧
        ∀ x, x ∈ found ↔
          x ∈ root.descendants ∧ matchesUp (segments.map Segment.seen).reverse x) := by
  have hRead := readAll?_chain h
  have hSize : size (chainTokens (segments.map Segment.seen)) = chainSize segments := by
    rw [size_chainTokens, chainSize_map_seen]
  constructor
  · intro hNot
    by_cases hShort : ∀ s ∈ segments, s.HasShortPosition
    · have hLarge : sizeLimit < chainSize segments :=
        Nat.not_le.mp fun hSmall => hNot ⟨hSmall, hShort⟩
      rw [if_pos hShort] at hRead
      simp [Spot.select?, Formula.read?, hRead, hSize, hLarge]
    · rw [if_neg hShort] at hRead
      simp [Spot.select?, Formula.read?, hRead]
  · intro hSmall hShort
    rw [if_pos hShort] at hRead
    -- A star would hold at every element, but no bare name is one.
    have hTags : ∀ s ∈ segments.map Segment.seen, s.tag ≠ "*" := by
      intro s hs hStar
      obtain ⟨written, hWritten, rfl⟩ := List.mem_map.1 hs
      have hTag : written.tag = "*" := hStar
      have hName := (h written hWritten).tag.isNameChar '*' (by rw [hTag]; decide)
      revert hName
      decide
    have hSeen : segments.map Segment.seen ≠ [] := by simpa using hSome
    obtain ⟨f, hFormula, hDirect, hHolds⟩ := formulaOf?_chain hSeen hTags
    refine ⟨root.matching f, ?_, fun x => ?_⟩
    · have hFits : ¬sizeLimit < size (chainTokens (segments.map Segment.seen)) := by
        rw [hSize]
        exact Nat.not_lt.2 hSmall
      simp only [Spot.select?, Formula.read?, hRead, Option.bind_eq_bind, Option.bind_some,
        if_neg hFits, hFormula]
      exact Spot.matching?_of_isDirect hDirect root
    · rw [Spot.matching, List.mem_filter, hHolds]

/-- Written segments without null characters select the elements at which they hold along the way up,
and nothing if they are too many tests or one of their positions is too long. -/
theorem select?_chain {segments : List Segment} (hSome : segments ≠ [])
    (h : ∀ s ∈ segments, s.Writable) (root : Spot) :
    (¬(chainSize segments ≤ sizeLimit ∧ ∀ s ∈ segments, s.HasShortPosition) →
      root.select? (String.ofList (chainChars segments)) = none) ∧
    (chainSize segments ≤ sizeLimit → (∀ s ∈ segments, s.HasShortPosition) →
      ∃ found, root.select? (String.ofList (chainChars segments)) = some found ∧
        ∀ x, x ∈ found ↔ x ∈ root.descendants ∧ matchesUp segments.reverse x) := by
  have hSeen : segments.map Segment.seen = segments := by
    rw [List.map_congr_left fun s hs => (h s hs).seen_eq, List.map_id']
  have hSelect := select?_chain_seen hSome (fun s hs => (h s hs).legible) root
  rwa [hSeen] at hSelect

end Selector
end StableLocator
