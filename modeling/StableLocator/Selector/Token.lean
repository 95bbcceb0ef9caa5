import StableLocator.Number.Integer
import StableLocator.Selector.Formula
import StableLocator.Selector.Name

/-!
# Selector tokens

`Token.readAll?` splits a selector into tests, combinators and the brackets of functions. Blanks and
comments around the selector do not count; a selector that no tokens make up is refused. The blanks
and comments at the end are found from the end: a comment there goes back to the last `/*` before it.
-/

namespace StableLocator
namespace Selector

/-- What joins two tests of elements, and the comma between alternatives. -/
inductive Combinator
  | descendant
  | child
  | next
  | later
  | comma
  deriving DecidableEq, Repr

/-- A piece of a selector. An attribute test whose name or value no page can hold has no test. -/
inductive Token
  | type (name : String)
  | foreignType
  | id (value : Spelling)
  | token (name : Spelling)
  | attribute (test : Option AttrTest) (negated : Bool)
  | scope
  | state (name : String)
  | openFunction (name : String)
  | nth (fromEnd ofType : Bool) (places : Progression)
  | openNth (fromEnd : Bool) (places : Progression)
  | close
  | combinator (c : Combinator)
  deriving DecidableEq, Repr

/-! ## Blanks -/

/-- The characters after a comment, given those after its opening. -/
def afterComment? : List Char → Option (List Char)
  | [] => none
  | '*' :: '/' :: rest => some rest
  | _ :: rest => afterComment? rest

/-- A comment takes at least its closing. -/
theorem length_lt_of_afterComment? {cs rest : List Char} (h : afterComment? cs = some rest) :
    rest.length < cs.length := by
  fun_induction afterComment? cs with
  | case1 => simp at h
  | case2 =>
    simp only [Option.some.injEq] at h
    subst h
    simp only [List.length_cons]
    omega
  | case3 _ _ _ ih =>
    have := ih h
    simp only [List.length_cons]
    omega

def skipBlanks : List Char → List Char
  | [] => []
  | '/' :: '*' :: rest =>
    match h : afterComment? rest with
    | some after =>
      have := length_lt_of_afterComment? h
      skipBlanks after
    | none => '/' :: '*' :: rest
  | c :: rest => if Text.isMarkupBlank c then skipBlanks rest else c :: rest
  termination_by cs => cs.length

def skipComments : List Char → List Char
  | '/' :: '*' :: rest =>
    match h : afterComment? rest with
    | some after =>
      have := length_lt_of_afterComment? h
      skipComments after
    | none => '/' :: '*' :: rest
  | cs => cs
  termination_by cs => cs.length

/-- The characters after blanks and comments with a blank among them. -/
def afterBlanks? (cs : List Char) : Option (List Char) :=
  match skipComments cs with
  | c :: rest => if Text.isMarkupBlank c then some (skipBlanks rest) else none
  | [] => none

def combinatorOf? : Char → Option Combinator
  | ',' => some .comma
  | '>' => some .child
  | '+' => some .next
  | '~' => some .later
  | _ => none

/-- The combinator at the start, and the characters after it. Blanks and comments around a sign
belong to it; without a sign a blank is the descendant combinator. -/
def readCombinator? (cs : List Char) : Option (Combinator × List Char) :=
  let rest := skipBlanks cs
  match rest.head? >>= combinatorOf? with
  | some found => some (found, skipBlanks (rest.drop 1))
  | none => (afterBlanks? cs).map fun after => (.descendant, after)

/-! ## Tests -/

def readTypeName? : List Char → Option (Spelling × List Char)
  | '*' :: rest => some (.text "*", rest)
  | cs => readName? cs

def Token.ofType : Spelling → Token
  | .text name => .type name
  | .unheld => .foreignType

/-- A type after a bar: the bar's left side is a namespace. Only the namespace `*` holds elements
of a page. -/
def readSpacedType? (space : Spelling) : List Char → Option (Token × List Char)
  | '|' :: rest =>
    (readTypeName? rest).map fun (name, after) =>
      (if space = .text "*" then .ofType name else .foreignType, after)
  | _ => none

def readType? (cs : List Char) : Option (Token × List Char) :=
  match readTypeName? cs with
  | some (name, rest) => readSpacedType? name rest <|> some (.ofType name, rest)
  | none => readSpacedType? (.text "") cs

def readAttrName? (cs : List Char) : Option (Spelling × List Char) :=
  let afterBar : List Char → Option (Spelling × List Char)
    | '|' :: rest => readName? rest
    | _ => none
  match readTypeName? cs with
  | some (_, rest) => afterBar rest <|> readName? cs
  | none => afterBar cs

/-- A comparison sign: whether the test is negated, the comparison and the characters after it. -/
def readComparison? : List Char → Option (Bool × Comparison × List Char)
  | '=' :: rest => some (false, .equals, rest)
  | '!' :: '=' :: rest => some (true, .equals, rest)
  | '~' :: '=' :: rest => some (false, .hasWord, rest)
  | '|' :: '=' :: rest => some (false, .dashed, rest)
  | '^' :: '=' :: rest => some (false, .startsWith, rest)
  | '$' :: '=' :: rest => some (false, .endsWith, rest)
  | '*' :: '=' :: rest => some (false, .contains, rest)
  | _ => none

/-- The characters after a closing bracket, with blanks before it. -/
def afterBracket? (cs : List Char) : Option (List Char) :=
  match skipBlanks cs with
  | ']' :: rest => some rest
  | _ => none

/-- The end of an attribute test: a mark for the case, if there is one, and the bracket. The mark
`i` makes the test ignore case, `s` makes it heed case. -/
def readCaseMark? (cs : List Char) : Option (Option Bool × List Char) :=
  let marked : Option (Option Bool × List Char) :=
    match skipBlanks cs with
    | c :: rest =>
      if c = 'i' ∨ c = 'I' then (afterBracket? rest).map fun after => (some true, after)
      else if Text.alike 'i' c || Text.alike 's' c then
        (afterBracket? rest).map fun after => (some false, after)
      else none
    | [] => none
  marked <|> (afterBracket? cs).map fun after => (none, after)

/-- A test of an attribute. Without a mark the values of `type` compare in any case. -/
def attrTest? (name value : Spelling) (comparison : Comparison) (mark : Option Bool) :
    Option AttrTest := do
  let name ← name.text?
  let value ← value.text?
  pure ⟨name, comparison, value, mark.getD (Text.lowerAscii name == "type")⟩

/-- An attribute test, given the characters after its opening bracket. -/
def readAttribute? (cs : List Char) : Option (Token × List Char) := do
  let (name, rest) ← readAttrName? (skipBlanks cs)
  let compared : Option (Token × List Char) := do
    let (negated, comparison, rest) ← readComparison? (skipBlanks rest)
    let (value, rest) ← readValue? (skipBlanks rest)
    let (mark, rest) ← readCaseMark? rest
    pure (.attribute (attrTest? name value comparison mark) negated, rest)
  compared <|> (afterBracket? rest).map fun after =>
    (.attribute (attrTest? name (.text "") .present (some false)) false, after)

/-! ## Counting among siblings -/

/-- The number that ASCII digits denote, unless there are too many. -/
def numeral? (digits : List Char) : Option Nat :=
  if digits.isEmpty || Number.digitLimit < digits.length then none
  else some (Number.ofDigits (digits.map fun c => c.toNat - 48))

/-- The part of a progression after its `n`: a sign and a number, with blanks around the sign. -/
def readOffset? (cs : List Char) : Option (Int × List Char) :=
  match skipBlanks cs with
  | c :: rest =>
    if c = '+' ∨ c = '-' then
      let (digits, after) := (skipBlanks rest).span Char.isDigit
      (numeral? digits).map fun n => (Number.withSign (c == '-') n, after)
    else none
  | [] => none

/-- A progression `step * n + offset`, or a single number, and the characters after it. -/
def readProgression? (cs : List Char) : Option (Progression × List Char) :=
  let word (text : String) : Bool :=
    Text.lowerAscii (String.ofList (cs.take text.length)) == text
  if word "even" then some (⟨2, 0⟩, cs.drop 4)
  else if word "odd" then some (⟨2, 1⟩, cs.drop 3)
  else
    let (negative, body) := Number.splitSign cs
    let (digits, rest) := body.span Char.isDigit
    match rest with
    | c :: after =>
      if c = 'n' ∨ c = 'N' then do
        let step ← if digits.isEmpty then some 1 else numeral? digits
        let (offset, after) := (readOffset? after).getD (0, after)
        pure (⟨Number.withSign negative step, offset⟩, after)
      else (numeral? digits).map fun n => (.only (Number.withSign negative n), rest)
    | [] => (numeral? digits).map fun n => (.only (Number.withSign negative n), rest)

/-- The characters after the word `of` with blanks on both sides. -/
def afterOf? (cs : List Char) : Option (List Char) := do
  let spaced ← afterBlanks? cs
  if Text.lowerAscii (String.ofList (spaced.take 2)) = "of" then afterBlanks? (spaced.drop 2)
  else none

/-- The counting functions: whether they count from the end, and within one type. -/
def countingOf? : String → Option (Bool × Bool)
  | "nth-child" => some (false, false)
  | "nth-last-child" => some (true, false)
  | "nth-of-type" => some (false, true)
  | "nth-last-of-type" => some (true, true)
  | _ => none

/-- A counting function, given the characters after its opening bracket. -/
def readCounting? (fromEnd ofType : Bool) (cs : List Char) : Option (Token × List Char) := do
  let (places, rest) ← readProgression? (skipBlanks cs)
  match skipBlanks rest with
  | ')' :: after => pure (.nth fromEnd ofType places, after)
  | _ => if ofType then none else (afterOf? rest).map fun after => (.openNth fromEnd places, after)

/-- A state or a function, given the characters after its colon. -/
def readState? (cs : List Char) : Option (Token × List Char) := do
  let (written, rest) ← readName? cs
  let name ← written.text?.map Text.lowerAscii
  match rest with
  | '(' :: body =>
    match countingOf? name with
    | some (fromEnd, ofType) => readCounting? fromEnd ofType body
    | none => pure (.openFunction name, skipBlanks body)
  | _ => pure (.state name, rest)

/-! ## Tokens -/

def readToken? (cs : List Char) : Option (Token × List Char) :=
  match skipBlanks cs with
  | ')' :: rest => some (.close, rest)
  | _ =>
    match cs with
    | ':' :: rest => readState? rest
    | '&' :: rest => some (.scope, rest)
    | '#' :: rest => (readName? rest).map fun (name, after) => (.id name, after)
    | '.' :: rest => (readName? rest).map fun (name, after) => (.token name, after)
    | '[' :: rest => readAttribute? rest
    | _ =>
      readType? cs <|> (readCombinator? cs).map fun (found, after) => (.combinator found, after)

/-- The tokens from here on, of which none begins in the last `margin` characters; each takes a
character at least. -/
def readTokens? (margin : Nat) (cs : List Char) : Option (List Token) :=
  if cs.length ≤ margin then some []
  else
    match readToken? cs with
    | none => none
    | some (token, rest) =>
      if rest.length < cs.length then (readTokens? margin rest).map (token :: ·) else none
  termination_by cs.length

/-- The number of characters in the blanks and comments at the end. -/
def marginLength (cs : List Char) : Nat := cs.length - (skipBlanks cs.reverse).length

/-- A character as a selector sees it: the null character counts as U+FFFD. -/
def seenChar (c : Char) : Char := if c.toNat = 0 then Char.ofNat 0xFFFD else c

def Token.readAll? (selector : String) : Option (List Token) :=
  let cs := selector.toList.map seenChar
  -- The last token may reach into the margin, so the margin is not cut off.
  readTokens? (marginLength cs) (skipBlanks cs)

end Selector
end StableLocator
