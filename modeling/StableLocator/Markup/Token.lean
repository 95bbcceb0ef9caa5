import StableLocator.Markup.Reference
import StableLocator.Text.Blank
import StableLocator.Text.Casing
import StableLocator.Text.Quoted

/-!
# Markup tokens

`Token.readAll` splits markup into running text, tags, comments and declarations, with character
references replaced.

Raw text, as in a script, goes on up to its end tag. An end tag whose name is only alike, with a
letter outside ASCII, is raw text as well, and raw text without an end is dropped after the last of
those.

A construct that the markup leaves unfinished is text up to its next `>`. Whether it is unfinished
depends on what follows, so reading has two phases: in the first, the reader stops at a construct
without an end; from there on, in the last phase, such a construct is text.

Every reader takes the characters from its place on. The outer readers count down `fuel`, for which
twice the number of characters is enough: each step takes a character or enters the last phase.
-/

namespace StableLocator
namespace Markup

/-- Attributes as written in a tag: the names with their texts, in order. -/
abbrev RawAttributes := List (String × String)

/-- Attributes whose texts still have their references. -/
abbrev CodedAttributes := List (String × List Char)

inductive Token
  | text (content : String)
  | openTag (tag : String) (attrs : RawAttributes) (closed : Bool)
  | closeTag (tag : String)
  | comment (content : String)
  | doctype (content : String)
  | declaration (content : String)
  | cdata (content : String)
  | instruction (content : String)
  deriving DecidableEq, Repr

inductive Rejection
  /-- A marked section without a keyword. -/
  | sectionName (start : String)
  /-- A marked section with an unknown keyword. -/
  | sectionKeyword (keyword : String)
  /-- A decimal reference with too many digits. -/
  | longNumeral (error : Number.IntegerError)
  deriving DecidableEq, Repr

def sectionMessage (reason : String) : String :=
  "The markup you provided was rejected by the parser. Trying a different parser or a different " ++
    "encoding may help.\n\nOriginal exception(s) from parser:\n AssertionError: " ++ reason

def Rejection.message : Rejection → String
  | .sectionName start => sectionMessage ("expected name token at " ++ Text.quoted start)
  | .sectionKeyword keyword =>
    sectionMessage ("unknown status keyword " ++ Text.quoted keyword ++ " in marked section")
  | .longNumeral error => error.message

/-! ## Searching -/

/-- The characters before the first one of a kind, and the characters after it. -/
def splitAtChar? (c : Char) : List Char → Option (List Char × List Char)
  | [] => none
  | d :: rest =>
    if d = c then some ([], rest) else (splitAtChar? c rest).map fun (b, a) => (d :: b, a)

/-- The characters before the first place where `close` succeeds, and what `close` leaves there. -/
def splitAt? (close : List Char → Option (List Char)) : List Char → Option (List Char × List Char)
  | [] => (close []).map fun after => ([], after)
  | c :: rest =>
    match close (c :: rest) with
    | some after => some ([], after)
    | none => (splitAt? close rest).map fun (b, a) => (c :: b, a)

/-- The characters after a given one, with white space before it. -/
def afterSpaced? (c : Char) (cs : List Char) : Option (List Char) :=
  match Text.trimStart cs with
  | d :: rest => if d = c then some rest else none
  | [] => none

/-- The end of a comment: two dashes and `>`. -/
def afterCommentEnd? : List Char → Option (List Char)
  | '-' :: '-' :: rest => afterSpaced? '>' rest
  | _ => none

/-- The end of a marked section: two brackets and `>`. -/
def afterSectionEnd? : List Char → Option (List Char)
  | ']' :: rest => afterSpaced? ']' rest >>= afterSpaced? '>'
  | _ => none

/-- The end of a conditional section: a bracket and `>`. -/
def afterConditionEnd? : List Char → Option (List Char)
  | ']' :: rest => afterSpaced? '>' rest
  | _ => none

/-! ## Tags -/

def isTagStart (c : Char) : Bool := c.isAlpha

def isTagChar (c : Char) : Bool :=
  !(Text.isMarkupBlank c || c == '/' || c == '>' || c.toNat == 0)

/-- White space and slashes, but not the slash that closes the tag. -/
def skipGap : List Char → List Char
  | [] => []
  | '/' :: '>' :: rest => '/' :: '>' :: rest
  | c :: rest => if Text.isBlank c || c == '/' then skipGap rest else c :: rest

/-- A character after which an attribute may begin. -/
def endsValue (c : Char) : Bool := c == '"' || c == '\'' || c == '/' || Text.isBlank c

def isAttrStart (c : Char) : Bool := !(Text.isBlank c || c == '/' || c == '>')

def isAttrChar (c : Char) : Bool := !(Text.isBlank c || c == '/' || c == '=' || c == '>')

def takeBare (cs : List Char) : List Char × List Char :=
  cs.span fun c => !(c == '>' || Text.isBlank c)

/-- The value of an attribute with the characters after it, when an equals sign follows.

A quote without a partner begins no value: then the value is empty if white space stands before the
quote, else it begins at the last of several equals signs, else there is none. -/
def takeValue? (cs : List Char) : Option (List Char × List Char) :=
  let (signs, rest) := (Text.trimStart cs).span (· == '=')
  if signs.isEmpty then none
  else
    let (space, rest) := rest.span Text.isBlank
    let unpaired (quote : Char) (body : List Char) : Option (List Char × List Char) :=
      match space.getLast?, signs with
      | some last, _ => some ([], last :: quote :: body)
      | none, _ :: _ :: _ => some (takeBare ('=' :: quote :: body))
      | none, _ => none
    match rest with
    | '\'' :: body => splitAtChar? '\'' body <|> unpaired '\'' body
    | '"' :: body => splitAtChar? '"' body <|> unpaired '"' body
    | _ => some (takeBare rest)

/-- The attributes from here on, and the characters after them; `before` is the character just
before. -/
def takeAttributes : (fuel : Nat) → (before : Char) → List Char → CodedAttributes × List Char
  | 0, _, cs => ([], cs)
  | _, _, [] => ([], [])
  | fuel + 1, before, c :: rest =>
    if endsValue before && isAttrStart c then
      let (more, rest) := rest.span isAttrChar
      let name := Text.lower (String.ofList (c :: more))
      let (value, after) := (takeValue? rest).getD ([], rest)
      let left := skipGap after
      let taken := (c :: more ++ rest).take (more.length + 1 + rest.length - left.length)
      let (attrs, left) := takeAttributes fuel (taken.getLast?.getD c) left
      ((name, value) :: attrs, left)
    else ([], c :: rest)

inductive Step
  /-- A construct has no end. -/
  | unfinished
  /-- Tokens, and the characters after them. -/
  | tokens (found : List Token) (rest : List Char)
  /-- A start tag after which text is raw up to the end tag. -/
  | rawTag (token : Token) (tag : String) (rest : List Char)
  /-- The markup cannot be read. -/
  | rejected (why : Rejection)

def rawTags : List String := ["script", "style"]

def decodeAttributes (attrs : CodedAttributes) : RawAttributes :=
  attrs.map fun (name, value) => (name, String.ofList (decodeAll value))

/-- A step, unless an attribute has a numeral with too many digits. -/
def checkNumerals (attrs : CodedAttributes) (step : Step) : Step :=
  match attrs.findSome? fun attr => longNumeral? attr.2 with
  | some digits => .rejected (.longNumeral (.tooLong digits))
  | none => step

/-- A start tag, given the characters after `<`. -/
def readOpenTag (cs : List Char) : Step :=
  let (tag, rest) := cs.span isTagChar
  let gapped := skipGap rest
  let before := (cs.take (cs.length - gapped.length)).getLast?.getD '<'
  let (coded, left) := takeAttributes cs.length before gapped
  let tag := Text.lower (String.ofList tag)
  let attrs := decodeAttributes coded
  match left with
  | '/' :: '>' :: after => checkNumerals coded (.tokens [.openTag tag attrs true] after)
  | '>' :: after =>
    checkNumerals coded
      (if rawTags.contains tag then .rawTag (.openTag tag attrs false) tag after
      else .tokens [.openTag tag attrs false] after)
  | [] => .unfinished
  | c :: _ =>
    if c.isAlpha || c == '=' || c == '/' then .unfinished
    else
      checkNumerals coded
        (.tokens [.text (String.ofList ('<' :: cs.take (cs.length - left.length)))] left)

def isPlainTagChar (c : Char) : Bool :=
  c.isAlphanum || c == '-' || c == '.' || c == ':' || c == '_'

/-- A plain end tag, given the characters after `</`: a name with white space around it. -/
def plainCloseTag? (cs : List Char) : Option (String × List Char) :=
  match Text.trimStart cs with
  | c :: rest =>
    if c.isAlpha then
      let (more, rest) := rest.span isPlainTagChar
      (afterSpaced? '>' rest).map fun after => (Text.lower (String.ofList (c :: more)), after)
    else none
  | [] => none

def readCloseTag (cs : List Char) : Step :=
  match splitAtChar? '>' cs with
  | none => .unfinished
  | some (inner, after) =>
    match plainCloseTag? cs with
    | some (tag, rest) => .tokens [.closeTag tag] rest
    | none =>
      match cs with
      | [] => .unfinished
      | c :: _ =>
        if isTagStart c then
          .tokens [.closeTag (Text.lower (String.ofList (cs.takeWhile isTagChar)))] after
        else if c = '>' then .tokens [] after
        else .tokens [.comment (String.ofList inner)] after

/-! ## Declarations -/

def isKeywordChar (c : Char) : Bool := c.isAlphanum || c == '-' || c == '_' || c == '.'

/-- A section with a keyword, as character data or as a declaration. -/
def sectionToken (content : List Char) : Token :=
  if Text.alikeAll (content.take 6) "cdata[".toList then .cdata (String.ofList (content.drop 6))
  else .declaration (String.ofList content)

/-- A marked section, given the characters after `<![`. -/
def readSection (cs : List Char) : Step :=
  match cs with
  | [] => .unfinished
  | c :: rest =>
    if !c.isAlpha then .rejected (.sectionName (String.ofList (("<![".toList ++ cs).take 20)))
    else
      let more := rest.takeWhile isKeywordChar
      let written := c :: more
      let keyword := Text.lower (String.ofList written)
      let after := rest.drop more.length
      let close := if ["temp", "cdata", "ignore", "include", "rcdata"].contains keyword then
          some afterSectionEnd?
        else if ["if", "else", "endif"].contains keyword then some afterConditionEnd?
        else none
      if (Text.trimStart after).isEmpty then .unfinished
      else
        match close with
        | none =>
          let blanks := after.takeWhile Text.isBlank
          .rejected (.sectionKeyword (String.ofList (written ++ blanks)))
        | some close =>
          match splitAt? close cs with
          | some (content, rest) => .tokens [sectionToken content] rest
          | none => .unfinished

def readDeclaration (cs : List Char) : Step :=
  match cs with
  | '-' :: '-' :: rest =>
    match splitAt? afterCommentEnd? rest with
    | some (content, after) => .tokens [.comment (String.ofList content)] after
    | none => .unfinished
  | '[' :: rest => readSection rest
  | _ =>
    if Text.lowerAscii (String.ofList (cs.take 7)) = "doctype" then
      match splitAtChar? '>' (cs.drop 7) with
      | some (content, after) => .tokens [.doctype (String.ofList (content.drop 1))] after
      | none => .unfinished
    else
      match splitAtChar? '>' cs with
      | some (content, after) => .tokens [.comment (String.ofList content)] after
      | none => .unfinished

/-- The construct at `<`, given the characters after it. -/
def readConstruct : List Char → Step
  | [] => .unfinished
  | '/' :: rest => readCloseTag rest
  | '!' :: rest => readDeclaration rest
  | '?' :: rest =>
    match splitAtChar? '>' rest with
    | some (content, after) => .tokens [.instruction (String.ofList content)] after
    | none => .unfinished
  | c :: rest =>
    if isTagStart c then readOpenTag (c :: rest) else .tokens [.text "<"] (c :: rest)

/-- The length of the text that an unfinished construct is, given the characters after its `<`. -/
def unfinishedLength (cs : List Char) : Nat :=
  match splitAtChar? '>' cs with
  | some (inner, _) => inner.length + 2
  | none =>
    match splitAtChar? '<' cs with
    | some (inner, _) => inner.length + 1
    | none => 1

/-! ## References in running text -/

inductive Reference
  /-- A reference and the characters after it. -/
  | found (text : String) (rest : List Char)
  /-- Plain characters, and the characters after them. -/
  | plain (text : String) (rest : List Char)
  /-- The reader stops, after plain characters. -/
  | stop (text : String) (rest : List Char)
  /-- A decimal number has too many digits. -/
  | tooLong (digits : Nat)

def isReferenceChar (c : Char) : Bool := c.isAlphanum || c == '-' || c == '.'

/-- The name of a reference in running text with the characters after it. A name that runs to the
end of the markup is cut at its last dash or point, as some character has to follow. -/
def takeReferenceName? (cs : List Char) : Option (List Char × List Char) :=
  let (name, rest) := cs.span isReferenceChar
  if rest.isEmpty then
    let tail := name.reverse.takeWhile Char.isAlphanum
    let kept := name.take (name.length - tail.length - 1)
    if kept.isEmpty then none else some (kept, name.drop kept.length)
  else some (name, rest)

/-- The reference at `&`, given the characters after it; `last` tells the phase. -/
def readReference (last : Bool) : List Char → Reference
  | [] => .stop "" ['&']
  | '#' :: rest =>
    match takeNumber? rest with
    | some (n, after) =>
      match after with
      | [] => .stop "" ('&' :: '#' :: rest)
      | c :: _ =>
        if isHexDigit c then
          if rest.contains ';' then .stop "&#" rest else .stop "" ('&' :: '#' :: rest)
        else
          match excessDigits? rest with
          | some digits => .tooLong digits
          | none => .found (String.ofList [numericChar n]) (skipSemicolon after)
    | none => if rest.contains ';' then .stop "&#" rest else .stop "" ('&' :: '#' :: rest)
  | c :: rest =>
    if !c.isAlpha then .plain "&" (c :: rest)
    else
      match takeReferenceName? (c :: rest) with
      | some (name, after) =>
        let name := String.ofList name
        .found ((Entity.text? name).getD ("&" ++ name)) (skipSemicolon after)
      | none => if last && rest.isEmpty then .stop "" [c] else .stop "" ('&' :: c :: rest)

/-! ## All tokens -/

def textTokens (cs : List Char) : List Token :=
  if cs.isEmpty then [] else [.text (String.ofList cs)]

/-- What may end raw text: the tag's name with white space around it, where letters that are alike
count as one. -/
def afterRawEnd? (tag : String) : List Char → Option (List Char)
  | '<' :: '/' :: rest =>
    Text.afterAlike? tag.toList (Text.trimStart rest) >>= afterSpaced? '>'
  | _ => none

/-- Where reading stands: in the last phase or not, and inside which raw text. -/
structure Mode where
  last : Bool
  raw : Option String

/-- The tokens from here on. -/
def readFrom : (fuel : Nat) → Mode → List Char → Except Rejection (List Token)
  | 0, _, _ => .ok []
  | _, _, [] => .ok []
  | fuel + 1, mode, cs =>
    match mode.raw with
    | some tag =>
      match splitAt? (afterRawEnd? tag) cs with
      | some (content, rest) =>
        -- The name may be alike only; then it ends nothing.
        if (plainCloseTag? (cs.drop (content.length + 2))).isSome then
          (readFrom fuel { mode with raw := none } rest).map fun ts =>
            textTokens content ++ .closeTag tag :: ts
        else
          (readFrom fuel mode rest).map fun ts =>
            textTokens (cs.take (cs.length - rest.length)) ++ ts
      -- Raw text without an end is dropped.
      | none => .ok []
    | none =>
      let (plain, rest) := cs.span fun c => c != '<' && c != '&'
      let found (ts : List Token) (rest : List Char) : Except Rejection (List Token) :=
        (readFrom fuel mode rest).map fun more => textTokens plain ++ ts ++ more
      match rest with
      | [] => .ok (textTokens plain)
      | '<' :: after =>
        match readConstruct after with
        | .tokens ts rest => found ts rest
        | .rawTag token tag rest =>
          (readFrom fuel { mode with raw := some tag } rest).map fun more =>
            textTokens plain ++ token :: more
        | .rejected why => .error why
        | .unfinished =>
          -- The construct is read once more in the last phase, where it is text.
          if !mode.last then
            (readFrom fuel { mode with last := true } rest).map fun more =>
              textTokens plain ++ more
          else
            let length := unfinishedLength after
            found (textTokens (rest.take length)) (rest.drop length)
      | _ :: after =>
        match readReference mode.last after with
        | .found text rest => found [.text text] rest
        | .plain text rest => found [.text text] rest
        | .tooLong digits => .error (.longNumeral (.tooLong digits))
        | .stop text rest =>
          let before := textTokens plain ++ textTokens text.toList
          if mode.last then .ok (before ++ textTokens rest)
          else (readFrom fuel { mode with last := true } rest).map fun more => before ++ more

def Token.readAll (markup : String) : Except Rejection (List Token) :=
  let cs := markup.toList
  readFrom (2 * cs.length + 2) ⟨false, none⟩ cs

end Markup
end StableLocator
