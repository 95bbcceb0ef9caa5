import Mathlib.Data.List.TakeDrop
import StableLocator.Markup.Builder
import StableLocator.Proofs.Page.Walk
import StableLocator.Proofs.Text.Characters
import StableLocator.Selector.Formula

/-!
# Tidy pages

What a page that was read from markup can be relied on for:

* names of attributes are in lower case as far as ASCII goes;
* a class attribute holds the words of a text;
* a tag begins with an ASCII letter and has no blank and no sign that ends it.

`Page.tidy_of_read` and `Page.isTagName_of_read` follow this from the tags of the markup to the elements
of the page. On a tidy element the two views of its classes, that of the page and that of selectors,
agree.
-/

namespace StableLocator

/-! ## Attributes -/

/-- Names have no ASCII capital, and the classes are the words of a text. -/
structure Attributes.Tidy (attrs : Attributes) : Prop where
  names : ∀ attr ∈ attrs, Text.NoCapitals attr.1
  classes : ∀ attr ∈ attrs, attr.1 = "class" → ∃ text, attr.2 = .tokens (Text.splitWords text)

/-- An attribute is one that was put or one that was there. -/
theorem Attributes.mem_put {name : String} {value : AttrValue} {attrs : Attributes}
    {attr : String × AttrValue} (h : attr ∈ attrs.put name value) :
    attr = (name, value) ∨ attr ∈ attrs := by
  induction attrs with
  | nil => exact .inl (List.mem_singleton.1 h)
  | cons first rest ih =>
    obtain ⟨n, v⟩ := first
    rw [put] at h
    split at h
    · rename_i hName
      rcases List.mem_cons.1 h with rfl | h
      · exact .inl (by rw [hName])
      · exact .inr (List.mem_cons_of_mem _ h)
    · rcases List.mem_cons.1 h with rfl | h
      · exact .inr List.mem_cons_self
      · rcases ih h with rfl | h
        · exact .inl rfl
        · exact .inr (List.mem_cons_of_mem _ h)

namespace Markup

def NoCapitalNames {α : Type} (raw : List (String × α)) : Prop :=
  ∀ attr ∈ raw, Text.NoCapitals attr.1

/-- Classes are the words of their text. -/
theorem attrValue_class (tag text : String) :
    attrValue tag "class" text = .tokens (Text.splitWords text) := by
  have hTokens : tokenAttributes.contains "class" = true := by decide
  rw [attrValue, hTokens, Bool.true_or, if_pos rfl]

/-- The attributes of a tag without capitals in its names are tidy. -/
theorem tidy_attributesOf (tag : String) {raw : RawAttributes} (h : NoCapitalNames raw) :
    (attributesOf tag raw).Tidy := by
  -- Each attribute is put into tidy ones, where it may take the place of one of its name.
  have hFold : ∀ (raw : RawAttributes) (attrs : Attributes), NoCapitalNames raw → attrs.Tidy →
      (raw.foldl (fun attrs attr => attrs.put attr.1 (attrValue tag attr.1 attr.2)) attrs).Tidy := by
    intro raw
    induction raw with
    | nil => exact fun attrs _ hAttrs => hAttrs
    | cons first rest ih =>
      obtain ⟨name, text⟩ := first
      intro attrs hRaw hAttrs
      refine ih _ (fun attr ha => hRaw attr (List.mem_cons_of_mem _ ha)) ⟨?_, ?_⟩
      · intro attr ha
        rcases Attributes.mem_put ha with rfl | ha
        · exact hRaw (name, text) List.mem_cons_self
        · exact hAttrs.names attr ha
      · intro attr ha hClass
        rcases Attributes.mem_put ha with rfl | ha
        · have hName : name = "class" := hClass
          exact ⟨text, by rw [hName, attrValue_class]⟩
        · exact hAttrs.classes attr ha hClass
  exact hFold raw [] h ⟨by simp, by simp⟩

/-! ## Names of tags -/

/-- The name of a tag begins with an ASCII letter, and all its characters are those of tags. -/
structure IsTagName (tag : String) : Prop where
  begins : ∃ c more, tag.toList = c :: more ∧ isTagStart c = true
  chars : ∀ c ∈ tag.toList, isTagChar c = true

/-- The characters that end a tag stand in front of the small letters. -/
theorem isTagChar_of_le {c : Char} (h : 97 ≤ c.toNat) : isTagChar c = true := by
  have hNone : ∀ d ∈ [' ', '\t', '\n', '\x0c', '\r', '/', '>', Char.ofNat 0], c ≠ d := by
    have hFront : ∀ d ∈ [' ', '\t', '\n', '\x0c', '\r', '/', '>', Char.ofNat 0], d.toNat < 97 := by
      simp
    rintro d hd rfl
    have := hFront c hd
    omega
  have hNull : c.toNat ≠ 0 := by omega
  simp [isTagChar, Text.isMarkupBlank, hNull, hNone]

theorem IsTagName.lower {tag : String} (h : IsTagName tag) : IsTagName (Text.lower tag) where
  begins := by
    obtain ⟨c, more, hChars, hFirst⟩ := h.begins
    exact Text.lower_cons hChars hFirst
  chars := by
    intro c hc
    rcases Text.mem_lower hc with hc | hc
    · exact h.chars c hc
    · exact isTagChar_of_le hc

/-- The characters of tags behind a letter are the name of a tag. -/
theorem isTagName_takeWhile {c : Char} (hStart : isTagStart c = true) (rest : List Char) :
    IsTagName (String.ofList ((c :: rest).takeWhile isTagChar)) where
  begins := by
    have hFirst : isTagChar c = true := by
      have hAscii : c.toNat < 0x80 := by
        have := Text.isAlpha_iff.1 hStart
        omega
      exact Text.ascii_forall (p := fun c => c.isAlpha = true → isTagChar c = true) (by decide) hAscii
        hStart
    exact ⟨c, _, by rw [String.toList_ofList, List.takeWhile_cons_of_pos hFirst], hStart⟩
  chars := by
    intro d hd
    rw [String.toList_ofList] at hd
    exact List.all_eq_true.1 List.all_takeWhile d hd

/-! ## Tokens -/

/-- The tag of a start tag is the name of one, and the names in it have no ASCII capital. -/
def Token.Tidy : Token → Prop
  | .openTag tag attrs _ => IsTagName tag ∧ NoCapitalNames attrs
  | _ => True

def Step.Tidy : Step → Prop
  | .tokens found _ => ∀ t ∈ found, t.Tidy
  | .rawTag token _ _ => token.Tidy
  | _ => True

/-- Names of attributes are read in lower case. -/
theorem noCapitalNames_takeAttributes (fuel : Nat) (before : Char) (cs : List Char) :
    NoCapitalNames (takeAttributes fuel before cs).1 := by
  induction fuel generalizing before cs with
  | zero =>
    rw [takeAttributes]
    exact fun _ h => absurd h List.not_mem_nil
  | succ fuel ih =>
    cases cs with
    | nil =>
      rw [takeAttributes]
      · exact fun _ h => absurd h List.not_mem_nil
      · exact Nat.succ_ne_zero fuel
    | cons c rest =>
      rw [takeAttributes]
      split
      · intro attr h
        rcases List.mem_cons.1 h with rfl | h
        · exact Text.noCapitals_lower _
        · exact ih _ _ attr h
      · exact fun _ h => absurd h List.not_mem_nil

/-- Decoding texts leaves the names alone. -/
theorem noCapitalNames_decode {coded : CodedAttributes} (h : NoCapitalNames coded) :
    NoCapitalNames (decodeAttributes coded) := by
  intro attr hAttr
  obtain ⟨first, hFirst, rfl⟩ := List.mem_map.1 hAttr
  exact h first hFirst

/-- A step stays tidy where an attribute has a numeral with too many digits. -/
theorem tidy_checkNumerals (coded : CodedAttributes) {step : Step} (h : step.Tidy) :
    (checkNumerals coded step).Tidy := by
  unfold checkNumerals
  split
  · trivial
  · exact h

theorem tidy_singleton {token : Token} (h : token.Tidy) : ∀ t ∈ [token], t.Tidy := by
  intro t ht
  rw [List.mem_singleton.1 ht]
  exact h

/-- A start tag is read with tidy names. -/
theorem tidy_readOpenTag {c : Char} (hStart : isTagStart c = true) (rest : List Char) :
    (readOpenTag (c :: rest)).Tidy := by
  have hTag : IsTagName (Text.lower (String.ofList ((c :: rest).takeWhile isTagChar))) :=
    (isTagName_takeWhile hStart rest).lower
  have hOpen (fuel : Nat) (before : Char) (cs : List Char) (closed : Bool) :
      (Token.openTag (Text.lower (String.ofList ((c :: rest).takeWhile isTagChar)))
        (decodeAttributes (takeAttributes fuel before cs).1) closed).Tidy :=
    ⟨hTag, noCapitalNames_decode (noCapitalNames_takeAttributes fuel before cs)⟩
  unfold readOpenTag
  rw [List.span_eq_takeWhile_dropWhile]
  dsimp only
  split
  · exact tidy_checkNumerals _ (tidy_singleton (hOpen _ _ _ _))
  · refine tidy_checkNumerals _ ?_
    split
    · exact hOpen _ _ _ false
    · exact tidy_singleton (hOpen _ _ _ false)
  · trivial
  · split
    · trivial
    · exact tidy_checkNumerals _ (tidy_singleton trivial)

/-- An end tag is tidy whatever is in it. -/
theorem tidy_readCloseTag (cs : List Char) : (readCloseTag cs).Tidy := by
  unfold readCloseTag
  split
  · trivial
  · split
    · exact tidy_singleton trivial
    · split
      · trivial
      · split
        · exact tidy_singleton trivial
        · split
          · exact fun _ h => absurd h List.not_mem_nil
          · exact tidy_singleton trivial

theorem tidy_sectionToken (content : List Char) : (sectionToken content).Tidy := by
  unfold sectionToken
  split <;> trivial

theorem tidy_readSection (cs : List Char) : (readSection cs).Tidy := by
  unfold readSection
  split
  · trivial
  · split
    · trivial
    · dsimp only
      split
      · trivial
      · split
        · trivial
        · split
          · exact tidy_singleton (tidy_sectionToken _)
          · trivial

theorem tidy_readDeclaration (cs : List Char) : (readDeclaration cs).Tidy := by
  unfold readDeclaration
  split
  · split
    · exact tidy_singleton trivial
    · trivial
  · exact tidy_readSection _
  · split
    · split
      · exact tidy_singleton trivial
      · trivial
    · split
      · exact tidy_singleton trivial
      · trivial

/-- Whatever stands at `<`, its tokens are tidy. -/
theorem tidy_readConstruct (cs : List Char) : (readConstruct cs).Tidy := by
  unfold readConstruct
  split
  · trivial
  · exact tidy_readCloseTag _
  · exact tidy_readDeclaration _
  · split
    · exact tidy_singleton trivial
    · trivial
  · split
    · rename_i hStart
      exact tidy_readOpenTag hStart _
    · exact tidy_singleton trivial

theorem tidy_textTokens {t : Token} {cs : List Char} (h : t ∈ textTokens cs) : t.Tidy := by
  unfold textTokens at h
  split at h
  · exact absurd h List.not_mem_nil
  · rw [List.mem_singleton.1 h]
    trivial

theorem tidy_append {before after : List Token} (hBefore : ∀ t ∈ before, t.Tidy)
    (hAfter : ∀ t ∈ after, t.Tidy) : ∀ t ∈ before ++ after, t.Tidy := by
  intro t ht
  rcases List.mem_append.1 ht with ht | ht
  · exact hBefore t ht
  · exact hAfter t ht

/-- All tokens of markup are tidy. -/
theorem tidy_readFrom {fuel : Nat} {mode : Mode} {cs : List Char} {tokens : List Token}
    (h : readFrom fuel mode cs = .ok tokens) : ∀ t ∈ tokens, t.Tidy := by
  induction fuel generalizing mode cs tokens with
  | zero =>
    rw [readFrom, Except.ok.injEq] at h
    exact h ▸ fun _ ht => absurd ht List.not_mem_nil
  | succ fuel ih =>
    -- What is read further on is put behind tidy tokens.
    have hMore {mode : Mode} {cs : List Char} (before : List Token)
        {join : List Token → List Token} (hBefore : ∀ t ∈ before, t.Tidy)
        (hJoin : ∀ more, join more = before ++ more)
        (h : (readFrom fuel mode cs).map join = .ok tokens) : ∀ t ∈ tokens, t.Tidy := by
      cases hRead : readFrom fuel mode cs with
      | error => simp [hRead, Except.map] at h
      | ok more =>
        rw [hRead, Except.map, Except.ok.injEq, hJoin] at h
        exact h ▸ tidy_append hBefore (ih hRead)
    have hText (cs : List Char) : ∀ t ∈ textTokens cs, t.Tidy := fun _ => tidy_textTokens
    have hFree (content : String) : (Token.text content).Tidy := trivial
    have hOk {found : List Token} (hFound : ∀ t ∈ found, t.Tidy)
        (h : (.ok found : Except Rejection (List Token)) = .ok tokens) : ∀ t ∈ tokens, t.Tidy := by
      rw [Except.ok.injEq] at h
      exact h ▸ hFound
    cases cs with
    | nil => exact @hOk [] (fun _ ht => absurd ht List.not_mem_nil) h
    | cons c rest =>
      rw [readFrom] at h
      · split at h
        · -- Raw text up to its closing tag, or to the end of the markup.
          split at h
          · split at h
            · rename_i tag _ _ content _ _ _
              have hClose : (Token.closeTag tag).Tidy := trivial
              exact hMore (textTokens content ++ [.closeTag tag])
                (tidy_append (hText _) (tidy_singleton hClose)) (by simp) h
            · exact hMore (textTokens _) (hText _) (fun _ => rfl) h
          · exact hOk (fun _ ht => absurd ht List.not_mem_nil) h
        · -- Plain text, and then a construct, a reference or the end.
          generalize (c :: rest).span (fun c => c != '<' && c != '&') = parts at h
          obtain ⟨plain, left⟩ := parts
          dsimp only at h
          split at h
          · exact hOk (hText plain) h
          · split at h
            · rename_i found _ hStep
              have hFound : (Step.tokens found _).Tidy := hStep ▸ tidy_readConstruct _
              exact hMore (textTokens plain ++ found) (tidy_append (hText _) hFound)
                (fun _ => rfl) h
            · rename_i token _ _ hStep
              have hToken : (Step.rawTag token _ _).Tidy := hStep ▸ tidy_readConstruct _
              exact hMore (textTokens plain ++ [token])
                (tidy_append (hText _) (tidy_singleton hToken)) (by simp) h
            · cases h
            · split at h
              · exact hMore (textTokens plain) (hText _) (fun _ => rfl) h
              · exact hMore (textTokens plain ++ textTokens _) (tidy_append (hText _) (hText _))
                  (fun _ => rfl) h
          · split at h
            · exact hMore (textTokens plain ++ [.text _])
                (tidy_append (hText _) (tidy_singleton (hFree _))) (fun _ => rfl) h
            · exact hMore (textTokens plain ++ [.text _])
                (tidy_append (hText _) (tidy_singleton (hFree _))) (fun _ => rfl) h
            · cases h
            · split at h
              · exact hOk (tidy_append (tidy_append (hText _) (hText _)) (hText _)) h
              · exact hMore (textTokens plain ++ textTokens _) (tidy_append (hText _) (hText _))
                  (fun _ => rfl) h
      · simp

end Markup

/-! ## Trees -/

/-- All elements of the tree have the names of tags and tidy attributes. -/
inductive Node.Tidy : Node → Prop
  | text (kind : TextKind) (content : String) : Tidy (.text kind content)
  | element {tag : String} {attrs : Attributes} {children : List Node} :
      Markup.IsTagName tag → attrs.Tidy → (∀ n ∈ children, n.Tidy) →
      Tidy (.element tag attrs children)

namespace Markup.Building

/-- All that was read so far is tidy. -/
structure Tidy (b : Building) : Prop where
  elements : ∀ e ∈ b.opened, IsTagName e.tag ∧ e.attrs.Tidy
  children : ∀ e ∈ b.opened, ∀ n ∈ e.children, n.Tidy
  top : ∀ n ∈ b.top, n.Tidy

variable {b : Building}

theorem Tidy.place (hb : b.Tidy) {node : Node} (hNode : node.Tidy) : (b.place node).Tidy := by
  unfold Building.place
  split
  · refine ⟨hb.elements, hb.children, fun n hn => ?_⟩
    rcases List.mem_cons.1 hn with rfl | hn
    · exact hNode
    · exact hb.top n hn
  · rename_i e rest hOpened
    have hElements := hb.elements
    have hChildren := hb.children
    rw [hOpened] at hElements hChildren
    refine ⟨fun e' he' => ?_, fun e' he' n hn => ?_, hb.top⟩
    · rcases List.mem_cons.1 he' with rfl | he'
      · exact hElements e List.mem_cons_self
      · exact hElements e' (List.mem_cons_of_mem _ he')
    · rcases List.mem_cons.1 he' with rfl | he'
      · rcases List.mem_cons.1 hn with rfl | hn
        · exact hNode
        · exact hChildren e List.mem_cons_self n hn
      · exact hChildren e' (List.mem_cons_of_mem _ he') n hn

theorem Tidy.flush (hb : b.Tidy) : b.flush.Tidy := by
  unfold Building.flush
  split
  · exact hb
  · exact Tidy.place (b := { b with pending := [] }) ⟨hb.elements, hb.children, hb.top⟩ (.text _ _)

/-- A note brings no element. -/
theorem Tidy.note (hb : b.Tidy) (kind : TextKind) (content : String) :
    (b.note kind content).Tidy :=
  Tidy.place hb.flush (.text _ _)

/-- An element that is closed is placed with tidy children. -/
theorem Tidy.closeOne (hb : b.Tidy) : b.closeOne.Tidy := by
  unfold Building.closeOne
  split
  · exact hb
  · rename_i e rest hOpened
    have hElements := hb.elements
    have hChildren := hb.children
    rw [hOpened] at hElements hChildren
    obtain ⟨hTag, hAttrs⟩ := hElements e List.mem_cons_self
    refine Tidy.place (b := { b with opened := rest })
      ⟨fun e' he' => hElements e' (List.mem_cons_of_mem _ he'),
        fun e' he' => hChildren e' (List.mem_cons_of_mem _ he'), hb.top⟩ (.element hTag hAttrs ?_)
    exact fun n hn => hChildren e List.mem_cons_self n (List.mem_reverse.1 hn)

theorem Tidy.closeTo (hb : b.Tidy) (tag : String) (depth : Nat) : (closeTo tag depth b).Tidy := by
  induction depth generalizing b with
  | zero => exact hb
  | succ depth ih =>
    rw [Building.closeTo]
    split
    · exact hb
    · split
      · exact hb.closeOne
      · exact ih hb.closeOne

theorem Tidy.closeAll (hb : b.Tidy) (depth : Nat) : (closeAll depth b).Tidy := by
  induction depth generalizing b with
  | zero => exact hb
  | succ depth ih => exact ih hb.closeOne

/-- A tidy token keeps the tree in the making tidy. -/
theorem Tidy.add (hb : b.Tidy) {token : Token} (hToken : token.Tidy) : (b.add token).Tidy := by
  cases token with
  | text content => exact ⟨hb.elements, hb.children, hb.top⟩
  | openTag tag attrs closed =>
    have hOpen : ({ b.flush with
        opened := ⟨tag, attributesOf tag attrs, []⟩ :: b.flush.opened } : Building).Tidy := by
      have hFlush := hb.flush
      -- The new element has the attributes of the tag and no children yet.
      refine ⟨fun e he => ?_, fun e he n hn => ?_, hFlush.top⟩
      · rcases List.mem_cons.1 he with rfl | he
        · exact ⟨hToken.1, tidy_attributesOf tag hToken.2⟩
        · exact hFlush.elements e he
      · rcases List.mem_cons.1 he with rfl | he
        · exact absurd hn List.not_mem_nil
        · exact hFlush.children e he n hn
    unfold Building.add
    dsimp only
    split
    · exact hOpen.closeOne
    · split
      · -- A void element is closed at once, and its closing tag is remembered.
        exact ⟨hOpen.closeOne.elements, hOpen.closeOne.children, hOpen.closeOne.top⟩
      · exact hOpen
  | closeTag tag =>
    unfold Building.add
    dsimp only
    split
    · exact ⟨hb.elements, hb.children, hb.top⟩
    · split
      · exact hb.flush.closeTo _ _
      · exact hb.flush
  | comment content | doctype content | declaration content | cdata content
  | instruction content => exact hb.note _ _

/-- The finished nodes of a tidy tree are tidy. -/
theorem Tidy.finish (hb : b.Tidy) : ∀ n ∈ b.finish, n.Tidy :=
  fun n hn => (hb.flush.closeAll _).top n (List.mem_reverse.1 hn)

end Markup.Building

/-- Tidy tokens spell out tidy nodes. -/
theorem Markup.tidy_nodesOf {tokens : List Token} (h : ∀ t ∈ tokens, t.Tidy) :
    ∀ n ∈ nodesOf tokens, n.Tidy := by
  -- `Building.Tidy` is what each token keeps, from the empty tree on.
  have hFold : ∀ (tokens : List Token) (b : Building), (∀ t ∈ tokens, t.Tidy) → b.Tidy →
      (tokens.foldl Building.add b).Tidy := by
    intro tokens
    induction tokens with
    | nil => exact fun b _ hb => hb
    | cons t rest ih =>
      intro b ht hb
      exact ih _ (fun t' ht' => ht t' (List.mem_cons_of_mem _ ht'))
        (hb.add (ht t List.mem_cons_self))
  exact (hFold tokens {} h ⟨by simp, by simp, by simp⟩).finish

/-! ## Pages -/

/-- All elements of the page have tidy attributes. -/
def Page.Tidy (page : Page) : Prop := ∀ s ∈ page.elements, s.attrs.Tidy

/-- The elements below a spot with tidy nodes are tidy. -/
theorem Spot.tidy_of_below {s t : Spot} (h : ∀ n ∈ s.nodes, n.Tidy) (ht : Below s t) :
    (Markup.IsTagName t.tag ∧ t.attrs.Tidy) ∧ ∀ n ∈ t.nodes, n.Tidy := by
  -- The step down: a child is made of one of the nodes.
  have hChild {s c : Spot} (h : ∀ n ∈ s.nodes, n.Tidy) (hc : c ∈ s.children) :
      (Markup.IsTagName c.tag ∧ c.attrs.Tidy) ∧ ∀ n ∈ c.nodes, n.Tidy := by
    obtain ⟨before, after, hNodes, _⟩ := Spot.mem_children_iff.1 hc
    have hNode : c.node.Tidy := h _ (by simp [hNodes])
    cases hNode with
    | element hTag hAttrs hNodes => exact ⟨⟨hTag, hAttrs⟩, hNodes⟩
  induction ht with
  | child hc => exact hChild h hc
  | deeper _ hc ih => exact hChild ih.2 hc

/-- The elements of a page that was read from markup have the names of tags and tidy attributes. -/
theorem Page.isTagName_and_tidy_of_read {markup url : String} {page : Page}
    (h : Page.read markup url = .ok page) :
    ∀ s ∈ page.elements, Markup.IsTagName s.tag ∧ s.attrs.Tidy := by
  rw [Page.read] at h
  cases hTokens : Markup.Token.readAll markup with
  | error => simp [hTokens, bind, Except.bind] at h
  | ok tokens =>
    simp only [hTokens, bind, Except.bind, pure, Except.pure, Except.ok.injEq] at h
    intro s hs
    have hNodes : ∀ n ∈ page.root.nodes, n.Tidy := by
      rw [← h]
      exact Markup.tidy_nodesOf (Markup.tidy_readFrom hTokens)
    exact (Spot.tidy_of_below hNodes (Spot.mem_descendants_iff.1 hs)).1

/-- A page that was read from markup is tidy. -/
theorem Page.tidy_of_read {markup url : String} {page : Page} (h : Page.read markup url = .ok page) :
    page.Tidy :=
  fun s hs => (Page.isTagName_and_tidy_of_read h s hs).2

/-- The elements of a page that was read from markup have the names of tags. -/
theorem Page.isTagName_of_read {markup url : String} {page : Page}
    (h : Page.read markup url = .ok page) : ∀ s ∈ page.elements, Markup.IsTagName s.name :=
  fun s hs => (Page.isTagName_and_tidy_of_read h s hs).1.lower

/-! ## Classes -/

/-- In tidy attributes a name without capitals is found by case or without. -/
theorem Attributes.Tidy.attrNamed? {attrs : Attributes} (h : attrs.Tidy) {name : String}
    (hName : Text.NoCapitals name) : Selector.attrNamed? attrs name = attrs.lookup name := by
  -- Only the names count, and they are all that the rest of the attributes keeps in the induction.
  have hNames := h.names
  clear h
  induction attrs with
  | nil => rfl
  | cons first rest ih =>
    obtain ⟨n, v⟩ := first
    have hRest := ih fun attr ha => hNames attr (List.mem_cons_of_mem _ ha)
    have hFirst : Text.lowerAscii n = n :=
      Text.lowerAscii_eq_self (hNames (n, v) List.mem_cons_self)
    unfold Selector.attrNamed? at hRest ⊢
    rw [List.find?_cons, List.lookup_cons, hFirst, ← hRest, Text.lowerAscii_eq_self hName]
    by_cases hEqual : n = name
    · rw [beq_iff_eq.2 hEqual, beq_iff_eq.2 hEqual.symm]
      rfl
    · rw [beq_eq_false_iff_ne.2 hEqual, beq_eq_false_iff_ne.2 (Ne.symm hEqual)]

/-- The class attribute of a tidy element holds the words of a text. -/
theorem Attributes.Tidy.lookup_class {attrs : Attributes} (h : attrs.Tidy) :
    attrs.lookup "class" = none ∨
      ∃ text, attrs.lookup "class" = some (.tokens (Text.splitWords text)) := by
  cases hLookup : attrs.lookup "class" with
  | none => exact .inl rfl
  | some value =>
    obtain ⟨before, after, hAttrs, _⟩ := List.lookup_eq_some_iff.1 hLookup
    obtain ⟨text, hText⟩ := h.classes ("class", value) (by simp [hAttrs]) rfl
    exact .inr ⟨text, by rw [← hText]⟩

/-- Selectors see the classes of a tidy element. -/
theorem Selector.classTokens_of_tidy {s : Spot} (h : s.attrs.Tidy) :
    Selector.classTokens s.attrs = s.classTokens := by
  have hClass : Text.NoCapitals "class" := by
    have hAll : "class".toList.all (fun c => !c.isUpper) = true := by decide
    intro c hc
    simpa using List.all_eq_true.1 hAll c hc
  rw [Selector.classTokens, h.attrNamed? hClass, Spot.classTokens]
  rcases h.lookup_class with hNone | ⟨text, hTokens⟩
  · rw [hNone]
  · rw [hTokens]

/-- The classes of a tidy element are words. -/
theorem Spot.isWord_of_mem_classTokens {s : Spot} (h : s.attrs.Tidy) {token : String}
    (hToken : token ∈ s.classTokens) : Text.IsWord token.toList := by
  rw [Spot.classTokens] at hToken
  rcases h.lookup_class with hNone | ⟨text, hTokens⟩
  · rw [hNone] at hToken
    exact absurd hToken List.not_mem_nil
  · rw [hTokens] at hToken
    obtain ⟨word, hWord, rfl⟩ := List.mem_map.1 hToken
    rw [String.toList_ofList]
    exact Text.isWord_of_mem_words hWord

end StableLocator
