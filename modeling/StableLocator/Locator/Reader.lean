import StableLocator.Locator.Lexeme
import StableLocator.Locator.Printer
import StableLocator.Text.Casing

/-!
# Reading locators

A locator text is a chain of receivers and calls joined by points, possibly after `await`:

* a call is a method, a quoted text and options in brackets;
* options are written `name=value` or as an object `name: value` in braces, and the last of several
  with one name counts;
* receivers stand before the first call only.

Each reading step takes lexemes from the front and gives back the others, which are fewer.
-/

namespace StableLocator

def methodStrategies : List (String × Strategy) :=
  [("getbytestid", .testId), ("getbyrole", .roleName), ("getbylabel", .label),
   ("getbyplaceholder", .placeholder), ("getbyalttext", .altText), ("getbytitle", .title),
   ("getbytext", .text), ("locator", .path)]

def strategyOf? (method : String) : Option Strategy :=
  methodStrategies.lookup
    (Text.lower (String.ofList (method.toList.filter fun c => c != '_')))

abbrev Options := List (String × OptionValue)

def Options.value? (options : Options) (name : String) : Option OptionValue :=
  options.reverse.lookup name

def Query.ofCall (strategy : Strategy) (value : String) (options : Options) : Query :=
  let exact := options.value? "exact" == some (.flag true)
  match strategy, options.value? "name" with
  | .roleName, some (.text name) => { strategy := .roleName, value, name? := some name, exact }
  | .roleName, _ => { strategy := .role, value }
  | .testId, _ => { strategy := .testId, value }
  | .path, _ => { strategy := .path, value }
  | _, _ => { strategy, value, exact }

abbrev Lexemes := List Lexeme

abbrev Read := Except ReadingFault

namespace Read

/-! ## Single lexemes -/

def isMark (mark : String) (t : Lexeme) : Bool := t.kind == .mark && t.value == mark

def beginsWith (mark : String) (ts : Lexemes) : Bool := ts.head?.any (isMark mark)

def take (kind : LexemeKind) : Lexemes → Read (String × Lexemes)
  | [] => .error (.missing kind.name)
  | t :: rest => if t.kind = kind then .ok (t.value, rest) else .error (.unexpected kind.name t)

def skip (mark : String) : Lexemes → Read Lexemes
  | [] => .error (.missing mark)
  | t :: rest => if isMark mark t then .ok rest else .error (.unexpected mark t)

def truth? (word : String) : Option Bool :=
  if Text.lower word = "true" then some true
  else if Text.lower word = "false" then some false
  else none

def literal : Lexemes → Read (OptionValue × Lexemes)
  | [] => .error .missingValue
  | t :: rest =>
    match t.kind, truth? t.value with
    | .text, _ | .number, _ => .ok (.text t.value, rest)
    | .word, some b => .ok (.flag b, rest)
    | _, _ => .error (.unsupportedValue t)

/-! ## Options -/

/-- One option: a name, the separator and a value. -/
def option (separator : String) (ts : Lexemes) : Read ((String × OptionValue) × Lexemes) := do
  let (name, ts) ← take .word ts
  let ts ← skip separator ts
  let (value, ts) ← literal ts
  pure ((name, value), ts)

theorem length_take {kind : LexemeKind} {ts rest : Lexemes} {value : String}
    (h : take kind ts = .ok (value, rest)) : rest.length < ts.length := by
  cases ts with
  | nil => simp [take] at h
  | cons t ts =>
    simp only [take] at h
    split at h
    · simp only [Except.ok.injEq, Prod.mk.injEq] at h
      simp [← h.2]
    · simp at h

/-- A mark is a lexeme, so that reading goes forward. -/
theorem length_skip {mark : String} {ts rest : Lexemes} (h : skip mark ts = .ok rest) :
    rest.length < ts.length := by
  cases ts with
  | nil => simp [skip] at h
  | cons t ts =>
    simp only [skip] at h
    split at h
    · simp only [Except.ok.injEq] at h
      simp [← h]
    · simp at h

theorem length_literal {ts rest : Lexemes} {value : OptionValue}
    (h : literal ts = .ok (value, rest)) : rest.length < ts.length := by
  cases ts with
  | nil => simp [literal] at h
  | cons t ts =>
    simp only [literal] at h
    split at h <;> simp_all

theorem length_option {separator : String} {ts rest : Lexemes} {pair : String × OptionValue}
    (h : option separator ts = .ok (pair, rest)) : rest.length < ts.length := by
  simp only [option, bind, Except.bind, pure, Except.pure] at h
  split at h
  · simp at h
  · rename_i first hFirst
    split at h
    · simp at h
    · rename_i second hSecond
      split at h
      · simp at h
      · rename_i third hThird
        simp only [Except.ok.injEq, Prod.mk.injEq] at h
        have h₁ := length_take hFirst
        have h₂ := length_skip hSecond
        have h₃ := length_literal hThird
        rw [h.2] at h₃
        omega

/-- Options joined by commas. A comma before the closing mark ends them, too. -/
def optionList (separator closing : String) (ts : Lexemes) : Read (Options × Lexemes) :=
  match h : option separator ts with
  | .error fault => .error fault
  | .ok (pair, []) => .ok ([pair], [])
  | .ok (pair, t :: rest) =>
    have := length_option h
    if !isMark "," t then .ok ([pair], t :: rest)
    else if beginsWith closing rest then .ok ([pair], rest)
    else (optionList separator closing rest).map fun (more, left) => (pair :: more, left)
  termination_by ts.length
  decreasing_by simp only [List.length_cons] at this; omega

def options : Lexemes → Read (Options × Lexemes)
  | [] => optionList "=" ")" []
  | t :: rest =>
    if isMark "\x7b" t then do
      let (found, rest) ← optionList ":" "\x7d" rest
      let rest ← skip "\x7d" rest
      pure (found, rest)
    else optionList "=" ")" (t :: rest)

theorem length_optionList {separator closing : String} {ts rest : Lexemes} {found : Options}
    (h : optionList separator closing ts = .ok (found, rest)) : rest.length < ts.length := by
  fun_induction optionList separator closing ts generalizing found rest with
  | case1 => simp at h
  | case2 ts pair hOption =>
    have := length_option hOption
    simp only [Except.ok.injEq, Prod.mk.injEq] at h
    rw [← h.2]
    exact this
  | case3 ts pair t left hOption hLength =>
    simp only [Except.ok.injEq, Prod.mk.injEq] at h
    rw [← h.2]
    exact hLength
  | case4 ts pair t left hOption hLength =>
    simp only [Except.ok.injEq, Prod.mk.injEq] at h
    rw [← h.2]
    simp only [List.length_cons] at hLength
    omega
  | case5 ts pair t left hOption hLength _ _ ih =>
    cases hMore : optionList separator closing left with
    | error => simp [hMore, Except.map] at h
    | ok found =>
      simp only [hMore, Except.map, Except.ok.injEq, Prod.mk.injEq] at h
      have := ih hMore
      simp only [List.length_cons] at hLength
      rw [← h.2]
      omega

theorem length_options {ts rest : Lexemes} {found : Options}
    (h : options ts = .ok (found, rest)) : rest.length ≤ ts.length := by
  cases ts with
  | nil => exact Nat.le_of_lt (length_optionList h)
  | cons t ts =>
    simp only [options] at h
    split at h
    · simp only [bind, Except.bind, pure, Except.pure] at h
      split at h
      · simp at h
      · rename_i first hFirst
        split at h
        · simp at h
        · rename_i second hSecond
          simp only [Except.ok.injEq, Prod.mk.injEq] at h
          have h₁ := length_optionList hFirst
          have h₂ := length_skip hSecond
          simp only [List.length_cons]
          rw [← h.2]
          omega
    · exact Nat.le_of_lt (length_optionList h)

/-! ## Calls and chains -/

/-- What follows the text of a call: nothing, or a comma and possibly options. -/
def callOptions : Lexemes → Read (Options × Lexemes)
  | [] => .ok ([], [])
  | t :: rest =>
    if isMark "," t then if beginsWith ")" rest then .ok ([], rest) else options rest
    else .ok ([], t :: rest)

/-- The rest of a call, after its method and the opening bracket. -/
def call (method : String) (ts : Lexemes) : Read (Query × Lexemes) :=
  match strategyOf? method with
  | none => .error (.unknownMethod method)
  | some strategy => do
    let (value, ts) ← take .text ts
    let (found, ts) ← callOptions ts
    let ts ← skip ")" ts
    pure (Query.ofCall strategy value found, ts)

/-- One link of a chain, after its name: a call, or a receiver if there was no call before it. -/
def link (called : Bool) (name : String) (ts : Lexemes) : Read (Option Query × Lexemes) :=
  if beginsWith "(" ts then (call name ts.tail).map fun (query, rest) => (some query, rest)
  else if called then .error (.property name)
  else .ok (none, ts)

theorem length_callOptions {ts rest : Lexemes} {found : Options}
    (h : callOptions ts = .ok (found, rest)) : rest.length ≤ ts.length := by
  cases ts with
  | nil =>
    simp only [callOptions, Except.ok.injEq, Prod.mk.injEq] at h
    simp [← h.2]
  | cons t ts =>
    simp only [callOptions] at h
    split at h
    · split at h
      · simp only [Except.ok.injEq, Prod.mk.injEq] at h
        simp [← h.2]
      · have := length_options h
        simp only [List.length_cons]
        omega
    · simp only [Except.ok.injEq, Prod.mk.injEq] at h
      simp [← h.2]

theorem length_call {method : String} {ts rest : Lexemes} {query : Query}
    (h : call method ts = .ok (query, rest)) : rest.length < ts.length := by
  simp only [call] at h
  split at h
  · simp at h
  · simp only [bind, Except.bind, pure, Except.pure] at h
    split at h
    · simp at h
    · rename_i first hFirst
      split at h
      · simp at h
      · rename_i second hSecond
        split at h
        · simp at h
        · rename_i third hThird
          simp only [Except.ok.injEq, Prod.mk.injEq] at h
          have h₁ := length_take hFirst
          have h₂ := length_callOptions hSecond
          have h₃ := length_skip hThird
          rw [← h.2]
          omega

/-- A link of a chain takes no lexeme back; the chain itself takes the name before it. -/
theorem length_link {called : Bool} {name : String} {ts rest : Lexemes} {query : Option Query}
    (h : link called name ts = .ok (query, rest)) : rest.length ≤ ts.length := by
  simp only [link] at h
  split at h
  · cases hCall : call name ts.tail with
    | error => simp [hCall, Except.map] at h
    | ok found =>
      simp only [hCall, Except.map, Except.ok.injEq, Prod.mk.injEq] at h
      have h₁ := length_call hCall
      have h₂ : ts.tail.length ≤ ts.length := by simp
      rw [← h.2]
      omega
  · split at h
    · simp at h
    · simp only [Except.ok.injEq, Prod.mk.injEq] at h
      simp [← h.2]

/-- The queries of a chain; `called` tells whether a call came before. -/
def chain (called : Bool) (ts : Lexemes) : Read (List Query) :=
  match hName : take .word ts with
  | .error fault => .error fault
  | .ok (name, rest) =>
    match hLink : link called name rest with
    | .error fault => .error fault
    | .ok (query, left) =>
      let called := called || query.isSome
      if left.isEmpty then if called then .ok query.toList else .error .noCall
      else
        match hSkip : skip "." left with
        | .error fault => .error fault
        | .ok after =>
          have := length_take hName
          have := length_link hLink
          have := length_skip hSkip
          (chain called after).map (query.toList ++ ·)
  termination_by ts.length

def queries : Lexemes → Read (List Query)
  | [] => .error .nothing
  | t :: rest =>
    if t.kind = .word ∧ t.value = "await" then chain false rest else chain false (t :: rest)

end Read

/-- The queries of a locator text. -/
def readQueries (text : String) : Except ReadingFault (List Query) := do
  let lexemes ← Lexeme.readAll (Text.trim text)
  Read.queries lexemes

end StableLocator
