import StableLocator.Locator.Reader
import StableLocator.Proofs.Locator.Margin

/-!
# The grammar of locator texts

Which texts are locators is said once more, without the reader: by rules for what stands beside what.
The reader takes exactly these texts and gives what the rules give.

* `Options.Says`, `Query.Asked` — what the options of a call come to;
* `Grammar.Literal`, `Pairs`, `Arguments`, `MethodCall`, `Calls`, `Chain` — one relation for each
  part of a locator text, between what lexemes say and what they mean;
* `Read.literal_said` to `Read.chain_said` — what a reading step takes is a part of its kind;
* `Read.literal_reads` to `Read.chain_reads` — a reading step takes each part of its kind;
* `readQueries_eq_ok_iff` — the texts that are locators.
-/

namespace StableLocator

open Lexeme

/-! ## What options come to -/

namespace Options

/-- The last mention of the name gives it this value. -/
def Says (options : Options) (name : String) (v : OptionValue) : Prop :=
  ∃ before after, options = before ++ (name, v) :: after ∧ ∀ pair ∈ after, pair.1 ≠ name

/-- The value of an option is what its last mention gives. -/
theorem value?_eq_some_iff {options : Options} {name : String} {v : OptionValue} :
    options.value? name = some v ↔ options.Says name v := by
  rw [value?, List.lookup_eq_some_iff]
  constructor
  · rintro ⟨after, before, hOptions, hAfter⟩
    refine ⟨before.reverse, after.reverse, ?_, ?_⟩
    · simpa using congrArg List.reverse hOptions
    · intro pair hPair hName
      have hOther := hAfter pair (List.mem_reverse.mp hPair)
      simp [hName] at hOther
  · rintro ⟨before, after, rfl, hAfter⟩
    refine ⟨after.reverse, before.reverse, by simp, ?_⟩
    intro pair hPair
    have hOther := hAfter pair (List.mem_reverse.mp hPair)
    simpa using Ne.symm hOther

end Options

/-- The query is what a call asks with this strategy, text and options. A name is asked for by role
only, and it is a text; without one the role alone is. Equal texts are asked for by a truth value, of
strategies that compare texts. -/
structure Query.Asked (strategy : Strategy) (value : String) (options : Options) (q : Query) : Prop where
  value : q.value = value
  scope : q.scope = .page
  name : ∀ name, q.name? = some name ↔ strategy = .roleName ∧ options.Says "name" (.text name)
  strategy : q.strategy = if strategy = .roleName ∧ q.name? = none then .role else strategy
  exact : q.exact = true ↔
    q.strategy ∉ [Strategy.testId, .role, .path] ∧ options.Says "exact" (.flag true)

/-- A call asks what its strategy, text and options say. -/
theorem Query.asked_ofCall {strategy : Strategy} (h : strategy ≠ .role) (value : String)
    (options : Options) : Asked strategy value options (ofCall strategy value options) := by
  cases strategy with
  | role => exact absurd rfl h
  | roleName =>
    cases hName : options.value? "name" with
    | none =>
      constructor <;> simp [ofCall, hName, ← Options.value?_eq_some_iff]
    | some v =>
      cases v <;> constructor <;> simp [ofCall, hName, ← Options.value?_eq_some_iff]
  | testId | label | placeholder | altText | title | text | path =>
    constructor <;> simp [ofCall, ← Options.value?_eq_some_iff]

/-- At most one query is asked by a call. -/
theorem Query.Asked.unique {strategy : Strategy} {value : String} {options : Options} {q r : Query}
    (hq : q.Asked strategy value options) (hr : r.Asked strategy value options) : q = r := by
  have hName : q.name? = r.name? := Option.ext fun name => (hq.name name).trans (hr.name name).symm
  have hStrategy : q.strategy = r.strategy := by rw [hq.strategy, hr.strategy, hName]
  have hExact : q.exact = r.exact := by
    rw [Bool.eq_iff_iff, hq.exact, hr.exact, hStrategy]
  have hValue : q.value = r.value := hq.value.trans hr.value.symm
  have hScope : q.scope = r.scope := hq.scope.trans hr.scope.symm
  cases q
  cases r
  simp_all

/-! ## Rules -/

/-- The method, in lower case and without underscores, stands in the table for this strategy. -/
def Names (method : String) (strategy : Strategy) : Prop :=
  (Text.lower (String.ofList (method.toList.filter fun c => c != '_')), strategy) ∈ methodStrategies

/-- A method asks for a strategy just if the table names it so. -/
theorem strategyOf?_eq_some_iff {method : String} {strategy : Strategy} :
    strategyOf? method = some strategy ↔ Names method strategy := by
  rw [strategyOf?, Names, List.lookup_eq_some_iff]
  generalize Text.lower (String.ofList (method.toList.filter fun c => c != '_')) = name
  constructor
  · rintro ⟨before, after, hTable, _⟩
    rw [hTable]
    exact List.mem_append_right before List.mem_cons_self
  · intro hMem
    obtain ⟨before, after, hTable⟩ := List.append_of_mem hMem
    refine ⟨before, after, hTable, ?_⟩
    -- No name stands in the table twice.
    have hNodup : (methodStrategies.map Prod.fst).Nodup := by decide
    rw [hTable, List.map_append, List.map_cons] at hNodup
    intro pair hPair
    have hNe : pair.1 ≠ name := fun hSame =>
      (List.nodup_append.mp hNodup).2.2 pair.1 (List.mem_map_of_mem hPair) name
        List.mem_cons_self hSame
    simpa using hNe.symm

/-- No method asks for a role without looking for a name. -/
theorem Query.ne_role_of_strategyOf? {method : String} {strategy : Strategy}
    (h : strategyOf? method = some strategy) : strategy ≠ .role := by
  have hNone : ∀ pair ∈ methodStrategies, pair.2 ≠ .role := by decide
  exact hNone _ (strategyOf?_eq_some_iff.mp h)

namespace Grammar

/-- A value is a text, a number, or a word for a truth value in any case. -/
inductive Literal : Saying → OptionValue → Prop
  | text (s : String) : Literal (.text, s) (.text s)
  | number (s : String) : Literal (.number, s) (.text s)
  | yes {word : String} (h : Text.lower word = "true") : Literal (.word, word) (.flag true)
  | no {word : String} (h : Text.lower word = "false") : Literal (.word, word) (.flag false)

/-- Options, at least one, with a comma between two of them and possibly after the last one. -/
inductive Pairs (separator : String) : List Saying → Options → Prop
  | last {literal : Saying} {v : OptionValue} (key : String) (h : Literal literal v) :
      Pairs separator [(.word, key), (.mark, separator), literal] [(key, v)]
  | lastComma {literal : Saying} {v : OptionValue} (key : String) (h : Literal literal v) :
      Pairs separator [(.word, key), (.mark, separator), literal, (.mark, ",")] [(key, v)]
  | more {literal : Saying} {v : OptionValue} {said : List Saying} {options : Options} (key : String)
      (h : Literal literal v) (hMore : Pairs separator said options) :
      Pairs separator ((.word, key) :: (.mark, separator) :: literal :: (.mark, ",") :: said)
        ((key, v) :: options)

/-- Options begin with the name of one. -/
theorem Pairs.head {separator : String} {said : List Saying} {options : Options}
    (h : Pairs separator said options) : ∃ key more, said = (.word, key) :: more := by
  cases h with
  | last key | lastComma key | more key => exact ⟨key, _, rfl⟩

/-- What stands between the text of a call and its closing bracket: possibly a comma, and after it
possibly options, as keywords or as an object. -/
inductive Arguments : List Saying → Options → Prop
  | none : Arguments [] []
  | comma : Arguments [(.mark, ",")] []
  | keywords {said : List Saying} {options : Options} (h : Pairs "=" said options) :
      Arguments ((.mark, ",") :: said) options
  | object {said : List Saying} {options : Options} (h : Pairs ":" said options) :
      Arguments ((.mark, ",") :: (.mark, "\x7b") :: (said ++ [(.mark, "\x7d")])) options

/-- A call of a method with a text and possibly options asks a query. -/
inductive MethodCall : List Saying → Query → Prop
  | ofMethod {method value : String} {strategy : Strategy} {said : List Saying} {options : Options}
      {q : Query} (hMethod : Names method strategy) (hArguments : Arguments said options)
      (hAsked : q.Asked strategy value options) :
      MethodCall ((.word, method) :: (.mark, "(") :: (.text, value) :: (said ++ [(.mark, ")")])) q

/-- Calls, at least one, with a point between two of them. -/
inductive Calls : List Saying → List Query → Prop
  | last {said : List Saying} {q : Query} (h : MethodCall said q) : Calls said [q]
  | more {said others : List Saying} {q : Query} {queries : List Query} (h : MethodCall said q)
      (hMore : Calls others queries) : Calls (said ++ (.mark, ".") :: others) (q :: queries)

/-- Calls, after any number of receivers with a point each. -/
inductive Chain : List Saying → List Query → Prop
  | calls {said : List Saying} {queries : List Query} (h : Calls said queries) : Chain said queries
  | receiver {said : List Saying} {queries : List Query} (name : String) (h : Chain said queries) :
      Chain ((.word, name) :: (.mark, ".") :: said) queries

/-- What is left without one `await` at the beginning. -/
def withoutAwait : List Saying → List Saying
  | (.word, "await") :: said => said
  | said => said

end Grammar

namespace Read

open Grammar

/-! ## What steps take -/

variable {ts rest : Lexemes}

/-- A mark is recognized by what it says. -/
theorem isMark_iff {mark : String} {t : Lexeme} : isMark mark t = true ↔ t.saying = (.mark, mark) := by
  simp [isMark, saying]

theorem isMark_eq_false {mark : String} {t : Lexeme} (h : t.saying ≠ (.mark, mark)) :
    isMark mark t = false := by
  rw [Bool.eq_false_iff]
  exact fun hMark => h (isMark_iff.mp hMark)

theorem beginsWith_iff {mark : String} {ts : Lexemes} :
    beginsWith mark ts = true ↔ (ts.map saying).head? = some (.mark, mark) := by
  cases ts with
  | nil => simp [beginsWith]
  | cons t ts => simp [beginsWith, isMark_iff]

theorem beginsWith_eq_false {mark : String} {ts : Lexemes}
    (h : (ts.map saying).head? ≠ some (.mark, mark)) : beginsWith mark ts = false := by
  rw [Bool.eq_false_iff]
  exact fun hBegins => h (beginsWith_iff.mp hBegins)

theorem beginsWith_said {mark : String} (h : beginsWith mark ts = true) :
    ts.map saying = (.mark, mark) :: ts.tail.map saying := by
  cases ts with
  | nil => cases h
  | cons t ts => rw [List.map_cons, isMark_iff.mp (by simpa [beginsWith] using h), List.tail_cons]

/-- A step that takes a lexeme takes one of this kind and value. -/
theorem take_said {kind : LexemeKind} {value : String} (h : take kind ts = .ok (value, rest)) :
    ts.map saying = (kind, value) :: rest.map saying := by
  cases ts with
  | nil => cases h
  | cons t ts =>
    rw [take] at h
    split at h
    · rename_i hKind
      cases h
      simp [saying, hKind]
    · cases h

/-- A step over a mark takes this mark. -/
theorem skip_said {mark : String} (h : skip mark ts = .ok rest) :
    ts.map saying = (.mark, mark) :: rest.map saying := by
  cases ts with
  | nil => cases h
  | cons t ts =>
    rw [skip] at h
    split at h
    · rename_i hMark
      cases h
      rw [List.map_cons, isMark_iff.mp hMark]
    · cases h

/-- A word that is read as a truth value is one in any case of its letters. -/
theorem truth?_eq_some {word : String} {b : Bool} (h : truth? word = some b) :
    Literal (.word, word) (.flag b) := by
  rw [truth?] at h
  split at h
  · rename_i hYes
    cases h
    exact .yes hYes
  · split at h
    · rename_i hNo
      cases h
      exact .no hNo
    · cases h

/-- A value that was read is spelled by one lexeme. -/
theorem literal_said {v : OptionValue} (h : literal ts = .ok (v, rest)) :
    ∃ said, Literal said v ∧ ts.map saying = said :: rest.map saying := by
  cases ts with
  | nil => cases h
  | cons t ts =>
    rw [literal] at h
    split at h
    · rename_i hKind
      cases h
      exact ⟨(.text, t.value), .text _, by simp [saying, hKind]⟩
    · rename_i hKind
      cases h
      exact ⟨(.number, t.value), .number _, by simp [saying, hKind]⟩
    · rename_i b hKind hTruth
      cases h
      exact ⟨(.word, t.value), truth?_eq_some hTruth, by simp [saying, hKind]⟩
    · cases h

/-- An option that was read is spelled as a name, a separator and a value. -/
theorem option_said {separator key : String} {v : OptionValue}
    (h : option separator ts = .ok ((key, v), rest)) :
    ∃ literal, Literal literal v ∧
      ts.map saying = (.word, key) :: (.mark, separator) :: literal :: rest.map saying := by
  rw [option] at h
  obtain ⟨⟨name, ts₁⟩, hName, h⟩ := bind_eq_ok.mp h
  obtain ⟨ts₂, hSeparator, h⟩ := bind_eq_ok.mp h
  obtain ⟨⟨value, ts₃⟩, hValue, h⟩ := bind_eq_ok.mp h
  cases h
  obtain ⟨said, hLiteral, hSays⟩ := literal_said hValue
  exact ⟨said, hLiteral, by rw [take_said hName, skip_said hSeparator, hSays]⟩

/-- Options that were read are spelled as pairs with commas. -/
theorem optionList_said {separator closing : String} {options : Options}
    (h : optionList separator closing ts = .ok (options, rest)) :
    ∃ said, Pairs separator said options ∧ ts.map saying = said ++ rest.map saying := by
  -- One case for an option with nothing after it, and one for each of the three ways to go on.
  fun_induction optionList separator closing ts generalizing options rest with
  | case1 => cases h
  | case2 ts pair hOption =>
    cases h
    obtain ⟨literal, hLiteral, hSays⟩ := option_said hOption
    exact ⟨_, .last _ hLiteral, hSays⟩
  | case3 ts pair t left hOption _ hComma =>
    cases h
    obtain ⟨literal, hLiteral, hSays⟩ := option_said hOption
    exact ⟨_, .last _ hLiteral, hSays⟩
  | case4 ts pair t left hOption _ hComma hClosing =>
    cases h
    obtain ⟨literal, hLiteral, hSays⟩ := option_said hOption
    have hMark : t.saying = (.mark, ",") := isMark_iff.mp (by simpa using hComma)
    refine ⟨_, .lastComma _ hLiteral, ?_⟩
    rw [hSays, List.map_cons, hMark]
    rfl
  | case5 ts pair t left hOption _ hComma hClosing ih =>
    obtain ⟨⟨others, more⟩, hOthers, h⟩ := map_eq_ok.mp h
    cases h
    obtain ⟨literal, hLiteral, hSays⟩ := option_said hOption
    obtain ⟨said, hPairs, hLeft⟩ := ih hOthers
    have hMark : t.saying = (.mark, ",") := isMark_iff.mp (by simpa using hComma)
    refine ⟨_, .more _ hLiteral hPairs, ?_⟩
    rw [hSays, List.map_cons, hMark, hLeft]
    rfl

/-- Arguments that were read are spelled after a comma. -/
theorem options_said {found : Options} (h : options ts = .ok (found, rest)) :
    ∃ said, Arguments ((.mark, ",") :: said) found ∧ ts.map saying = said ++ rest.map saying := by
  have keywords {ts : Lexemes} (h : optionList "=" ")" ts = .ok (found, rest)) :
      ∃ said, Arguments ((.mark, ",") :: said) found ∧ ts.map saying = said ++ rest.map saying := by
    obtain ⟨said, hPairs, hSays⟩ := optionList_said h
    exact ⟨said, .keywords hPairs, hSays⟩
  cases ts with
  | nil => exact keywords h
  | cons t ts =>
    rw [options] at h
    split at h
    · rename_i hBrace
      obtain ⟨⟨inner, ts₁⟩, hInner, h⟩ := bind_eq_ok.mp h
      obtain ⟨ts₂, hClose, h⟩ := bind_eq_ok.mp h
      cases h
      obtain ⟨said, hPairs, hSays⟩ := optionList_said hInner
      refine ⟨_, .object hPairs, ?_⟩
      rw [List.map_cons, isMark_iff.mp hBrace, hSays, skip_said hClose]
      simp
    · exact keywords h

/-- What is read between the text of a call and its bracket is spelled as arguments. -/
theorem callOptions_said {found : Options} (h : callOptions ts = .ok (found, rest)) :
    ∃ said, Arguments said found ∧ ts.map saying = said ++ rest.map saying := by
  cases ts with
  | nil =>
    cases h
    exact ⟨[], .none, rfl⟩
  | cons t ts =>
    rw [callOptions] at h
    split at h
    · rename_i hComma
      split at h
      · cases h
        exact ⟨[(.mark, ",")], .comma, by rw [List.map_cons, isMark_iff.mp hComma]; rfl⟩
      · obtain ⟨said, hArguments, hSays⟩ := options_said h
        refine ⟨_, hArguments, ?_⟩
        rw [List.map_cons, isMark_iff.mp hComma, hSays]
        rfl
    · cases h
      exact ⟨[], .none, rfl⟩

/-- A call that was read is spelled as one. -/
theorem call_said {method : String} {q : Query} (h : call method ts = .ok (q, rest)) :
    ∃ said, MethodCall ((.word, method) :: (.mark, "(") :: said) q ∧
      ts.map saying = said ++ rest.map saying := by
  rw [call] at h
  split at h
  · cases h
  · rename_i strategy hStrategy
    obtain ⟨⟨value, ts₁⟩, hValue, h⟩ := bind_eq_ok.mp h
    obtain ⟨⟨found, ts₂⟩, hFound, h⟩ := bind_eq_ok.mp h
    obtain ⟨ts₃, hClose, h⟩ := bind_eq_ok.mp h
    cases h
    obtain ⟨said, hArguments, hSays⟩ := callOptions_said hFound
    have hAsked := Query.asked_ofCall (Query.ne_role_of_strategyOf? hStrategy) value found
    refine ⟨_, .ofMethod (strategyOf?_eq_some_iff.mp hStrategy) hArguments hAsked, ?_⟩
    rw [take_said hValue, hSays, skip_said hClose]
    simp

/-- A link of a chain is a call, or a receiver that takes nothing and follows no call. -/
theorem link_said {called : Bool} {name : String} {query : Option Query}
    (h : link called name ts = .ok (query, rest)) :
    (∃ q said, query = some q ∧ MethodCall ((.word, name) :: said) q ∧
        ts.map saying = said ++ rest.map saying) ∨
      (query = none ∧ called = false ∧ rest = ts) := by
  rw [link] at h
  split at h
  · rename_i hOpen
    obtain ⟨⟨q, ts₁⟩, hCall, h⟩ := map_eq_ok.mp h
    cases h
    obtain ⟨said, hCall, hSays⟩ := call_said hCall
    refine .inl ⟨q, _, rfl, hCall, ?_⟩
    rw [beginsWith_said hOpen, hSays]
    rfl
  · split at h
    · cases h
    · rename_i hCalled
      cases h
      exact .inr ⟨rfl, by simpa using hCalled, rfl⟩

/-- After a call there are calls only; before the first one there may be receivers. -/
theorem chain_said {called : Bool} {queries : List Query} (h : chain called ts = .ok queries) :
    (called = true → Calls (ts.map saying) queries) ∧
      (called = false → Chain (ts.map saying) queries) := by
  have both {called : Bool} {said : List Saying} {queries : List Query} (h : Calls said queries) :
      (called = true → Calls said queries) ∧ (called = false → Chain said queries) :=
    ⟨fun _ => h, fun _ => .calls h⟩
  -- Two cases give queries: the end of the chain, and a link with more after it.
  fun_induction chain called ts generalizing queries with
  | case1 | case2 | case4 | case5 => cases h
  | case3 called ts name rest hName query left hLink called' hEnd =>
    rename_i hCalled
    cases h
    rw [take_said hName]
    rcases link_said hLink with ⟨q, said, rfl, hCall, hSays⟩ | ⟨rfl, rfl, _⟩
    · rw [hSays, List.isEmpty_iff.mp hEnd, List.map_nil, List.append_nil]
      exact both (.last hCall)
    · simp [called'] at hCalled
  | case6 called ts name rest hName query left hLink called' hMoreLeft after hSkip _ _ _ =>
    rename_i ih
    obtain ⟨others, hOthers, h⟩ := map_eq_ok.mp h
    cases h
    obtain ⟨hCalls, hChain⟩ := ih hOthers
    rw [take_said hName]
    rcases link_said hLink with ⟨q, said, rfl, hCall, hSays⟩ | ⟨rfl, rfl, rfl⟩
    · rw [hSays, skip_said hSkip]
      exact both (.more hCall (hCalls (by simp [called'])))
    · rw [skip_said hSkip]
      exact ⟨nofun, fun _ => .receiver name (hChain rfl)⟩

/-! ## What steps read -/

variable {left : List Saying}

/-- The reading step takes lexemes that say this, with others to follow, and gives the value. -/
def Reads {α : Type} (step : Lexemes → Read (α × Lexemes)) (said : List Saying) (value : α)
    (left : List Saying) : Prop :=
  ∀ ts, ts.map saying = said ++ left → ∃ rest, step ts = .ok (value, rest) ∧ rest.map saying = left

/-- A lexeme of the kind and value is taken. -/
theorem take_reads (kind : LexemeKind) (value : String) :
    Reads (take kind) [(kind, value)] value left := by
  intro ts h
  obtain ⟨t, rest, rfl, hSays, hLeft⟩ := List.map_eq_cons_iff.1 h
  simp only [saying, Prod.mk.injEq] at hSays
  exact ⟨rest, by rw [take, if_pos hSays.1, hSays.2], hLeft⟩

theorem skip_mark {mark : String} {ts : Lexemes} (h : ts.map saying = (.mark, mark) :: left) :
    ∃ rest, skip mark ts = .ok rest ∧ rest.map saying = left := by
  obtain ⟨t, rest, rfl, hSays, hLeft⟩ := List.map_eq_cons_iff.1 h
  exact ⟨rest, by rw [skip, if_pos (isMark_iff.2 hSays)], hLeft⟩

/-- A spelled value is read. -/
theorem literal_reads {said : Saying} {v : OptionValue} (hLiteral : Literal said v) :
    Reads literal [said] v left := by
  intro ts h
  obtain ⟨t, rest, rfl, hSays, hLeft⟩ := List.map_eq_cons_iff.1 h
  refine ⟨rest, ?_, hLeft⟩
  cases hLiteral with
  | text s | number s =>
    obtain ⟨hKind, hValue⟩ := Prod.mk.inj hSays
    simp [literal, hKind, hValue]
  | yes hWord | no hWord =>
    obtain ⟨hKind, hValue⟩ := Prod.mk.inj hSays
    simp [literal, hKind, hValue, truth?, hWord]

theorem option_reads {separator key : String} {literal : Saying} {v : OptionValue}
    (hLiteral : Literal literal v) :
    Reads (option separator) [(.word, key), (.mark, separator), literal] (key, v) left := by
  intro ts h
  obtain ⟨ts₁, hTake, h⟩ := take_reads .word key ts h
  obtain ⟨ts₂, hSkip, h⟩ := skip_mark h
  obtain ⟨ts₃, hValue, h⟩ := literal_reads hLiteral ts₂ h
  refine ⟨ts₃, ?_, h⟩
  rw [option, hTake]
  simp only [bind, Except.bind, hSkip, hValue]
  rfl

/-- How options go on after one of them. -/
theorem optionList_of_option {separator closing : String} {pair : String × OptionValue} {t : Lexeme}
    (h : option separator ts = .ok (pair, t :: rest)) :
    optionList separator closing ts =
      if !isMark "," t then .ok ([pair], t :: rest)
      else if beginsWith closing rest then .ok ([pair], rest)
      else (optionList separator closing rest).map fun (more, left) => (pair :: more, left) := by
  rw [optionList]
  split
  · rename_i hError
    rw [h] at hError
    cases hError
  · rename_i hEnd
    rw [h] at hEnd
    cases hEnd
  · rename_i hFound
    rw [h] at hFound
    cases hFound
    rfl

/-- Options are read up to the closing mark, whether or not a comma stands before it. -/
theorem optionList_reads {separator closing : String} (hClosing : closing ≠ ",")
    {said : List Saying} {options : Options} (hPairs : Pairs separator said options) :
    Reads (optionList separator closing) said options ((.mark, closing) :: left) := by
  induction hPairs with
  | last key hLiteral =>
    intro ts h
    obtain ⟨rest, hOption, hRest⟩ := option_reads hLiteral ts h
    obtain ⟨t, more, rfl, hSays, _⟩ := List.map_eq_cons_iff.mp hRest
    refine ⟨_, ?_, hRest⟩
    have hComma : isMark "," t = false := by
      apply isMark_eq_false
      rw [hSays]
      simpa using hClosing
    rw [optionList_of_option hOption, hComma]
    rfl
  | lastComma key hLiteral =>
    intro ts h
    obtain ⟨rest, hOption, hRest⟩ := option_reads hLiteral ts h
    obtain ⟨t, more, rfl, hSays, hMore⟩ := List.map_eq_cons_iff.mp hRest
    refine ⟨more, ?_, hMore⟩
    have hEnd : beginsWith closing more = true := by rw [beginsWith_iff, hMore]; rfl
    rw [optionList_of_option hOption, isMark_iff.mpr hSays, hEnd]
    rfl
  | more key hLiteral hMore ih =>
    intro ts h
    obtain ⟨rest, hOption, hRest⟩ := option_reads hLiteral ts h
    obtain ⟨t, more, rfl, hSays, hMoreSays⟩ := List.map_eq_cons_iff.mp hRest
    obtain ⟨left, hList, hLeft⟩ := ih more hMoreSays
    refine ⟨left, ?_, hLeft⟩
    -- A name comes after the comma, not the closing mark.
    have hOpen : beginsWith closing more = false := by
      apply beginsWith_eq_false
      rw [hMoreSays]
      cases hMore <;> simp
    rw [optionList_of_option hOption, isMark_iff.mpr hSays, hOpen, hList]
    rfl

/-- Options after a comma are read up to the closing bracket of the call. -/
theorem options_reads {said : List Saying} {found : Options} (hSome : said ≠ [])
    (h : Arguments ((.mark, ",") :: said) found) : Reads options said found ((.mark, ")") :: left) := by
  cases h with
  | comma => exact absurd rfl hSome
  | keywords hPairs =>
    intro ts h
    have hClosing : ")" ≠ "," := by decide
    obtain ⟨rest, hList, hRest⟩ := optionList_reads hClosing hPairs ts h
    refine ⟨rest, ?_, hRest⟩
    -- The first lexeme is a name, so the reader does not look for a brace.
    obtain ⟨key, more, rfl⟩ := hPairs.head
    obtain ⟨t, ts, rfl, hName, _⟩ := List.map_eq_cons_iff.mp h
    have hBrace : isMark "\x7b" t = false := by
      apply isMark_eq_false
      rw [hName]
      simp
    rw [options, hBrace]
    exact hList
  | object hPairs =>
    intro ts h
    have hClosing : "\x7d" ≠ "," := by decide
    obtain ⟨t, ts, rfl, hBrace, h⟩ := List.map_eq_cons_iff.mp h
    obtain ⟨ts₁, hList, h⟩ := optionList_reads hClosing hPairs ts (by simpa using h)
    obtain ⟨ts₂, hSkip, h⟩ := skip_mark h
    refine ⟨ts₂, ?_, h⟩
    rw [options, isMark_iff.mpr hBrace, if_pos rfl]
    exact bind_eq_ok.mpr ⟨_, hList, bind_eq_ok.mpr ⟨_, hSkip, rfl⟩⟩

theorem callOptions_reads {said : List Saying} {found : Options} (h : Arguments said found) :
    Reads callOptions said found ((.mark, ")") :: left) := by
  have comma {first : Saying} {said : List Saying} (hEnd : first ≠ (.mark, ")"))
      (h : Arguments ((.mark, ",") :: first :: said) found) :
      Reads callOptions ((.mark, ",") :: first :: said) found ((.mark, ")") :: left) := by
    intro ts hSays
    obtain ⟨t, ts, rfl, hComma, hSays⟩ := List.map_eq_cons_iff.mp hSays
    obtain ⟨rest, hOptions, hRest⟩ := options_reads (by simp) h ts hSays
    refine ⟨rest, ?_, hRest⟩
    have hOpen : beginsWith ")" ts = false := by
      apply beginsWith_eq_false
      rw [hSays]
      simpa using hEnd
    rw [callOptions, isMark_iff.mpr hComma, if_pos rfl, hOpen]
    exact hOptions
  cases h with
  | none =>
    intro ts hSays
    refine ⟨ts, ?_, hSays⟩
    obtain ⟨t, ts, rfl, hClose, _⟩ := List.map_eq_cons_iff.mp hSays
    have hComma : isMark "," t = false := by
      apply isMark_eq_false
      rw [hClose]
      decide
    rw [callOptions, hComma]
    rfl
  | comma =>
    intro ts hSays
    obtain ⟨t, ts, rfl, hComma, hSays⟩ := List.map_eq_cons_iff.mp hSays
    refine ⟨ts, ?_, hSays⟩
    have hClose : beginsWith ")" ts = true := by rw [beginsWith_iff, hSays]; rfl
    rw [callOptions, isMark_iff.mpr hComma, hClose]
    rfl
  | keywords hPairs =>
    obtain ⟨key, more, rfl⟩ := hPairs.head
    exact comma (by simp) (.keywords hPairs)
  | object hPairs => exact comma (by simp) (.object hPairs)

/-- A call is a link of a chain wherever it stands. -/
theorem link_reads {said : List Saying} {q : Query} (h : MethodCall said q) (called : Bool)
    {ts : Lexemes} (hSays : ts.map saying = said ++ left) :
    ∃ name rest more, take .word ts = .ok (name, rest) ∧
      link called name rest = .ok (some q, more) ∧ more.map saying = left := by
  cases h with
  | @ofMethod method value strategy _ found _ hMethod hArguments hAsked =>
    obtain ⟨rest, hName, hSays⟩ := take_reads .word method ts hSays
    obtain ⟨t, ts₁, rfl, hOpen, hSays⟩ := List.map_eq_cons_iff.mp hSays
    obtain ⟨ts₂, hValue, hSays⟩ := take_reads .text value ts₁ hSays
    obtain ⟨ts₃, hFound, hSays⟩ := callOptions_reads hArguments ts₂ (by simpa using hSays)
    obtain ⟨ts₄, hClose, hSays⟩ := skip_mark hSays
    refine ⟨method, _, ts₄, hName, ?_, hSays⟩
    have hStrategy : strategyOf? method = some strategy := strategyOf?_eq_some_iff.mpr hMethod
    have hCall : call method ts₁ = .ok (q, ts₄) := by
      rw [call, hStrategy, hAsked.unique (Query.asked_ofCall (Query.ne_role_of_strategyOf? hStrategy) _ _)]
      exact bind_eq_ok.mpr ⟨_, hValue, bind_eq_ok.mpr ⟨_, hFound, bind_eq_ok.mpr ⟨_, hClose, rfl⟩⟩⟩
    have hBegins : beginsWith "(" (t :: ts₁) = true := by simp [beginsWith_iff, hOpen]
    rw [link, if_pos hBegins, List.tail_cons, hCall]
    rfl

/-- A chain ends where nothing follows a call. -/
theorem chain_last {called : Bool} {name : String} {ts rest : Lexemes} {query : Query}
    (hName : take .word ts = .ok (name, rest)) (hLink : link called name rest = .ok (some query, [])) :
    chain called ts = .ok [query] := by
  -- The reader matches on steps whose results are known: each other branch contradicts one of them.
  rw [chain]
  split
  · simp_all
  · rename_i name' rest' hName'
    rw [hName, Except.ok.injEq, Prod.mk.injEq] at hName'
    obtain ⟨rfl, rfl⟩ := hName'
    split
    · simp_all
    · rename_i query' left hLink'
      rw [hLink, Except.ok.injEq, Prod.mk.injEq] at hLink'
      obtain ⟨rfl, rfl⟩ := hLink'
      simp

/-- A chain goes on after a link and a point. -/
theorem chain_more {called : Bool} {name : String} {ts rest left after : Lexemes}
    {query : Option Query} (hName : take .word ts = .ok (name, rest))
    (hLink : link called name rest = .ok (query, left)) (hSkip : skip "." left = .ok after) :
    chain called ts = (chain (called || query.isSome) after).map (query.toList ++ ·) := by
  rw [chain]
  split
  · simp_all
  · rename_i name' rest' hName'
    rw [hName, Except.ok.injEq, Prod.mk.injEq] at hName'
    obtain ⟨rfl, rfl⟩ := hName'
    split
    · simp_all
    · rename_i query' left' hLink'
      rw [hLink, Except.ok.injEq, Prod.mk.injEq] at hLink'
      obtain ⟨rfl, rfl⟩ := hLink'
      have hLeft : left.isEmpty = false := by
        cases left with
        | nil => simp [skip] at hSkip
        | cons t left => rfl
      simp only [hLeft, Bool.false_eq_true, if_false]
      split
      · simp_all
      · rename_i after' hSkip'
        rw [hSkip, Except.ok.injEq] at hSkip'
        rw [hSkip']

/-- Calls are read as their queries, whether or not a call came before. -/
theorem calls_reads {said : List Saying} {queries : List Query} (h : Calls said queries)
    (called : Bool) {ts : Lexemes} (hSays : ts.map saying = said) : chain called ts = .ok queries := by
  induction h generalizing called ts with
  | last hCall =>
    obtain ⟨name, rest, more, hName, hLink, hMore⟩ :=
      link_reads hCall called (hSays.trans (List.append_nil _).symm)
    rw [List.map_eq_nil_iff] at hMore
    exact chain_last hName (hMore ▸ hLink)
  | more hCall _ ih =>
    obtain ⟨name, rest, more, hName, hLink, hMore⟩ := link_reads hCall called hSays
    obtain ⟨after, hSkip, hAfter⟩ := skip_mark hMore
    rw [chain_more hName hLink hSkip, ih _ hAfter]
    rfl

/-- Receivers and calls are read as the queries of the calls. -/
theorem chain_reads {said : List Saying} {queries : List Query} (h : Chain said queries) {ts : Lexemes}
    (hSays : ts.map saying = said) : chain false ts = .ok queries := by
  induction h generalizing ts with
  | calls hCalls => exact calls_reads hCalls false hSays
  | receiver name _ ih =>
    obtain ⟨rest, hName, hRest⟩ := take_reads .word name ts hSays
    obtain ⟨after, hSkip, hAfter⟩ := skip_mark hRest
    -- A receiver is a link without a bracket, which gives no query.
    have hLink : link false name rest = .ok (none, rest) := by
      have hCall : beginsWith "(" rest = false := by
        apply beginsWith_eq_false
        rw [hRest]
        simp
      rw [link, hCall]
      rfl
    rw [chain_more hName hLink hSkip, Option.isSome_none, Bool.or_false, ih hAfter]
    rfl

/-- Lexemes are read as queries just when what they say, without an `await` at the beginning, is a
chain with these queries. -/
theorem queries_eq_ok_iff {ts : Lexemes} {found : List Query} :
    queries ts = .ok found ↔ Chain (withoutAwait (ts.map saying)) found := by
  have hChain (ts : Lexemes) : chain false ts = .ok found ↔ Chain (ts.map saying) found :=
    ⟨fun h => (chain_said h).2 rfl, fun h => chain_reads h rfl⟩
  cases ts with
  | nil =>
    refine ⟨nofun, fun h => ?_⟩
    -- Every chain says something.
    have hNothing := (hChain []).mpr h
    rw [chain] at hNothing
    cases hNothing
  | cons t ts =>
    rw [queries]
    split
    · rename_i hAwait
      have hSays : t.saying = (.word, "await") := by rw [saying, hAwait.1, hAwait.2]
      rw [hChain, List.map_cons, hSays, withoutAwait]
    · rename_i hOther
      rw [hChain, List.map_cons, withoutAwait]
      rintro _ hSays
      exact hOther (Prod.mk.inj (List.cons.inj hSays).1)

end Read

/-! ## Whole texts -/

/-- The locator texts are just those whose lexemes, without an `await` at the beginning, make a chain,
and such a text is read as the queries of the chain; every other text is a fault. -/
theorem readQueries_eq_ok_iff (text : String) :
    (∀ queries, readQueries text = .ok queries ↔
      ∃ said, SaysAll text said ∧ Grammar.Chain (Grammar.withoutAwait said) queries) ∧
    ((∃ fault, readQueries text = .error fault) ↔
      ¬∃ said queries, SaysAll text said ∧ Grammar.Chain (Grammar.withoutAwait said) queries) := by
  have hRead (queries : List Query) : readQueries text = .ok queries ↔
      ∃ said, SaysAll text said ∧ Grammar.Chain (Grammar.withoutAwait said) queries := by
    calc readQueries text = .ok queries
        ↔ ∃ lexemes, readAll (Text.trim text) = .ok lexemes ∧ Read.queries lexemes = .ok queries :=
          bind_eq_ok
      _ ↔ ∃ said, SaysAll (Text.trim text) said ∧ Grammar.Chain (Grammar.withoutAwait said) queries := by
          simp only [Read.queries_eq_ok_iff, SaysAll]
          constructor
          · rintro ⟨lexemes, hLexemes, hChain⟩
            exact ⟨_, ⟨lexemes, hLexemes, rfl⟩, hChain⟩
          · rintro ⟨_, ⟨lexemes, hLexemes, rfl⟩, hChain⟩
            exact ⟨lexemes, hLexemes, hChain⟩
      _ ↔ ∃ said, SaysAll text said ∧ Grammar.Chain (Grammar.withoutAwait said) queries := by
          simp only [saysAll_trim]
  -- Reading gives queries or a fault, so the texts with a fault are all others.
  refine ⟨hRead, ?_⟩
  constructor
  · rintro ⟨fault, hFault⟩ ⟨said, queries, hChain⟩
    rw [(hRead queries).mpr ⟨said, hChain⟩] at hFault
    cases hFault
  · intro hNone
    cases hText : readQueries text with
    | error fault => exact ⟨fault, rfl⟩
    | ok queries =>
      obtain ⟨said, hChain⟩ := (hRead queries).mp hText
      exact absurd ⟨said, queries, hChain⟩ hNone

end StableLocator
