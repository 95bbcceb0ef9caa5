import StableLocator.Proofs.Locator.Grammar
import StableLocator.Proofs.Locator.Spelling
import StableLocator.Proofs.Text.Blank

/-!
# Reading written locators

A locator is read back from its text, whatever dialect it is written in and whatever comment follows
it, as the queries with what the text does not say left out.

* `Query.normal` — the query as far as its text goes;
* `Grammar.Literal.ofValue` to `Grammar.Chain.ofLocator` — what is written is a chain of the grammar;
* `Grammar.Chain.normal` — a chain asks normal queries;
* `readQueries_annotate_render` — what is read from a written locator;
* `normal_of_readQueries` — what is read is normal, whatever the text.
-/

namespace StableLocator

open Lexeme

/-! ## Normal forms -/

namespace Query

/-- The query as far as its text goes: the scope is the page, a strategy by role alone has no
options, and only a strategy by role and name keeps the name. -/
def normal (q : Query) : Query :=
  match q.strategy, q.name? with
  | .roleName, some name =>
    { strategy := .roleName, value := q.value, name? := some name, exact := q.exact }
  | .roleName, none | .role, _ => { strategy := .role, value := q.value }
  | .testId, _ => { strategy := .testId, value := q.value }
  | .path, _ => { strategy := .path, value := q.value }
  | strategy, _ => { strategy, value := q.value, exact := q.exact }

/-- What a call asks is normal. -/
theorem normal_ofCall {strategy : Strategy} (h : strategy ≠ .role) (value : String)
    (options : Options) : (ofCall strategy value options).normal = ofCall strategy value options := by
  cases strategy with
  | role => exact absurd rfl h
  | roleName =>
    cases hName : options.value? "name" with
    | none => simp [ofCall, hName, normal]
    | some v => cases v <;> simp [ofCall, hName, normal]
  | testId | label | placeholder | altText | title | text | path => rfl

/-- Methods of either spelling ask for their strategy; the name tells the two by role apart. -/
theorem strategyOf?_method (strategy : Strategy) :
    strategyOf? strategy.method = some (if strategy = .role then .roleName else strategy) ∧
      strategyOf? (underscored strategy.method) =
        some (if strategy = .role then .roleName else strategy) := by
  cases strategy <;> decide

/-- The method of a query and the options of its call ask for the query as far as they say. -/
theorem ofCall_options (q : Query) (d : Dialect) :
    ∃ strategy, strategyOf? (q.method d) = some strategy ∧
      ofCall strategy q.value q.options = q.normal := by
  refine ⟨if q.strategy = .role then .roleName else q.strategy, ?_, ?_⟩
  · -- The two spellings of a method ask for one strategy.
    unfold method
    split
    · exact (strategyOf?_method q.strategy).2
    · exact (strategyOf?_method q.strategy).1
  · obtain ⟨strategy, value, name?, exact, scope⟩ := q
    cases strategy <;> cases name? <;> cases exact <;> rfl

end Query

/-! ## What is written is a chain -/

namespace Grammar

/-- The value of an option is spelled as a literal. -/
theorem Literal.ofValue (d : Dialect) (v : OptionValue) : Literal (v.saying d) v := by
  cases v with
  | text s => exact .text s
  | flag b =>
    -- One dialect writes its truth values with capitals, and both spellings are words for them.
    rw [OptionValue.saying, OptionValue.render]
    by_cases hDialect : d = .pytest
    · rw [if_pos hDialect]
      cases b
      · exact .no (by decide)
      · exact .yes (by decide)
    · rw [if_neg hDialect]
      cases b
      · exact .no (by decide)
      · exact .yes (by decide)

/-- Options of a call are spelled as pairs. -/
theorem Pairs.ofOptions (d : Dialect) (separator : Char) {options : Options} (hSome : options ≠ []) :
    Pairs (String.singleton separator) (pairSayings d separator options) options := by
  induction options with
  | nil => exact absurd rfl hSome
  | cons pair options ih =>
    obtain ⟨key, v⟩ := pair
    cases options with
    | nil => exact .last key (.ofValue d v)
    | cons next options => exact .more key (.ofValue d v) (ih (by simp))

/-- What a dialect writes of options stands for them. -/
theorem Arguments.ofOptions (d : Dialect) (options : Options) :
    Arguments (if options.isEmpty then [] else (.mark, ",") :: optionSayings d options) options := by
  cases options with
  | nil => exact .none
  | cons pair options =>
    rw [List.isEmpty_cons, optionSayings]
    by_cases hDialect : d = .pytest
    · rw [if_pos hDialect]
      exact .keywords (.ofOptions d '=' (by simp))
    · rw [if_neg hDialect]
      exact .object (.ofOptions d ':' (by simp))

/-- The call of a query asks the query as far as the call goes. -/
theorem MethodCall.ofQuery (q : Query) (d : Dialect) : MethodCall (q.sayings d) q.normal := by
  obtain ⟨strategy, hStrategy, hNormal⟩ := q.ofCall_options d
  have hAsked := Query.asked_ofCall (Query.ne_role_of_strategyOf? hStrategy) q.value q.options
  rw [hNormal] at hAsked
  exact .ofMethod (strategyOf?_eq_some_iff.mp hStrategy) (.ofOptions d q.options) hAsked

/-- Calls with points between them are spelled as calls of the normal queries. -/
theorem Calls.ofQueries (d : Dialect) (q : Query) (queries : List Query) :
    Calls (q.sayings d ++ queries.flatMap fun q => (.mark, ".") :: q.sayings d)
      ((q :: queries).map Query.normal) := by
  induction queries generalizing q with
  | nil =>
    rw [List.flatMap_nil, List.append_nil]
    exact .last (.ofQuery q d)
  | cons next queries ih =>
    rw [List.flatMap_cons, List.cons_append]
    exact .more (.ofQuery q d) (ih next)

/-- A written locator is a chain after one receiver. -/
theorem Chain.ofLocator (d : Dialect) (l : Locator) :
    Chain ((.word, "page") :: l.queries.flatMap fun q => (.mark, ".") :: q.sayings d)
      (l.queries.map Query.normal) := by
  rw [Locator.queries, List.flatMap_cons, List.cons_append]
  exact .receiver "page" (.calls (.ofQueries d l.first l.rest))

/-! ## What is read at all -/

/-- What a call asks is normal. -/
theorem MethodCall.normal {said : List Saying} {q : Query} (h : MethodCall said q) : q.normal = q := by
  obtain ⟨hMethod, _, hAsked⟩ := h
  have hStrategy := Query.ne_role_of_strategyOf? (strategyOf?_eq_some_iff.mpr hMethod)
  rw [hAsked.unique (Query.asked_ofCall hStrategy _ _)]
  exact Query.normal_ofCall hStrategy _ _

/-- There are normal queries in a chain, and no others. -/
theorem Chain.normal {said : List Saying} {queries : List Query} (h : Chain said queries) :
    (∀ q ∈ queries, q.normal = q) ∧ queries ≠ [] := by
  induction h with
  | receiver name _ ih => exact ih
  | calls hCalls =>
    induction hCalls with
    | last hCall => exact ⟨List.forall_mem_singleton.mpr hCall.normal, List.cons_ne_nil _ _⟩
    | more hCall _ ih => exact ⟨List.forall_mem_cons.mpr ⟨hCall.normal, ih.1⟩, List.cons_ne_nil _ _⟩

end Grammar

/-! ## Whole texts -/

theorem getLast?_render (l : Locator) (d : Dialect) : (l.render d).toList.getLast? = some ')' := by
  have hCall : ∀ q : Query, ∃ cs, (q.render d).toList = cs ++ [')'] := by
    intro q
    exact ⟨_, by rw [Query.render, String.toList_append]; rfl⟩
  have hSome : l.queries ≠ [] := by simp [Locator.queries]
  -- The last character of the text is that of the last call.
  obtain ⟨cs, hLast⟩ := hCall (l.queries.getLast hSome)
  rw [Locator.toList_render, ← List.dropLast_concat_getLast hSome, List.flatMap_append,
    List.flatMap_singleton, hLast, ← List.cons_append, ← List.append_assoc, ← List.append_assoc,
    List.getLast?_concat]

/-- A written locator has no white space at its ends, with a comment or without one. -/
theorem trim_annotate_render (l : Locator) (severity : Severity) (d : Dialect) :
    Text.trim (annotate (l.render d) severity d) = annotate (l.render d) severity d := by
  obtain ⟨tail, hText, _, hTail⟩ := annotate_spells_nothing (l.render d) severity d
  refine Text.trim_eq_self ?_ ?_
  · rw [hText, Locator.toList_render]
    simp
    decide
  · rw [hText, List.getLast?_append, getLast?_render]
    rcases hTail with rfl | hTail
    · decide
    · rw [hTail]
      decide

/-- A written locator is read as its queries as far as their texts go, in every dialect and with any
comment after it. -/
theorem readQueries_annotate_render (l : Locator) (severity : Severity) (d : Dialect) :
    readQueries (annotate (l.render d) severity d) = .ok (l.queries.map Query.normal) := by
  obtain ⟨tail, hText, hNothing, _⟩ := annotate_spells_nothing (l.render d) severity d
  obtain ⟨lexemes, hRead, hSays⟩ := l.spells_render d hNothing 0
  rw [← hText] at hRead
  rw [readQueries, trim_annotate_render, Lexeme.readAll, hRead]
  refine Read.queries_eq_ok_iff.mpr ?_
  rw [hSays]
  exact Grammar.Chain.ofLocator d l

/-- What is read from a text is a chain of normal queries, and there are some. -/
theorem normal_of_readQueries {text : String} {found : List Query}
    (h : readQueries text = .ok found) : found.map Query.normal = found ∧ found ≠ [] := by
  obtain ⟨lexemes, _, hQueries⟩ := bind_eq_ok.mp h
  obtain ⟨hNormal, hSome⟩ := (Read.queries_eq_ok_iff.mp hQueries).normal
  exact ⟨(List.map_congr_left hNormal).trans found.map_id', hSome⟩

/-- Reading undoes writing up to normal forms, whatever the dialect and the comment, and writing what
was read from any text keeps it. -/
theorem readQueries_render :
    (∀ (l : Locator) (severity : Severity) (d : Dialect),
      readQueries (annotate (l.render d) severity d) = .ok (l.queries.map Query.normal) ∧
        readQueries (l.render d) = .ok (l.queries.map Query.normal)) ∧
    (∀ (text : String) (found : List Query), readQueries text = .ok found →
      ∃ l, Locator.ofList? found = some l ∧ ∀ d : Dialect, readQueries (l.render d) = .ok found) := by
  refine ⟨fun l severity d => ⟨readQueries_annotate_render l severity d,
    readQueries_annotate_render l .none d⟩, ?_⟩
  intro text found h
  obtain ⟨hNormal, hSome⟩ := normal_of_readQueries h
  cases found with
  | nil => exact absurd rfl hSome
  | cons q rest =>
    refine ⟨⟨q, rest⟩, rfl, fun d => ?_⟩
    have hBack := readQueries_annotate_render ⟨q, rest⟩ .none d
    rwa [Locator.queries, hNormal] at hBack

/-- A locator text as it may stand in a program. -/
def cellCall : String := "await frame.getByRole('cell', name = 5,) // fifth"

def cellQuery : Query := { strategy := .roleName, value := "cell", name? := some "5" }

theorem readQueries_render_cellCall :
    readQueries cellCall = .ok [cellQuery] ∧
    ∃ l, Locator.ofList? [cellQuery] = some l ∧
      ∀ d : Dialect, readQueries (l.render d) = .ok [cellQuery] := by
  have hRead : (readQueries cellCall).toOption = some [cellQuery] := by decide +kernel
  have hOk : readQueries cellCall = .ok [cellQuery] := by
    cases h : readQueries cellCall with
    | error fault => simp [h, Except.toOption] at hRead
    | ok found => simpa [h, Except.toOption] using hRead
  exact ⟨hOk, readQueries_render.2 _ _ hOk⟩

end StableLocator
